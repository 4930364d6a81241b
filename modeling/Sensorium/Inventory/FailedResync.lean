import Sensorium.Inventory.Index
import Sensorium.Inventory.RoundTrip

/-!
# What a failed resync leaves behind

`resync_runtime` clears the records after its `RESET` and puts them back one write at a time, with
no snapshot to return to.  A call that raises keeps the exported model and the attachments when it
raises before the records are cleared (a `_clear_state` that raises has lost the name of the model),
and otherwise only when everything is already back.
-/

namespace Sensorium.Inventory

open Lib Model

/-! ## The export -/

/-- The same exported model and the same attachments. -/
def Daemon.SameExport (d d' : Daemon) : Prop :=
  d'.exportModel = d.exportModel ∧ d'.snapshotAttachments = d.snapshotAttachments

theorem snapshotAttachments_congr {d d' : Daemon} (h : d'.attached = d.attached) :
    d'.snapshotAttachments = d.snapshotAttachments := by
  rw [Daemon.snapshotAttachments, Daemon.snapshotAttachments, h]

theorem sameExport_of_eq {d d' : Daemon} (hn : d'.modelName = d.modelName)
    (hb : d'.buses = d.buses) (hd : d'.devices = d.devices) : d.SameExport d' := by
  refine ⟨?_, snapshotAttachments_congr ?_⟩
  · rw [Daemon.exportModel, Daemon.exportModel, hn, hb, hd]
  · rw [Daemon.attached, Daemon.attached, hd]

-- What is found out about the session and the state that follows are not exported.
theorem sameExport_settle (d : Daemon) (o : Outside) : d.SameExport (d.settle o).1 := by
  rcases (d.setState .desynced).persistSnapshot_eq o with h | h
  · rw [Daemon.settle, h]
    exact sameExport_of_eq rfl rfl rfl
  · rw [Daemon.settle, h]
    exact sameExport_of_eq rfl rfl rfl

theorem sameExport_refreshBridgeMetrics (d : Daemon) (o : Outside) :
    d.SameExport (d.refreshBridgeMetrics o) := by
  rcases d.refreshBridgeMetrics_eq o with h | h
  · rw [h]
    exact sameExport_of_eq rfl rfl rfl
  · rw [h]
    exact sameExport_of_eq rfl rfl rfl

theorem sameExport_congr {d e e' : Daemon} (h : e.SameExport e') :
    d.SameExport e' ↔ d.SameExport e := by
  rw [Daemon.SameExport, Daemon.SameExport, h.1, h.2]

theorem exportedModel_inj {n n' : Text} {bs bs' ds ds' : List Value}
    (h : exportedModel n bs ds = exportedModel n' bs' ds') : n = n' ∧ bs = bs' ∧ ds = ds' := by
  simp only [exportedModel, Value.dict.injEq, List.cons.injEq, Prod.mk.injEq, Value.list.injEq,
    Value.str.injEq, true_and, and_true] at h
  exact h

/-- The name under which the model is exported. -/
def Daemon.exportName (d : Daemon) : Text := d.modelName.getD (text "runtime")

-- Without its name, the model is exported under the default one.
theorem sameExport_unnamed_iff {d₀ d : Daemon} (h : d₀.SameExport d) :
    d₀.SameExport d.unnamed ↔ d₀.exportName = text "runtime" := by
  have hsame := exportedModel_inj h.1
  constructor
  · intro hunnamed
    exact (exportedModel_inj hunnamed.1).1.symm
  · intro hname
    refine ⟨?_, h.2⟩
    rw [← h.1, Daemon.exportModel, Daemon.exportModel]
    have hdefault : d.modelName.getD (text "runtime") = text "runtime" := hsame.1.trans hname
    rw [hdefault]
    rfl

/-- The exported model is its own normal form. -/
def Daemon.Canonical (d : Daemon) : Prop :=
  ∃ m, normalizeRuntimeModelData d.exportModel = .ok m ∧
    exportedModel m.name (m.buses.map Bus.toItem) (m.devices.map Device.toItem) = d.exportModel

/-! ## Restored attachments -/

theorem validateIds_external {devices : List (Text × Device)} {backend : Text}
    {attachedBy out : List (Text × Text)} {ids : List Text}
    (h : validateIds devices backend attachedBy ids = some out) :
    ∀ id ∈ ids, ∃ dev, dictGet devices id = some dev ∧ isExternal dev.part = true := by
  induction ids generalizing attachedBy with
  | nil => exact fun _ hid => nomatch hid
  | cons i ids ih =>
    rw [validateIds] at h
    split at h
    · cases h
    · rename_i dev hdev
      split at h
      · cases h
      · rename_i hext
        split at h
        · cases h
        · intro id hid
          rcases List.mem_cons.mp hid with rfl | hid
          · exact ⟨dev, hdev, by simpa using hext⟩
          · exact ih h id hid

theorem validateBackendAttachments_external {devices : List (Text × Device)}
    {attachedBy : List (Text × Text)} {acc out : Attachments}
    {groups : List (BackendId × List Text)}
    (h : validateBackendAttachments devices attachedBy acc groups = some out)
    (hacc : ∀ g ∈ acc, ∀ id ∈ g.2,
      ∃ dev, dictGet devices id = some dev ∧ isExternal dev.part = true) :
    ∀ g ∈ out, ∀ id ∈ g.2, ∃ dev, dictGet devices id = some dev ∧ isExternal dev.part = true := by
  induction groups generalizing attachedBy acc with
  | nil =>
    cases h
    exact hacc
  | cons g groups ih =>
    obtain ⟨backend, ids⟩ := g
    rw [validateBackendAttachments] at h
    obtain ⟨attachedBy', hids, h⟩ := Option.bind_eq_some_iff.mp h
    refine ih h fun g hg => ?_
    rcases mem_of_mem_dictSet hg with rfl | hg
    · exact validateIds_external hids
    · exact hacc g hg

/-- Attachments of devices that may be served from outside are all accepted. -/
theorem attachAll_accepts {d : Daemon} {groups : Attachments}
    (h : ∀ g ∈ groups, ∀ id ∈ g.2,
      ∃ r, dictGet d.devices id = some r ∧ isExternal r.device.part = true) :
    ∃ d', d.attachAll groups = (d', true) := by
  induction groups generalizing d with
  | nil => exact ⟨d, rfl⟩
  | cons g groups ih =>
    obtain ⟨backend, ids⟩ := g
    have htail (g : Text × List Text) (hg : g ∈ groups) := h g (List.mem_cons_of_mem _ hg)
    rw [Daemon.attachAll]
    split
    · exact ih htail
    · have hall : (ids.all fun id => (dictGet d.devices id).any fun r =>
          isExternal r.device.part) = true := by
        refine List.all_eq_true.mpr fun id hid => ?_
        obtain ⟨r, hr, hext⟩ := h (backend, ids) List.mem_cons_self id hid
        rw [hr]
        exact hext
      obtain ⟨e, he⟩ : ∃ e, d.attachBackend (.str backend) ids = some e := by
        rw [Daemon.attachBackend, if_pos hall]
        exact ⟨_, rfl⟩
      rw [he]
      -- The devices stay what they are.
      refine ih fun g hg id hid => ?_
      obtain ⟨r, hr, hext⟩ := htail g hg id hid
      have hsame : List.Forall₂ (fun p q => q.1 = p.1 ∧ q.2.device = p.2.device) d.devices
          e.devices := by
        rw [(attaches_attachBackend he).devices]
        exact List.forall₂_map_right_iff.mpr (List.forall₂_same.mpr fun _ _ => ⟨rfl, rfl⟩)
      obtain ⟨r', hr', hdev⟩ := dictGet_of_forall₂
        (R := fun (r r' : DeviceRecord) => r'.device = r.device) hsame hr
      exact ⟨r', hr', hdev ▸ hext⟩

/-! ## A resync in progress -/

/-- The call replays what `d` held. -/
structure Replays (d : Daemon) (m : RuntimeModel) (attachments : Attachments) : Prop where
  model : normalizeRuntimeModelData d.exportModel = .ok m
  groups : ∃ groups, d.snapshotAttachments = some groups ∧
    validateBackendAttachments (devicesById m) [] [] groups = some attachments

theorem replays_of_restore {d : Daemon} {m : RuntimeModel} {attachments : Attachments}
    (h : d.snapshot.bind Snapshot.restore = some (m, attachments)) : Replays d m attachments := by
  obtain ⟨s, hs, hr⟩ := Option.bind_eq_some_iff.mp h
  obtain ⟨groups, hgroups, rfl⟩ := Option.map_eq_some_iff.mp hs
  unfold Snapshot.restore at hr
  split at hr
  · cases hr
  · rename_i m' hm
    obtain ⟨out, hv, heq⟩ := Option.map_eq_some_iff.mp hr
    cases heq
    exact ⟨hm, groups, hgroups, hv⟩

/-- What the worker of a resync knows, from the daemon `d₀` it started with. -/
def Pc.Resyncs (d₀ d : Daemon) : Pc → Prop
  | .idle _ | .resyncFailed => True
  | .send (.resync m attachments) => Replays d₀ m attachments ∧ d₀.SameExport d
  | .sent (.resync m attachments) => Replays d₀ m attachments ∧ d₀.SameExport d
  | .adds (.resync m attachments) buses devices _ =>
    Replays d₀ m attachments ∧ d.modelName = some m.name ∧ Rebuilt d m buses devices
  | _ => False

theorem resyncs_begin {d d' : Daemon} {locked : Bool} {o : Outside} {p : Pc}
    (h : d.begin locked o .resync = some (d', p)) :
    d.SameExport d' ∧ p.Resyncs d d' ∧ p ≠ .resyncFailed := by
  have hsame := sameExport_refreshBridgeMetrics d o
  cases begins_of_begin h with
  | resyncUnsaved _ _ => exact ⟨hsame, trivial, fun h => by cases h⟩
  | resync _ hr =>
    refine ⟨hsame, ⟨replays_of_restore ?_, hsame⟩, fun h => by cases h⟩
    rw [← hr, Daemon.snapshot, Daemon.snapshot, hsame.1, hsame.2]

theorem Job.AddStep.resyncs {d₀ d : Daemon} {k : Kernel} {m : RuntimeModel}
    {attachments : Attachments} {buses : List Bus} {devices : List Device} {move : Move}
    (h : (Job.resync m attachments).AddStep d k buses devices move)
    (hr : Replays d₀ m attachments) (hn : d.modelName = some m.name)
    (ht : Rebuilt d m buses devices) : move.pc.Resyncs d₀ move.daemon := by
  cases h with
  | failed _ _ => trivial
  | modem => exact ⟨hr, hn, ht⟩
  | bus hadd => exact ⟨hr, hadd.modelName.trans hn, hadd.rebuilt ht⟩
  | device hadd => exact ⟨hr, hadd.modelName.trans hn, hadd.rebuilt ht⟩
  | done _ _ => trivial

theorem resyncs_advance {d₀ d : Daemon} {k : Kernel} {o : Outside} {p : Pc} {move : Move}
    (hp : p.Resyncs d₀ d) (h : advance d k o p = some move) : move.pc.Resyncs d₀ move.daemon := by
  cases p with
  | idle _ => cases h
  | send x =>
    cases x with
    | reset | apply _ | discard _ => exact hp.elim
    | resync m attachments =>
      rw [advance] at h
      split at h
      · cases h
        trivial
      · cases h
        exact hp
  | sent x =>
    cases x with
    | reset | apply _ | discard _ => exact hp.elim
    | resync m attachments =>
      cases h
      rcases (Sender.resync m attachments).accepted_cases d k o with he | ⟨_, he⟩
      · rw [he]
        exact ⟨hp.1, rfl, rebuilt_enter (d.setState .applying) m⟩
      · rw [he]
        trivial
  | adds job buses devices modem =>
    cases job with
    | apply _ | rollback _ _ _ => exact hp.elim
    | resync m attachments =>
      cases h
      obtain ⟨hr, hn, ht⟩ := hp
      exact ((Job.resync m attachments).add_cases k o modem ht.pending).resyncs hr hn ht
  | resyncFailed =>
    cases h
    trivial
  | rollback _ _ | settleFailed | fatal => exact hp.elim

/-! ## Nothing lost -/

section Lost

variable {d₀ d : Daemon} {m : RuntimeModel} {attachments : Attachments}

theorem Replays.lengths (h : Replays d₀ m attachments) :
    m.buses.length = d₀.buses.length ∧ m.devices.length = d₀.devices.length := by
  have hsource := source_of_exportedModel h.model
  have hbuses := hsource.buses.length_eq
  have hdevices := hsource.devices.length_eq
  rw [List.length_zipIdx, List.length_map] at hbuses hdevices
  exact ⟨hbuses.symm, hdevices.symm⟩

-- A bus or a device that is not back is missing from the export.
theorem Replays.lost (h : Replays d₀ m attachments) {buses : List Bus} {devices : List Device}
    (ht : Rebuilt d m buses devices) {d' : Daemon} (hrev : d.Revises d')
    (hsame : d₀.SameExport d') : buses = [] ∧ devices = [] := by
  obtain ⟨_, hb, hd⟩ := exportedModel_inj hsame.1
  have hb := congrArg List.length hb
  have hd := congrArg List.length hd
  rw [List.length_map, List.length_map, hrev.buses] at hb
  rw [List.length_map, List.length_map, ← hrev.devices.length_eq] at hd
  have hbuses := congrArg List.length ht.buses
  have hdevices := congrArg List.length ht.devices
  simp only [Daemon.busTable, busesById, List.length_append, List.length_map] at hbuses hdevices
  obtain ⟨hmb, hmd⟩ := h.lengths
  exact ⟨List.eq_nil_of_length_eq_zero (by omega), List.eq_nil_of_length_eq_zero (by omega)⟩

theorem Replays.canonical_iff (h : Replays d₀ m attachments) (hd : d.Holds m) :
    d.exportModel = d₀.exportModel ↔ d₀.Canonical := by
  rw [hd.exportModel]
  constructor
  · exact fun heq => ⟨m, h.model, heq⟩
  · rintro ⟨m', hm', heq⟩
    cases Except.ok.inj (h.model.symm.trans hm')
    exact heq

theorem attached_eq_nil (h : ∀ p ∈ d.devices, p.2.attachedBackend = none) : d.attached = [] := by
  refine List.eq_nil_iff_forall_not_mem.mpr ?_
  rintro ⟨id, b⟩ hmem
  obtain ⟨p, hp, _, hb, _⟩ := mem_attached.mp hmem
  rw [h p hp] at hb
  cases hb

-- The groups of two daemons say who is attached to what.
theorem attached_of_snapshotAttachments {groups : List (BackendId × List Text)}
    (h₀ : d₀.snapshotAttachments = some groups) (h : d.snapshotAttachments = some groups)
    {x : Text × BackendId} : x ∈ d₀.attached ↔ x ∈ d.attached := by
  rw [← (groups_of_snapshotAttachments h₀).belongs, ← (groups_of_snapshotAttachments h).belongs]

theorem Replays.unattached_iff (h : Replays d₀ m attachments) (hd : d.Holds m) :
    d₀.SameExport d ↔ d₀.Canonical ∧ d₀.attached = [] := by
  have hnone : d.attached = [] := attached_eq_nil fun p hp => (hd.tables.unattached p hp).2
  refine and_congr (h.canonical_iff hd) ⟨fun heq => ?_, fun hnil => ?_⟩
  · obtain ⟨groups, hgroups, _⟩ := h.groups
    refine List.eq_nil_iff_forall_not_mem.mpr fun x hx => ?_
    rw [attached_of_snapshotAttachments hgroups (heq.trans hgroups), hnone] at hx
    cases hx
  · exact snapshotAttachments_congr (hnone.trans hnil.symm)

theorem isStr_of_assigned {groups : Attachments} {id : Text} {old : Option BackendId}
    (hold : ∀ b, old = some b → b.isStr = true) {b : BackendId}
    (h : assigned groups id old = some b) : b.isStr = true := by
  induction groups generalizing old with
  | nil => exact hold b h
  | cons g groups ih =>
    refine ih (fun c hc => ?_) h
    dsimp only at hc
    split at hc
    · cases hc
      rfl
    · exact hold c hc

-- The attachments of a daemon whose devices were all unattached.
theorem attached_of_attaches {r : Daemon} {f : Text → Option BackendId → Option BackendId}
    (hd : d.Holds m) (ha : d.Attaches r f) :
    r.attached = (m.devices.map Device.id).filterMap fun id =>
      ((f id none).filter BackendId.truthy).map fun b => (id, b) := by
  have hids : m.devices.map Device.id = keys d.devices := by
    rw [← hd.tables.devices, List.append_nil, List.map_map]
    exact List.map_congr_left fun p hp => (hd.tables.unattached p hp).1.symm
  rw [Daemon.attached, ha.devices, hids, keys, List.filterMap_map, List.filterMap_map]
  refine List.filterMap_congr fun p hp => ?_
  rw [Function.comp_apply, Function.comp_apply, (hd.tables.unattached p hp).2]

theorem Replays.attached_eq (h : Replays d₀ m attachments) (ht : d₀.Tidy) (hl : d₀.Lettered)
    {r : Daemon} (hd : d.Holds m) (ha : d.Attaches r (assigned attachments)) :
    r.attached = d₀.attached := by
  obtain ⟨groups, hgroups, hv⟩ := h.groups
  have hids : m.devices.map Device.id = keys d₀.devices := by
    have hmap := congrArg (List.map Prod.fst)
      (exported_deviceIdentity ht (source_of_exportedModel h.model))
    rw [List.map_map, List.map_map] at hmap
    exact hmap.trans (List.map_congr_left fun p hp => (ht.devices p hp).1)
  rw [attached_of_attaches hd ha, hids, keys, List.filterMap_map, Daemon.attached]
  refine List.filterMap_congr fun p hp => ?_
  rw [Function.comp_apply,
    (groups_of_snapshotAttachments hgroups).assigned_restored ht hl hv hp, DeviceRecord.backend,
    Option.filter_filter]
  simp only [Bool.and_self]

theorem Replays.attached_iff (h : Replays d₀ m attachments) (ht : d₀.Tidy) {r : Daemon}
    (hd : d.Holds m) (hr : d.attachAll attachments = (r, true)) :
    d₀.SameExport r ↔ d₀.Canonical ∧ d₀.Lettered := by
  have ha := attaches_attachAll hr
  have hexport : r.exportModel = d.exportModel := by
    have hname := (d.revises_attachAll attachments).modelName
    rw [hr] at hname
    rw [Daemon.exportModel, Daemon.exportModel, hname, ha.buses, ha.devices, List.map_map]
    rfl
  rw [Daemon.SameExport, hexport]
  refine and_congr (h.canonical_iff hd) ⟨fun heq p hp b hb => ?_, fun hl => ?_⟩
  · obtain ⟨groups, hgroups, _⟩ := h.groups
    have hmem : (p.1, b) ∈ d₀.attached :=
      mem_attached.mpr ⟨p, hp, rfl, DeviceRecord.backend_eq_some.mp hb⟩
    rw [attached_of_snapshotAttachments hgroups (heq.trans hgroups),
      attached_of_attaches hd ha] at hmem
    obtain ⟨id, _, hid⟩ := List.mem_filterMap.mp hmem
    obtain ⟨c, hc, hcb⟩ := Option.map_eq_some_iff.mp hid
    cases hcb
    refine isStr_of_assigned ?_ (Option.filter_eq_some_iff.mp hc).1
    exact fun _ h => by cases h
  · exact snapshotAttachments_congr (h.attached_eq ht hl hd ha)

-- The saved attachments were checked against the devices that are back.
theorem Replays.attachAll (h : Replays d₀ m attachments) (hd : d.Holds m) :
    ∃ r, d.attachAll attachments = (r, true) := by
  obtain ⟨groups, _, hv⟩ := h.groups
  refine attachAll_accepts fun g hg id hid => ?_
  obtain ⟨dev, hdev, hext⟩ :=
    validateBackendAttachments_external hv (fun _ hg => nomatch hg) g hg id hid
  have hsame : List.Forall₂ (fun p q => q.1 = p.1 ∧ q.2.device = p.2) (devicesById m) d.devices := by
    rw [devicesById, ← hd.tables.devices, List.append_nil, List.map_map, List.forall₂_map_left_iff]
    exact List.forall₂_same.mpr fun p hp => ⟨(hd.tables.unattached p hp).1, rfl⟩
  obtain ⟨r, hr, heq⟩ := dictGet_of_forall₂
    (R := fun (dev : Device) (r : DeviceRecord) => r.device = dev) hsame hdev
  exact ⟨r, hr, heq ▸ hext⟩

end Lost

/-! ## The step that fails -/

/-- The records are not cleared yet, and if it is `_clear_state` that fails then the name was the
default; or all of them are back as they were: the export is its own normal form, the backends are
strings, and if it is the write of modem lines that fails then nothing was attached. -/
def Pc.Spares (d₀ : Daemon) : Pc → Prop
  | .sent _ => d₀.exportName = text "runtime"
  | .adds _ buses devices modem =>
    buses = [] ∧ devices = [] ∧ d₀.Canonical ∧ d₀.Lettered ∧ (modem = none ∨ d₀.attached = [])
  | _ => True

theorem lettered_of_attached {d : Daemon} (h : d.attached = []) : d.Lettered := by
  intro p hp b hb
  have hmem : (p.1, b) ∈ d.attached :=
    mem_attached.mpr ⟨p, hp, rfl, DeviceRecord.backend_eq_some.mp hb⟩
  rw [h] at hmem
  cases hmem

section Failing

variable {d₀ d : Daemon} {k : Kernel} {o : Outside} {m : RuntimeModel} {attachments : Attachments}
  {buses : List Bus} {devices : List Device} {modem : Option Nat}

theorem Job.AddStep.revises_of_failed {move : Move}
    (h : (Job.resync m attachments).AddStep d k buses devices move)
    (hpc : move.pc = .resyncFailed) : d.Revises move.daemon := by
  cases h with
  | failed hrev _ => exact hrev
  | modem | bus _ | device _ | done _ _ => cases hpc

-- With nothing left to add, what can still raise is the last write of modem lines and persisting.
theorem Replays.spared_last (h : Replays d₀ m attachments) (ht : d₀.Tidy) (hd : d.Holds m)
    (hpc : ((Job.resync m attachments).add d k o [] [] modem).pc = .resyncFailed) :
    d₀.SameExport ((Job.resync m attachments).add d k o [] [] modem).daemon ↔
      d₀.Canonical ∧ d₀.Lettered ∧ (modem = none ∨ d₀.attached = []) := by
  cases modem with
  | some handle =>
    have hsame : ((Job.resync m attachments).add d k o [] [] (some handle)).daemon = d := by
      rw [Job.add]
      split <;> rfl
    rw [hsame, h.unattached_iff hd]
    constructor
    · rintro ⟨hc, hnil⟩
      exact ⟨hc, lettered_of_attached hnil, .inr hnil⟩
    · rintro ⟨hc, _, hnil⟩
      exact ⟨hc, hnil.resolve_left fun h => by cases h⟩
  | none =>
    obtain ⟨r, hr⟩ := h.attachAll hd
    have hsame : r.SameExport ((Job.resync m attachments).add d k o [] [] none).daemon := by
      rw [Job.add, Job.finish]
      dsimp only
      rw [show (Job.resync m attachments).attachments = attachments from rfl, hr]
      dsimp only
      rcases (r.ready ((Job.resync m attachments).generation d)).persistSnapshot_eq o with he | he
      · rw [if_pos rfl, he]
        exact sameExport_of_eq rfl rfl rfl
      · rw [if_pos rfl, he]
        exact sameExport_of_eq rfl rfl rfl
    rw [sameExport_congr hsame, h.attached_iff ht hd hr]
    constructor
    · rintro ⟨hc, hl⟩
      exact ⟨hc, hl, .inl rfl⟩
    · rintro ⟨hc, hl, _⟩
      exact ⟨hc, hl⟩

/-- The write that fails inside the section. -/
theorem Replays.spared (h : Replays d₀ m attachments) (ht : d₀.Tidy)
    (hn : d.modelName = some m.name) (hd : Rebuilt d m buses devices)
    (hpc : ((Job.resync m attachments).add d k o buses devices modem).pc = .resyncFailed) :
    d₀.SameExport ((Job.resync m attachments).add d k o buses devices modem).daemon ↔
      (Pc.adds (.resync m attachments) buses devices modem).Spares d₀ := by
  constructor
  · intro hsame
    have hrev := ((Job.resync m attachments).add_cases k o modem hd.pending).revises_of_failed hpc
    obtain ⟨rfl, rfl⟩ := h.lost hd hrev hsame
    exact ⟨rfl, rfl, (h.spared_last ht ⟨hn, hd⟩ hpc).mp hsame⟩
  · rintro ⟨rfl, rfl, hrest⟩
    exact (h.spared_last ht ⟨hn, hd⟩ hpc).mpr hrest

end Failing

/-- A step of worker `t` is a step of its operation. -/
theorem go_move {v u : World} {t : Nat} {o : Outside} {p : Pc} (hp : v.pcs[t]? = some p)
    (h : step v (.go t o) = some u) :
    ∃ m, advance v.daemon v.kernel o p = some m ∧ u.daemon = m.daemon ∧ u.kernel = m.kernel ∧
      u.pcs[t]? = some m.pc := by
  rw [step, hp] at h
  dsimp only at h
  split at h
  · cases h
  · obtain ⟨m, hm, rfl⟩ := Option.map_eq_some_iff.mp h
    exact ⟨m, hm, rfl, rfl, getElem?_set_of_eq hp m.pc⟩

theorem resyncFailed_of_raised {d₀ d : Daemon} {k : Kernel} {o : Outside} {p : Pc} {m : Move}
    (hp : p.Resyncs d₀ d) (h : advance d k o p = some m)
    (hraised : m.pc = .idle (some .raised)) : p = .resyncFailed := by
  cases p with
  | idle _ => cases h
  | send x =>
    cases x with
    | reset | apply _ | discard _ => exact hp.elim
    | resync r attachments =>
      rw [advance] at h
      split at h <;> cases h <;> cases hraised
  | sent x =>
    cases h
    cases x with
    | reset | apply _ | discard _ => exact hp.elim
    | resync r attachments =>
      rcases (Sender.resync r attachments).accepted_cases d k o with he | ⟨_, he⟩
      · cases (congrArg Move.pc he).symm.trans hraised
      · cases (congrArg Move.pc he).symm.trans hraised
  | adds job buses devices modem =>
    cases h
    cases job with
    | apply _ | rollback _ _ _ => exact hp.elim
    | resync r attachments =>
      rcases (Job.resync r attachments).add_pc d k o buses devices modem with he | ⟨_, _, _, he⟩ | he
      · cases he.symm.trans hraised
      · cases he.symm.trans hraised
      · cases he.symm.trans hraised
  | resyncFailed => rfl
  | rollback _ _ | settleFailed | fatal => exact hp.elim

-- Two steps that end in an exception: one that fails and one that marks the daemon.
theorem spared_of_raised {d₀ : Daemon} (ht : d₀.Tidy) {d : Daemon} {k : Kernel} {o o' : Outside}
    {p : Pc} {m m' : Move} (hp : p.Resyncs d₀ d) (h : advance d k o p = some m)
    (h' : advance m.daemon m.kernel o' m.pc = some m') (hraised : m'.pc = .idle (some .raised)) :
    d₀.SameExport m'.daemon ↔ p.Spares d₀ := by
  have hfailed : m.pc = .resyncFailed := resyncFailed_of_raised (resyncs_advance hp h) h' hraised
  rw [hfailed] at h'
  cases h'
  rw [sameExport_congr (sameExport_settle m.daemon o')]
  cases p with
  | idle _ => cases h
  | send x =>
    cases x with
    | reset | apply _ | discard _ => exact hp.elim
    | resync r attachments =>
      obtain ⟨hd, _⟩ := advance_daemon h rfl rfl
      rw [hd]
      exact iff_of_true hp.2 trivial
  | sent x =>
    cases h
    cases x with
    | reset | apply _ | discard _ => exact hp.elim
    | resync r attachments =>
      rcases (Sender.resync r attachments).accepted_cases d k o with he | ⟨_, he⟩
      · cases (congrArg Move.pc he).symm.trans hfailed
      · rw [he]
        exact sameExport_unnamed_iff hp.2
  | adds job buses devices modem =>
    cases job with
    | apply _ | rollback _ _ _ => exact hp.elim
    | resync r attachments =>
      cases h
      obtain ⟨hr, hn, hd⟩ := hp
      exact hr.spared ht hn hd hfailed
  | resyncFailed =>
    cases h
    cases hfailed
  | rollback _ _ | settleFailed | fatal => exact hp.elim

/-! ## A call that raises -/

/-- Where the worker is at the step of its call that fails; the step after it is the last. -/
def failurePoint (w : World) (t : Nat) (o : Outside) (os : List Outside) : Option Pc :=
  (exec step w (.call t .resync o :: os.dropLast.dropLast.map (Act.go t))).bind fun v => v.pcs[t]?

-- The call and the steps after it.
theorem resyncs_run {w v : World} {t : Nat} {o : Outside}
    (h : step w (.call t .resync o) = some v) :
    w.daemon.SameExport v.daemon ∧ v.pcs[t]? ≠ some .resyncFailed ∧
      ∀ (os : List Outside) (u : World), exec step v (os.map (Act.go t)) = some u →
        ∃ p, u.pcs[t]? = some p ∧ p.Resyncs w.daemon u.daemon := by
  rw [step] at h
  split at h
  swap
  · cases h
  rename_i last hp
  obtain ⟨⟨d, p⟩, hb, rfl⟩ := Option.map_eq_some_iff.mp h
  obtain ⟨hsame, hknown, hne⟩ := resyncs_begin hb
  have hpc := getElem?_set_of_eq hp p
  refine ⟨hsame, ?_, fun os u hu => ?_⟩
  · rw [hpc]
    exact fun heq => hne (Option.some.inj heq)
  · exact solo_invariant (P := fun d _ p => p.Resyncs w.daemon d)
      (fun hp hs => resyncs_advance hp hs) hpc hknown hu

theorem exec_map_concat {v w : World} {t : Nat} {os : List Outside} {o : Outside}
    (h : exec step v ((os ++ [o]).map (Act.go t)) = some w) :
    ∃ u, exec step v (os.map (Act.go t)) = some u ∧ step u (.go t o) = some w := by
  rw [List.map_append, exec_append] at h
  obtain ⟨u, hu, hlast⟩ := Option.bind_eq_some_iff.mp h
  obtain ⟨w', hw', heq⟩ := Option.bind_eq_some_iff.mp hlast
  cases heq
  exact ⟨u, hu, hw'⟩

/-- A resync by one worker that raises keeps everything exactly when the step that fails spares
it. -/
theorem failed_resync_keeps_iff {k : Kernel} {generation n : Nat} {w w' : World} {t : Nat}
    {o : Outside} {os : List Outside} (hr : Reach step anyStep (start k generation n) w)
    (hrun : exec step w (.call t .resync o :: os.map (Act.go t)) = some w')
    (hraised : w'.pcs[t]? = some (.idle (some .raised))) :
    w.daemon.SameExport w'.daemon ↔ ∀ p, failurePoint w t o os = some p → p.Spares w.daemon := by
  have htidy := (World.kept_of_reach keeps_filed (filed_empty rfl rfl rfl) hr).daemon.toTidy
  obtain ⟨v, hv, hrest⟩ := Option.bind_eq_some_iff.mp hrun
  obtain ⟨hsame, hne, hknown⟩ := resyncs_run hv
  -- The worker at the step that fails.
  have hpoint {os' : List Outside} {u : World} (heq : os.dropLast.dropLast = os')
      (hu : exec step v (os'.map (Act.go t)) = some u) :
      failurePoint w t o os = u.pcs[t]? := by
    rw [failurePoint, heq, exec, hv]
    exact congrArg (Option.bind · fun v => v.pcs[t]?) hu
  rcases List.eq_nil_or_concat' os with rfl | ⟨os₁, o₁, rfl⟩
  · -- It raised before anything was sent.
    cases hrest
    rw [hpoint rfl rfl, hraised]
    refine iff_of_true hsame fun p hp => ?_
    cases hp
    trivial
  obtain ⟨u, hu, hlast⟩ := exec_map_concat hrest
  obtain ⟨q, hq, hqr⟩ := hknown os₁ u hu
  obtain ⟨m', hm', hd', _, hpc'⟩ := go_move hq hlast
  rw [hraised] at hpc'
  have hm'pc : m'.pc = .idle (some .raised) := (Option.some.inj hpc').symm
  rcases List.eq_nil_or_concat' os₁ with rfl | ⟨os₂, o₂, rfl⟩
  · cases hu
    rw [resyncFailed_of_raised hqr hm' hm'pc] at hq
    exact absurd hq hne
  · obtain ⟨u₀, hu₀, hfail⟩ := exec_map_concat hu
    obtain ⟨p, hp, hpr⟩ := hknown os₂ u₀ hu₀
    obtain ⟨m, hm, hd, hk, hpc⟩ := go_move hp hfail
    rw [hq] at hpc
    cases Option.some.inj hpc
    rw [hd, hk] at hm'
    rw [hd', spared_of_raised htidy hpr hm hm' hm'pc,
      hpoint (by rw [List.dropLast_concat, List.dropLast_concat]) hu₀, hp]
    exact ⟨fun h q hq => Option.some.inj hq ▸ h, fun h => h p rfl⟩

/-! ## A refused write -/

theorem spares_of_isSend {p : Pc} (h : p.isSend = true) (d : Daemon) : p.Spares d := by
  cases p with
  | send _ => trivial
  | idle _ | sent _ | adds _ _ _ _ | rollback _ _ | settleFailed | fatal | resyncFailed => cases h

/-- `RESET` is refused: the bus and the device stay. -/
theorem failed_resync_keeps_bench : ∃ w w' : World, w.daemon.entries = benchEntries ∧
    w'.daemon.runtimeState = .desynced ∧ w.daemon.SameExport w'.daemon := by
  have hrun : (exec (guarded step anyStep) (start .empty 0 2) (applyBench 0)).map
      (fun w => (w.daemon.entries, (failurePoint w 0 calm [refusing, calm]).map Pc.isSend,
        (exec step w (.call 0 .resync calm :: [refusing, calm].map (Act.go 0))).map
          fun w' => (ending w' 0, w'.daemon.runtimeState))) =
      some (benchEntries, some true, some (some .raised, .desynced)) := by decide +kernel
  obtain ⟨w, hexec, hview⟩ := Option.map_eq_some_iff.mp hrun
  simp only [Prod.mk.injEq] at hview
  obtain ⟨hentries, hpoint, hcall⟩ := hview
  obtain ⟨w', hexec', hview'⟩ := Option.map_eq_some_iff.mp hcall
  obtain ⟨hend, hstate⟩ := Prod.mk.inj hview'
  obtain ⟨p, hp, hsend⟩ := Option.map_eq_some_iff.mp hpoint
  refine ⟨w, w', hentries, hstate, ?_⟩
  refine (failed_resync_keeps_iff (reach_of_exec hexec) hexec' (pcs_of_ending hend)).mpr ?_
  intro q hq
  rw [hp] at hq
  exact Option.some.inj hq ▸ spares_of_isSend hsend w.daemon

/-- `RESET` is accepted and the first `BUS_ADD` refused: nothing is left to resync from. -/
theorem failed_resync_loses_inventory :
    ¬ ∀ (w w' : World) (os : List Outside), Reach step anyStep (start .empty 0 2) w →
      exec step w (.call 0 .resync calm :: os.map (Act.go 0)) = some w' →
      w'.pcs[0]? = some (.idle (some .raised)) → w.daemon.SameExport w'.daemon := by
  intro h
  have hrun : (exec (guarded step anyStep) (start .empty 0 2) (applyBench 0)).map
      (fun w => (w.daemon.buses.length, (exec step w
        (.call 0 .resync calm :: [calm, calm, refusing, calm].map (Act.go 0))).map
          fun w' => (ending w' 0, w'.daemon.buses.length))) =
      some (1, some (some .raised, 0)) := by decide +kernel
  obtain ⟨w, hexec, hview⟩ := Option.map_eq_some_iff.mp hrun
  obtain ⟨hbefore, hcall⟩ := Prod.mk.inj hview
  obtain ⟨w', hexec', hview'⟩ := Option.map_eq_some_iff.mp hcall
  obtain ⟨hend, hafter⟩ := Prod.mk.inj hview'
  have hsame := h w w' _ (reach_of_exec hexec) hexec' (pcs_of_ending hend)
  have hlengths := congrArg List.length (exportedModel_inj hsame.1).2.1
  rw [List.length_map, List.length_map, hbefore, hafter] at hlengths
  exact absurd hlengths (by decide)

end Sensorium.Inventory

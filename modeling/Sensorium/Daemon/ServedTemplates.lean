import Sensorium.Daemon.TemplateClasses

/-!
# Devices served by their templates

The inventory with the class of the object in `device["template"]` beside each record, over whole
runs of applies, rollbacks, resyncs and updates.
-/

namespace Sensorium.Daemon

open Lib Model Inventory

/-! ## The classes beside the records -/

/-- `classes` is the class of the template object of a record, by the record's own object. -/
structure Served where
  world : World
  classes : Nat → Option TemplateKind

/-- `device["template"] = self._build_template(device)`; an exception assigns nothing. -/
def assignTemplate (classes : Nat → Option TemplateKind) (object : Nat) (part : Part) :
    Nat → Option TemplateKind :=
  match Template.build part with
  | some t => Function.update classes object (t.map Template.kind)
  | none => classes

/-- The device that an update stores, with the record that it was in before. -/
def updated (d : Inventory.Daemon) (id : Text) (patch : Value) :
    Option (Inventory.DeviceRecord × Device) :=
  if d.runtimeState = .desynced then none
  else (dictGet d.devices id).bind fun r => (d.patched r.device patch).map fun dev => (r, dev)

/-- Requests change what a template object holds, but only an add and an update assign one. -/
def Served.assign (s : Served) : Act → Nat → Option TemplateKind
  | .go t _ =>
    match s.world.pcs[t]? with
    | some (.adds _ [] (dev :: _) none) =>
      assignTemplate s.classes s.world.daemon.objects dev.part
    | _ => s.classes
  | .change (.updateDevice id patch) =>
    match updated s.world.daemon id patch with
    | some (r, dev) => assignTemplate s.classes r.object dev.part
    | none => s.classes
  | _ => s.classes

def Served.step (s : Served) (a : Act) : Option Served :=
  (Inventory.step s.world a).map fun w => ⟨w, s.assign a⟩

def Served.start (k : Kernel) (generation n : Nat) : Served :=
  ⟨Inventory.start k generation n, fun _ => none⟩

/-- Every device with a template holds an object with the handlers of its transport. -/
def Served.Serving (s : Served) : Prop :=
  ∀ p ∈ s.world.daemon.devices, (templateKind p.2.device.part).isSome = true →
    ∃ kind, s.classes p.2.object = some kind ∧
      ∀ h ∈ dispatched p.2.device.part.transport, h ∈ classHandlers kind

/-- The models and patches name the template of the transport.  A patch whose template cannot be
built is for a device that has one already. -/
def matching (w : World) : Act → Prop
  | .call _ (.apply raw) _ =>
    ∀ m ∈ (normalizeRuntimeModelData raw).toOption, ∀ z ∈ m.devices, Matched z.part
  | .change (.updateDevice id patch) =>
    ∀ u ∈ updated w.daemon id patch, Matched u.2.part ∧
      (buildsTemplate u.2.part = true ∨ (templateKind u.1.device.part).isSome = true)
  | _ => True

/-! ## Models that match -/

/-- The template is that of the transport and the object is built as the add has it. -/
structure Fitting (dev : Device) : Prop where
  matched : Matched dev.part
  builds : buildsTemplate dev.part = true → (Template.build dev.part).isSome = true

/-- What the rest of an operation may still add. -/
def FittingModel (m : RuntimeModel) : Prop := ∀ z ∈ m.devices, Fitting z

def FittingSnapshot (s : Snapshot) : Prop :=
  ∀ m attachments, s.restore = some (m, attachments) → FittingModel m

structure FittingCall (c : Call) : Prop where
  model : FittingModel c.model
  previous : ∀ s, c.previous = some s → FittingSnapshot s

def FittingSender : Sender → Prop
  | .reset => True
  | .apply c | .discard c => FittingCall c
  | .resync m _ => FittingModel m

def FittingJob : Job → Prop
  | .apply c | .rollback c _ _ => FittingCall c
  | .resync _ _ => True

def FittingPc : Pc → Prop
  | .send x | .sent x => FittingSender x
  | .adds job _ ds _ => FittingJob job ∧ ∀ dev ∈ ds, Fitting dev
  | .rollback c s => FittingCall c ∧ FittingSnapshot s
  | _ => True

/-- Every stored device names the template of its transport. -/
def AllMatched (d : Inventory.Daemon) : Prop := ∀ p ∈ d.devices, Matched p.2.device.part

theorem fitting_of_normalizeRuntimeModelData {raw : Value} {m : RuntimeModel}
    (hm : normalizeRuntimeModelData raw = .ok m) (h : ∀ z ∈ m.devices, Matched z.part) :
    FittingModel m := by
  intro z hz
  obtain ⟨v, l, hnormal⟩ := normalized_of_mem hm hz
  exact ⟨h z hz, fun hb => (Template.build_isSome hnormal).trans hb⟩

theorem matched_of_place {p q : Part} (hplace : q.place = p.place)
    (hkind : templateKind q = templateKind p) (h : Matched p) : Matched q := by
  intro kind hk
  rw [Inventory.Daemon.transport_of_place hplace]
  exact h kind (hkind ▸ hk)

-- The second pass changes neither the template's name nor the transport.
theorem fittingSnapshot {d : Inventory.Daemon} {s : Snapshot} (ht : d.Tidy) (hd : AllMatched d)
    (hs : d.snapshot = some s) : FittingSnapshot s := by
  intro m attachments hr
  obtain ⟨groups, _, rfl⟩ := Option.map_eq_some_iff.mp hs
  unfold Snapshot.restore at hr
  split at hr
  · cases hr
  · rename_i m' hm
    obtain ⟨_, _, heq⟩ := Option.map_eq_some_iff.mp hr
    cases heq
    refine fitting_of_normalizeRuntimeModelData hm fun z hz => ?_
    obtain ⟨p, hp, hnormal⟩ := exists_mem_of_forall₂ (source_of_exportedModel hm).devices hz
    obtain ⟨q, hq, hitem⟩ := List.mem_map.mp (List.fst_mem_of_mem_zipIdx hp)
    rw [← hitem] at hnormal
    obtain ⟨_, _, hplace⟩ := (ht.devices q hq).2.identity hnormal
    exact matched_of_place hplace (templateKind_of_toItem hnormal) (hd q hq)

/-! ## Steps that assign no template -/

/-- Every record holds the part of the record of the same object before. -/
def SameParts (d d' : Inventory.Daemon) : Prop :=
  ∀ q ∈ d'.devices, ∃ p ∈ d.devices, q.2.object = p.2.object ∧ q.2.device.part = p.2.device.part

namespace SameParts

variable {d d' : Inventory.Daemon}

theorem of_eq (h : d'.devices = d.devices) : SameParts d d' :=
  fun q hq => ⟨q, h ▸ hq, rfl, rfl⟩

theorem of_nil (h : d'.devices = []) : SameParts d d' := by
  intro q hq
  rw [h] at hq
  cases hq

theorem trans {e : Inventory.Daemon} (h : SameParts d e) (h' : SameParts e d') :
    SameParts d d' := by
  intro q hq
  obtain ⟨r, hr, hobject, hpart⟩ := h' q hq
  obtain ⟨p, hp, hobject', hpart'⟩ := h r hr
  exact ⟨p, hp, hobject.trans hobject', hpart.trans hpart'⟩

theorem of_map {c : Text × Inventory.DeviceRecord → Prop} [DecidablePred c]
    {f : Inventory.DeviceRecord → Inventory.DeviceRecord}
    (hf : ∀ r, (f r).object = r.object ∧ (f r).device.part = r.device.part)
    (h : d'.devices = d.devices.map fun p => if c p then (p.1, f p.2) else p) :
    SameParts d d' := by
  intro q hq
  rw [h] at hq
  obtain ⟨p, hp, rfl⟩ := List.mem_map.mp hq
  refine ⟨p, hp, ?_⟩
  split
  · exact hf p.2
  · exact ⟨rfl, rfl⟩

theorem modifyDevice (d : Inventory.Daemon) (id : Text)
    {f : Inventory.DeviceRecord → Inventory.DeviceRecord}
    (hf : ∀ r, (f r).object = r.object ∧ (f r).device.part = r.device.part) :
    SameParts d (d.modifyDevice id f) := of_map hf rfl

theorem modifyByHandle (d : Inventory.Daemon) (handle : Nat)
    {f : Inventory.DeviceRecord → Inventory.DeviceRecord}
    (hf : ∀ r, (f r).object = r.object ∧ (f r).device.part = r.device.part) :
    SameParts d (d.modifyByHandle handle f) := by
  unfold Inventory.Daemon.modifyByHandle
  split
  · exact of_eq rfl
  · exact of_map hf rfl

theorem foldl {α : Type} {f : Inventory.Daemon → α → Inventory.Daemon}
    (hf : ∀ d a, SameParts d (f d a)) (d : Inventory.Daemon) (as : List α) :
    SameParts d (as.foldl f d) := by
  induction as generalizing d with
  | nil => exact of_eq rfl
  | cons a as ih => exact (hf d a).trans (ih (f d a))

theorem attachBackend {backend : BackendId} {ids : List Text}
    (h : d.attachBackend backend ids = some d') : SameParts d d' := by
  unfold Inventory.Daemon.attachBackend at h
  split at h
  · cases h
    refine foldl (fun d id => ?_) d ids
    exact modifyDevice d id fun _ => ⟨rfl, rfl⟩
  · cases h

theorem attachAll (d : Inventory.Daemon) (groups : Attachments) :
    SameParts d (d.attachAll groups).1 := by
  induction groups generalizing d with
  | nil => exact of_eq rfl
  | cons g groups ih =>
    rw [Inventory.Daemon.attachAll]
    split
    · exact ih d
    · split
      · exact of_eq rfl
      · rename_i e he
        exact (attachBackend he).trans (ih e)

theorem persistSnapshot (d : Inventory.Daemon) (o : Outside) :
    SameParts d (d.persistSnapshot o).1 := by
  rcases d.persistSnapshot_eq o with h | h
  · exact of_eq (by rw [h])
  · exact of_eq (by rw [h]; rfl)

theorem settle (d : Inventory.Daemon) (o : Outside) : SameParts d (d.settle o).1 :=
  persistSnapshot (d.setState .desynced) o

/-- No change but an update assigns a backend. -/
theorem change (d : Inventory.Daemon) {c : Change}
    (hc : ∀ id patch, c ≠ .updateDevice id patch) : SameParts d (c.on d) := by
  cases c with
  | updateDevice id patch => exact absurd rfl (hc id patch)
  | attach backend ids =>
    change SameParts d (d.attach backend ids)
    unfold Inventory.Daemon.attach
    split
    · exact of_eq rfl
    · cases h : d.attachBackend backend ids with
      | none => exact of_eq rfl
      | some e => exact attachBackend h
  | detach backend ids =>
    change SameParts d (d.detach backend ids)
    unfold Inventory.Daemon.detach
    split
    · exact of_eq rfl
    · refine foldl (fun d id => modifyDevice d id fun r => ?_) d _
      split <;> exact ⟨rfl, rfl⟩
  | uartConfig c => exact modifyByHandle d c.handle fun _ => ⟨rfl, rfl⟩
  | faultedRequest id =>
    refine modifyDevice d id fun r => ?_
    split <;> exact ⟨rfl, rfl⟩
  | bridgeFailure => exact of_eq rfl
  | refreshWorkers failing =>
    change SameParts d (d.refreshWorkers failing)
    unfold Inventory.Daemon.refreshWorkers
    split
    · exact of_eq rfl
    · split <;> exact of_eq rfl
    · split <;> exact of_eq rfl
  | refreshBridgeMetrics o =>
    change SameParts d (d.refreshBridgeMetrics o)
    rcases d.refreshBridgeMetrics_eq o with h | h <;> (rw [h]; exact of_eq rfl)

theorem allMatched (h : SameParts d d') (hd : AllMatched d) : AllMatched d' := by
  intro q hq
  obtain ⟨p, hp, _, hpart⟩ := h q hq
  rw [hpart]
  exact hd p hp

theorem finish (job : Job) (d : Inventory.Daemon) (k : Kernel) (o : Outside) :
    SameParts d (job.finish d k o).daemon := by
  have hattach := attachAll d job.attachments
  unfold Job.finish
  dsimp only
  split
  · exact hattach.trans (persistSnapshot _ o)
  · exact hattach

theorem accepted (x : Sender) (d : Inventory.Daemon) (k : Kernel) (o : Outside) :
    SameParts d (x.accepted d k o).daemon := by
  rcases x.accepted_cases d k o with h | ⟨_, h⟩
  · rw [h]
    cases x <;> exact of_nil rfl
  · rw [h]
    exact of_eq rfl

/-- No step of an operation but an add of a device assigns a template. -/
theorem advance {k : Kernel} {o : Outside} {p : Pc} {m : Move}
    (h : Inventory.advance d k o p = some m)
    (hp : ∀ job dev ds, p ≠ .adds job [] (dev :: ds) none) : SameParts d m.daemon := by
  cases p with
  | idle _ => cases h
  | send x => exact of_eq (by rw [(advance_daemon h rfl rfl).1])
  | sent x =>
    cases h
    exact accepted x d k o
  | adds job buses devices modem =>
    cases h
    cases modem with
    | some handle =>
      rw [Job.add]
      split <;> exact of_eq rfl
    | none =>
      cases buses with
      | cons bus buses =>
        refine of_eq ?_
        rw [Job.add]
        dsimp only
        unfold addBus
        dsimp only
        split
        · split <;> rfl
        · rfl
      | nil =>
        cases devices with
        | cons dev devices => exact absurd rfl (hp job dev devices)
        | nil => exact finish job d k o
  | rollback c s =>
    rw [Inventory.advance] at h
    split at h
    · cases h
      exact of_eq rfl
    · rename_i m' attachments _
      cases h
      rcases c.rolledBack_cases d k o m' attachments with he | ⟨_, _, he⟩
      · rw [he]
        exact of_nil rfl
      · rw [he]
        exact of_eq rfl
  | settleFailed | fatal | resyncFailed =>
    cases h
    exact settle d o

end SameParts

/-- The step that adds a device stores it with a template that has been built, or stores nothing. -/
theorem advance_device {d : Inventory.Daemon} {k : Kernel} {o : Outside} {job : Job} {dev : Device}
    {ds : List Device} {m : Move} (hnew : dev.id ∉ keys d.devices)
    (h : Inventory.advance d k o (.adds job [] (dev :: ds) none) = some m) :
    m.daemon.devices = d.devices ∨ buildsTemplate dev.part = true ∧
      ∃ p : Text × Inventory.DeviceRecord,
        m.daemon.devices = d.devices ++ [p] ∧ p.2.object = d.objects ∧
        p.2.device = dev := by
  cases h
  rw [Job.add]
  dsimp only
  unfold addDevice
  dsimp only
  split
  · exact .inl rfl
  · split
    · exact .inl rfl
    · split
      · rename_i hbuilds
        exact .inr ⟨hbuilds, _, dictSet_of_notMem hnew _, rfl, rfl⟩
      · exact .inl rfl

/-! ## What holds of the inventory -/

theorem FittingJob.failed {job : Job} (h : FittingJob job) : FittingPc job.failed := by
  cases job with
  | apply c => exact h
  | rollback _ _ _ => trivial
  | resync _ _ => trivial

theorem fittingPc_done (job : Job) : FittingPc job.done := by
  cases job <;> trivial

theorem FittingSender.accepted {x : Sender} (h : FittingSender x) (d : Inventory.Daemon)
    (k : Kernel) (o : Outside) : FittingPc (x.accepted d k o).pc := by
  rcases x.accepted_cases d k o with he | ⟨_, he⟩
  · rw [he]
    cases x with
    | reset => trivial
    | apply c => exact ⟨h, h.model⟩
    | discard c =>
      change FittingPc c.discarded
      unfold Call.discarded
      split
      · rename_i s hs
        exact ⟨h, h.previous s hs⟩
      · trivial
    | resync m attachments => exact ⟨trivial, h⟩
  · rw [he]
    cases x with
    | apply c => exact h
    | reset | discard _ | resync _ _ => trivial

theorem fittingPc_add {job : Job} {d : Inventory.Daemon} {k : Kernel} {o : Outside}
    {buses : List Bus} {devices : List Device} {modem : Option Nat} (hj : FittingJob job)
    (hds : ∀ dev ∈ devices, Fitting dev) :
    FittingPc (job.add d k o buses devices modem).pc := by
  cases modem with
  | some handle =>
    rw [Job.add]
    split
    · exact ⟨hj, hds⟩
    · exact hj.failed
  | none =>
    cases buses with
    | cons bus buses =>
      rw [Job.add]
      dsimp only
      split
      · exact ⟨hj, hds⟩
      · exact hj.failed
    | nil =>
      cases devices with
      | cons dev devices =>
        rw [Job.add]
        dsimp only
        split
        · exact ⟨hj, fun e he => hds e (List.mem_cons_of_mem _ he)⟩
        · exact hj.failed
      | nil =>
        rw [Job.add, Job.finish]
        dsimp only
        split
        · split
          · exact fittingPc_done job
          · exact hj.failed
        · exact hj.failed

theorem fittingPc_advance {d : Inventory.Daemon} {k : Kernel} {o : Outside} {p : Pc} {m : Move}
    (hp : FittingPc p) (h : advance d k o p = some m) : FittingPc m.pc := by
  cases p with
  | idle _ => cases h
  | send x =>
    rw [advance] at h
    split at h
    · cases h
      cases x with
      | apply c => exact hp
      | reset | discard _ | resync _ _ => trivial
    · cases h
      exact hp
  | sent x =>
    cases h
    exact hp.accepted d k o
  | adds job bs ds modem =>
    cases h
    exact fittingPc_add hp.1 hp.2
  | rollback c s =>
    rw [advance] at h
    split at h
    · cases h
      trivial
    · rename_i m' attachments hr
      cases h
      rcases c.rolledBack_cases d k o m' attachments with he | ⟨_, _, he⟩
      · rw [he]
        exact ⟨hp.1, hp.2 m' attachments hr⟩
      · rw [he]
        trivial
  | settleFailed =>
    cases h
    dsimp only
    split <;> trivial
  | fatal | resyncFailed =>
    cases h
    trivial

/-- A call leaves the parts of all records as they are. -/
theorem SameParts.of_begins {d d' : Inventory.Daemon} {locked : Bool} {o : Outside}
    {op : Operation} {p : Pc} (h : d.Begins locked o op d' p) : SameParts d d' := by
  have hrefresh : SameParts d (d.refreshBridgeMetrics o) :=
    SameParts.change d (c := .refreshBridgeMetrics o) fun _ _ h => by cases h
  cases h with
  | invalid _ | applyDesynced _ _ _ | applyBlank _ _ _ _ | resetDesynced _ _ | reset _ _ =>
    exact .of_eq rfl
  | applyUnsaved _ _ _ _ _ | resyncUnsaved _ _ | resync _ _ => exact hrefresh
  | applyOver _ _ _ _ _ => exact hrefresh.trans (.of_eq rfl)

theorem fittingPc_begin {w : World} {t : Nat} {op : Operation} {o : Outside} {d : Inventory.Daemon}
    {p : Pc} (hok : matching w (.call t op o)) (ht : w.daemon.Tidy) (hd : AllMatched w.daemon)
    (h : w.daemon.Begins w.locked o op d p) : FittingPc p := by
  have hrefresh : SameParts w.daemon (w.daemon.refreshBridgeMetrics o) :=
    SameParts.change w.daemon (c := .refreshBridgeMetrics o) fun _ _ h => by cases h
  have ht' := (w.daemon.revises_refreshBridgeMetrics o).tidy ht
  have hd' := hrefresh.allMatched hd
  cases h with
  | invalid _ | applyDesynced _ _ _ | applyUnsaved _ _ _ _ _ | resetDesynced _ _ | reset _ _
  | resyncUnsaved _ _ => trivial
  | applyBlank hm _ _ _ =>
    have hmodel := fitting_of_normalizeRuntimeModelData hm (hok _ (by rw [hm]; rfl))
    exact ⟨hmodel, fun _ h => by cases h⟩
  | applyOver hm _ _ _ hs =>
    have hmodel := fitting_of_normalizeRuntimeModelData hm (hok _ (by rw [hm]; rfl))
    refine ⟨hmodel, fun s' hs' => ?_⟩
    cases hs'
    exact fittingSnapshot ht' hd' hs
  | resync _ hr =>
    obtain ⟨s, hs, hr⟩ := Option.bind_eq_some_iff.mp hr
    exact fittingSnapshot ht' hd' hs _ _ hr

/-! ### Updates -/

theorem updated_eq_some {d : Inventory.Daemon} {id : Text} {patch : Value}
    {r : Inventory.DeviceRecord}
    {dev : Device} (h : updated d id patch = some (r, dev)) :
    d.updateDevice id patch = d.modifyDevice id (fun r => { r with device := dev }) ∧
      dictGet d.devices id = some r ∧ d.patched r.device patch = some dev := by
  unfold updated at h
  split at h
  · cases h
  · rename_i hsync
    obtain ⟨r', hr, h⟩ := Option.bind_eq_some_iff.mp h
    obtain ⟨dev', hdev, heq⟩ := Option.map_eq_some_iff.mp h
    cases heq
    refine ⟨?_, hr, hdev⟩
    unfold Daemon.updateDevice
    rw [if_neg hsync, hr]
    dsimp only
    rw [hdev]

theorem updated_eq_none {d : Inventory.Daemon} {id : Text} {patch : Value}
    (h : updated d id patch = none) : d.updateDevice id patch = d := by
  unfold updated at h
  unfold Daemon.updateDevice
  split
  · rfl
  · rename_i hsync
    rw [if_neg hsync] at h
    split
    · rfl
    · rename_i r hr
      rw [hr, Option.bind_some, Option.map_eq_none_iff] at h
      rw [h]

/-- A record after an update is the patched one, or one of another object. -/
theorem updated_cases {d : Inventory.Daemon} (hf : d.Filed) {id : Text} {r : Inventory.DeviceRecord}
    {dev : Device} (hr : dictGet d.devices id = some r) {q : Text × Inventory.DeviceRecord}
    (hq : q ∈ (d.modifyDevice id fun r => { r with device := dev }).devices) :
    q.2.object = r.object ∧ q.2.device = dev ∨ q.2.object ≠ r.object ∧ q ∈ d.devices := by
  obtain ⟨p, hp, rfl⟩ := List.mem_map.mp hq
  have hmem : (id, r) ∈ d.devices := mem_of_dictGet hr
  split
  · rename_i hid
    have hpr : p.2 = r := eq_of_dictGet hf.deviceIds hr (hid ▸ hp)
    refine .inl ⟨?_, rfl⟩
    change p.2.object = r.object
    rw [hpr]
  · rename_i hid
    refine .inr ⟨fun heq => hid ?_, hp⟩
    exact congrArg Prod.fst (List.inj_on_of_nodup_map hf.objects hp hmem heq)

theorem allMatched_change {w : World} {c : Change} (hok : matching w (.change c))
    (hf : w.daemon.Filed) (hd : AllMatched w.daemon) : AllMatched (c.on w.daemon) := by
  by_cases hc : ∃ id patch, c = .updateDevice id patch
  · obtain ⟨id, patch, rfl⟩ := hc
    change AllMatched (w.daemon.updateDevice id patch)
    cases hu : updated w.daemon id patch with
    | none =>
      rw [updated_eq_none hu]
      exact hd
    | some u =>
      obtain ⟨heq, hr, _⟩ := updated_eq_some hu
      rw [heq]
      intro q hq
      rcases updated_cases hf hr hq with ⟨_, hdev⟩ | ⟨_, hmem⟩
      · rw [hdev]
        exact (hok u hu).1
      · exact hd q hmem
  · push Not at hc
    exact (SameParts.change w.daemon hc).allMatched hd

/-! ### Runs of the inventory -/

theorem allMatched_advance {d : Inventory.Daemon} {k : Kernel} {o : Outside} {p : Pc} {m : Move}
    (hd : AllMatched d) (hp : FittingPc p) (hfiling : p.Filing d)
    (h : advance d k o p = some m) : AllMatched m.daemon := by
  by_cases hadd : ∃ job dev ds, p = .adds job [] (dev :: ds) none
  · obtain ⟨job, dev, ds, rfl⟩ := hadd
    have hnew : dev.id ∉ keys d.devices := notMem_of_nodup_append_cons hfiling.deviceIds
    rcases advance_device hnew h with heq | ⟨_, q, heq, _, hdev⟩
    · exact (SameParts.of_eq heq).allMatched hd
    · intro e he
      rw [heq] at he
      rcases List.mem_append.mp he with he | he
      · exact hd e he
      · rw [List.mem_singleton.mp he, hdev]
        exact (hp.2 dev List.mem_cons_self).matched
  · push Not at hadd
    exact (SameParts.advance h hadd).allMatched hd

theorem keeps_matched : Keeps matching (fun d => d.Filed ∧ AllMatched d)
    fun d p => p.Filing d ∧ FittingPc p where
  idle _ := ⟨trivial, trivial⟩
  frame hh hp := ⟨Pc.filing_of_not_holds hh _, hp.2⟩
  begins hok hI hb := by
    obtain ⟨hf, hp⟩ := keeps_filed.begins (t := 0) trivial hI.1 hb
    have hbegins := begins_of_begin hb
    have hsame := SameParts.of_begins hbegins
    exact ⟨⟨hf, hsame.allMatched hI.2⟩, hp, fittingPc_begin hok hI.1.toTidy hI.2 hbegins⟩
  advances _ hp hI hL hm := by
    obtain ⟨hf, hfiling⟩ := filed_advance hI.1 hL.1 hm
    exact ⟨⟨hf, allMatched_advance hI.2 hL.2 hL.1 hm⟩, hfiling, fittingPc_advance hL.2 hm⟩
  changes hok hI := ⟨keeps_filed.changes trivial hI.1, allMatched_change hok hI.1 hI.2⟩
  loose _ hc hI hL := ⟨keeps_filed.loose trivial hc hI.1 hL.1, hL.2⟩

/-! ## What holds of the classes -/

/-- The object of a template device is of the class that the backend names. -/
def Classified (d : Inventory.Daemon) (classes : Nat → Option TemplateKind) : Prop :=
  ∀ p ∈ d.devices, ∀ kind, templateKind p.2.device.part = some kind →
    classes p.2.object = some kind

theorem SameParts.classified {d d' : Inventory.Daemon} {classes : Nat → Option TemplateKind}
    (h : SameParts d d') (hc : Classified d classes) : Classified d' classes := by
  intro q hq kind hkind
  obtain ⟨p, hp, hobject, hpart⟩ := h q hq
  rw [hobject]
  exact hc p hp kind (hpart ▸ hkind)

theorem assignTemplate_of_ne {classes : Nat → Option TemplateKind} {object other : Nat}
    (h : other ≠ object) (part : Part) :
    assignTemplate classes object part other = classes other := by
  unfold assignTemplate
  cases Template.build part with
  | none => rfl
  | some t => exact Function.update_of_ne h _ _

theorem assignTemplate_self {part : Part} (h : (Template.build part).isSome = true)
    (classes : Nat → Option TemplateKind) (object : Nat) :
    assignTemplate classes object part object = templateKind part := by
  obtain ⟨t, ht⟩ := Option.isSome_iff_exists.mp h
  rw [assignTemplate, ht, ← kind_of_build ht]
  exact Function.update_self object _ classes

namespace Served

/-- The inventory and the classes beside it. -/
structure Sound (s : Served) : Prop where
  kept : s.world.Kept (fun d => d.Filed ∧ AllMatched d) fun d p => p.Filing d ∧ FittingPc p
  classified : Classified s.world.daemon s.classes

theorem classified_update {s : Served} (h : s.Sound) {id : Text} {patch : Value}
    (hok : matching s.world (.change (.updateDevice id patch))) :
    Classified (s.world.daemon.updateDevice id patch)
      (s.assign (.change (.updateDevice id patch))) := by
  have hf := h.kept.daemon.1
  rw [assign]
  split
  · rename_i r dev hu
    obtain ⟨heq, hr, hpatched⟩ := updated_eq_some hu
    obtain ⟨hmatched, hbuilds⟩ := hok (r, dev) hu
    rw [heq]
    intro q hq kind hkind
    rcases updated_cases hf hr hq with ⟨hobject, hdev⟩ | ⟨hobject, hmem⟩
    · rw [hdev] at hkind
      rw [hobject]
      by_cases hb : (Template.build dev.part).isSome = true
      · rw [assignTemplate_self hb, hkind]
      · -- The object of before stays, and it was of the class of the transport as well.
        obtain ⟨z, v, hz, _, hplace, rfl⟩ := Daemon.patched_eq_some hpatched
        have hraises : Template.build z.part = none := Option.not_isSome_iff_eq_none.mp hb
        rw [Template.build_isSome hz] at hb
        obtain ⟨old, hold⟩ := Option.isSome_iff_exists.mp (hbuilds.resolve_left hb)
        have hmem : (id, r) ∈ s.world.daemon.devices := mem_of_dictGet hr
        have hkeeps : assignTemplate s.classes r.object z.part = s.classes := by
          rw [assignTemplate, hraises]
        rw [hkeeps, h.classified (id, r) hmem old hold, hmatched kind hkind,
          h.kept.daemon.2 (id, r) hmem old hold, Daemon.transport_of_place hplace]
    · rw [assignTemplate_of_ne hobject]
      exact h.classified q hmem kind hkind
  · rename_i hu
    rw [updated_eq_none hu]
    exact h.classified

theorem classified_go {s : Served} (h : s.Sound) {t : Nat} {o : Outside} {p : Pc} {m : Move}
    (hp : s.world.pcs[t]? = some p) (hm : advance s.world.daemon s.world.kernel o p = some m) :
    Classified m.daemon (s.assign (.go t o)) := by
  obtain ⟨hfiling, hfit⟩ := h.kept.pcs t p hp
  rw [assign, hp]
  by_cases hadd : ∃ job dev ds, p = .adds job [] (dev :: ds) none
  · obtain ⟨job, dev, ds, rfl⟩ := hadd
    have hnew : dev.id ∉ keys s.world.daemon.devices :=
      notMem_of_nodup_append_cons hfiling.deviceIds
    -- No record has the object that the add will take.
    have hold : Classified s.world.daemon
        (assignTemplate s.classes s.world.daemon.objects dev.part) := by
      intro q hq kind hkind
      have hlt := h.kept.daemon.1.objects_lt q hq
      rw [assignTemplate_of_ne (Nat.ne_of_lt hlt)]
      exact h.classified q hq kind hkind
    rcases advance_device hnew hm with heq | ⟨hbuilds, q, heq, hobject, hdev⟩
    · exact (SameParts.of_eq heq).classified hold
    · intro e he kind hkind
      rw [heq] at he
      rcases List.mem_append.mp he with he | he
      · exact hold e he kind hkind
      · rw [List.mem_singleton.mp he] at hkind ⊢
        rw [hdev] at hkind
        have hb := (hfit.2 dev List.mem_cons_self).builds hbuilds
        rw [hobject]
        dsimp only
        rw [assignTemplate_self hb, hkind]
  · push Not at hadd
    have hsame := (SameParts.advance hm hadd).classified h.classified
    split
    · rename_i job dev ds heq
      exact absurd (Option.some.inj heq) (hadd job dev ds)
    · exact hsame

theorem sound_step {s s' : Served} {a : Act} (h : s.Sound) (hok : matching s.world a)
    (hs : s.step a = some s') : s'.Sound := by
  obtain ⟨w, hw, rfl⟩ := Option.map_eq_some_iff.mp hs
  refine ⟨World.kept_step keeps_matched h.kept hok hw, ?_⟩
  cases a with
  | call t op o =>
    rw [Inventory.step] at hw
    split at hw
    · obtain ⟨⟨d, p⟩, hb, rfl⟩ := Option.map_eq_some_iff.mp hw
      exact (SameParts.of_begins (begins_of_begin hb)).classified h.classified
    · cases hw
  | go t o =>
    rw [Inventory.step] at hw
    split at hw
    · rename_i p hp
      split at hw
      · cases hw
      · obtain ⟨m, hm, rfl⟩ := Option.map_eq_some_iff.mp hw
        exact classified_go h hp hm
    · cases hw
  | change c =>
    rw [Inventory.step] at hw
    split at hw
    · cases hw
    · cases hw
      cases c with
      | updateDevice id patch => exact classified_update h hok
      | attach _ _ | detach _ _ | uartConfig _ | faultedRequest _ | bridgeFailure
      | refreshWorkers _ | refreshBridgeMetrics _ =>
        refine SameParts.classified (SameParts.change s.world.daemon ?_) h.classified
        intro id patch heq
        cases heq

theorem sound_start (k : Kernel) (generation n : Nat) : (start k generation n).Sound :=
  ⟨World.kept_start keeps_matched ⟨filed_empty rfl rfl rfl, fun _ hp => (nomatch hp)⟩,
    fun _ hp => (nomatch hp)⟩

theorem Sound.serving {s : Served} (h : s.Sound) : s.Serving := by
  intro p hp hsome
  obtain ⟨kind, hkind⟩ := Option.isSome_iff_exists.mp hsome
  refine ⟨kind, h.classified p hp kind hkind, ?_⟩
  exact implements_iff.mpr (h.kept.daemon.2 p hp kind hkind)

end Served

/-- Where models and patches name the template of the transport, every template device can serve
the requests of the kernel, in every state of every run. -/
theorem templates_serve_transport {k : Kernel} {generation n : Nat} {s : Served}
    (hr : Reach Served.step (fun s a => matching s.world a) (.start k generation n) s) :
    s.Serving :=
  (hr.invariant (Served.sound_start k generation n) fun _ _ _ h hok hs =>
    Served.sound_step h hok hs).serving

/-! ## A model with a template of another transport -/

instance (w : World) (a : Act) : Decidable (matching w a) :=
  match a with
  | .call _ (.apply raw) _ => inferInstanceAs (Decidable
      (∀ m ∈ (normalizeRuntimeModelData raw).toOption, ∀ z ∈ m.devices, Matched z.part))
  | .change (.updateDevice id patch) => inferInstanceAs (Decidable
      (∀ u ∈ updated w.daemon id patch, Matched u.2.part ∧
        (buildsTemplate u.2.part = true ∨ (templateKind u.1.device.part).isSome = true)))
  | .call _ .reset _ | .call _ .resync _ | .go _ _ | .change (.attach _ _)
  | .change (.detach _ _) | .change (.uartConfig _) | .change (.faultedRequest _)
  | .change .bridgeFailure | .change (.refreshWorkers _)
  | .change (.refreshBridgeMetrics _) => .isTrue trivial

/-- A bus with one device that a template serves. -/
def templateBench (template : String) : Value :=
  exportedModel (text "bench")
    [.dict [(.lit "id", .lit "b0"), (.lit "transport", .lit "i2c"), (.lit "name", .lit "i2c-7")]]
    [.dict [(.lit "id", .lit "t0"), (.lit "bus", .lit "b0"), (.lit "transport", .lit "i2c"),
      (.lit "address", .int 72), (.lit "backend",
        .dict [(.lit "kind", .lit "template"), (.lit "template", .lit template)])]]

def applyTemplateBench (template : String) : List Act :=
  .call 0 (.apply (templateBench template)) calm :: List.replicate 5 (.go 0 calm)

/-- What the first device names and what it holds. -/
def firstClass (s : Served) : Option (Option TemplateKind × Option TemplateKind) :=
  s.world.daemon.devices.head?.map fun p => (templateKind p.2.device.part, s.classes p.2.object)

/-- A register bank is applied, made a controller's device and a register bank again. -/
theorem templates_serve_bench : ∃ s : Served,
    firstClass s = some (some .i2cRegisterBank, some .i2cRegisterBank) ∧ s.Serving := by
  have hrun : (exec (guarded Served.step fun s a => matching s.world a) (.start .empty 0 1)
      (applyTemplateBench "i2c-register-bank" ++
        [.change (patchBackend [(.lit "kind", .lit "controller")]),
          .change (patchBackend [(.lit "kind", .lit "template"),
            (.lit "template", .lit "i2c-register-bank")])])).map
      firstClass = some (some (some .i2cRegisterBank, some .i2cRegisterBank)) := by decide +kernel
  obtain ⟨s, hexec, hview⟩ := Option.map_eq_some_iff.mp hrun
  exact ⟨s, hview, templates_serve_transport (reach_of_exec hexec)⟩

/-- The model of an I2C device with an SPI script is applied; the object has no `handle_i2c`. -/
theorem template_without_handler :
    ¬ ∀ s, Reach Served.step anyStep (.start .empty 0 1) s → s.Serving := by
  intro h
  have hrun : (exec (guarded Served.step anyStep) (.start .empty 0 1)
      (applyTemplateBench "spi-script")).map (fun s => s.world.daemon.devices.map fun p =>
        (templateKind p.2.device.part, p.2.device.part.transport, s.classes p.2.object)) =
      some [(some .spiScript, .i2c, some .spiScript)] := by decide +kernel
  obtain ⟨s, hexec, hview⟩ := Option.map_eq_some_iff.mp hrun
  obtain ⟨p, hp, heq⟩ := List.mem_map.mp (hview ▸ List.mem_cons_self)
  simp only [Prod.mk.injEq] at heq
  obtain ⟨hkind, htransport, hclass⟩ := heq
  obtain ⟨kind, hheld, hhandlers⟩ := h s (reach_of_exec hexec) p hp (by rw [hkind]; rfl)
  have hscript : kind = .spiScript := Option.some.inj (hheld.symm.trans hclass)
  rw [htransport, hscript] at hhandlers
  exact absurd hhandlers (by decide)

end Sensorium.Daemon

import Sensorium.Inventory.Agreement

/-!
# Snapshots and what they restore

A snapshot exports the stored buses and devices and groups the attachments by backend.  Rebuilding
from it gives the same buses, the same devices up to `normalize_runtime_device_item`, and, where
every attached backend is a non-empty string, the same attachments.
-/

namespace Sensorium.Inventory

open Lib Model

/-! ## Attachments -/

/-- The backend that a snapshot lists the device under. -/
def DeviceRecord.backend (r : DeviceRecord) : Option BackendId :=
  r.attachedBackend.filter BackendId.truthy

theorem DeviceRecord.backend_eq_some {r : DeviceRecord} {b : BackendId} :
    r.backend = some b ↔ r.attachedBackend = some b ∧ b.truthy = true :=
  Option.filter_eq_some_iff

/-- Every backend that a snapshot lists is a string. -/
def Daemon.Lettered (d : Daemon) : Prop :=
  ∀ p ∈ d.devices, ∀ b, p.2.backend = some b → b.isStr = true

/-- A non-empty string. -/
def BackendId.isName : BackendId → Bool
  | .str s => s ≠ []
  | .int _ => false

/-- Every attached backend is a non-empty string. -/
def Daemon.Named (d : Daemon) : Prop :=
  ∀ p ∈ d.devices, p.2.attachedBackend.all BackendId.isName = true

instance (d : Daemon) : Decidable d.Named :=
  inferInstanceAs (Decidable (∀ p ∈ d.devices, p.2.attachedBackend.all BackendId.isName = true))

variable {d : Daemon}

theorem Daemon.Named.eq_str {p : Text × DeviceRecord} {b : BackendId} (h : d.Named)
    (hp : p ∈ d.devices) (hb : p.2.attachedBackend = some b) : ∃ s, s ≠ [] ∧ b = .str s := by
  have hname := h p hp
  rw [hb] at hname
  cases b with
  | str s => exact ⟨s, of_decide_eq_true hname, rfl⟩
  | int n => cases hname

theorem Daemon.Named.backend {p : Text × DeviceRecord} (h : d.Named) (hp : p ∈ d.devices) :
    p.2.backend = p.2.attachedBackend := by
  rw [DeviceRecord.backend]
  cases hb : p.2.attachedBackend with
  | none => rfl
  | some b =>
    obtain ⟨s, hs, rfl⟩ := h.eq_str hp hb
    exact Option.filter_eq_some_iff.mpr ⟨rfl, by simpa [BackendId.truthy] using hs⟩

theorem Daemon.Named.lettered (h : d.Named) : d.Lettered := by
  intro p hp b hb
  rw [h.backend hp] at hb
  obtain ⟨s, _, rfl⟩ := h.eq_str hp hb
  rfl

theorem mem_attached {id : Text} {b : BackendId} :
    (id, b) ∈ d.attached ↔
      ∃ p ∈ d.devices, p.1 = id ∧ p.2.attachedBackend = some b ∧ b.truthy = true := by
  unfold Daemon.attached
  rw [List.mem_filterMap]
  constructor
  · rintro ⟨p, hp, hmap⟩
    obtain ⟨c, hc, heq⟩ := Option.map_eq_some_iff.mp hmap
    obtain ⟨hattached, htruthy⟩ := Option.filter_eq_some_iff.mp hc
    cases heq
    exact ⟨p, hp, rfl, hattached, htruthy⟩
  · rintro ⟨p, hp, rfl, hattached, htruthy⟩
    refine ⟨p, hp, ?_⟩
    rw [hattached, Option.filter_some, if_pos htruthy]
    rfl

/-- The groups of a snapshot, whatever their order. -/
structure Groups (d : Daemon) (groups : List (BackendId × List Text)) : Prop where
  nodup : (keys groups).Nodup
  nonempty : ∀ g ∈ groups, g.2 ≠ []
  belongs : ∀ b id, Belongs groups b id ↔ (id, b) ∈ d.attached

theorem groups_of_snapshotAttachments {groups : List (BackendId × List Text)}
    (h : d.snapshotAttachments = some groups) : Groups d groups := by
  unfold Daemon.snapshotAttachments at h
  dsimp only at h
  split at h
  · cases h
    have hperm := List.perm_insertionSort (fun g h : BackendId × List Text => g.1.le h.1)
      ((group d.attached).map fun g => (g.1, g.2.insertionSort (· ≤ ·)))
    have hmem {g : BackendId × List Text} (hg : g ∈ List.insertionSort (fun g h => g.1.le h.1)
        ((group d.attached).map fun g => (g.1, g.2.insertionSort (· ≤ ·)))) :
        ∃ g' ∈ group d.attached, (g'.1, g'.2.insertionSort (· ≤ ·)) = g :=
      List.mem_map.mp (hperm.mem_iff.mp hg)
    refine ⟨?_, ?_, ?_⟩
    · rw [keys, (hperm.map Prod.fst).nodup_iff, List.map_map]
      exact nodup_keys_group d.attached
    · intro g hg hnil
      obtain ⟨g', hg', rfl⟩ := hmem hg
      have hsorted := List.perm_insertionSort (· ≤ ·) g'.2
      rw [show g'.2.insertionSort (· ≤ ·) = [] from hnil, List.nil_perm] at hsorted
      exact ne_nil_of_mem_group hg' hsorted
    · intro b id
      rw [← belongs_group]
      constructor
      · rintro ⟨g, hg, hb, hid⟩
        obtain ⟨g', hg', rfl⟩ := hmem hg
        exact ⟨g', hg', hb, (List.mem_insertionSort _).mp hid⟩
      · rintro ⟨g, hg, hb, hid⟩
        refine ⟨_, hperm.mem_iff.mpr (List.mem_map_of_mem hg), hb, ?_⟩
        exact (List.mem_insertionSort _).mpr hid
  · cases h

theorem validateBackendAttachments_eq {devices : List (Text × Device)}
    {attachedBy : List (Text × Text)} {acc out : Attachments}
    {groups : List (BackendId × List Text)}
    (h : validateBackendAttachments devices attachedBy acc groups = some out)
    (hnodup : (keys acc ++ groups.map fun g => g.1.asText).Nodup) :
    out = acc ++ groups.map fun g => (g.1.asText, g.2) := by
  induction groups generalizing attachedBy acc with
  | nil =>
    cases h
    rw [List.map_nil, List.append_nil]
  | cons g groups ih =>
    obtain ⟨backend, ids⟩ := g
    rw [validateBackendAttachments] at h
    obtain ⟨attachedBy', _, h⟩ := Option.bind_eq_some_iff.mp h
    have hnew : backend.asText ∉ keys acc := notMem_of_nodup_append_cons hnodup
    rw [dictSet_of_notMem hnew] at h
    rw [ih h ?_, List.append_assoc]
    · rfl
    · rw [keys, List.map_append, List.append_assoc]
      exact hnodup

/-- The attachment of a device after the loop over `groups`. -/
def assigned (groups : Attachments) (id : Text) (old : Option BackendId) : Option BackendId :=
  groups.foldl (fun b g => if id ∈ g.2 then some (.str g.1) else b) old

theorem assigned_of_not {groups : Attachments} {id : Text} (h : ∀ g ∈ groups, id ∉ g.2)
    (old : Option BackendId) : assigned groups id old = old := by
  unfold assigned
  induction groups with
  | nil => rfl
  | cons g groups ih =>
    rw [List.foldl_cons, if_neg (h g List.mem_cons_self)]
    exact ih fun g' hg' => h g' (List.mem_cons_of_mem _ hg')

-- All groups with the device are of one backend.
theorem assigned_of_mem {groups : Attachments} {id s : Text} (h : ∃ g ∈ groups, id ∈ g.2)
    (hs : ∀ g ∈ groups, id ∈ g.2 → g.1 = s) (old : Option BackendId) :
    assigned groups id old = some (.str s) := by
  induction groups generalizing old with
  | nil =>
    obtain ⟨g, hg, _⟩ := h
    cases hg
  | cons g groups ih =>
    have htail : ∀ g' ∈ groups, id ∈ g'.2 → g'.1 = s :=
      fun g' hg' => hs g' (List.mem_cons_of_mem _ hg')
    rw [assigned, List.foldl_cons]
    by_cases hlater : ∃ g' ∈ groups, id ∈ g'.2
    · exact ih hlater htail _
    · have hnot : ∀ g' ∈ groups, id ∉ g'.2 := fun g' hg' hid => hlater ⟨g', hg', hid⟩
      obtain ⟨g', hg', hid⟩ := h
      rcases List.mem_cons.mp hg' with rfl | hg'
      · rw [if_pos hid, hs g' List.mem_cons_self hid]
        exact assigned_of_not hnot _
      · exact absurd hid (hnot g' hg')

/-- Attachments set, and nothing else changed in the tables. -/
structure Daemon.Attaches (d d' : Daemon) (f : Text → Option BackendId → Option BackendId) :
    Prop where
  buses : d'.buses = d.buses
  devices : d'.devices = d.devices.map fun p =>
    (p.1, { p.2 with attachedBackend := f p.1 p.2.attachedBackend })

theorem Daemon.Attaches.refl (d : Daemon) : d.Attaches d fun _ b => b :=
  ⟨rfl, (List.map_id _).symm⟩

theorem Daemon.Attaches.trans {e d' : Daemon} {f g : Text → Option BackendId → Option BackendId}
    (h : d.Attaches e f) (h' : e.Attaches d' g) : d.Attaches d' fun id b => g id (f id b) where
  buses := h'.buses.trans h.buses
  devices := by
    rw [h'.devices, h.devices, List.map_map]
    rfl

theorem attaches_modifyDevice (d : Daemon) (id : Text) (b : BackendId) :
    d.Attaches (d.modifyDevice id fun r => { r with attachedBackend := some b })
      fun id' old => if id' = id then some b else old where
  buses := rfl
  devices := by
    refine List.map_congr_left fun p _ => ?_
    dsimp only
    split
    · rfl
    · rfl

theorem attaches_foldl (d : Daemon) (ids : List Text) (b : BackendId) :
    d.Attaches
      (ids.foldl (fun d id => d.modifyDevice id fun r => { r with attachedBackend := some b }) d)
      fun id old => if id ∈ ids then some b else old := by
  induction ids generalizing d with
  | nil => exact .refl d
  | cons id ids ih =>
    rw [List.foldl_cons]
    have htrans := (attaches_modifyDevice d id b).trans (ih _)
    convert htrans using 3 with id' old
    by_cases hid : id' ∈ ids
    · simp [hid]
    · simp [hid]

theorem attaches_attachBackend {d' : Daemon} {b : BackendId} {ids : List Text}
    (h : d.attachBackend b ids = some d') :
    d.Attaches d' fun id old => if id ∈ ids then some b else old := by
  unfold Daemon.attachBackend at h
  split at h
  · cases h
    exact attaches_foldl d ids b
  · cases h

theorem attaches_attachAll {d' : Daemon} {groups : Attachments}
    (h : d.attachAll groups = (d', true)) : d.Attaches d' (assigned groups) := by
  induction groups generalizing d with
  | nil =>
    cases h
    exact .refl d'
  | cons g groups ih =>
    rw [Daemon.attachAll] at h
    split at h
    · rename_i hnil
      have htail := ih h
      refine ⟨htail.buses, ?_⟩
      rw [htail.devices]
      refine List.map_congr_left fun p _ => ?_
      rw [assigned, assigned, List.foldl_cons, hnil, if_neg List.not_mem_nil]
    · split at h
      · cases h
      · rename_i e he
        exact (attaches_attachBackend he).trans (ih h)

section Restored

variable {devices : List (Text × Device)} {groups : List (BackendId × List Text)}
  {out : Attachments} {p : Text × DeviceRecord} (ht : d.Tidy) (hl : d.Lettered)
  (hg : Groups d groups)

include ht hg in
theorem Groups.backend {g : BackendId × List Text} (hmem : g ∈ groups)
    (hp : p ∈ d.devices) (hid : p.1 ∈ g.2) : p.2.backend = some g.1 := by
  obtain ⟨q, hq, hqp, hb, htruthy⟩ :=
    mem_attached.mp ((hg.belongs g.1 p.1).mp ⟨g, hmem, rfl, hid⟩)
  rw [← List.inj_on_of_nodup_map ht.deviceIds hq hp hqp]
  exact DeviceRecord.backend_eq_some.mpr ⟨hb, htruthy⟩

include hl hg

theorem Groups.eq_str {g : BackendId × List Text} (hmem : g ∈ groups) : ∃ s, g.1 = .str s := by
  obtain ⟨id, hid⟩ := List.exists_mem_of_ne_nil _ (hg.nonempty g hmem)
  obtain ⟨q, hq, _, hb, ht⟩ := mem_attached.mp ((hg.belongs g.1 id).mp ⟨g, hmem, rfl, hid⟩)
  have hstr := hl q hq g.1 (DeviceRecord.backend_eq_some.mpr ⟨hb, ht⟩)
  cases hb' : g.1 with
  | str s => exact ⟨s, rfl⟩
  | int n =>
    rw [hb'] at hstr
    cases hstr

theorem Groups.nodup_asText : (groups.map fun g => g.1.asText).Nodup := by
  have hinj : ∀ b ∈ keys groups, ∀ c ∈ keys groups, b.asText = c.asText → b = c := by
    intro b hb c hc heq
    obtain ⟨g, hgm, rfl⟩ := List.mem_map.mp hb
    obtain ⟨g', hgm', rfl⟩ := List.mem_map.mp hc
    obtain ⟨s, hs⟩ := hg.eq_str hl hgm
    obtain ⟨s', hs'⟩ := hg.eq_str hl hgm'
    rw [hs, hs'] at heq ⊢
    exact congrArg BackendId.str heq
  have hnodup := hg.nodup.map_on hinj
  rw [List.map_map] at hnodup
  exact hnodup

include ht

/-- Restoring the groups of a snapshot on unattached devices gives each device its backend back. -/
theorem Groups.assigned_restored
    (hv : validateBackendAttachments devices [] [] groups = some out) (hp : p ∈ d.devices) :
    assigned out p.1 none = p.2.backend := by
  rw [validateBackendAttachments_eq hv (hg.nodup_asText hl), List.nil_append]
  cases hb : p.2.backend with
  | none =>
    refine assigned_of_not ?_ none
    intro g hgm hid
    obtain ⟨g', hgm', rfl⟩ := List.mem_map.mp hgm
    rw [hg.backend ht hgm' hp hid] at hb
    cases hb
  | some b =>
    have hattached : (p.1, b) ∈ d.attached :=
      mem_attached.mpr ⟨p, hp, rfl, DeviceRecord.backend_eq_some.mp hb⟩
    obtain ⟨g, hgm, rfl, hid⟩ := (hg.belongs _ _).mpr hattached
    obtain ⟨s, hs⟩ := hg.eq_str hl hgm
    rw [hs]
    refine assigned_of_mem ⟨_, List.mem_map_of_mem hgm, hid⟩ ?_ none
    intro g' hgm' hid'
    obtain ⟨g'', hgm'', rfl⟩ := List.mem_map.mp hgm'
    have hsame := hg.backend ht hgm'' hp hid'
    rw [hb] at hsame
    rw [← Option.some.inj hsame, hs]
    rfl

end Restored

/-! ## Buses and devices -/

def busIdentity (b : Bus) : Text × Transport × Text := (b.id, b.transport, b.name)

def deviceIdentity (d : Device) : Text × Text × Place := (d.id, d.bus, d.part.place)

/-- What `normalize_runtime_device_item` makes of each device. -/
def normalForms (buses : List (Text × Bus)) (devices : List Device) : List (Checked Device) :=
  devices.zipIdx.map fun p => normalizeRuntimeDeviceItem p.1.toItem buses (deviceLabel p.2)

/-- The same inventory, attachments and generation. -/
structure Unchanged (d d' : Daemon) : Prop where
  buses : (d'.buses.map fun p => busIdentity p.2.bus) = d.buses.map fun p => busIdentity p.2.bus
  devices : (d'.devices.map fun p => deviceIdentity p.2.device) =
    d.devices.map fun p => deviceIdentity p.2.device
  normalForms : normalForms d'.busTable (d'.devices.map fun p => p.2.device) =
    normalForms d.busTable (d.devices.map fun p => p.2.device)
  attachments : (d'.devices.map fun p => p.2.attachedBackend) =
    d.devices.map fun p => p.2.attachedBackend
  generation : d'.generation = d.generation

theorem unchanged_of_eq {d' : Daemon} (hb : d'.buses = d.buses) (hd : d'.devices = d.devices)
    (hg : d'.generation = d.generation) : Unchanged d d' := by
  refine ⟨by rw [hb], by rw [hd], ?_, by rw [hd], hg⟩
  rw [Daemon.busTable, Daemon.busTable, hb, hd]

section Exported

variable {m : RuntimeModel} (ht : d.Tidy)
  (hs : Source m (d.buses.map fun p => p.2.bus.toItem) (d.devices.map fun p => p.2.device.toItem))

include ht hs

theorem exported_buses :
    List.Forall₂ (fun p b => b = { p.2.bus with metadata := [] }) d.buses m.buses := by
  have hbuses := hs.buses
  rw [List.zipIdx_map, List.forall₂_map_left_iff] at hbuses
  refine forall₂_of_zipIdx ((forall₂_mem hbuses).imp ?_)
  rintro p b ⟨hp, hb⟩
  obtain ⟨v, l, hnormal⟩ := (ht.buses p.1 (List.fst_mem_of_mem_zipIdx hp)).2
  exact Except.ok.inj (hb.symm.trans (normalizeRuntimeBusItem_self hnormal))

theorem exported_devices :
    List.Forall₂ (fun p z => p.1.2.device.Normal ∧ normalizeRuntimeDeviceItem p.1.2.device.toItem
      (busesById m.buses) (deviceLabel p.2) = .ok z) d.devices.zipIdx m.devices := by
  have hdevices := hs.devices
  rw [List.zipIdx_map, List.forall₂_map_left_iff] at hdevices
  refine (forall₂_mem hdevices).imp ?_
  rintro p z ⟨hp, hz⟩
  exact ⟨(ht.devices p.1 (List.fst_mem_of_mem_zipIdx hp)).2, hz⟩

-- Both tables have the buses in one order, and the metadata is not read.
theorem exported_busTable {k : Text} {b : Bus} (hb : dictGet (busesById m.buses) k = some b) :
    ∃ b', dictGet d.busTable k = some b' ∧ b'.transport = b.transport ∧ b'.name = b.name := by
  have hmem := forall₂_mem (exported_buses ht hs)
  have hread := dictGet_of_forall₂
    (R := fun (b b' : Bus) => b'.transport = b.transport ∧ b'.name = b.name) (e := d.busTable) ?_ hb
  · exact hread
  refine List.forall₂_map_left_iff.mpr (List.forall₂_map_right_iff.mpr (hmem.flip.imp ?_))
  rintro b p ⟨hp, rfl⟩
  exact ⟨(ht.buses p hp).1.symm, rfl, rfl⟩

theorem exported_normalForms :
    normalForms d.busTable (d.devices.map fun p => p.2.device) = m.devices.map .ok := by
  unfold normalForms
  rw [List.zipIdx_map, List.map_map]
  refine (map_eq_of_forall₂ (exported_devices ht hs) ?_).symm
  rintro p z ⟨_, hz⟩
  exact (normalizeRuntimeDeviceItem_congr (fun _ _ => exported_busTable ht hs) hz).symm

theorem exported_settled {z : Device} (hz : z ∈ m.devices) (label : Label) :
    normalizeRuntimeDeviceItem z.toItem (busesById m.buses) label = .ok z := by
  obtain ⟨p, _, hnormal, hp⟩ := exists_mem_of_forall₂ (exported_devices ht hs) hz
  exact normalizeRuntimeDeviceItem_self hp
    (settled_of_normalizeRuntimeDeviceItem hnormal.literals hp)

theorem exported_normalForms_self :
    normalForms (busesById m.buses) m.devices = m.devices.map .ok := by
  have hsettled : normalForms (busesById m.buses) m.devices =
      m.devices.zipIdx.map fun p => .ok p.1 :=
    List.map_congr_left fun p hp => exported_settled ht hs (List.fst_mem_of_mem_zipIdx hp) _
  rw [hsettled]
  nth_rewrite 2 [← List.zipIdx_map_fst 0 m.devices]
  rw [List.map_map]
  rfl

theorem exported_deviceIdentity :
    m.devices.map deviceIdentity = d.devices.map fun p => deviceIdentity p.2.device := by
  have hidentity : List.Forall₂ (fun p z => deviceIdentity z = deviceIdentity p.2.device) d.devices
      m.devices := by
    refine forall₂_of_zipIdx ((exported_devices ht hs).imp ?_)
    rintro p z ⟨hnormal, hz⟩
    obtain ⟨hid, hbus, hplace⟩ := hnormal.identity hz
    rw [deviceIdentity, deviceIdentity, hid, hbus, hplace]
  exact map_eq_of_forall₂ hidentity fun _ _ h => h

end Exported

/-- The tables hold the buses and devices of a model up to those left, and nothing is attached. -/
structure Rebuilt (d : Daemon) (m : RuntimeModel) (buses : List Bus) (devices : List Device) :
    Prop where
  buses : d.busTable ++ busesById buses = busesById m.buses
  devices : (d.devices.map fun p => p.2.device) ++ devices = m.devices
  unattached : ∀ p ∈ d.devices, p.1 = p.2.device.id ∧ p.2.attachedBackend = none

/-- A daemon rebuilt from its own snapshot. -/
theorem unchanged_of_rebuilt {e d' : Daemon} {s : Snapshot} {m : RuntimeModel}
    {attachments : Attachments} (ht : d.Tidy) (hn : d.Named) (hs : d.snapshot = some s)
    (hr : s.restore = some (m, attachments)) (he : Rebuilt e m [] [])
    (ha : e.Attaches d' (assigned attachments)) (hg : d'.generation = d.generation) :
    Unchanged d d' := by
  obtain ⟨groups, hgroups, rfl⟩ := Option.map_eq_some_iff.mp hs
  unfold Snapshot.restore at hr
  split at hr
  · cases hr
  rename_i m' hm
  obtain ⟨out, hv, heq⟩ := Option.map_eq_some_iff.mp hr
  cases heq
  have hsource := source_of_exportedModel hm
  have hbuses : d'.busTable = busesById m.buses := by
    rw [Daemon.busTable, ha.buses, ← he.buses]
    exact (List.append_nil _).symm
  have hdevices : (d'.devices.map fun p => p.2.device) = m.devices := by
    rw [ha.devices, List.map_map, ← he.devices, List.append_nil]
    rfl
  refine ⟨?_, ?_, ?_, ?_, hg⟩
  · calc (d'.buses.map fun p => busIdentity p.2.bus)
        = d'.busTable.map fun p => busIdentity p.2 := by rw [Daemon.busTable, List.map_map]; rfl
      _ = m.buses.map busIdentity := by rw [hbuses, busesById, List.map_map]; rfl
      _ = d.buses.map fun p => busIdentity p.2.bus :=
        map_eq_of_forall₂ (exported_buses ht hsource) fun p b hb => by rw [hb]; rfl
  · rw [← exported_deviceIdentity ht hsource, ← hdevices, List.map_map]
    rfl
  · rw [hbuses, hdevices, exported_normalForms_self ht hsource, exported_normalForms ht hsource]
  · have hids : m.devices.map (fun z => assigned attachments z.id none) =
        d.devices.map fun p => assigned attachments p.2.device.id none := by
      have hmap := congrArg (List.map fun i => assigned attachments i.1 none)
        (exported_deviceIdentity ht hsource)
      rw [List.map_map, List.map_map] at hmap
      exact hmap
    calc (d'.devices.map fun p => p.2.attachedBackend)
        = e.devices.map fun p => assigned attachments p.1 p.2.attachedBackend := by
          rw [ha.devices, List.map_map]
          rfl
      _ = e.devices.map fun p => assigned attachments p.2.device.id none :=
        List.map_congr_left fun p hp => by
          rw [(he.unattached p hp).1, (he.unattached p hp).2]
      _ = m.devices.map fun z => assigned attachments z.id none := by
          rw [← he.devices, List.append_nil, List.map_map]
          rfl
      _ = d.devices.map fun p => assigned attachments p.2.device.id none := hids
      _ = d.devices.map fun p => p.2.attachedBackend :=
        List.map_congr_left fun p hp => by
          rw [(ht.devices p hp).1, ← hn.backend hp]
          exact (groups_of_snapshotAttachments hgroups).assigned_restored ht hn.lettered hv hp

end Sensorium.Inventory

import Sensorium.Inventory.Operations

/-!
# What the steps do to the records

Outside the sections that rebuild the inventory, a step changes stored devices in place: their keys
and what the kernel knows of them stay.  The adds append one record each, to the daemon and to the
kernel.
-/

namespace Sensorium.Inventory

open Lib Model

/-! ## Changes in place -/

/-- A device record after a change that the kernel does not see. -/
structure DeviceRecord.Revised (r r' : DeviceRecord) : Prop where
  entry : r'.entry = r.entry
  place : r'.device.part.place = r.device.part.place
  bus : r'.device.bus = r.device.bus
  busHandle : r'.busHandle = r.busHandle
  object : r'.object = r.object
  id : r'.device.id = r.device.id
  normal : r.device.Normal → r'.device.Normal

/-- The same buses, and the same devices up to changes in place. -/
structure Daemon.Revises (d d' : Daemon) : Prop where
  modelName : d'.modelName = d.modelName
  buses : d'.buses = d.buses
  index : d'.devicesByHandle = d.devicesByHandle
  objects : d'.objects = d.objects
  nextBusHandle : d.nextBusHandle ≤ d'.nextBusHandle
  nextDeviceHandle : d.nextDeviceHandle ≤ d'.nextDeviceHandle
  devices : List.Forall₂ (fun p q => q.1 = p.1 ∧ p.2.Revised q.2) d.devices d'.devices

/-- The tables as the operations build them: keys are the identifiers of checked items. -/
structure Daemon.Tidy (d : Daemon) : Prop where
  busIds : (keys d.buses).Nodup
  deviceIds : (keys d.devices).Nodup
  buses : ∀ p ∈ d.buses, p.2.bus.id = p.1 ∧ p.2.bus.Normal
  devices : ∀ p ∈ d.devices, p.2.device.id = p.1 ∧ p.2.device.Normal

/-- The inventory of the kernel is the daemon's. -/
structure Agree (d : Daemon) (k : Kernel) : Prop where
  buses : k.buses.map KernelBus.entry = d.buses.map fun p => p.2.entry
  devices : k.devices.map KernelDevice.entry = d.devices.map fun p => p.2.entry

theorem Agree.entries {d : Daemon} {k : Kernel} (h : Agree d k) : k.entries = d.entries := by
  rw [Kernel.entries, Daemon.entries, h.buses, h.devices]

theorem DeviceRecord.Revised.refl (r : DeviceRecord) : r.Revised r :=
  ⟨rfl, rfl, rfl, rfl, rfl, rfl, fun h => h⟩

theorem DeviceRecord.Revised.trans {r s t : DeviceRecord} (h : r.Revised s) (h' : s.Revised t) :
    r.Revised t where
  entry := h'.entry.trans h.entry
  place := h'.place.trans h.place
  bus := h'.bus.trans h.bus
  busHandle := h'.busHandle.trans h.busHandle
  object := h'.object.trans h.object
  id := h'.id.trans h.id
  normal hn := h'.normal (h.normal hn)

namespace Daemon

variable {d d' : Daemon}

-- The tables as they are; a failed add has taken its handle.
theorem Revises.of_eq (hn : d'.modelName = d.modelName) (hb : d'.buses = d.buses)
    (hi : d'.devicesByHandle = d.devicesByHandle) (ho : d'.objects = d.objects)
    (hd : d'.devices = d.devices) (hnb : d.nextBusHandle ≤ d'.nextBusHandle)
    (hnd : d.nextDeviceHandle ≤ d'.nextDeviceHandle) : d.Revises d' := by
  refine ⟨hn, hb, hi, ho, hnb, hnd, ?_⟩
  rw [hd]
  exact List.forall₂_same.mpr fun p _ => ⟨rfl, .refl p.2⟩

theorem Revises.refl (d : Daemon) : d.Revises d := .of_eq rfl rfl rfl rfl rfl le_rfl le_rfl

theorem Revises.trans {e : Daemon} (h : d.Revises e) (h' : e.Revises d') : d.Revises d' where
  modelName := h'.modelName.trans h.modelName
  buses := h'.buses.trans h.buses
  index := h'.index.trans h.index
  objects := h'.objects.trans h.objects
  nextBusHandle := h.nextBusHandle.trans h'.nextBusHandle
  nextDeviceHandle := h.nextDeviceHandle.trans h'.nextDeviceHandle
  devices := by
    refine forall₂_trans ?_ h.devices h'.devices
    intro a b c hab hbc
    exact ⟨hbc.1.trans hab.1, hab.2.trans hbc.2⟩

theorem Revises.keys_devices (h : d.Revises d') : keys d'.devices = keys d.devices :=
  map_eq_of_forall₂ h.devices fun _ _ hpq => hpq.1

theorem Revises.devices_eq_nil (h : d.Revises d') (hd : d.devices = []) : d'.devices = [] := by
  have hkeys := h.keys_devices
  rw [hd] at hkeys
  exact List.map_eq_nil_iff.mp hkeys

theorem Revises.tidy (h : d.Revises d') (ht : d.Tidy) : d'.Tidy where
  busIds := h.buses ▸ ht.busIds
  deviceIds := h.keys_devices ▸ ht.deviceIds
  buses := h.buses ▸ ht.buses
  devices := by
    intro q hq
    obtain ⟨p, hp, hk, hrev⟩ := exists_mem_of_forall₂ h.devices hq
    obtain ⟨hid, hn⟩ := ht.devices p hp
    exact ⟨by rw [hrev.id, hid, hk], hrev.normal hn⟩

theorem Revises.agree {k : Kernel} (h : d.Revises d') (ha : Agree d k) : Agree d' k where
  buses := by rw [h.buses, ha.buses]
  devices := by rw [ha.devices, map_eq_of_forall₂ h.devices fun _ _ hpq => hpq.2.entry]

-- Records are changed where they stand.
theorem forall₂_revised_map {c : Text × DeviceRecord → Prop} [DecidablePred c]
    {f : DeviceRecord → DeviceRecord} {ps : List (Text × DeviceRecord)}
    (hf : ∀ p ∈ ps, c p → p.2.Revised (f p.2)) :
    List.Forall₂ (fun p q => q.1 = p.1 ∧ p.2.Revised q.2) ps
      (ps.map fun p => if c p then (p.1, f p.2) else p) := by
  refine List.forall₂_map_right_iff.mpr (List.forall₂_same.mpr fun p hp => ?_)
  by_cases hc : c p
  · rw [if_pos hc]
    exact ⟨rfl, hf p hp hc⟩
  · rw [if_neg hc]
    exact ⟨rfl, .refl p.2⟩

theorem revises_modifyDevice {id : Text} {f : DeviceRecord → DeviceRecord}
    (hf : ∀ p ∈ d.devices, p.1 = id → p.2.Revised (f p.2)) : d.Revises (d.modifyDevice id f) :=
  ⟨rfl, rfl, rfl, rfl, le_rfl, le_rfl, forall₂_revised_map hf⟩

theorem revises_modifyByHandle (handle : Nat) {f : DeviceRecord → DeviceRecord}
    (hf : ∀ r : DeviceRecord, r.Revised (f r)) : d.Revises (d.modifyByHandle handle f) := by
  unfold modifyByHandle
  split
  · exact .refl d
  · exact ⟨rfl, rfl, rfl, rfl, le_rfl, le_rfl, forall₂_revised_map fun p _ _ => hf p.2⟩

theorem revises_foldl {α : Type} {f : Daemon → α → Daemon} (hf : ∀ d a, Revises d (f d a))
    (d : Daemon) (as : List α) : d.Revises (as.foldl f d) := by
  induction as generalizing d with
  | nil => exact .refl d
  | cons a as ih => exact (hf d a).trans (ih (f d a))

theorem revises_setState (d : Daemon) (s : RuntimeState) : d.Revises (d.setState s) :=
  .of_eq rfl rfl rfl rfl rfl le_rfl le_rfl

theorem revises_ready (d : Daemon) (generation : Nat) : d.Revises (d.ready generation) :=
  .of_eq rfl rfl rfl rfl rfl le_rfl le_rfl

theorem refreshBridgeMetrics_eq (d : Daemon) (o : Outside) :
    d.refreshBridgeMetrics o = d ∨ d.refreshBridgeMetrics o = d.setState .desynced := by
  unfold refreshBridgeMetrics
  split
  · exact .inr rfl
  · exact .inl rfl

theorem revises_refreshBridgeMetrics (d : Daemon) (o : Outside) :
    d.Revises (d.refreshBridgeMetrics o) := by
  rcases d.refreshBridgeMetrics_eq o with h | h
  · rw [h]
    exact .refl d
  · rw [h]
    exact d.revises_setState _

theorem persistSnapshot_eq (d : Daemon) (o : Outside) :
    (d.persistSnapshot o).1 = d ∨ (d.persistSnapshot o).1 = d.setState .desynced := by
  unfold persistSnapshot
  split
  · exact .inl rfl
  · exact d.refreshBridgeMetrics_eq o

theorem revises_persistSnapshot (d : Daemon) (o : Outside) :
    d.Revises (d.persistSnapshot o).1 := by
  rcases d.persistSnapshot_eq o with h | h
  · rw [h]
    exact .refl d
  · rw [h]
    exact d.revises_setState _

theorem revises_settle (d : Daemon) (o : Outside) : d.Revises (d.settle o).1 :=
  (d.revises_setState .desynced).trans (revises_persistSnapshot _ o)

theorem revised_of_attachedBackend (r : DeviceRecord) (b : Option BackendId) :
    r.Revised { r with attachedBackend := b } := ⟨rfl, rfl, rfl, rfl, rfl, rfl, fun h => h⟩

theorem revises_attachBackend {backend : BackendId} {ids : List Text}
    (h : d.attachBackend backend ids = some d') : d.Revises d' := by
  unfold attachBackend at h
  split at h
  · cases h
    refine revises_foldl (fun d id => ?_) d ids
    exact revises_modifyDevice fun p _ _ => revised_of_attachedBackend p.2 _
  · cases h

theorem revises_attachAll (d : Daemon) (groups : Attachments) : d.Revises (d.attachAll groups).1 := by
  induction groups generalizing d with
  | nil => exact .refl d
  | cons g groups ih =>
    rw [attachAll]
    split
    · exact ih d
    · split
      · exact .refl d
      · rename_i e he
        exact (revises_attachBackend he).trans (ih e)

theorem location_of_place {p q : Part} (h : q.place = p.place) : location q = location p := by
  cases p <;> cases q <;> simp_all [Part.place, location]

theorem transport_of_place {p q : Part} (h : q.place = p.place) : q.transport = p.transport := by
  cases p <;> cases q <;> simp_all [Part.place, Part.transport]

theorem patched_eq_some {dev dev' : Device} {patch : Value}
    (h : d.patched dev patch = some dev') :
    ∃ z v, normalizeRuntimeDeviceItem v d.busTable [.field "device"] = .ok z ∧
      z.bus = dev.bus ∧ z.part.place = dev.part.place ∧ dev' = { z with id := dev.id } := by
  unfold patched at h
  split at h
  · cases h
  · split at h
    · cases h
    · rename_i z hz
      split at h
      · rename_i hsame
        cases h
        have hsame : z.bus = dev.bus ∧ z.part.place = dev.part.place := by simpa using hsame
        exact ⟨z, _, hz, hsame.1, hsame.2, rfl⟩
      · cases h

theorem revised_of_patched {r : DeviceRecord} {dev : Device} {patch : Value}
    (h : d.patched r.device patch = some dev) : r.Revised { r with device := dev } := by
  obtain ⟨z, v, hz, hbus, hplace, rfl⟩ := patched_eq_some h
  refine ⟨?_, hplace, hbus, rfl, rfl, rfl, fun hn => ?_⟩
  · unfold DeviceRecord.entry
    rw [location_of_place hplace, transport_of_place hplace]
  · have hz' := normal_of_normalizeRuntimeDeviceItem hz
    exact ⟨hn.id, hz'.bus, hz'.placed, hz'.literals.reply, hz'.literals.part⟩

theorem revises_updateDevice (ht : d.Tidy) (id : Text) (patch : Value) :
    d.Revises (d.updateDevice id patch) := by
  unfold updateDevice
  split
  · exact .refl d
  · split
    · exact .refl d
    · rename_i r hr
      split
      · exact .refl d
      · rename_i dev hdev
        refine revises_modifyDevice fun p hp hk => ?_
        -- The key is taken once, so that the patched record is the one looked up.
        have hpr : p.2 = r := eq_of_dictGet ht.deviceIds hr (hk ▸ hp)
        rw [hpr]
        exact revised_of_patched hdev

theorem revised_of_settings (r : DeviceRecord) (es : Entries) :
    r.Revised { r with device := { r.device with settings := es } } :=
  ⟨rfl, rfl, rfl, rfl, rfl, rfl,
    fun hn => ⟨hn.id, hn.bus, hn.placed, hn.literals.reply, hn.literals.part⟩⟩

theorem replyData_consumeFault {f : Faults} {r : Text}
    (h : (consumeFault f).replyData = some r) : f.replyData = some r := by
  unfold consumeFault at h
  split at h
  · exact h
  · split at h
    · cases h
    · exact h

theorem revised_of_consumeFault (r : DeviceRecord) :
    r.Revised { r with device := { r.device with faults := consumeFault r.device.faults } } :=
  ⟨rfl, rfl, rfl, rfl, rfl, rfl, fun hn => ⟨hn.id, hn.bus, hn.placed,
    fun t ht => hn.literals.reply t (replyData_consumeFault ht), hn.literals.part⟩⟩

theorem revises_detach (d : Daemon) (backend : BackendId) (ids : List Text) :
    d.Revises (d.detach backend ids) := by
  unfold detach
  split
  · exact .refl d
  · refine revises_foldl (fun d id => revises_modifyDevice fun p _ _ => ?_) d _
    split
    · exact revised_of_attachedBackend p.2 none
    · exact .refl p.2

theorem revises_refreshWorkers (d : Daemon) (failing : Bool) :
    d.Revises (d.refreshWorkers failing) := by
  unfold refreshWorkers
  split
  · exact .refl d
  · split
    · exact .refl d
    · exact d.revises_setState _
  · split
    · exact d.revises_setState _
    · exact .refl d

end Daemon

theorem Change.revises {d : Daemon} (ht : d.Tidy) (c : Change) : d.Revises (c.on d) := by
  cases c with
  | updateDevice id patch => exact Daemon.revises_updateDevice ht id patch
  | attach backend ids =>
    change d.Revises (d.attach backend ids)
    unfold Daemon.attach
    split
    · exact .refl d
    · cases h : d.attachBackend backend ids with
      | none => exact .refl d
      | some e => exact Daemon.revises_attachBackend h
  | detach backend ids => exact d.revises_detach backend ids
  | uartConfig c =>
    change d.Revises (d.uartConfig c)
    unfold Daemon.uartConfig
    exact Daemon.revises_modifyByHandle c.handle fun r => Daemon.revised_of_settings r _
  | faultedRequest id =>
    change d.Revises (d.faultedRequest id)
    unfold Daemon.faultedRequest
    refine Daemon.revises_modifyDevice fun p _ _ => ?_
    split
    · exact .refl p.2
    · exact Daemon.revised_of_consumeFault p.2
  | bridgeFailure => exact d.revises_setState .desynced
  | refreshWorkers failing => exact d.revises_refreshWorkers failing
  | refreshBridgeMetrics o => exact d.revises_refreshBridgeMetrics o

/-! ## Staying desynchronised -/

namespace Daemon

variable {d : Daemon}

@[simp] theorem modifyDevice_runtimeState (d : Daemon) (id : Text)
    (f : DeviceRecord → DeviceRecord) : (d.modifyDevice id f).runtimeState = d.runtimeState := rfl

@[simp] theorem modifyByHandle_runtimeState (d : Daemon) (handle : Nat)
    (f : DeviceRecord → DeviceRecord) :
    (d.modifyByHandle handle f).runtimeState = d.runtimeState := by
  unfold modifyByHandle
  split <;> rfl

theorem foldl_runtimeState {α : Type} {f : Daemon → α → Daemon}
    (hf : ∀ d a, (f d a).runtimeState = d.runtimeState) (d : Daemon) (as : List α) :
    (as.foldl f d).runtimeState = d.runtimeState := by
  induction as generalizing d with
  | nil => rfl
  | cons a as ih => rw [List.foldl_cons, ih, hf]

theorem refreshBridgeMetrics_desynced (h : d.runtimeState = .desynced) (o : Outside) :
    (d.refreshBridgeMetrics o).runtimeState = .desynced := by
  rcases d.refreshBridgeMetrics_eq o with he | he
  · rw [he, h]
  · rw [he]
    rfl

theorem persistSnapshot_desynced (h : d.runtimeState = .desynced) (o : Outside) :
    (d.persistSnapshot o).1.runtimeState = .desynced := by
  rcases d.persistSnapshot_eq o with he | he
  · rw [he, h]
  · rw [he]
    rfl

theorem settle_desynced (d : Daemon) (o : Outside) :
    (d.settle o).1.runtimeState = .desynced :=
  persistSnapshot_desynced (d := d.setState .desynced) rfl o

end Daemon

theorem Change.desynced {d : Daemon} (h : d.runtimeState = .desynced) (c : Change) :
    (c.on d).runtimeState = .desynced := by
  cases c with
  | updateDevice id patch =>
    change (d.updateDevice id patch).runtimeState = _
    rw [Daemon.updateDevice, if_pos h, h]
  | attach backend ids =>
    change (d.attach backend ids).runtimeState = _
    rw [Daemon.attach, if_pos h, h]
  | detach backend ids =>
    change (d.detach backend ids).runtimeState = _
    rw [Daemon.detach, if_pos h, h]
  | uartConfig c =>
    change (d.uartConfig c).runtimeState = _
    rw [Daemon.uartConfig, Daemon.modifyByHandle_runtimeState, h]
  | faultedRequest id => exact h
  | bridgeFailure => rfl
  | refreshWorkers failing =>
    change (d.refreshWorkers failing).runtimeState = _
    rw [Daemon.refreshWorkers, h]
    exact h
  | refreshBridgeMetrics o => exact Daemon.refreshBridgeMetrics_desynced h o

/-! ## Clearing -/

namespace Daemon

theorem clearState_cases (d : Daemon) (o : Outside) :
    d.clearState o = (d.clear, true) ∨ d.devices ≠ [] ∧ d.clearState o = (d.unnamed, false) := by
  unfold clearState
  split
  · rename_i h
    have hstored : d.devices ≠ [] := by
      intro hnone
      rw [hnone] at h
      simp at h
    exact .inr ⟨hstored, rfl⟩
  · exact .inl rfl

theorem clearState_of_stopped (d : Daemon) {o : Outside} (ho : o.unstopped = false) :
    d.clearState o = (d.clear, true) := by
  unfold clearState
  rw [ho]
  rfl

end Daemon

/-- The section after a `RESET`: the daemon is cleared, or it has lost its name and counters. -/
theorem Sender.accepted_cases (x : Sender) (d : Daemon) (k : Kernel) (o : Outside) :
    x.accepted d k o = x.cleared d.clear k ∨
      (d.clearState o).2 = false ∧ x.accepted d k o = ⟨d.unnamed, k, x.unstopped⟩ := by
  unfold Sender.accepted
  rcases d.clearState_cases o with h | ⟨_, h⟩ <;> rw [h]
  · exact .inl rfl
  · exact .inr ⟨rfl, rfl⟩

-- A daemon without devices has no managed workers to stop.
theorem Call.rolledBack_cases (c : Call) (d : Daemon) (k : Kernel) (o : Outside)
    (m : RuntimeModel) (attachments : Attachments) :
    c.rolledBack d k o m attachments = (Job.rollback c m attachments).enter d.clear k ∨
      d.devices ≠ [] ∧ (d.clearState o).2 = false ∧
        c.rolledBack d k o m attachments = ⟨d.unnamed, k, .fatal⟩ := by
  unfold Call.rolledBack
  rcases d.clearState_cases o with h | ⟨hstored, h⟩ <;> rw [h]
  · exact .inl rfl
  · exact .inr ⟨hstored, rfl, rfl⟩

/-! ## Calls -/

/-- What a call does before its first command, by what it finds. -/
inductive Daemon.Begins (d : Daemon) (locked : Bool) (o : Outside) :
    Operation → Daemon → Pc → Prop
  -- the model is checked before the lock is taken
  | invalid {raw : Value} {f : Failure} (hraw : normalizeRuntimeModelData raw = .error f) :
      Begins d locked o (.apply raw) d (.idle (some .raised))
  | applyDesynced {raw : Value} {m : RuntimeModel} (hraw : normalizeRuntimeModelData raw = .ok m)
      (hlocked : locked = false) (hd : d.runtimeState = .desynced) :
      Begins d locked o (.apply raw) d (.idle (some .raised))
  | applyBlank {raw : Value} {m : RuntimeModel} (hraw : normalizeRuntimeModelData raw = .ok m)
      (hlocked : locked = false) (hd : d.runtimeState ≠ .desynced) (hblank : d.blank = true) :
      Begins d locked o (.apply raw) (d.setState .applying) (.send (.apply ⟨m, none, d.generation⟩))
  | applyUnsaved {raw : Value} {m : RuntimeModel} (hraw : normalizeRuntimeModelData raw = .ok m)
      (hlocked : locked = false) (hd : d.runtimeState ≠ .desynced) (hblank : d.blank = false)
      (hs : (d.refreshBridgeMetrics o).snapshot = none) :
      Begins d locked o (.apply raw) (d.refreshBridgeMetrics o) (.idle (some .raised))
  | applyOver {raw : Value} {m : RuntimeModel} {s : Snapshot}
      (hraw : normalizeRuntimeModelData raw = .ok m) (hlocked : locked = false)
      (hd : d.runtimeState ≠ .desynced) (hblank : d.blank = false)
      (hs : (d.refreshBridgeMetrics o).snapshot = some s) :
      Begins d locked o (.apply raw) ((d.refreshBridgeMetrics o).setState .applying)
        (.send (.apply ⟨m, some s, (d.refreshBridgeMetrics o).generation⟩))
  | resetDesynced (hlocked : locked = false) (hd : d.runtimeState = .desynced) :
      Begins d locked o .reset d (.idle (some .raised))
  | reset (hlocked : locked = false) (hd : d.runtimeState ≠ .desynced) :
      Begins d locked o .reset d (.send .reset)
  | resyncUnsaved (hlocked : locked = false)
      (hr : (d.refreshBridgeMetrics o).snapshot.bind Snapshot.restore = none) :
      Begins d locked o .resync (d.refreshBridgeMetrics o) (.idle (some .raised))
  | resync {m : RuntimeModel} {attachments : Attachments} (hlocked : locked = false)
      (hr : (d.refreshBridgeMetrics o).snapshot.bind Snapshot.restore = some (m, attachments)) :
      Begins d locked o .resync (d.refreshBridgeMetrics o) (.send (.resync m attachments))

theorem begins_of_begin {d d' : Daemon} {locked : Bool} {o : Outside} {op : Operation} {p : Pc}
    (h : d.begin locked o op = some (d', p)) : d.Begins locked o op d' p := by
  cases op with
  | apply raw =>
    rw [Daemon.begin] at h
    split at h
    · rename_i f hraw
      cases h
      exact .invalid hraw
    rename_i m hraw
    split at h
    · cases h
    rename_i hlocked
    have hfree : locked = false := by simpa using hlocked
    split at h
    · rename_i hd
      cases h
      exact .applyDesynced hraw hfree hd
    rename_i hd
    split at h
    · rename_i hblank
      cases h
      exact .applyBlank hraw hfree hd hblank
    rename_i hblank
    have hfull : d.blank = false := by simpa using hblank
    dsimp only at h
    split at h
    · rename_i hs
      cases h
      exact .applyUnsaved hraw hfree hd hfull hs
    · rename_i s hs
      cases h
      exact .applyOver hraw hfree hd hfull hs
  | reset =>
    rw [Daemon.begin] at h
    split at h
    · cases h
    rename_i hlocked
    have hfree : locked = false := by simpa using hlocked
    split at h
    · rename_i hd
      cases h
      exact .resetDesynced hfree hd
    · rename_i hd
      cases h
      exact .reset hfree hd
  | resync =>
    rw [Daemon.begin] at h
    split at h
    · cases h
    rename_i hlocked
    have hfree : locked = false := by simpa using hlocked
    dsimp only at h
    split at h
    · rename_i hr
      cases h
      exact .resyncUnsaved hfree hr
    · rename_i m attachments hr
      cases h
      exact .resync hfree hr

/-! ## Adds -/

/-- What is left to add has new identifiers and has been checked. -/
structure Pending (d : Daemon) (buses : List Bus) (devices : List Device) : Prop where
  busIds : (keys d.buses ++ buses.map Bus.id).Nodup
  deviceIds : (keys d.devices ++ devices.map Device.id).Nodup
  buses : ∀ b ∈ buses, b.Normal
  devices : ∀ dev ∈ devices, dev.Normal

theorem pending_of_empty {d : Daemon} {m : RuntimeModel} (hb : d.buses = []) (hd : d.devices = []) :
    Pending { d with modelName := some m.name } m.buses m.devices where
  busIds := by
    rw [show keys d.buses = [] by rw [hb]; rfl]
    exact m.busIds
  deviceIds := by
    rw [show keys d.devices = [] by rw [hd]; rfl]
    exact m.deviceIds
  buses := m.busesNormal
  devices := m.devicesNormal

theorem Daemon.Revises.pending {d d' : Daemon} {buses : List Bus} {devices : List Device}
    (h : d.Revises d') (hp : Pending d buses devices) : Pending d' buses devices where
  busIds := h.buses ▸ hp.busIds
  deviceIds := h.keys_devices ▸ hp.deviceIds
  buses := hp.buses
  devices := hp.devices

theorem notMem_of_nodup_append_cons {α : Type} {xs ys : List α} {a : α}
    (h : (xs ++ a :: ys).Nodup) : a ∉ xs := by
  intro ha
  exact (List.nodup_append.mp h).2.2 a ha a List.mem_cons_self rfl

/-- A bus added to both sides. -/
structure BusAdded (d : Daemon) (k : Kernel) (bus : Bus) (r : Added) : Prop where
  modelName : r.daemon.modelName = d.modelName
  buses : r.daemon.buses = d.buses ++ [(bus.id, ⟨bus, d.nextBusHandle⟩)]
  devices : r.daemon.devices = d.devices
  index : r.daemon.devicesByHandle = d.devicesByHandle
  objects : r.daemon.objects = d.objects
  nextBusHandle : r.daemon.nextBusHandle = d.nextBusHandle + 1
  nextDeviceHandle : r.daemon.nextDeviceHandle = d.nextDeviceHandle
  kernelBuses : r.kernel.buses = k.buses ++ [⟨d.nextBusHandle, bus.transport, bus.name⟩]
  kernelDevices : r.kernel.devices = k.devices

theorem addBus_cases {d : Daemon} {bus : Bus} (hnew : bus.id ∉ keys d.buses) (k : Kernel)
    (refused : Bool) :
    ((addBus d k bus refused).ok = false ∧ d.Revises (addBus d k bus refused).daemon ∧
        (addBus d k bus refused).daemon.devices = d.devices) ∨
      ((addBus d k bus refused).ok = true ∧ BusAdded d k bus (addBus d k bus refused)) := by
  unfold addBus
  dsimp only
  split
  · split
    · rename_i k' hk
      obtain ⟨hbuses, hdevices⟩ := Kernel.writeFrame_busAdd hk
      exact .inr ⟨rfl, rfl, dictSet_of_notMem hnew _, rfl, rfl, rfl, rfl, rfl, hbuses, hdevices⟩
    · exact .inl ⟨rfl, .of_eq rfl rfl rfl rfl rfl (Nat.le_succ _) le_rfl, rfl⟩
  · exact .inl ⟨rfl, .of_eq rfl rfl rfl rfl rfl (Nat.le_succ _) le_rfl, rfl⟩

/-- A device added to both sides. -/
structure DeviceAdded (d : Daemon) (k : Kernel) (dev : Device) (r : Added) : Prop where
  modelName : r.daemon.modelName = d.modelName
  buses : r.daemon.buses = d.buses
  devices : ∃ bus, dictGet d.buses dev.bus = some bus ∧ r.daemon.devices = d.devices ++
    [(dev.id, ⟨dev, d.nextDeviceHandle, bus.handle, nodeName dev, none, d.objects⟩)]
  index : r.daemon.devicesByHandle = dictSet d.devicesByHandle d.nextDeviceHandle d.objects
  objects : r.daemon.objects = d.objects + 1
  nextBusHandle : r.daemon.nextBusHandle = d.nextBusHandle
  nextDeviceHandle : r.daemon.nextDeviceHandle = d.nextDeviceHandle + 1
  kernelBuses : r.kernel.buses = k.buses
  kernelDevices : ∃ busHandle place, location dev.part = some place ∧ r.kernel.devices =
    k.devices ++ [⟨d.nextDeviceHandle, dev.part.transport, busHandle, place, nodeName dev⟩]

theorem deviceCommand_eq_some {d : Daemon} {dev : Device} {c : KernelDevice} {spi : SpiFields}
    (h : deviceCommand d dev = some (c, spi)) :
    ∃ bus place, dictGet d.buses dev.bus = some bus ∧ location dev.part = some place ∧
      c = ⟨d.nextDeviceHandle, dev.part.transport, bus.handle, place, nodeName dev⟩ := by
  unfold deviceCommand at h
  obtain ⟨bus, hbus, h⟩ := Option.bind_eq_some_iff.mp h
  obtain ⟨place, hplace, h⟩ := Option.bind_eq_some_iff.mp h
  obtain ⟨spi', _, h⟩ := Option.bind_eq_some_iff.mp h
  split at h
  · cases h
    exact ⟨bus, place, hbus, hplace, rfl⟩
  · cases h

theorem addDevice_cases {d : Daemon} {dev : Device} (hnew : dev.id ∉ keys d.devices) (k : Kernel)
    (refused : Bool) :
    ((addDevice d k dev refused).ok = false ∧ d.Revises (addDevice d k dev refused).daemon ∧
        (addDevice d k dev refused).daemon.devices = d.devices) ∨
      ((addDevice d k dev refused).ok = true ∧
        DeviceAdded d k dev (addDevice d k dev refused)) := by
  unfold addDevice
  dsimp only
  split
  · exact .inl ⟨rfl, .of_eq rfl rfl rfl rfl rfl le_rfl (Nat.le_succ _), rfl⟩
  · rename_i c spi hc
    split
    · exact .inl ⟨rfl, .of_eq rfl rfl rfl rfl rfl le_rfl (Nat.le_succ _), rfl⟩
    · rename_i k' hk
      obtain ⟨hbuses, hdevices⟩ := Kernel.writeFrame_deviceAdd hk
      obtain ⟨bus, place, hbus, hplace, rfl⟩ := deviceCommand_eq_some hc
      split
      · exact .inr ⟨rfl, rfl, rfl, ⟨bus, hbus, dictSet_of_notMem hnew _⟩, rfl, rfl, rfl, rfl, hbuses,
          bus.handle, place, hplace, hdevices⟩
      · exact .inl ⟨rfl, .of_eq rfl rfl rfl rfl rfl le_rfl (Nat.le_succ _), rfl⟩

/-- What one step inside `_apply_model_locked` does. -/
inductive Job.AddStep (job : Job) (d : Daemon) (k : Kernel) :
    List Bus → List Device → Move → Prop
  | failed {buses : List Bus} {devices : List Device} {d' : Daemon} {k' : Kernel}
      (h : d.Revises d')
      (hd : d'.devices = d.devices ∨ d'.devices = (d.attachAll job.attachments).1.devices) :
      AddStep job d k buses devices ⟨d', k', job.failed⟩
  | modem {buses : List Bus} {devices : List Device} :
      AddStep job d k buses devices ⟨d, k, .adds job buses devices none⟩
  | bus {bus : Bus} {buses : List Bus} {devices : List Device} {r : Added}
      (h : BusAdded d k bus r) :
      AddStep job d k (bus :: buses) devices ⟨r.daemon, r.kernel, .adds job buses devices none⟩
  | device {dev : Device} {devices : List Device} {modem : Option Nat} {r : Added}
      (h : DeviceAdded d k dev r) :
      AddStep job d k [] (dev :: devices) ⟨r.daemon, r.kernel, .adds job [] devices modem⟩
  | done {r d' : Daemon} (h : d.attachAll job.attachments = (r, true))
      (hd : d' = r.ready (job.generation d) ∨
        d' = (r.ready (job.generation d)).setState .desynced) :
      AddStep job d k [] [] ⟨d', k, job.done⟩

theorem revises_of_done {job : Job} {d r d' : Daemon} (h : d.attachAll job.attachments = (r, true))
    (hd : d' = r.ready (job.generation d) ∨
      d' = (r.ready (job.generation d)).setState .desynced) : d.Revises d' := by
  have hattach := d.revises_attachAll job.attachments
  rw [h] at hattach
  have hready := hattach.trans (Daemon.revises_ready r (job.generation d))
  rcases hd with rfl | rfl
  · exact hready
  · exact hready.trans (Daemon.revises_setState _ _)

theorem Job.finish_cases (job : Job) (d : Daemon) (k : Kernel) (o : Outside) :
    job.AddStep d k [] [] (job.finish d k o) := by
  have hattach := d.revises_attachAll job.attachments
  unfold Job.finish
  dsimp only
  split
  · rename_i hok
    split
    · refine .done (Prod.ext rfl hok) ?_
      exact Daemon.persistSnapshot_eq _ o
    · refine .failed ((hattach.trans (Daemon.revises_ready _ (job.generation d))).trans ?_) (.inr ?_)
      · exact Daemon.revises_persistSnapshot _ o
      · rcases Daemon.persistSnapshot_eq ((d.attachAll job.attachments).1.ready (job.generation d)) o
          with h | h <;> rw [h] <;> rfl
  · exact .failed hattach (.inr rfl)

theorem Job.add_pc (job : Job) (d : Daemon) (k : Kernel) (o : Outside) (buses : List Bus)
    (devices : List Device) (modem : Option Nat) :
    (job.add d k o buses devices modem).pc = job.failed ∨
      (∃ bs ds mo, (job.add d k o buses devices modem).pc = .adds job bs ds mo) ∨
      (job.add d k o buses devices modem).pc = job.done := by
  cases modem with
  | some handle =>
    rw [Job.add]
    split
    · exact .inr (.inl ⟨_, _, _, rfl⟩)
    · exact .inl rfl
  | none =>
    cases buses with
    | cons bus buses =>
      rw [Job.add]
      dsimp only
      split
      · exact .inr (.inl ⟨_, _, _, rfl⟩)
      · exact .inl rfl
    | nil =>
      cases devices with
      | cons dev devices =>
        rw [Job.add]
        dsimp only
        split
        · exact .inr (.inl ⟨_, _, _, rfl⟩)
        · exact .inl rfl
      | nil =>
        rw [Job.add, Job.finish]
        dsimp only
        split
        · split
          · exact .inr (.inr rfl)
          · exact .inl rfl
        · exact .inl rfl

theorem Job.add_cases (job : Job) {d : Daemon} (k : Kernel) (o : Outside) {buses : List Bus}
    {devices : List Device} (modem : Option Nat) (hp : Pending d buses devices) :
    job.AddStep d k buses devices (job.add d k o buses devices modem) := by
  cases modem with
  | some handle =>
    rw [Job.add]
    split
    · rename_i k' hk
      rw [Kernel.writeFrame_uartSetModem hk]
      exact .modem
    · exact .failed (.refl d) (.inl rfl)
  | none =>
    cases buses with
    | cons bus buses =>
      rw [Job.add]
      have hnew := notMem_of_nodup_append_cons hp.busIds
      rcases addBus_cases hnew k o.refused with ⟨hok, hrev, hsame⟩ | ⟨hok, hadd⟩
      · rw [hok]
        exact .failed hrev (.inl hsame)
      · rw [hok]
        exact .bus hadd
    | nil =>
      cases devices with
      | cons dev devices =>
        rw [Job.add]
        have hnew := notMem_of_nodup_append_cons hp.deviceIds
        rcases addDevice_cases hnew k o.refused with ⟨hok, hrev, hsame⟩ | ⟨hok, hadd⟩
        · rw [hok]
          exact .failed hrev (.inl hsame)
        · rw [hok]
          exact .device hadd
      | nil => exact job.finish_cases d k o

end Sensorium.Inventory

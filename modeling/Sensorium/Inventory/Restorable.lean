import Sensorium.Inventory.Index
import Sensorium.Inventory.RoundTrip

/-!
# Whether a snapshot can be restored

`resync_runtime`, the rollback of an apply and the restore at start all normalise the exported model
again and validate the attachments against it.  Both succeed as long as every stored literal is read
again, every attached device is served from outside, and the identifiers of the backends compare.
-/

namespace Sensorium.Inventory

open Lib Model

/-! ## The invariant -/

/-- The identifiers are all strings or all numbers, and the devices are served from outside. -/
structure Daemon.WellAttached (d : Daemon) : Prop where
  external : ∀ p ∈ d.devices, ∀ b, p.2.backend = some b → isExternal p.2.device.part = true
  uniform : ∀ p ∈ d.devices, ∀ q ∈ d.devices, ∀ b c, p.2.backend = some b → q.2.backend = some c →
    b.isStr = c.isStr

/-- What a later restore relies on. -/
structure Daemon.Fit (d : Daemon) : Prop extends d.Filed, d.WellAttached where
  name : ∀ name, d.modelName = some name → ∃ v l, expectString v l = .ok name
  busNames : (d.buses.map fun p => p.2.bus).Pairwise fun b c => c.sameName b = false
  presentable : ∀ p ∈ d.devices, p.2.device.Presentable d.busTable

/-- The snapshot can be taken, and restoring it passes the checks. -/
def Daemon.Restorable (d : Daemon) : Prop :=
  ∃ s r, d.snapshot = some s ∧ s.restore = some r

/-! ## Taking a snapshot -/

theorem Daemon.WellAttached.snapshotAttachments {d : Daemon} (h : d.WellAttached) :
    ∃ groups, d.snapshotAttachments = some groups := by
  have hkey {g : BackendId × List Text} (hg : g ∈ group d.attached) :
      ∃ p ∈ d.devices, p.2.backend = some g.1 := by
    obtain ⟨id, hid⟩ := List.exists_mem_of_ne_nil _ (ne_nil_of_mem_group hg)
    have hmem : (id, g.1) ∈ d.attached := belongs_group.mp ⟨g, hg, rfl, hid⟩
    obtain ⟨p, hp, _, hb, ht⟩ := mem_attached.mp hmem
    exact ⟨p, hp, DeviceRecord.backend_eq_some.mpr ⟨hb, ht⟩⟩
  have hkinds : ((group d.attached).all (fun g => g.1.isStr) ||
      (group d.attached).all (fun g => !g.1.isStr)) = true := by
    by_cases hall : ∀ g ∈ group d.attached, g.1.isStr = true
    · rw [List.all_eq_true.mpr hall]
      rfl
    · push Not at hall
      obtain ⟨g, hg, hne⟩ := hall
      obtain ⟨p, hp, hpb⟩ := hkey hg
      refine Bool.or_eq_true_iff.mpr (.inr (List.all_eq_true.mpr fun g' hg' => ?_))
      obtain ⟨q, hq, hqb⟩ := hkey hg'
      rw [h.uniform q hq p hp _ _ hqb hpb]
      simpa using hne
  unfold Daemon.snapshotAttachments
  dsimp only
  rw [if_pos hkinds]
  exact ⟨_, rfl⟩

/-! ## Validating the attachments -/

theorem validateIds_accepts {devices : List (Text × Device)} (backend : Text)
    (attachedBy : List (Text × Text)) {ids : List Text}
    (hids : ∀ id ∈ ids, ∃ dev, dictGet devices id = some dev ∧ isExternal dev.part = true)
    (hfree : ∀ id ∈ ids, ∀ b, dictGet attachedBy id = some b → b = backend) :
    ∃ out, validateIds devices backend attachedBy ids = some out ∧
      ∀ id b, dictGet out id = some b → dictGet attachedBy id = some b ∨ id ∈ ids := by
  induction ids generalizing attachedBy with
  | nil => exact ⟨attachedBy, rfl, fun _ _ h => .inl h⟩
  | cons id ids ih =>
    obtain ⟨dev, hdev, hext⟩ := hids id List.mem_cons_self
    have hone : (dictGet attachedBy id).any (· ≠ backend) = false := by
      cases hget : dictGet attachedBy id with
      | none => rfl
      | some b => simp [hfree id List.mem_cons_self b hget]
    obtain ⟨out, hout, hkeys⟩ := ih (dictSet attachedBy id backend)
      (fun i hi => hids i (List.mem_cons_of_mem _ hi)) (by
        intro i hi b hb
        rw [dictGet_dictSet] at hb
        split at hb
        · exact (Option.some.inj hb).symm
        · exact hfree i (List.mem_cons_of_mem _ hi) b hb)
    refine ⟨out, ?_, fun i b hb => ?_⟩
    · rw [validateIds, hdev]
      dsimp only
      rw [hext, hone]
      exact hout
    · rcases hkeys i b hb with hget | hi
      · rw [dictGet_dictSet] at hget
        split at hget
        · rename_i hid
          exact .inr (hid ▸ List.mem_cons_self)
        · exact .inl hget
      · exact .inr (List.mem_cons_of_mem _ hi)

/-- Every group names devices served from outside, and no device is in two groups. -/
theorem validateBackendAttachments_accepts {devices : List (Text × Device)}
    {groups : List (BackendId × List Text)} (attachedBy : List (Text × Text)) (acc : Attachments)
    (hids : ∀ g ∈ groups, ∀ id ∈ g.2,
      ∃ dev, dictGet devices id = some dev ∧ isExternal dev.part = true)
    (hapart : groups.Pairwise fun g h => ∀ id ∈ g.2, id ∉ h.2)
    (hfree : ∀ g ∈ groups, ∀ id ∈ g.2, dictGet attachedBy id = none) :
    ∃ out, validateBackendAttachments devices attachedBy acc groups = some out := by
  induction groups generalizing attachedBy acc with
  | nil => exact ⟨acc, rfl⟩
  | cons g groups ih =>
    obtain ⟨hhead, hapart⟩ := List.pairwise_cons.mp hapart
    obtain ⟨seen, hseen, hkeys⟩ := validateIds_accepts g.1.asText attachedBy
      (hids g List.mem_cons_self) (by
        intro id hid b hb
        rw [hfree g List.mem_cons_self id hid] at hb
        cases hb)
    obtain ⟨out, hout⟩ := ih seen (dictSet acc g.1.asText g.2)
      (fun g' hg' => hids g' (List.mem_cons_of_mem _ hg')) hapart (by
        intro g' hg' id hid
        cases hget : dictGet seen id with
        | none => rfl
        | some b =>
          rcases hkeys id b hget with hold | hin
          · rw [hfree g' (List.mem_cons_of_mem _ hg') id hid] at hold
            cases hold
          · exact absurd hid (hhead g' hg' id hin))
    refine ⟨out, ?_⟩
    obtain ⟨backend, ids⟩ := g
    rw [validateBackendAttachments]
    exact Option.bind_eq_some_iff.mpr ⟨seen, hseen, hout⟩

-- A device is listed under one backend.
theorem Groups.apart {d : Daemon} {groups : List (BackendId × List Text)} (ht : d.Tidy)
    (hg : Groups d groups) : groups.Pairwise fun g h => ∀ id ∈ g.2, id ∉ h.2 := by
  have hne : groups.Pairwise fun g h => g.1 ≠ h.1 := List.pairwise_map.mp hg.nodup
  refine (List.Pairwise.and_mem.mp hne).imp ?_
  rintro g h ⟨hgm, hhm, hgh⟩ id hid hid'
  obtain ⟨p, hp, rfl, _⟩ := mem_attached.mp ((hg.belongs g.1 id).mp ⟨g, hgm, rfl, hid⟩)
  have hb := hg.backend ht hgm hp hid
  rw [hg.backend ht hhm hp hid'] at hb
  exact hgh (Option.some.inj hb).symm

/-! ## Normalising the export -/

theorem backendEntries_of_isExternal {p : Part} (h : isExternal p = true) :
    p.backendEntries = [(.lit "kind", .lit "controller")] := by
  unfold isExternal at h
  split at h
  · rfl
  · rfl
  · rfl
  · cases h

theorem isExternal_of_normalizePart {transport : Transport} {item backend : Entries} {bus : Bus}
    {label : Label} {r : Part × Entries}
    (h : normalizePart transport item backend (.controller none) bus label = .ok r) :
    isExternal r.1 = true := by
  cases transport with
  | i2c =>
    obtain ⟨_, _, h⟩ := bind_eq_ok.mp h
    cases h
    rfl
  | spi =>
    obtain ⟨_, _, h⟩ := bind_eq_ok.mp h
    obtain ⟨_, _, h⟩ := bind_eq_ok.mp h
    obtain ⟨_, _, h⟩ := bind_eq_ok.mp h
    obtain ⟨_, _, h⟩ := bind_eq_ok.mp h
    obtain ⟨_, _, h⟩ := bind_eq_ok.mp h
    cases h
    rfl
  | uart =>
    obtain ⟨_, _, h⟩ := bind_eq_ok.mp h
    obtain ⟨_, _, h⟩ := bind_eq_ok.mp h
    cases h
    rfl

theorem isExternal_of_normalizeRuntimeDeviceItem {buses : List (Text × Bus)} {d z : Device}
    {label : Label} (h : normalizeRuntimeDeviceItem d.toItem buses label = .ok z)
    (hd : isExternal d.part = true) : isExternal z.part = true := by
  obtain ⟨item, bus, fields, head, hitem, _, hz⟩ := normalizeRuntimeDeviceItem_eq_ok.mp h
  cases hitem
  have hfields := hz.backend
  rw [d.get_backend, backendEntries_of_isExternal hd] at hfields
  cases hfields
  have hhead : head = .controller none := (Except.ok.inj hz.head).symm
  have hpart := hz.part
  rw [hhead] at hpart
  exact isExternal_of_normalizePart hpart

/-- A bus as it comes back from a snapshot. -/
def unlabelled (b : Bus) : Bus := { b with metadata := [] }

namespace Daemon.Fit

variable {d : Daemon} (h : d.Fit)

include h

-- Metadata apart, the exported buses are the stored ones.
theorem exported_lookup {k : Text} {b : Bus} (hb : dictGet d.busTable k = some b) :
    ∃ b', dictGet (busesById (d.buses.map fun p => unlabelled p.2.bus)) k = some b' ∧
      b'.transport = b.transport ∧ b'.name = b.name := by
  refine dictGet_of_forall₂ (R := fun (b b' : Bus) => b'.transport = b.transport ∧ b'.name = b.name)
    ?_ hb
  rw [Daemon.busTable, busesById, List.map_map]
  refine List.forall₂_map_left_iff.mpr (List.forall₂_map_right_iff.mpr ?_)
  exact List.forall₂_same.mpr fun p hp => ⟨(h.buses p hp).1, rfl, rfl⟩

/-- The exported model is accepted, with the identity of every device kept. -/
theorem normalizes : ∃ m, normalizeRuntimeModelData d.exportModel = .ok m ∧
    List.Forall₂ (fun p z => z.id = p.1 ∧ (isExternal p.2.device.part = true →
      isExternal z.part = true)) d.devices m.devices := by
  let buses := d.buses.map fun p => unlabelled p.2.bus
  obtain ⟨ds, hds⟩ : ∃ ds, List.Forall₂ (fun p z => normalizeRuntimeDeviceItem p.1.2.device.toItem
      (busesById buses) (deviceLabel p.2) = .ok z) d.devices.zipIdx ds := by
    refine exists_forall₂ fun p hp => ?_
    obtain ⟨z, hz, _⟩ :=
      (h.presentable p.1 (List.fst_mem_of_mem_zipIdx hp)).again (deviceLabel p.2)
    exact ⟨z, normalizeRuntimeDeviceItem_congr (fun _ _ => h.exported_lookup) hz⟩
  have hsame : List.Forall₂ (fun p z => z.id = p.1 ∧ site z = site p.2.device ∧
      (isExternal p.2.device.part = true → isExternal z.part = true)) d.devices ds := by
    refine forall₂_of_zipIdx ((forall₂_mem hds).imp ?_)
    rintro p z ⟨hp, hz⟩
    obtain ⟨hid, hnormal⟩ := h.devices p.1 (List.fst_mem_of_mem_zipIdx hp)
    obtain ⟨hzid, hzbus, hzplace⟩ := hnormal.identity hz
    refine ⟨hzid.trans hid, Prod.ext hzbus hzplace, isExternal_of_normalizeRuntimeDeviceItem hz⟩
  -- what the model asks of its items together is asked of the stored ones already
  have hids : ds.map Device.id = keys d.devices := map_eq_of_forall₂ hsame fun _ _ hpz => hpz.1
  have hsites : ds.map site = d.devices.map fun p => site p.2.device :=
    map_eq_of_forall₂ hsame fun _ _ hpz => hpz.2.1
  have hname : ∃ v l, expectString v l = .ok (d.modelName.getD (text "runtime")) := by
    cases hn : d.modelName with
    | none => exact ⟨.lit "runtime", [], rfl⟩
    | some name => exact h.name name hn
  have hbusIds : (buses.map Bus.id).Nodup := by
    have heq : buses.map Bus.id = keys d.buses := by
      rw [List.map_map]
      exact List.map_congr_left fun p hp => (h.buses p hp).1
    rw [heq]
    exact h.busIds
  have hbusNames : buses.Pairwise fun b c => c.sameName b = false :=
    List.pairwise_map.mpr (List.pairwise_map.mp h.busNames)
  have hplaces : ds.Pairwise fun e f => f.clashes e = false := by
    have hstored := pairwise_clashes_iff.mp h.places
    rw [pairwise_clashes_iff, hsites]
    rw [List.map_map] at hstored
    exact hstored
  have hbuses : List.Forall₂ (fun p b => normalizeRuntimeBusItem p.1 (busLabel p.2) = .ok b)
      (d.buses.map fun p => p.2.bus.toItem).zipIdx buses := by
    rw [List.zipIdx_map, List.forall₂_map_left_iff, List.forall₂_map_right_iff]
    refine forall₂_zipIdx_self fun p hp i => ?_
    obtain ⟨v, l, hnormal⟩ := (h.buses p hp).2
    exact normalizeRuntimeBusItem_self hnormal
  have hdevices : List.Forall₂ (fun p z => normalizeRuntimeDeviceItem p.1 (busesById buses)
      (deviceLabel p.2) = .ok z) (d.devices.map fun p => p.2.device.toItem).zipIdx ds := by
    rw [List.zipIdx_map, List.forall₂_map_left_iff]
    exact hds
  obtain ⟨m, hm, _, _, hmd⟩ := normalizeRuntimeModelData_accepts hname hbuses hbusIds hbusNames
    hdevices (by rw [hids]; exact h.deviceIds) hplaces
  refine ⟨m, hm, ?_⟩
  rw [hmd]
  exact hsame.imp fun _ _ hpz => ⟨hpz.1, hpz.2.2⟩

theorem restorable : d.Restorable := by
  obtain ⟨groups, hgroups⟩ := h.toWellAttached.snapshotAttachments
  obtain ⟨m, hm, hdevices⟩ := h.normalizes
  have hg := groups_of_snapshotAttachments hgroups
  have hids : ∀ g ∈ groups, ∀ id ∈ g.2,
      ∃ dev, dictGet (devicesById m) id = some dev ∧ isExternal dev.part = true := by
    intro g hgm id hid
    obtain ⟨p, hp, rfl, hb, ht⟩ := mem_attached.mp ((hg.belongs g.1 id).mp ⟨g, hgm, rfl, hid⟩)
    have hext := h.external p hp g.1 (DeviceRecord.backend_eq_some.mpr ⟨hb, ht⟩)
    have hlist : List.Forall₂ (fun p z => z.1 = p.1 ∧ (isExternal p.2.device.part = true →
        isExternal z.2.part = true)) d.devices (devicesById m) := by
      rw [devicesById, List.forall₂_map_right_iff]
      exact hdevices
    obtain ⟨z, hz, hzext⟩ := dictGet_of_forall₂
      (R := fun (r : DeviceRecord) (z : Device) => isExternal r.device.part = true →
        isExternal z.part = true) hlist (dictGet_of_mem h.deviceIds hp)
    exact ⟨z, hz, hzext hext⟩
  obtain ⟨out, hout⟩ := validateBackendAttachments_accepts [] [] hids (hg.apart h.toTidy)
    (fun _ _ _ _ => rfl)
  refine ⟨⟨d.exportModel, groups⟩, (m, out), ?_, ?_⟩
  · rw [Daemon.snapshot, hgroups]
    rfl
  · unfold Snapshot.restore
    rw [hm]
    dsimp only
    rw [hout]
    rfl

end Daemon.Fit

/-! ## Changes to a device in use -/

section Changes

variable {d d' : Daemon}

theorem Daemon.Revises.busTable (h : d.Revises d') : d'.busTable = d.busTable := by
  rw [Daemon.busTable, Daemon.busTable, h.buses]

/-- Devices are changed in place into presentable ones, and no backend is added. -/
theorem Daemon.Fit.revised (h : d.Fit) (hrev : d.Revises d')
    (hall : List.Forall₂ (fun p q => q.2.device.Presentable d.busTable ∧
      ∀ b, q.2.backend = some b → p.2.backend = some b ∧ isExternal q.2.device.part = true)
      d.devices d'.devices) : d'.Fit where
  toFiled := hrev.filed h.toFiled
  external q hq b hb := by
    obtain ⟨p, _, _, hbackend⟩ := exists_mem_of_forall₂ hall hq
    exact (hbackend b hb).2
  uniform q hq q' hq' b c hb hc := by
    obtain ⟨p, hp, _, hpb⟩ := exists_mem_of_forall₂ hall hq
    obtain ⟨p', hp', _, hpc⟩ := exists_mem_of_forall₂ hall hq'
    exact h.uniform p hp p' hp' b c (hpb b hb).1 (hpc c hc).1
  name := hrev.modelName ▸ h.name
  busNames := hrev.buses ▸ h.busNames
  presentable q hq := by
    obtain ⟨p, _, hq, _⟩ := exists_mem_of_forall₂ hall hq
    rw [hrev.busTable]
    exact hq

-- The facts are about the tables and the name alone.
theorem Daemon.Fit.of_eq (h : d.Fit) (hf : d'.Filed) (hn : d'.modelName = d.modelName)
    (hb : d'.buses = d.buses) (hd : d'.devices = d.devices) : d'.Fit where
  toFiled := hf
  external := hd ▸ h.external
  uniform := hd ▸ h.uniform
  name := hn ▸ h.name
  busNames := hb ▸ h.busNames
  presentable := by
    rw [hd, Daemon.busTable, hb]
    exact h.presentable

theorem Daemon.Fit.same (h : d.Fit) (hrev : d.Revises d') (hd : d'.devices = d.devices) : d'.Fit :=
  h.of_eq (hrev.filed h.toFiled) hrev.modelName hrev.buses hd

theorem Daemon.Fit.mapped (h : d.Fit) {c : Text × DeviceRecord → Prop} [DecidablePred c]
    {f : DeviceRecord → DeviceRecord} (hrev : d.Revises d')
    (hd : d'.devices = d.devices.map fun p => if c p then (p.1, f p.2) else p)
    (hf : ∀ p ∈ d.devices, c p → (f p.2).device.Presentable d.busTable ∧
      ∀ b, (f p.2).backend = some b →
        p.2.backend = some b ∧ isExternal (f p.2).device.part = true) : d'.Fit := by
  refine h.revised hrev ?_
  rw [hd]
  refine List.forall₂_map_right_iff.mpr (List.forall₂_same.mpr fun p hp => ?_)
  by_cases hc : c p
  · rw [if_pos hc]
    exact hf p hp hc
  · rw [if_neg hc]
    exact ⟨h.presentable p hp, fun b hb => ⟨hb, h.external p hp b hb⟩⟩

theorem Daemon.Fit.modifyDevice (h : d.Fit) {id : Text} {f : DeviceRecord → DeviceRecord}
    (hrev : d.Revises (d.modifyDevice id f))
    (hf : ∀ p ∈ d.devices, p.1 = id → (f p.2).device.Presentable d.busTable ∧
      ∀ b, (f p.2).backend = some b →
        p.2.backend = some b ∧ isExternal (f p.2).device.part = true) :
    (d.modifyDevice id f).Fit := h.mapped hrev rfl hf

theorem Daemon.Fit.modifyByHandle (h : d.Fit) {handle : Nat} {f : DeviceRecord → DeviceRecord}
    (hrev : d.Revises (d.modifyByHandle handle f))
    (hf : ∀ p ∈ d.devices, (f p.2).device.Presentable d.busTable ∧
      ∀ b, (f p.2).backend = some b →
        p.2.backend = some b ∧ isExternal (f p.2).device.part = true) :
    (d.modifyByHandle handle f).Fit := by
  cases hget : dictGet d.devicesByHandle handle with
  | none =>
    have heq : d.modifyByHandle handle f = d := by rw [Daemon.modifyByHandle, hget]
    rw [heq]
    exact h
  | some object =>
    have heq : (d.modifyByHandle handle f).devices =
        d.devices.map fun p => if p.2.object = object then (p.1, f p.2) else p := by
      rw [Daemon.modifyByHandle, hget]
    exact h.mapped hrev heq fun p hp _ => hf p hp

/-! ### Settings and faults -/

theorem deriveUartSettings_keys (es : Entries) (c : UartConfig) :
    keys (deriveUartSettings es c) = ["baud_rate", "data_bits", "parity", "stop_bits", "xonxoff",
      "rtscts", "cflag", "iflag", "oflag", "lflag"].map text := rfl

/-- The settings after a configuration request. -/
def configured (es : Entries) (c : UartConfig) : Entries :=
  (deriveUartSettings es c).foldl (fun es p => put es p.1 p.2) es

theorem getD_configured (es : Entries) (c : UartConfig) (key : String) (default : Value) :
    getD (configured es c) key default =
      ((dictGet (deriveUartSettings es c) (text key)).or (lookup es (text key))).getD default := by
  have hnodup : (keys (deriveUartSettings es c)).Nodup := by
    rw [deriveUartSettings_keys]
    decide
  rw [getD, configured, lookup_foldl_put hnodup]

theorem normalizeSpiSettings_configured {es r : Entries} {l : Label}
    (h : normalizeSpiSettings (.dict es) l = .ok r) (c : UartConfig) :
    ∃ r', normalizeSpiSettings (.dict (configured es c)) l = .ok r' := by
  obtain ⟨settings, hsettings, h⟩ := bind_eq_ok.mp h
  cases hsettings
  obtain ⟨mode, hmode, h⟩ := bind_eq_ok.mp h
  obtain ⟨bits, hbits, h⟩ := bind_eq_ok.mp h
  obtain ⟨speed, hspeed, _⟩ := bind_eq_ok.mp h
  -- None of the three keys is among those of the request.
  refine ⟨_, bind_eq_ok.mpr ⟨_, rfl, bind_eq_ok.mpr ⟨mode, ?_, bind_eq_ok.mpr ⟨bits, ?_,
    bind_eq_ok.mpr ⟨speed, ?_, rfl⟩⟩⟩⟩⟩
  · rw [getD_configured]
    exact hmode
  · rw [getD_configured]
    exact hbits
  · rw [getD_configured]
    exact hspeed

theorem normalizeUartSettings_configured {es r : Entries} {l : Label}
    (h : normalizeUartSettings (.dict es) l = .ok r) (c : UartConfig) :
    ∃ r', normalizeUartSettings (.dict (configured es c)) l = .ok r' := by
  obtain ⟨settings, hsettings, h⟩ := bind_eq_ok.mp h
  cases hsettings
  obtain ⟨name, _, h⟩ := bind_eq_ok.mp h
  obtain ⟨parity, _, h⟩ := bind_eq_ok.mp h
  obtain ⟨dataBits, _, h⟩ := bind_eq_ok.mp h
  obtain ⟨stopBits, _, h⟩ := bind_eq_ok.mp h
  obtain ⟨baudRate, hbaud, _⟩ := bind_eq_ok.mp h
  obtain ⟨p, hp⟩ : ∃ p : Parity,
      getD (configured es c) "parity" (.lit "none") = .str p.spelling := by
    rw [getD_configured]
    exact ⟨_, rfl⟩
  obtain ⟨bits, hbits⟩ : ∃ n, expectHexInt (getD (configured es c) "data_bits" (.int 8))
      (l.dot "data_bits") 5 (some 8) = .ok n := by
    rw [getD_configured]
    change ∃ n, expectHexInt (.int (if c.cflag &&& 0x30 = 0 then 5 else
      if c.cflag &&& 0x30 = 0x10 then 6 else if c.cflag &&& 0x30 = 0x20 then 7 else 8)) _ 5 (some 8) =
      .ok n
    split_ifs <;> exact ⟨_, rfl⟩
  obtain ⟨stop, hstop⟩ : ∃ n, expectHexInt (getD (configured es c) "stop_bits" (.int 1))
      (l.dot "stop_bits") 1 (some 2) = .ok n := by
    rw [getD_configured]
    change ∃ n, expectHexInt (.int (if c.cflag &&& 0x40 = 0 then 1 else 2)) _ 1 (some 2) = .ok n
    split_ifs <;> exact ⟨_, rfl⟩
  obtain ⟨rate, hrate⟩ : ∃ n, expectHexInt (getD (configured es c) "baud_rate" (.int 115200))
      (l.dot "baud_rate") 1 none = .ok n := by
    rw [getD_configured]
    change ∃ n, expectHexInt (if c.baudRate = 0 then getD es "baud_rate" (.int 115200)
      else .int c.baudRate) _ 1 none = .ok n
    split
    · exact ⟨baudRate, hbaud⟩
    · rename_i hrate
      exact ⟨c.baudRate, expectHexInt_eq_ok.mpr ⟨rfl, Nat.pos_of_ne_zero hrate, nofun⟩⟩
  refine ⟨_, bind_eq_ok.mpr ⟨_, rfl, bind_eq_ok.mpr ⟨p.spelling, ?_, bind_eq_ok.mpr ⟨p, ?_,
    bind_eq_ok.mpr ⟨bits, hbits, bind_eq_ok.mpr ⟨stop, hstop, bind_eq_ok.mpr ⟨rate, hrate,
      bind_eq_ok.mpr ⟨c.iflag &&& 0x1400 ≠ 0, ?_, bind_eq_ok.mpr
        ⟨c.cflag &&& 0x80000000 ≠ 0, ?_, rfl⟩⟩⟩⟩⟩⟩⟩⟩⟩
  · rw [hp]
    cases p <;> rfl
  · cases p <;> rfl
  · rw [getD_configured]
    rfl
  · rw [getD_configured]
    rfl

/-- A UART configuration request leaves settings that are accepted, on a device of any transport. -/
theorem normalizeSettings_configured {transport : Transport} {es : Entries}
    (h : ∀ l, ∃ r, normalizeSettings transport (.dict es) l = .ok r) (c : UartConfig) (l : Label) :
    ∃ r, normalizeSettings transport (.dict (configured es c)) l = .ok r := by
  obtain ⟨r, hr⟩ := h l
  cases transport with
  | i2c => exact ⟨[], rfl⟩
  | spi => exact normalizeSpiSettings_configured hr c
  | uart => exact normalizeUartSettings_configured hr c

theorem ranged_consumeFault {f : Faults} (h : f.Ranged) : (consumeFault f).Ranged := by
  unfold consumeFault
  split
  · exact h
  · split
    · exact ⟨⟨.int 0, [], rfl⟩, nofun, nofun, fun _ hn => nomatch hn⟩
    · refine ⟨⟨.int (f.remaining - 1 : Nat), [], ?_⟩, h.errnoGiven, h.replyGiven, h.errno⟩
      exact expectHexInt_eq_ok.mpr ⟨rfl, Nat.zero_le _, fun _ hm => nomatch hm⟩

/-! ### Attachments -/

-- Attaching looks at the device under each identifier.
theorem isExternal_of_attachBackend {backend : BackendId} {ids : List Text} (ht : d.Tidy)
    (h : d.attachBackend backend ids = some d') {p : Text × DeviceRecord} (hp : p ∈ d.devices)
    (hid : p.1 ∈ ids) : isExternal p.2.device.part = true := by
  unfold Daemon.attachBackend at h
  split at h
  · rename_i hall
    have hany := List.all_eq_true.mp hall p.1 hid
    rw [dictGet_of_mem ht.deviceIds hp] at hany
    exact hany
  · cases h

theorem mem_of_attachBackend {backend : BackendId} {ids : List Text}
    (h : d.attachBackend backend ids = some d') {q : Text × DeviceRecord} (hq : q ∈ d'.devices) :
    ∃ p ∈ d.devices, q.2.device = p.2.device ∧
      (p.1 ∈ ids ∧ q.2.attachedBackend = some backend ∨ p.1 ∉ ids ∧ q.2.backend = p.2.backend) := by
  rw [(attaches_attachBackend h).devices] at hq
  obtain ⟨p, hp, rfl⟩ := List.mem_map.mp hq
  refine ⟨p, hp, rfl, ?_⟩
  by_cases hid : p.1 ∈ ids
  · exact .inl ⟨hid, if_pos hid⟩
  · refine .inr ⟨hid, ?_⟩
    rw [DeviceRecord.backend, DeviceRecord.backend]
    dsimp only
    rw [if_neg hid]

/-- The identifiers that stay are of the kind of the new one. -/
theorem Daemon.Fit.attachBackend (h : d.Fit) {backend : BackendId} {ids : List Text}
    (hd : d.attachBackend backend ids = some d')
    (hkind : backend.truthy = true → ∀ p ∈ d.devices, p.1 ∉ ids → ∀ b, p.2.backend = some b →
      b.isStr = backend.isStr) : d'.Fit := by
  have hrev := Daemon.revises_attachBackend hd
  -- The kind of the backend of one device after the call.
  have hkinds {q : Text × DeviceRecord} (hq : q ∈ d'.devices) {b : BackendId}
      (hb : q.2.backend = some b) : backend.truthy = true ∧ b.isStr = backend.isStr ∨
        ∃ p ∈ d.devices, p.1 ∉ ids ∧ p.2.backend = some b := by
    obtain ⟨p, hp, _, ⟨_, hnew⟩ | ⟨hid, hold⟩⟩ := mem_of_attachBackend hd hq
    · obtain ⟨hb, htruthy⟩ := DeviceRecord.backend_eq_some.mp hb
      cases Option.some.inj (hnew.symm.trans hb)
      exact .inl ⟨htruthy, rfl⟩
    · exact .inr ⟨p, hp, hid, hold ▸ hb⟩
  refine
    { toFiled := hrev.filed h.toFiled
      external := fun q hq b hb => ?_
      uniform := fun q hq q' hq' b c hb hc => ?_
      name := hrev.modelName ▸ h.name
      busNames := hrev.buses ▸ h.busNames
      presentable := fun q hq => ?_ }
  · obtain ⟨p, hp, hdev, ⟨hid, _⟩ | ⟨_, hold⟩⟩ := mem_of_attachBackend hd hq
    · rw [hdev]
      exact isExternal_of_attachBackend h.toTidy hd hp hid
    · rw [hdev]
      exact h.external p hp b (hold ▸ hb)
  · rcases hkinds hq hb with ⟨htruthy, hbk⟩ | ⟨p, hp, hid, hpb⟩
    · rcases hkinds hq' hc with ⟨_, hck⟩ | ⟨p', hp', hid', hpc⟩
      · rw [hbk, hck]
      · rw [hbk, hkind htruthy p' hp' hid' c hpc]
    · rcases hkinds hq' hc with ⟨htruthy, hck⟩ | ⟨p', hp', hid', hpc⟩
      · rw [hck, hkind htruthy p hp hid b hpb]
      · exact h.uniform p hp p' hp' b c hpb hpc
  · obtain ⟨p, hp, hdev, _⟩ := mem_of_attachBackend hd hq
    rw [hdev, hrev.busTable]
    exact h.presentable p hp

/-- Only strings are attached. -/
def Daemon.Stringly (d : Daemon) : Prop :=
  ∀ p ∈ d.devices, ∀ b, p.2.attachedBackend = some b → b.isStr = true

theorem Daemon.Fit.attachAll {d : Daemon} (h : d.Fit) (hs : d.Stringly) (groups : Attachments) :
    (d.attachAll groups).1.Fit := by
  induction groups generalizing d with
  | nil => exact h
  | cons g groups ih =>
    rw [Daemon.attachAll]
    split
    · exact ih h hs
    · split
      · exact h
      · rename_i e he
        refine ih (h.attachBackend he fun _ p hp _ b hb => ?_) fun q hq b hb => ?_
        · exact hs p hp b (DeviceRecord.backend_eq_some.mp hb).1
        · rw [(attaches_attachBackend he).devices] at hq
          obtain ⟨p, hp, rfl⟩ := List.mem_map.mp hq
          dsimp only at hb
          split at hb
          · cases hb
            rfl
          · exact hs p hp b hb

/-! ### The changes -/

/-- Literals that a later pass reads, an attached device that stays one served from outside, and
identifiers of one kind. -/
def Change.Harmless (d : Daemon) : Change → Prop
  | updateDevice id patch => d.runtimeState ≠ .desynced → ∀ r dev, dictGet d.devices id = some r →
      d.patched r.device patch = some dev →
      dev.Literals Legible ∧ (r.backend.isSome = true → isExternal dev.part = true)
  | attach backend ids => d.runtimeState ≠ .desynced → backend.truthy = true →
      ∀ p ∈ d.devices, p.1 ∉ ids → ∀ b, p.2.backend = some b → b.isStr = backend.isStr
  | _ => True

theorem presentable_patched {r : DeviceRecord} {dev : Device} {patch : Value}
    (hid : ∃ v l, expectName v l = .ok r.device.id) (h : d.patched r.device patch = some dev)
    (hl : dev.Literals Legible) : dev.Presentable d.busTable := by
  obtain ⟨z, v, hz, _, _, rfl⟩ := Daemon.patched_eq_some h
  have hpresent := presentable_of_normalizeRuntimeDeviceItem hz ⟨hl.reply, hl.part⟩
  exact ⟨hid, hpresent.part, hl, hpresent.faults, hpresent.settings⟩

-- A change that keeps the attachment and the part.
theorem Daemon.Fit.backend_kept (h : d.Fit) {p : Text × DeviceRecord} (hp : p ∈ d.devices)
    {r : DeviceRecord} (hr : r.attachedBackend = p.2.attachedBackend)
    (hpart : r.device.part = p.2.device.part) (b : BackendId) (hb : r.backend = some b) :
    p.2.backend = some b ∧ isExternal r.device.part = true := by
  rw [DeviceRecord.backend, hr] at hb
  exact ⟨hb, hpart ▸ h.external p hp b hb⟩

theorem Daemon.Fit.updateDevice (h : d.Fit) {id : Text} {patch : Value}
    (hc : (Change.updateDevice id patch).Harmless d) : (d.updateDevice id patch).Fit := by
  have hrev := Daemon.revises_updateDevice h.toTidy id patch
  revert hrev
  unfold Daemon.updateDevice
  split
  · exact fun _ => h
  · rename_i hsync
    split
    · exact fun _ => h
    · rename_i r hr
      split
      · exact fun _ => h
      · rename_i dev hdev
        intro hrev
        obtain ⟨hlegible, hext⟩ := hc hsync r dev hr hdev
        refine h.modifyDevice hrev fun p hp hk => ?_
        have hpr : p.2 = r := eq_of_dictGet h.deviceIds hr (hk ▸ hp)
        refine ⟨presentable_patched ?_ hdev hlegible, fun b hb => ?_⟩
        · rw [← hpr]
          exact (h.devices p hp).2.id
        · have hpb : p.2.backend = some b := hb
          exact ⟨hpb, hext (by rw [← hpr, hpb]; rfl)⟩

theorem Daemon.Fit.detach (h : d.Fit) (backend : BackendId) (ids : List Text) :
    (d.detach backend ids).Fit := by
  unfold Daemon.detach
  split
  · exact h
  rename_i hsync
  clear hsync
  dsimp only
  generalize (if ids = [] then keys d.devices else ids) = targets
  induction targets generalizing d with
  | nil => exact h
  | cons id targets ih =>
    refine ih (h.modifyDevice ?_ fun p hp _ => ?_)
    · refine Daemon.revises_modifyDevice fun p _ _ => ?_
      split
      · exact Daemon.revised_of_attachedBackend p.2 none
      · exact .refl p.2
    · split
      · exact ⟨h.presentable p hp, fun b hb => nomatch hb⟩
      · exact ⟨h.presentable p hp, fun b hb => ⟨hb, h.external p hp b hb⟩⟩

theorem Daemon.Fit.uartConfig (h : d.Fit) (c : UartConfig) : (d.uartConfig c).Fit := by
  have hrev := (Change.uartConfig c).revises h.toTidy
  change d.Revises (d.uartConfig c) at hrev
  unfold Daemon.uartConfig at hrev ⊢
  refine h.modifyByHandle hrev fun p hp => ?_
  have hp' := h.presentable p hp
  refine ⟨?_, h.backend_kept hp rfl rfl⟩
  exact
    { id := hp'.id
      part := hp'.part
      literals := ⟨hp'.literals.reply, hp'.literals.part⟩
      faults := hp'.faults
      settings := normalizeSettings_configured hp'.settings c }

theorem Daemon.Fit.faultedRequest (h : d.Fit) (id : Text) : (d.faultedRequest id).Fit := by
  have hrev := (Change.faultedRequest id).revises h.toTidy
  change d.Revises (d.faultedRequest id) at hrev
  unfold Daemon.faultedRequest at hrev ⊢
  refine h.modifyDevice hrev fun p hp _ => ?_
  have hp' := h.presentable p hp
  split
  · exact ⟨hp', h.backend_kept hp rfl rfl⟩
  · refine ⟨?_, h.backend_kept hp rfl rfl⟩
    exact
      { id := hp'.id
        part := hp'.part
        literals := ⟨fun t ht => hp'.literals.reply t (Daemon.replyData_consumeFault ht),
          hp'.literals.part⟩
        faults := ranged_consumeFault hp'.faults
        settings := hp'.settings }

theorem Daemon.Fit.change (h : d.Fit) {c : Change} (hc : c.Harmless d) : (c.on d).Fit := by
  have hrev := c.revises h.toTidy
  cases c with
  | updateDevice id patch => exact h.updateDevice hc
  | attach backend ids =>
    change (d.attach backend ids).Fit
    unfold Daemon.attach
    split
    · exact h
    · rename_i hsync
      cases he : d.attachBackend backend ids with
      | none => exact h
      | some e => exact h.attachBackend he (hc hsync)
  | detach backend ids => exact h.detach backend ids
  | uartConfig c => exact h.uartConfig c
  | faultedRequest id => exact h.faultedRequest id
  | bridgeFailure => exact h.same hrev rfl
  | refreshWorkers failing =>
    refine h.same hrev ?_
    change (d.refreshWorkers failing).devices = d.devices
    unfold Daemon.refreshWorkers
    split
    · rfl
    · split <;> rfl
    · split <;> rfl
  | refreshBridgeMetrics o =>
    refine h.same hrev ?_
    change (d.refreshBridgeMetrics o).devices = d.devices
    rcases d.refreshBridgeMetrics_eq o with he | he
    · rw [he]
    · rw [he]
      rfl

end Changes

/-! ## Rebuilding -/

/-- A model that a later pass accepts device by device. -/
structure Stable (m : RuntimeModel) : Prop where
  name : ∃ v l, expectString v l = .ok m.name
  devices : ∀ z ∈ m.devices, z.Presentable (busesById m.buses)

/-- A snapshot that is accepted and leads to such a model. -/
def Snapshot.Stable (s : Snapshot) : Prop :=
  ∃ m attachments, s.restore = some (m, attachments) ∧ Inventory.Stable m

structure Call.Stable (c : Call) : Prop where
  model : Inventory.Stable c.model
  previous : ∀ s, c.previous = some s → s.Stable

theorem stable_of_normalizeRuntimeModelData {raw : Value} {m : RuntimeModel}
    (hm : normalizeRuntimeModelData raw = .ok m) (hl : ∀ z ∈ m.devices, z.Literals Legible) :
    Stable m := by
  refine ⟨name_of_normalizeRuntimeModelData hm, fun z hz => ?_⟩
  obtain ⟨v, l, hnormal⟩ := normalized_of_mem hm hz
  exact presentable_of_normalizeRuntimeDeviceItem hnormal (hl z hz)

-- A second pass leaves literals that every further pass reads.
theorem stable_of_restore {d : Daemon} {s : Snapshot} {m : RuntimeModel} {attachments : Attachments}
    (ht : d.Tidy) (hs : d.snapshot = some s) (hr : s.restore = some (m, attachments)) :
    Stable m := by
  obtain ⟨groups, _, rfl⟩ := Option.map_eq_some_iff.mp hs
  unfold Snapshot.restore at hr
  split at hr
  · cases hr
  · rename_i m' hm
    obtain ⟨_, _, heq⟩ := Option.map_eq_some_iff.mp hr
    cases heq
    refine stable_of_normalizeRuntimeModelData hm fun z hz => ?_
    obtain ⟨p, hp, hnormal⟩ := exists_mem_of_forall₂ (source_of_exportedModel hm).devices hz
    obtain ⟨q, hq, hitem⟩ := List.mem_map.mp (List.fst_mem_of_mem_zipIdx hp)
    rw [← hitem] at hnormal
    exact (settled_of_normalizeRuntimeDeviceItem (ht.devices q hq).2.literals hnormal).imp
      fun _ => Settled.legible

theorem Daemon.Fit.stable {d : Daemon} {s : Snapshot} (h : d.Fit) (hs : d.snapshot = some s) :
    s.Stable := by
  obtain ⟨s', ⟨m, attachments⟩, hs', hr⟩ := h.restorable
  cases Option.some.inj (hs.symm.trans hs')
  exact ⟨m, attachments, hr, stable_of_restore h.toTidy hs hr⟩

/-- What is left to add comes from a stable model, and nothing is attached yet. -/
structure Supplied (d : Daemon) (m : RuntimeModel) (bs : List Bus) (ds : List Device) : Prop
    extends Placeable d bs ds where
  stable : Stable m
  modelName : d.modelName = some m.name
  table : d.busTable ++ busesById bs = busesById m.buses
  left : ∀ dev ∈ ds, dev ∈ m.devices
  unattached : ∀ p ∈ d.devices, p.2.attachedBackend = none

theorem supplied_of_empty {d : Daemon} {m : RuntimeModel} (hb : d.buses = [])
    (hd : d.devices = []) (hm : Stable m) :
    Supplied { d with modelName := some m.name } m m.buses m.devices where
  toPlaceable := placeable_of_empty hb hd
  stable := hm
  modelName := rfl
  table := by
    rw [Daemon.busTable, hb]
    rfl
  left _ h := h
  unattached := by
    intro p hp
    rw [hd] at hp
    exact absurd hp List.not_mem_nil

-- A `_clear_state` that raises loses the name, and the default is in its place.
theorem Daemon.Fit.unnamed {d : Daemon} (h : d.Fit) : d.unnamed.Fit where
  toFiled := h.toFiled.unnamed
  external := h.external
  uniform := h.uniform
  name _ hname := by cases hname
  busNames := h.busNames
  presentable := h.presentable

theorem fit_empty {d : Daemon} (hb : d.buses = []) (hd : d.devices = [])
    (hi : d.devicesByHandle = [])
    (hn : ∀ name, d.modelName = some name → ∃ v l, expectString v l = .ok name) : d.Fit where
  toFiled := filed_empty hb hd hi
  external := by rw [hd]; exact fun _ h => nomatch h
  uniform := by rw [hd]; exact fun _ h => nomatch h
  name := hn
  busNames := by rw [hb]; exact .nil
  presentable := by rw [hd]; exact fun _ h => nomatch h

section Added

variable {d : Daemon} {k : Kernel} {r : Added} {m : RuntimeModel} {bs : List Bus}
  {ds : List Device}

theorem Supplied.busNames (h : Supplied d m bs ds) :
    ((d.buses.map fun p => p.2.bus) ++ bs).Pairwise fun b c => c.sameName b = false := by
  have hmap := congrArg (List.map Prod.snd) h.table
  have heq : (d.buses.map fun p => p.2.bus) ++ bs = m.buses := by
    simpa [Daemon.busTable, busesById, Function.comp_def] using hmap
  rw [heq]
  exact m.busNames

theorem BusAdded.supplied {bus : Bus} (h : BusAdded d k bus r) (hs : Supplied d m (bus :: bs) ds) :
    Supplied r.daemon m bs ds where
  toPlaceable := h.placeable hs.toPlaceable
  stable := hs.stable
  modelName := h.modelName ▸ hs.modelName
  table := by
    rw [Daemon.busTable, h.buses, List.map_append, List.append_assoc]
    exact hs.table
  left := hs.left
  unattached := h.devices ▸ hs.unattached

theorem BusAdded.fit {bus : Bus} (h : BusAdded d k bus r) (hf : d.Fit)
    (hs : Supplied d m (bus :: bs) ds) : r.daemon.Fit where
  toFiled := h.filed hf.toFiled hs.toPlaceable
  external := h.devices ▸ hf.external
  uniform := h.devices ▸ hf.uniform
  name := h.modelName ▸ hf.name
  busNames := (List.pairwise_append.mp (h.supplied hs).busNames).1
  presentable := by
    rw [h.devices, Daemon.busTable, h.buses, List.map_append]
    intro p hp
    have hpresent := hf.presentable p hp
    obtain ⟨v, l, z, hz, hpart, hbus⟩ := hpresent.part
    -- A bus more does not hide the ones that the device was checked against.
    refine { hpresent with part := ⟨v, l, z, normalizeRuntimeDeviceItem_congr ?_ hz, hpart, hbus⟩ }
    exact fun _ b hb => ⟨b, dictGet_append_of_eq_some hb, rfl, rfl⟩

theorem DeviceAdded.supplied {dev : Device} (h : DeviceAdded d k dev r)
    (hs : Supplied d m bs (dev :: ds)) : Supplied r.daemon m bs ds where
  toPlaceable := h.placeable hs.toPlaceable
  stable := hs.stable
  modelName := h.modelName ▸ hs.modelName
  table := by
    rw [Daemon.busTable, h.buses]
    exact hs.table
  left e he := hs.left e (List.mem_cons_of_mem _ he)
  unattached := by
    obtain ⟨_, _, hdevices⟩ := h.devices
    rw [hdevices]
    exact forall_mem_append_singleton hs.unattached rfl

theorem DeviceAdded.fit {dev : Device} (h : DeviceAdded d k dev r) (hf : d.Fit)
    (hs : Supplied d m [] (dev :: ds)) : r.daemon.Fit := by
  have hnone (p : Text × DeviceRecord) (hp : p ∈ r.daemon.devices) (b : BackendId)
      (hb : p.2.backend = some b) : False := by
    rw [DeviceRecord.backend, (h.supplied hs).unattached p hp] at hb
    cases hb
  refine
    { toFiled := h.filed hf.toFiled hs.toPlaceable
      external := fun p hp b hb => (hnone p hp b hb).elim
      uniform := fun p hp _ _ b _ hb => (hnone p hp b hb).elim
      name := h.modelName ▸ hf.name
      busNames := h.buses ▸ hf.busNames
      presentable := ?_ }
  obtain ⟨bus, _, hdevices⟩ := h.devices
  have htable : d.busTable = busesById m.buses := by
    rw [← hs.table]
    exact (List.append_nil _).symm
  rw [hdevices, Daemon.busTable, h.buses]
  refine forall_mem_append_singleton hf.presentable ?_
  change dev.Presentable d.busTable
  rw [htable]
  exact hs.stable.devices dev (hs.left dev List.mem_cons_self)

-- Nothing is attached before the loop over the saved attachments.
theorem Supplied.attachAll (h : Supplied d m bs ds) (hf : d.Fit) (groups : Attachments) :
    (d.attachAll groups).1.Fit := by
  refine hf.attachAll (fun p hp b hb => ?_) groups
  rw [h.unattached p hp] at hb
  cases hb

end Added

/-! ## Runs -/

/-- What the rest of an operation needs. -/
def Sender.Stable : Sender → Prop
  | .reset => True
  | .apply c | .discard c => c.Stable
  | .resync m _ => Inventory.Stable m

def Job.Stable : Job → Prop
  | .apply c | .rollback c _ _ => c.Stable
  | .resync _ _ => True

def Pc.Stable (d : Daemon) : Pc → Prop
  | .send x | .sent x => x.Stable
  | .adds job bs ds _ => job.Stable ∧ Supplied d job.model bs ds
  | .rollback c s => c.Stable ∧ s.Stable
  | _ => True

theorem Job.Stable.failed {job : Job} (h : job.Stable) (d : Daemon) : job.failed.Stable d := by
  cases job with
  | apply c => exact h
  | rollback _ _ _ => trivial
  | resync _ _ => trivial

theorem Job.stable_done (job : Job) (d : Daemon) : job.done.Stable d := by
  cases job <;> trivial

theorem Job.AddStep.fit {job : Job} {d : Daemon} {k : Kernel} {bs : List Bus} {ds : List Device}
    {m : Move} (h : job.AddStep d k bs ds m) (hf : d.Fit) (hj : job.Stable)
    (hs : Supplied d job.model bs ds) : m.daemon.Fit ∧ m.pc.Stable m.daemon := by
  cases h with
  | failed hrev hd =>
    refine ⟨?_, hj.failed _⟩
    rcases hd with hd | hd
    · exact hf.same hrev hd
    · have hattach := d.revises_attachAll job.attachments
      refine (hs.attachAll hf job.attachments).of_eq (hrev.filed hf.toFiled) ?_ ?_ hd
      · rw [hrev.modelName, hattach.modelName]
      · rw [hrev.buses, hattach.buses]
  | modem => exact ⟨hf, hj, hs⟩
  | bus hadd => exact ⟨hadd.fit hf hs, hj, hadd.supplied hs⟩
  | device hadd => exact ⟨hadd.fit hf hs, hj, hadd.supplied hs⟩
  | @done r d' hr hd =>
    refine ⟨?_, job.stable_done _⟩
    have hfit := hs.attachAll hf job.attachments
    rw [hr] at hfit
    have hready := hfit.same (Daemon.revises_ready r (job.generation d)) rfl
    rcases hd with rfl | rfl
    · exact hready
    · exact hready.same (Daemon.revises_setState _ _) rfl

theorem Job.fit_enter (job : Job) {d : Daemon} (k : Kernel) (hb : d.buses = [])
    (hd : d.devices = []) (hi : d.devicesByHandle = []) (hj : job.Stable)
    (hm : Inventory.Stable job.model) :
    (job.enter d k).daemon.Fit ∧ (job.enter d k).pc.Stable (job.enter d k).daemon := by
  refine ⟨fit_empty hb hd hi fun name hname => ?_, hj, supplied_of_empty hb hd hm⟩
  cases hname
  exact hm.name

theorem Sender.Stable.cleared {x : Sender} (h : x.Stable) (d : Daemon) (k : Kernel) :
    (x.cleared d.clear k).daemon.Fit ∧
      (x.cleared d.clear k).pc.Stable (x.cleared d.clear k).daemon := by
  cases x with
  | reset => exact ⟨fit_empty rfl rfl rfl nofun, trivial⟩
  | apply c => exact Job.fit_enter (.apply c) k rfl rfl rfl h h.model
  | discard c =>
    refine ⟨fit_empty rfl rfl rfl nofun, ?_⟩
    change c.discarded.Stable _
    unfold Call.discarded
    split
    · rename_i s hs
      exact ⟨h, h.previous s hs⟩
    · trivial
  | resync m attachments => exact Job.fit_enter (.resync m attachments) k rfl rfl rfl trivial h

theorem Sender.Stable.accepted {x : Sender} (h : x.Stable) {d : Daemon} (k : Kernel) (o : Outside)
    (hf : d.Fit) :
    (x.accepted d k o).daemon.Fit ∧
      (x.accepted d k o).pc.Stable (x.accepted d k o).daemon := by
  rcases x.accepted_cases d k o with he | ⟨_, he⟩
  · rw [he]
    exact h.cleared d k
  · rw [he]
    refine ⟨hf.unnamed, ?_⟩
    cases x with
    | apply c => exact h
    | reset | discard _ | resync _ _ => trivial

theorem Daemon.Fit.settle {d : Daemon} (h : d.Fit) (o : Outside) : (d.settle o).1.Fit := by
  refine h.same (d.revises_settle o) ?_
  rcases (d.setState .desynced).persistSnapshot_eq o with he | he
  · rw [Daemon.settle, he]
    rfl
  · rw [Daemon.settle, he]
    rfl

theorem fit_advance {d : Daemon} {k : Kernel} {o : Outside} {p : Pc} {m : Move} (hf : d.Fit)
    (hp : p.Stable d) (h : advance d k o p = some m) : m.daemon.Fit ∧ m.pc.Stable m.daemon := by
  cases p with
  | idle _ => cases h
  | send x =>
    rw [advance] at h
    split at h
    · cases h
      refine ⟨hf, ?_⟩
      cases x with
      | apply c => exact hp
      | reset | discard _ | resync _ _ => trivial
    · cases h
      exact ⟨hf, hp⟩
  | sent x =>
    cases h
    exact hp.accepted k o hf
  | adds job bs ds modem =>
    cases h
    exact (job.add_cases k o modem hp.2.toPending).fit hf hp.1 hp.2
  | rollback c s =>
    obtain ⟨hc, m, attachments, hrestore, hm⟩ := hp
    rw [advance, hrestore] at h
    cases h
    rcases c.rolledBack_cases d k o m attachments with he | ⟨_, _, he⟩
    · rw [he]
      exact Job.fit_enter (.rollback c m attachments) k rfl rfl rfl hc hm
    · rw [he]
      exact ⟨hf.unnamed, trivial⟩
  | settleFailed =>
    cases h
    refine ⟨hf.settle o, ?_⟩
    dsimp only
    split <;> trivial
  | fatal | resyncFailed =>
    cases h
    exact ⟨hf.settle o, trivial⟩

/-- Models and patches whose byte literals a later pass reads, and changes that are harmless. -/
def harmless (w : World) : Act → Prop
  | .call _ (.apply raw) _ =>
    ∀ m, normalizeRuntimeModelData raw = .ok m → ∀ z ∈ m.devices, z.Literals Legible
  | .change c => c.Harmless w.daemon
  | _ => True

theorem Daemon.Fit.refreshBridgeMetrics {d : Daemon} (h : d.Fit) (o : Outside) :
    (d.refreshBridgeMetrics o).Fit := h.change (c := .refreshBridgeMetrics o) trivial

theorem fit_begin {w : World} {t : Nat} {op : Operation} {o : Outside} {d : Daemon} {p : Pc}
    (hok : harmless w (.call t op o)) (hf : w.daemon.Fit)
    (h : w.daemon.begin w.locked o op = some (d, p)) : d.Fit ∧ p.Stable d := by
  have hf' := hf.refreshBridgeMetrics o
  cases begins_of_begin h with
  | invalid _ | applyDesynced _ _ _ | resetDesynced _ _ | reset _ _ => exact ⟨hf, trivial⟩
  | applyUnsaved _ _ _ _ _ | resyncUnsaved _ _ => exact ⟨hf', trivial⟩
  | applyBlank hm _ _ _ =>
    exact ⟨hf.same (Daemon.revises_setState _ _) rfl,
      stable_of_normalizeRuntimeModelData hm (hok _ hm), fun _ h => by cases h⟩
  | applyOver hm _ _ _ hs =>
    refine ⟨hf'.same (Daemon.revises_setState _ _) rfl,
      stable_of_normalizeRuntimeModelData hm (hok _ hm), fun s' hs' => ?_⟩
    cases hs'
    exact hf'.stable hs
  | resync _ hr =>
    obtain ⟨s, hs, hr⟩ := Option.bind_eq_some_iff.mp hr
    exact ⟨hf', stable_of_restore hf'.toTidy hs hr⟩

-- A request handled inside the lock changes no attachment.
theorem Supplied.loose {d : Daemon} {m : RuntimeModel} {bs : List Bus} {ds : List Device}
    (h : Supplied d m bs ds) (ht : d.Tidy) {c : Change} (hc : c.locks = false) :
    Supplied (c.on d) m bs ds := by
  have hrev := c.revises ht
  refine
    { toPlaceable := hrev.placeable h.toPlaceable
      stable := h.stable
      modelName := hrev.modelName ▸ h.modelName
      table := hrev.busTable ▸ h.table
      left := h.left
      unattached := fun q hq => ?_ }
  have hkept : ∃ p ∈ d.devices, q.2.attachedBackend = p.2.attachedBackend := by
    cases c with
    | uartConfig c =>
      change q ∈ (d.uartConfig c).devices at hq
      unfold Daemon.uartConfig Daemon.modifyByHandle at hq
      split at hq
      · exact ⟨q, hq, rfl⟩
      · obtain ⟨p, hp, rfl⟩ := List.mem_map.mp hq
        refine ⟨p, hp, ?_⟩
        split <;> rfl
    | faultedRequest id =>
      obtain ⟨p, hp, rfl⟩ := List.mem_map.mp hq
      refine ⟨p, hp, ?_⟩
      split
      · dsimp only
        split <;> rfl
      · rfl
    | updateDevice _ _ | attach _ _ | detach _ _ | bridgeFailure | refreshWorkers _
    | refreshBridgeMetrics _ => cases hc
  obtain ⟨p, hp, heq⟩ := hkept
  rw [heq]
  exact h.unattached p hp

theorem keeps_fit : Keeps harmless Daemon.Fit fun d p => p.Stable d where
  idle _ := trivial
  frame {_ _ p} hh hp := by
    cases p with
    | adds _ _ _ _ => cases hh
    | idle _ | send _ | sent _ | rollback _ _ | settleFailed | fatal | resyncFailed => exact hp
  begins hok hf hb := fit_begin hok hf hb
  advances _ _ hf hp hm := fit_advance hf hp hm
  changes hok hf := hf.change hok
  loose {_ _ p} _ hc hf hp := by
    cases p with
    | adds job bs ds modem => exact ⟨hp.1, hp.2.loose hf.toTidy hc⟩
    | idle _ | send _ | sent _ | rollback _ _ | settleFailed | fatal | resyncFailed => exact hp

/-- The snapshot of the live state can be taken and restored, and so can the snapshot that a
rollback starts from; what is listed as attached is served from outside. -/
structure World.Recoverable (w : World) : Prop where
  restorable : w.daemon.Restorable
  rollback : ∀ c s, .rollback c s ∈ w.pcs → ∃ r, s.restore = some r
  external : ∀ p ∈ w.daemon.devices, ∀ b, p.2.attachedBackend = some b → b.truthy = true →
    isExternal p.2.device.part = true

/-- Along every run of harmless steps nothing is left behind that a restore would refuse. -/
theorem always_restorable {k : Kernel} {generation n : Nat} {w : World}
    (hr : Reach step harmless (start k generation n) w) : w.Recoverable := by
  have hkept := World.kept_of_reach keeps_fit (fit_empty rfl rfl rfl nofun) hr
  refine ⟨hkept.daemon.restorable, fun c s hmem => ?_, fun p hp b hb ht => ?_⟩
  · obtain ⟨t, ht⟩ := List.mem_iff_getElem?.mp hmem
    obtain ⟨_, m, attachments, hrestore, _⟩ := hkept.pcs t _ ht
    exact ⟨(m, attachments), hrestore⟩
  · exact hkept.daemon.external p hp b (DeviceRecord.backend_eq_some.mpr ⟨hb, ht⟩)

/-! ## A device that changes its backend -/

instance (d : Daemon) (c : Change) : Decidable (c.Harmless d) :=
  match c with
  | .updateDevice id patch =>
    decidable_of_iff (d.runtimeState ≠ .desynced → ∀ r ∈ dictGet d.devices id,
        ∀ dev ∈ d.patched r.device patch, dev.Literals Legible ∧
          (r.backend.isSome = true → isExternal dev.part = true))
      ⟨fun h hsync r dev hr hdev => h hsync r hr dev hdev,
        fun h hsync r hr dev hdev => h hsync r dev hr hdev⟩
  | .attach backend ids => inferInstanceAs (Decidable (d.runtimeState ≠ .desynced →
      backend.truthy = true → ∀ p ∈ d.devices, p.1 ∉ ids → ∀ b ∈ p.2.backend,
        b.isStr = backend.isStr))
  | .detach _ _ | .uartConfig _ | .faultedRequest _ | .bridgeFailure | .refreshWorkers _
  | .refreshBridgeMetrics _ => .isTrue trivial

instance (w : World) (a : Act) : Decidable (harmless w a) :=
  match a with
  | .call _ (.apply raw) _ =>
    decidable_of_iff (∀ m ∈ (normalizeRuntimeModelData raw).toOption,
        ∀ z ∈ m.devices, z.Literals Legible) <| by
      refine forall_congr' fun m => imp_congr_left ⟨ok_of_toOption, fun h => ?_⟩
      rw [h]
      rfl
  | .call _ .reset _ | .call _ .resync _ | .go _ _ => .isTrue trivial
  | .change c => inferInstanceAs (Decidable (c.Harmless w.daemon))

def patchBackend (fields : Entries) : Change :=
  .updateDevice (text "t0") (.dict [(.lit "backend", .dict fields)])

/-- An attached device is patched in place and its bus rebuilt by a resync. -/
theorem always_restorable_bench : ∃ w : World, w.daemon.entries = benchEntries ∧
    (w.daemon.devices.map fun p => p.2.attachedBackend) = [some (.str (text "ctl"))] ∧
      w.Recoverable := by
  have hrun : (exec (guarded step harmless) (start .empty 0 2)
      (applyAttached (.str (text "ctl")) ++ [.change (patchBackend [(.lit "kind", .lit "controller")]),
        .call 1 .resync calm] ++ (List.replicate 5 calm).map (Act.go 1))).map
      (fun w => (w.daemon.entries, w.daemon.devices.map fun p => p.2.attachedBackend)) =
      some (benchEntries, [some (.str (text "ctl"))]) := by decide +kernel
  obtain ⟨w, hexec, hview⟩ := Option.map_eq_some_iff.mp hrun
  obtain ⟨hentries, hattached⟩ := Prod.mk.inj hview
  exact ⟨w, hentries, hattached, always_restorable (reach_of_exec hexec)⟩

/-- `update_device` gives an attached device a template; the snapshot still lists it. -/
theorem not_restorable_after_update :
    ¬ ∀ w, Reach step anyStep (start .empty 0 2) w → w.Recoverable := by
  intro h
  have hrun : (exec (guarded step anyStep) (start .empty 0 2)
      (applyAttached (.str (text "ctl")) ++ [.change (patchBackend
        [(.lit "kind", .lit "template"), (.lit "template", .lit "i2c-register-bank")])])).map
      (fun w => (w.daemon.snapshot.bind Snapshot.restore).isSome) = some false := by decide +kernel
  obtain ⟨w, hexec, hview⟩ := Option.map_eq_some_iff.mp hrun
  obtain ⟨s, r, hs, hr⟩ := (h w (reach_of_exec hexec)).restorable
  rw [hs] at hview
  change s.restore.isSome = false at hview
  rw [hr] at hview
  cases hview

end Sensorium.Inventory

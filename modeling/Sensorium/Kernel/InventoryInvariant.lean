import Sensorium.Kernel.InventoryUart

/-!
# The lists, the indexes and the groups agree

Every control command keeps the invariant, and one that fails leaves the inventory as it was.  A
registration carries the proof that it can be undone (`Registered`), so that the two unwinding
labels of `cmd_device_add` are one lemma each.
-/

namespace Sensorium.Kernel

open Lib Function

/-- The device stands in the `location_index` of `b` under `l`. -/
def RuntimeDevice.StandsAt (dev : RuntimeDevice) (b l : Nat) : Prop :=
  dev.bus = b ∧ dev.transport.located = true ∧ dev.location = l

namespace Inventory

/-- `Listed` and `Files` are about the allocated objects, which are the listed ones. -/
structure Consistent (s : Inventory) : Prop where
  buses : Listed s.bus s.buses
  devices : Listed s.device s.devices
  busIndex : Files s.bus s.busIndex fun bus h => bus.handle = h
  deviceIndex : Files s.device s.deviceIndex fun dev h => dev.handle = h
  deviceBus : ∀ a dev, s.device a = some dev →
    ∃ bus, s.bus dev.bus = some bus ∧ bus.transport = dev.transport
  locations : ∀ b bus, s.bus b = some bus →
    Files s.device bus.locationIndex fun dev l => dev.StandsAt b l
  uart : s.uart.Serves s.device s.devices

theorem consistent_empty : Consistent .empty where
  buses := .nil
  devices := .nil
  busIndex := .nil
  deviceIndex := .nil
  deviceBus _ _ h := nomatch h
  locations _ _ h := nomatch h
  uart :=
    { listed := .nil
      distinct := fun _ _ _ _ h => nomatch h
      carries := fun _ _ h => nomatch h
      refs := fun _ _ h => nomatch h
      used := fun _ _ h => nomatch h
      member := fun _ _ h => nomatch h }

variable {s t : Inventory} {a b : Nat} {dev : RuntimeDevice} {bus : RuntimeBus} {u : UartGroups}

@[simp] theorem putDevice_device (s : Inventory) (a : Nat) (dev : RuntimeDevice) :
    (s.putDevice a dev).device = update s.device a (some dev) := rfl

@[simp] theorem putDevice_uart (s : Inventory) (a : Nat) (dev : RuntimeDevice) :
    (s.putDevice a dev).uart = s.uart := rfl

theorem putDevice_putDevice (s : Inventory) (a : Nat) (dev dev' : RuntimeDevice) :
    (s.putDevice a dev).putDevice a dev' = s.putDevice a dev' := by
  simp [putDevice]

theorem putDevice_uart_putDevice (s : Inventory) (a : Nat) (dev dev' : RuntimeDevice)
    (u : UartGroups) :
    { s.putDevice a dev with uart := u }.putDevice a dev' =
      { s with uart := u }.putDevice a dev' := by
  simp [putDevice]

theorem freeDevice_putDevice (h : s.device a = none) (dev : RuntimeDevice) :
    (s.putDevice a dev).freeDevice a = s := by
  rw [freeDevice, putDevice_device, Heap.update_none h]
  rfl

theorem freeBus_putBus (h : s.bus b = none) (bus : RuntimeBus) :
    (s.putBus b bus).freeBus b = s := by
  rw [freeBus, putBus, Heap.update_none h]

/-! ## Registration -/

/-- What a new device keeps while its subsystem registers it. -/
structure SameDevice (dev dev' : RuntimeDevice) : Prop where
  bus : dev'.bus = dev.bus
  handle : dev'.handle = dev.handle
  transport : dev'.transport = dev.transport
  location : dev'.location = dev.location

theorem SameDevice.refl (dev : RuntimeDevice) : SameDevice dev dev := ⟨rfl, rfl, rfl, rfl⟩

/-- The device at `a` is registered, with the groups `u` in place of those of `s`. -/
structure Registered (s : Inventory) (a : Nat) (dev : RuntimeDevice) (u : UartGroups) : Prop where
  serves : u.Serves (update s.device a (some dev)) (s.devices ++ [a])
  undo : ∀ t : Inventory, t.device a = some dev → t.uart = u →
    ∃ dev', t.unregisterDevice a = some ({ t with uart := s.uart }.putDevice a dev')

/-- An error leaves the inventory as it was, up to the device that is to be freed. -/
def RegisterSpec (s : Inventory) (a : Nat) (dev : RuntimeDevice) (r : Option (Inventory × Int)) :
    Prop :=
  (∃ dev' ret, ret ≠ 0 ∧ r = some (s.putDevice a dev', ret)) ∨
    ∃ dev' u, r = some ({ s with uart := u }.putDevice a dev', 0) ∧ SameDevice dev dev' ∧
      s.Registered a dev' u

theorem registered_of_not_uart (hs : s.uart.Serves s.device s.devices)
    (hl : Listed s.device s.devices) (ha : s.device a = none) (ht : dev.transport ≠ .uart) :
    s.Registered a dev s.uart where
  serves := hs.add_other hl ha ht
  undo t hdev hu := by
    rw [unregisterDevice, hdev]
    simp only [Option.bind_eq_bind, Option.bind_some]
    cases hcase : dev.transport with
    | uart => exact absurd hcase ht
    | spi =>
      simp only [destroySpiDevice, hdev, Option.bind_eq_bind, Option.bind_some, ← hu]
      exact ⟨_, rfl⟩
    | virtual | i2c =>
      refine ⟨dev, ?_⟩
      rw [← hu, putDevice, ← hdev, update_eq_self]

/-- The unwinding of `cmd_device_add`. -/
theorem Registered.unwind (hr : s.Registered a dev u) (ha : s.device a = none) :
    ∃ t, ({ s with uart := u }.putDevice a dev).unregisterDevice a = some t ∧
      t.freeDevice a = s := by
  obtain ⟨dev', hundo⟩ := hr.undo ({ s with uart := u }.putDevice a dev) (update_self _ _ _) rfl
  refine ⟨_, hundo, ?_⟩
  rw [putDevice_uart_putDevice]
  exact freeDevice_putDevice ha dev'

theorem registerSpi_spec (hs : s.uart.Serves s.device s.devices)
    (hl : Listed s.device s.devices) (ha : s.device a = none) (ht : dev.transport = .spi)
    (w : Answers) : s.RegisterSpec a dev ((s.putDevice a dev).registerSpi a w) := by
  rw [registerSpi, putDevice_device, update_self]
  simp only [Option.bind_eq_bind, Option.bind_some]
  split
  · exact .inl ⟨dev, eNoDev, by decide, rfl⟩
  · split
    · exact .inl ⟨dev, _, by assumption, rfl⟩
    · split
      · exact .inl ⟨dev, eNoDev, by decide, rfl⟩
      · split
        · refine .inl ⟨dev, _, ?_, rfl⟩
          split
          · omega
          · decide
        · rw [putDevice_putDevice]
          refine .inr ⟨_, s.uart, rfl, ⟨rfl, rfl, rfl, rfl⟩, ?_⟩
          exact registered_of_not_uart hs hl ha fun he => nomatch ht.symm.trans he

theorem registered_of_opened {g : Nat} {grp : UartGroup} (hs : s.uart.Serves s.device s.devices)
    (hl : Listed s.device s.devices) (ha : s.device a = none)
    (ho : s.uart.Opened s.device s.devices dev.baseName u g grp) (ht : dev.transport = .uart)
    (hr : dev.registered = true) (hg : dev.group = some g) (hfree : grp.ports dev.index = none)
    (hin : dev.index < grp.numPorts) :
    s.Registered a dev (u.put g { grp with ports := update grp.ports dev.index (some a) }) where
  serves := ho.join hs hl ha ht rfl hr hg hfree hin
  undo t hdev hu := by
    rw [unregisterDevice, hdev]
    simp only [Option.bind_eq_bind, Option.bind_some, ht, destroyUartDevice, hdev, hr,
      Bool.not_true, Bool.false_eq_true, if_false, hg, hu, UartGroups.put_group, update_self, hin,
      if_true, ho.clearPort hfree]
    exact ⟨_, rfl⟩

theorem mem_of_parseTtyName {name baseName : Text} {size index c : Nat}
    (h : parseTtyName name size = .ok (baseName, index)) (hc : c ∈ baseName) : c ∈ name := by
  rw [parseTtyName] at h
  split at h
  · cases h
  · split at h
    · cases h
    · split at h
      · cases h
      · cases h
        exact List.mem_of_mem_take hc

theorem length_of_parseTtyName {name baseName : Text} {size index : Nat}
    (h : parseTtyName name size = .ok (baseName, index)) : baseName.length < size := by
  rw [parseTtyName] at h
  split at h
  · cases h
  · split at h
    · cases h
    · rename_i hsplit
      split at h
      · cases h
      · cases h
        rw [List.length_take]
        omega

theorem parseTtyName_error {name : Text} {size : Nat} {ret : Int}
    (h : parseTtyName name size = .error ret) : ret ≠ 0 := by
  have hk : ∀ s, kstrtouint s = .error ret → ret ≠ 0 := by
    intro s hs
    rw [kstrtouint] at hs
    rintro rfl
    generalize (if s.head? = some 43 then s.tail else s) = digits at hs
    generalize (if (digits.dropWhile isDigit).head? = some 10 then _ else _) = rest at hs
    split at hs
    · cases hs
    · split at hs
      · cases hs
      · split at hs
        · cases hs
        · split at hs
          · cases hs
          · cases hs
  rw [parseTtyName] at h
  split at h
  · cases h
    decide
  · split at h
    · cases h
      decide
    · split at h
      · rename_i heq
        cases h
        exact hk _ heq
      · cases h

theorem registerUart_spec (hs : s.uart.Serves s.device s.devices)
    (hl : Listed s.device s.devices) (ha : s.device a = none) (ht : dev.transport = .uart)
    (h0 : 0 ∉ dev.name) (w : Answers) :
    s.RegisterSpec a dev ((s.putDevice a dev).registerUart a w) := by
  rw [registerUart, putDevice_device, update_self]
  simp only [Option.bind_eq_bind, Option.bind_some]
  cases hname : parseTtyName dev.name 32 with
  | error ret => exact .inl ⟨dev, ret, parseTtyName_error hname, rfl⟩
  | ok parsed =>
    obtain ⟨baseName, index⟩ := parsed
    dsimp only
    rw [putDevice_putDevice]
    split
    · exact .inl ⟨_, eInval, by decide, rfl⟩
    · split
      · exact .inl ⟨_, eNoMem, by decide, rfl⟩
      · rw [putDevice_uart]
        rcases UartGroups.groupGet_spec hs hl w (fun hc => h0 (mem_of_parseTtyName hname hc))
            (length_of_parseTtyName hname) with ⟨ret, hret, hget⟩ | ⟨u, g, grp, hget, ho⟩
        · rw [hget]
          exact .inl ⟨_, ret, hret, rfl⟩
        · rw [hget]
          simp only [Option.bind_some, ho.found]
          split
          · rw [ho.undo]
            exact .inl ⟨_, eRange, by decide, rfl⟩
          · rename_i hin
            split
            · rw [ho.undo]
              exact .inl ⟨_, eExist, by decide, rfl⟩
            · rename_i hport
              have hfree : grp.ports index = none := Option.not_isSome_iff_eq_none.mp hport
              split
              · rename_i hret
                rw [ho.clearPort hfree]
                simp only [Option.bind_some, putDevice_putDevice]
                exact .inl ⟨_, _, hret, rfl⟩
              · rw [putDevice_uart_putDevice, putDevice_uart_putDevice]
                refine .inr ⟨_, _, rfl, ⟨rfl, rfl, rfl, rfl⟩, ?_⟩
                exact registered_of_opened hs hl ha ho ht rfl rfl hfree (not_le.mp hin)

theorem registerDevice_spec (hs : s.uart.Serves s.device s.devices)
    (hl : Listed s.device s.devices) (ha : s.device a = none) (h0 : 0 ∉ dev.name) (w : Answers) :
    s.RegisterSpec a dev ((s.putDevice a dev).registerDevice a w) := by
  rw [registerDevice, putDevice_device, update_self]
  simp only [Option.bind_eq_bind, Option.bind_some]
  cases ht : dev.transport with
  | spi => exact registerSpi_spec hs hl ha ht w
  | uart => exact registerUart_spec hs hl ha ht h0 w
  | virtual | i2c =>
    exact .inr ⟨dev, s.uart, rfl, .refl dev,
      registered_of_not_uart hs hl ha fun he => nomatch ht.symm.trans he⟩

/-! ## Insertion into the indexes -/

/-- The devices change, and with them the location index of the bus `b` only. -/
theorem Consistent.of_devices (hc : s.Consistent) (hb : s.bus b = some bus)
    {device : Heap RuntimeDevice} {devices : List Nat} {deviceIndex li : Nat → Option Nat}
    (hlisted : Listed device devices)
    (hindex : Files device deviceIndex fun dev h => dev.handle = h)
    (hbus : ∀ a dev, device a = some dev →
      ∃ bus, s.bus dev.bus = some bus ∧ bus.transport = dev.transport)
    (hother : ∀ b' bus', b' ≠ b → s.bus b' = some bus' →
      Files device bus'.locationIndex fun dev l => dev.StandsAt b' l)
    (hli : Files device li fun dev l => dev.StandsAt b l) (huart : u.Serves device devices) :
    Consistent { s with
      bus := update s.bus b (some { bus with locationIndex := li })
      device := device
      devices := devices
      deviceIndex := deviceIndex
      uart := u } where
  buses := hc.buses.set hb _
  devices := hlisted
  busIndex := hc.busIndex.set hb fun _ => Iff.rfl
  deviceIndex := hindex
  deviceBus a dev ha := by
    obtain ⟨bus', hb', ht⟩ := hbus a dev ha
    by_cases he : dev.bus = b
    · rw [he] at hb' ⊢
      rw [hb] at hb'
      cases hb'
      exact ⟨_, update_self _ _ _, ht⟩
    · exact ⟨bus', by rw [← hb']; exact update_of_ne he _ _, ht⟩
  locations b' bus' hb' := by
    dsimp only at hb' ⊢
    by_cases he : b' = b
    · subst he
      rw [update_self] at hb'
      cases hb'
      exact hli
    · rw [update_of_ne he] at hb'
      exact hother b' bus' he hb'
  uart := huart

theorem putBus_self (hb : s.bus b = some bus) : s.putBus b bus = s := by
  rw [putBus, ← hb, update_eq_self]

theorem xaInsert_of_none {index : Nat → Option Nat} {key : Nat} (h : index key = none)
    (entry : Nat) (memory : Bool) :
    xaInsert index key entry memory =
      if memory then (update index key (some entry), 0) else (index, eNoMem) := by
  rw [xaInsert, h]
  rfl

/-- An error leaves the inventory as it was. -/
def CommandSpec (s : Inventory) (r : Option (Inventory × Int)) : Prop :=
  (∃ ret, ret ≠ 0 ∧ r = some (s, ret)) ∨ ∃ t, r = some (t, 0) ∧ t.Consistent

theorem Consistent.add (hc : s.Consistent) (ha : s.device a = none)
    (hb : s.bus dev.bus = some bus) (ht : bus.transport = dev.transport)
    (hh : s.deviceIndex dev.handle = none) {li : Nat → Option Nat}
    (hli : Files (update s.device a (some dev)) li fun d l => d.StandsAt dev.bus l)
    (hr : s.Registered a dev u) :
    Consistent { s with
      bus := update s.bus dev.bus (some { bus with locationIndex := li })
      device := update s.device a (some dev)
      devices := s.devices ++ [a]
      deviceIndex := update s.deviceIndex dev.handle (some a)
      uart := u } := by
  refine hc.of_devices hb (hc.devices.add ha dev) ?_ ?_ ?_ hli hr.serves
  · exact hc.deviceIndex.add ha hh fun h => eq_comm
  · intro a' dev' ha'
    by_cases he : a' = a
    · subst he
      rw [update_self] at ha'
      cases ha'
      exact ⟨bus, hb, ht⟩
    · rw [update_of_ne he] at ha'
      exact hc.deviceBus a' dev' ha'
  · intro b' bus' hne hb'
    exact (hc.locations b' bus' hb').add_other ha fun l hstands => hne hstands.1.symm

theorem indexDevice_spec (hc : s.Consistent) (ha : s.device a = none)
    (hb : s.bus dev.bus = some bus) (ht : bus.transport = dev.transport)
    (hh : s.deviceIndex dev.handle = none)
    (hl : dev.transport.located = true → bus.locationIndex dev.location = none)
    (hr : s.Registered a dev u) (w : Answers) :
    s.CommandSpec (({ s with uart := u }.putDevice a dev).indexDevice a w) := by
  have hloc := hc.locations dev.bus bus hb
  obtain ⟨t, hundo, hfree⟩ := hr.unwind ha
  rw [indexDevice, putDevice_device, update_self]
  simp only [Option.bind_eq_bind, Option.bind_some]
  have hh' : ({ s with uart := u }.putDevice a dev).deviceIndex dev.handle = none := hh
  rw [xaInsert_of_none hh']
  cases w.xaHandle with
  | false =>
    -- nothing is indexed, and the registration is undone
    simp only [Bool.false_eq_true, if_false]
    rw [if_pos (by decide), hundo]
    exact .inl ⟨eNoMem, by decide, by rw [← hfree]; rfl⟩
  | true =>
    simp only [if_true, ne_eq, not_true, if_false]
    split
    · rename_i hnot
      have hnot : dev.transport.located ≠ true := by simpa using hnot
      refine .inr ⟨_, rfl, ?_⟩
      have hadd := hc.add ha hb ht hh (hloc.add_other ha fun l hstands => hnot hstands.2.1) hr
      rwa [show update s.bus dev.bus (some bus) = s.bus by rw [← hb, update_eq_self]] at hadd
    · rename_i hin
      have hin : dev.transport.located = true := by simpa using hin
      have hb' : ({ s with uart := u }.putDevice a dev).bus dev.bus = some bus := hb
      rw [hb']
      simp only [Option.bind_some]
      rw [xaInsert_of_none (hl hin)]
      cases w.xaLocation with
      | false =>
        simp only [Bool.false_eq_true, if_false]
        rw [if_pos (by decide)]
        -- the handle is taken out again before the registration is undone
        have hback : { (({ ({ s with uart := u }.putDevice a dev) with
            deviceIndex := update s.deviceIndex dev.handle (some a) } : Inventory).putBus dev.bus
              bus) with
            deviceIndex := update (update s.deviceIndex dev.handle (some a)) dev.handle none } =
            { s with uart := u }.putDevice a dev := by
          rw [putBus_self (by exact hb), update_idem, ← hh, update_eq_self]
          rfl
        refine .inl ⟨eNoMem, by decide, ?_⟩
        refine (congrArg (fun x : Inventory =>
          (x.unregisterDevice a).bind fun t => some (t.freeDevice a, eNoMem)) hback).trans ?_
        rw [hundo, Option.bind_some, hfree]
      | true =>
        simp only [if_true, not_true, if_false]
        refine .inr ⟨_, rfl, ?_⟩
        refine hc.add ha hb ht hh (hloc.add ha (hl hin) fun l => ?_) hr
        simp only [RuntimeDevice.StandsAt, hin, true_and]
        exact eq_comm

/-! ## Additions -/

theorem notMem_strscpy (src : Text) (size : Nat) : 0 ∉ strscpy src size := by
  intro h
  have hne := List.mem_takeWhile_imp (List.mem_of_mem_take h)
  exact of_decide_eq_true hne rfl

theorem enterDevice_spec (hc : s.Consistent) {cmd : DeviceCmd} {transport : TransportType}
    (hb : s.bus b = some bus) (ht : bus.transport = transport)
    (hh : s.deviceIndex cmd.handle = none)
    (hl : transport.located = true → bus.locationIndex cmd.location = none) (w : Answers) :
    s.CommandSpec (s.enterDevice cmd b transport w) := by
  rw [enterDevice]
  cases halloc : s.device.alloc w.kzalloc with
  | none => exact .inl ⟨eNoMem, by decide, rfl⟩
  | some a =>
    have ha : s.device a = none := Heap.alloc_eq_some halloc
    dsimp only
    split
    · exact .inl ⟨eInval, by decide, by rw [freeDevice_putDevice ha]⟩
    · have h0 : 0 ∉ (cmd.device b transport).name := notMem_strscpy cmd.name 64
      rcases registerDevice_spec hc.uart hc.devices ha h0 w with
        ⟨dev', ret, hret, hreg⟩ | ⟨dev', u, hreg, hsame, hr⟩
      · rw [hreg]
        simp only [Option.bind_eq_bind, Option.bind_some]
        rw [if_pos hret, freeDevice_putDevice ha]
        exact .inl ⟨ret, hret, rfl⟩
      · rw [hreg]
        simp only [Option.bind_eq_bind, Option.bind_some]
        rw [if_neg fun h => h rfl]
        have hbus : s.bus dev'.bus = some bus := by rw [hsame.bus]; exact hb
        refine indexDevice_spec hc ha hbus (ht.trans hsame.transport.symm) ?_ ?_ hr w
        · rw [hsame.handle]
          exact hh
        · rw [hsame.transport, hsame.location]
          exact hl

theorem cmdDeviceAdd_spec (hc : s.Consistent) (cmd : DeviceCmd) (w : Answers) :
    s.CommandSpec (s.cmdDeviceAdd cmd w) := by
  rw [cmdDeviceAdd]
  split
  · exact .inl ⟨eInval, by decide, rfl⟩
  · exact .inl ⟨eInval, by decide, rfl⟩
  · split
    · exact .inl ⟨eExist, by decide, rfl⟩
    · rename_i transport _ _ hnew
      have hh : s.deviceIndex cmd.handle = none := Option.not_isSome_iff_eq_none.mp hnew
      cases hfind : s.busIndex cmd.busHandle with
      | none => exact .inl ⟨eNoEnt, by decide, rfl⟩
      | some b =>
        obtain ⟨bus, hb, -⟩ := (hc.busIndex _ _).mp hfind
        simp only [hb, Option.bind_eq_bind, Option.bind_some]
        split
        · exact .inl ⟨eNoEnt, by decide, rfl⟩
        · rename_i ht
          split
          · exact .inl ⟨eExist, by decide, rfl⟩
          · rename_i hloc
            split
            · exact .inl ⟨eExist, by decide, rfl⟩
            · refine enterDevice_spec hc hb (not_not.mp ht) hh (fun hin => ?_) w
              rw [hin, Bool.true_and] at hloc
              exact Option.not_isSome_iff_eq_none.mp hloc

theorem registerBus_same (bus : RuntimeBus) (w : Answers) :
    (registerBus bus w).1.handle = bus.handle ∧
      (registerBus bus w).1.locationIndex = bus.locationIndex := by
  unfold registerBus
  repeat' split
  all_goals exact ⟨rfl, rfl⟩

theorem Consistent.addBus (hc : s.Consistent) (hb : s.bus b = none)
    (hh : s.busIndex bus.handle = none) (hempty : bus.locationIndex = fun _ => none) :
    Consistent { s with
      bus := update s.bus b (some bus)
      busIndex := update s.busIndex bus.handle (some b)
      buses := s.buses ++ [b] } where
  buses := hc.buses.add hb bus
  devices := hc.devices
  busIndex := hc.busIndex.add hb hh fun h => eq_comm
  deviceIndex := hc.deviceIndex
  deviceBus a dev ha := by
    obtain ⟨bus', hb', ht⟩ := hc.deviceBus a dev ha
    refine ⟨bus', ?_, ht⟩
    rw [← hb']
    exact update_of_ne (fun he => by rw [he, hb] at hb'; cases hb') _ _
  locations b' bus' hb' := by
    dsimp only at hb' ⊢
    by_cases he : b' = b
    · subst he
      rw [update_self] at hb'
      cases hb'
      -- a device of the new bus would have been a device of a bus that was not there
      intro l a
      rw [hempty]
      constructor
      · intro h
        cases h
      · rintro ⟨dev, ha, hstands⟩
        obtain ⟨bus', hb', -⟩ := hc.deviceBus a dev ha
        rw [hstands.1, hb] at hb'
        cases hb'
    · rw [update_of_ne he] at hb'
      exact hc.locations b' bus' hb'
  uart := hc.uart

theorem cmdBusAdd_spec (hc : s.Consistent) (cmd : BusCmd) (w : Answers) :
    s.CommandSpec (some (s.cmdBusAdd cmd w)) := by
  rw [cmdBusAdd]
  split
  · exact .inl ⟨eInval, by decide, rfl⟩
  · split
    · exact .inl ⟨eExist, by decide, rfl⟩
    · rename_i transport _ hnew
      have hh : s.busIndex cmd.handle = none := Option.not_isSome_iff_eq_none.mp hnew
      cases halloc : s.bus.alloc w.kzalloc with
      | none => exact .inl ⟨eNoMem, by decide, rfl⟩
      | some b =>
        have hb : s.bus b = none := Heap.alloc_eq_some halloc
        dsimp only
        generalize hreg : registerBus _ w = registered
        obtain ⟨hhandle, hempty⟩ := registerBus_same _ w
        rw [hreg] at hhandle hempty
        split
        · rename_i hret
          exact .inl ⟨_, hret, by rw [freeBus_putBus hb]⟩
        · have hh' : (s.putBus b registered.1).busIndex cmd.handle = none := hh
          rw [xaInsert_of_none hh']
          cases w.xaHandle with
          | false =>
            simp only [Bool.false_eq_true, if_false]
            rw [if_pos (by decide), freeBus_putBus hb]
            exact .inl ⟨eNoMem, by decide, rfl⟩
          | true =>
            simp only [if_true]
            refine .inr ⟨_, rfl, ?_⟩
            have hadd := @Consistent.addBus s b registered.1 hc hb (hhandle ▸ hh) hempty
            rw [hhandle] at hadd
            exact hadd

/-! ## Removals -/

theorem unregisterDevice_spec (hc : s.Consistent) (ha : s.device a = some dev) :
    ∃ u dev', s.unregisterDevice a = some ({ s with uart := u }.putDevice a dev') ∧
      u.Serves (update s.device a none) (s.devices.erase a) := by
  rw [unregisterDevice, ha]
  simp only [Option.bind_eq_bind, Option.bind_some]
  have hother : dev.transport ≠ .uart → s.uart.Serves (update s.device a none) (s.devices.erase a) :=
    hc.uart.erase_other hc.devices ha
  cases ht : dev.transport with
  | spi =>
    rw [destroySpiDevice, ha]
    exact ⟨s.uart, _, rfl, hother fun he => nomatch ht.symm.trans he⟩
  | uart =>
    obtain ⟨g, grp, u, hgroup, hg, hin, hclear, hserves⟩ := hc.uart.leave hc.devices ha ht
    rw [destroyUartDevice, ha]
    simp only [Option.bind_eq_bind, Option.bind_some, (hc.uart.member a dev ha ht).1, hgroup, hg,
      hin, if_true, hclear]
    exact ⟨u, _, rfl, hserves⟩
  | virtual | i2c =>
    refine ⟨s.uart, dev, ?_, hother fun he => nomatch ht.symm.trans he⟩
    rw [putDevice, ← ha, update_eq_self]

theorem Consistent.erase (hc : s.Consistent) (ha : s.device a = some dev)
    (hb : s.bus dev.bus = some bus) (ht : bus.transport = dev.transport)
    (hserves : u.Serves (update s.device a none) (s.devices.erase a)) :
    Consistent { s with
      bus := update s.bus dev.bus
        (some { bus with locationIndex := update bus.locationIndex dev.location none })
      device := update s.device a none
      devices := s.devices.erase a
      deviceIndex := update s.deviceIndex dev.handle none
      uart := u } := by
  -- the key under which the device stands is the only one it stands under
  have hloc := hc.locations dev.bus bus hb
  refine hc.of_devices hb (hc.devices.erase a) ?_ ?_ ?_ ?_ hserves
  · refine hc.deviceIndex.erase (fun dev₁ h ha₁ hh => ?_) fun a' ha' => ?_
    · rw [ha] at ha₁
      cases ha₁
      exact hh.symm
    · have hself := (hc.deviceIndex dev.handle a).mpr ⟨dev, ha, rfl⟩
      rw [hself] at ha'
      exact (Option.some.inj ha').symm
  · intro a' dev₁ ha'
    by_cases he : a' = a
    · subst he
      rw [update_self] at ha'
      cases ha'
    · rw [update_of_ne he] at ha'
      exact hc.deviceBus a' dev₁ ha'
  · intro b' bus' hne hb'
    refine (hc.locations b' bus' hb').erase_other fun dev₁ l ha₁ hstands => ?_
    rw [ha] at ha₁
    cases ha₁
    exact hne hstands.1.symm
  · refine hloc.erase (fun dev₁ l ha₁ hstands => ?_) fun a' ha' => ?_
    · rw [ha] at ha₁
      cases ha₁
      exact hstands.2.2.symm
    · -- on a bus without locations the index is empty
      obtain ⟨dev₁, ha₁, hbus, hin, hl⟩ := (hloc dev.location a').mp ha'
      obtain ⟨bus₁, hb₁, ht₁⟩ := hc.deviceBus a' dev₁ ha₁
      rw [hbus, hb] at hb₁
      cases hb₁
      have hself := (hloc dev.location a).mpr ⟨dev, ha, rfl, by rw [← ht, ht₁]; exact hin, rfl⟩
      rw [hself] at ha'
      exact (Option.some.inj ha').symm

/-- What the destruction of a device leaves. -/
structure Without (s : Inventory) (a : Nat) (t : Inventory) : Prop where
  consistent : t.Consistent
  device : t.device = update s.device a none
  busIndex : t.busIndex = s.busIndex
  buses : t.buses = s.buses

theorem destroyDevice_spec (hc : s.Consistent) (ha : s.device a = some dev) :
    ∃ t, s.destroyDevice a = some t ∧ s.Without a t := by
  obtain ⟨u, dev', hun, hserves⟩ := unregisterDevice_spec hc ha
  obtain ⟨bus, hb, ht⟩ := hc.deviceBus a dev ha
  have hb' : ({ s with uart := u }.putDevice a dev').bus dev.bus = some bus := hb
  rw [destroyDevice, ha]
  simp only [Option.bind_eq_bind, Option.bind_some, hun, hb']
  have hdevice : update ({ s with uart := u }.putDevice a dev').device a none =
      update s.device a none := update_idem _ _ _
  refine ⟨_, rfl, ?_, hdevice, rfl, rfl⟩
  simp only [putBus, putDevice, update_idem]
  exact hc.erase ha hb ht hserves

/-- What a loop over devices leaves: of those it went through, the ones that were not chosen. -/
structure Swept (s : Inventory) (chosen : RuntimeDevice → Bool) (as : List Nat) (t : Inventory) :
    Prop where
  consistent : t.Consistent
  device : ∀ a dev, t.device a = some dev →
    s.device a = some dev ∧ (a ∈ as → chosen dev = false)
  busIndex : t.busIndex = s.busIndex
  buses : t.buses = s.buses

theorem destroyDevices_spec (hc : s.Consistent) (chosen : RuntimeDevice → Bool) {as : List Nat}
    (hnodup : as.Nodup) (hlive : ∀ a ∈ as, ∃ dev, s.device a = some dev) :
    ∃ t, s.destroyDevices chosen as = some t ∧ s.Swept chosen as t := by
  induction as generalizing s with
  | nil => exact ⟨s, rfl, hc, fun a dev ha => ⟨ha, fun h => nomatch h⟩, rfl, rfl⟩
  | cons a as ih =>
    obtain ⟨hnot, hnodup⟩ := List.nodup_cons.mp hnodup
    obtain ⟨dev, ha⟩ := hlive a List.mem_cons_self
    rw [destroyDevices, ha]
    simp only [Option.bind_eq_bind, Option.bind_some]
    cases hch : chosen dev with
    | true =>
      obtain ⟨t, hdes, hw⟩ := destroyDevice_spec hc ha
      have hlive' : ∀ a' ∈ as, ∃ dev, t.device a' = some dev := by
        intro a' ha'
        rw [hw.device, update_of_ne (ne_of_mem_of_not_mem ha' hnot)]
        exact hlive a' (List.mem_cons_of_mem _ ha')
      obtain ⟨t', hall, hs⟩ := ih hw.consistent hnodup hlive'
      rw [if_pos rfl, hdes]
      refine ⟨t', hall, hs.consistent, ?_, hs.busIndex.trans hw.busIndex, hs.buses.trans hw.buses⟩
      intro a' dev' ha'
      obtain ⟨hold, hkeep⟩ := hs.device a' dev' ha'
      rw [hw.device] at hold
      by_cases he : a' = a
      · subst he
        rw [update_self] at hold
        cases hold
      · rw [update_of_ne he] at hold
        exact ⟨hold, fun hmem => hkeep (List.mem_of_ne_of_mem he hmem)⟩
    | false =>
      obtain ⟨t, hall, hs⟩ :=
        ih hc hnodup fun a' ha' => hlive a' (List.mem_cons_of_mem _ ha')
      rw [if_neg (by decide)]
      refine ⟨t, hall, hs.consistent, ?_, hs.busIndex, hs.buses⟩
      intro a' dev' ha'
      obtain ⟨hold, hkeep⟩ := hs.device a' dev' ha'
      refine ⟨hold, fun hmem => ?_⟩
      by_cases he : a' = a
      · subst he
        rw [ha] at hold
        cases hold
        exact hch
      · exact hkeep (List.mem_of_ne_of_mem he hmem)

theorem destroyBus_spec (hc : s.Consistent) (hb : s.bus b = some bus)
    (hnone : ∀ a dev, s.device a = some dev → dev.bus ≠ b) :
    ∃ t, s.destroyBus b = some t ∧ t.Consistent ∧ t.bus = update s.bus b none ∧
      t.device = s.device := by
  rw [destroyBus, hb]
  refine ⟨_, rfl, ?_, rfl, rfl⟩
  refine ⟨hc.buses.erase b, hc.devices, ?_, hc.deviceIndex, ?_, ?_, hc.uart⟩
  · refine hc.busIndex.erase (fun bus₁ h hb₁ hh => ?_) fun b' hb' => ?_
    · rw [hb] at hb₁
      cases hb₁
      exact hh.symm
    · have hself := (hc.busIndex bus.handle b).mpr ⟨bus, hb, rfl⟩
      rw [hself] at hb'
      exact (Option.some.inj hb').symm
  · intro a dev ha
    obtain ⟨bus₁, hb₁, ht⟩ := hc.deviceBus a dev ha
    exact ⟨bus₁, by rw [← hb₁]; exact update_of_ne (hnone a dev ha) _ _, ht⟩
  · intro b' bus' hb'
    dsimp only at hb' ⊢
    by_cases he : b' = b
    · subst he
      rw [update_self] at hb'
      cases hb'
    · rw [update_of_ne he] at hb'
      exact hc.locations b' bus' hb'

theorem destroyBuses_spec (hc : s.Consistent) (hnone : ∀ a, s.device a = none) {bs : List Nat}
    (hnodup : bs.Nodup) (hlive : ∀ b ∈ bs, ∃ bus, s.bus b = some bus) :
    ∃ t, s.destroyBuses bs = some t ∧ t.Consistent := by
  induction bs generalizing s with
  | nil => exact ⟨s, rfl, hc⟩
  | cons b bs ih =>
    obtain ⟨hnot, hnodup⟩ := List.nodup_cons.mp hnodup
    obtain ⟨bus, hb⟩ := hlive b List.mem_cons_self
    obtain ⟨t, hdes, hct, hbus, hdev⟩ :=
      destroyBus_spec hc hb fun a dev ha => by rw [hnone a] at ha; cases ha
    have hlive' : ∀ b' ∈ bs, ∃ bus, t.bus b' = some bus := by
      intro b' hb'
      rw [hbus, update_of_ne (ne_of_mem_of_not_mem hb' hnot)]
      exact hlive b' (List.mem_cons_of_mem _ hb')
    rw [destroyBuses, hdes]
    exact ih hct (by rw [hdev]; exact hnone) hnodup hlive'

theorem cmdBusRemove_spec (hc : s.Consistent) (handle : Nat) :
    s.CommandSpec (s.cmdBusRemove handle) := by
  rw [cmdBusRemove]
  cases hfind : s.busIndex handle with
  | none => exact .inl ⟨eNoEnt, by decide, rfl⟩
  | some b =>
    obtain ⟨t, hdes, hs⟩ := destroyDevices_spec hc (fun dev => dev.bus = b) hc.devices.nodup
      fun a ha => (hc.devices.live a).mp ha
    obtain ⟨bus, hb, -⟩ := (hs.consistent.busIndex handle b).mp (by rw [hs.busIndex, hfind])
    obtain ⟨t', hbus, hct, -⟩ := destroyBus_spec hs.consistent hb fun a dev ha he => by
      obtain ⟨hold, hkeep⟩ := hs.device a dev ha
      exact of_decide_eq_false (hkeep (hc.devices.mem hold)) he
    simp only [hdes, Option.bind_eq_bind, Option.bind_some, hbus]
    exact .inr ⟨t', rfl, hct⟩

theorem cmdDeviceRemove_spec (hc : s.Consistent) (handle : Nat) :
    s.CommandSpec (s.cmdDeviceRemove handle) := by
  rw [cmdDeviceRemove]
  cases hfind : s.deviceIndex handle with
  | none => exact .inl ⟨eNoEnt, by decide, rfl⟩
  | some a =>
    obtain ⟨dev, ha, -⟩ := (hc.deviceIndex handle a).mp hfind
    obtain ⟨t, hdes, hw⟩ := destroyDevice_spec hc ha
    simp only [hdes, Option.bind_eq_bind, Option.bind_some]
    exact .inr ⟨t, rfl, hw.consistent⟩

theorem resetLocked_spec (hc : s.Consistent) : ∃ t, s.resetLocked = some t ∧ t.Consistent := by
  obtain ⟨t, hdes, hs⟩ := destroyDevices_spec hc (fun _ => true) hc.devices.nodup
    fun a ha => (hc.devices.live a).mp ha
  have hnone : ∀ a, t.device a = none := by
    intro a
    cases ha : t.device a with
    | none => rfl
    | some dev =>
      obtain ⟨hold, hkeep⟩ := hs.device a dev ha
      exact absurd (hkeep (hc.devices.mem hold)) (by decide)
  obtain ⟨t', hbuses, hct⟩ := destroyBuses_spec hs.consistent hnone hs.consistent.buses.nodup
    fun b hb => (hs.consistent.buses.live b).mp hb
  rw [resetLocked, hdes]
  exact ⟨t', hbuses, hct⟩

/-! ## Commands -/

theorem handleControlMessage_spec (hc : s.Consistent) (m : InventoryCmd) (payloadLen : Nat)
    (w : Answers) : s.CommandSpec (s.handleControlMessage m payloadLen w) := by
  unfold handleControlMessage
  split
  · exact .inl ⟨eInval, by decide, rfl⟩
  · cases m with
    | reset =>
      obtain ⟨t, hreset, hct⟩ := resetLocked_spec hc
      simp only [hreset, Option.bind_eq_bind, Option.bind_some]
      exact .inr ⟨_, rfl, { hct with }⟩
    | busAdd cmd => exact cmdBusAdd_spec hc cmd w
    | busRemove handle => exact cmdBusRemove_spec hc handle
    | deviceAdd cmd => exact cmdDeviceAdd_spec hc cmd w
    | deviceRemove handle => exact cmdDeviceRemove_spec hc handle

/-! ## Runs -/

/-- The lists, the indexes and the groups agree. -/
structure Sound (s : Inventory) : Prop where
  busList : s.buses.Nodup ∧ ∀ b ∈ s.buses, ∃ bus, s.bus b = some bus
  busIndex : ∀ h b, s.busIndex h = some b ↔ b ∈ s.buses ∧ ∃ bus, s.bus b = some bus ∧ bus.handle = h
  deviceList : s.devices.Nodup ∧ ∀ a ∈ s.devices, ∃ dev, s.device a = some dev
  deviceIndex : ∀ h a, s.deviceIndex h = some a ↔
    a ∈ s.devices ∧ ∃ dev, s.device a = some dev ∧ dev.handle = h
  deviceBus : ∀ a ∈ s.devices, ∃ dev bus, s.device a = some dev ∧ dev.bus ∈ s.buses ∧
    s.bus dev.bus = some bus ∧ bus.transport = dev.transport
  locations : ∀ b ∈ s.buses, ∀ bus, s.bus b = some bus → ∀ l a, bus.locationIndex l = some a ↔
    a ∈ s.devices ∧ ∃ dev, s.device a = some dev ∧ dev.StandsAt b l
  groupList : s.uart.list.Nodup ∧ ∀ g ∈ s.uart.list, ∀ g' ∈ s.uart.list, ∀ grp grp',
    s.uart.group g = some grp → s.uart.group g' = some grp' → grp.baseName = grp'.baseName → g = g'
  groupExists : ∀ name, (∃ g ∈ s.uart.list, ∃ grp, s.uart.group g = some grp ∧
    grp.baseName = name) ↔ ∃ a ∈ s.devices, ∃ dev, s.device a = some dev ∧ dev.uses name = true
  groupRefs : ∀ g ∈ s.uart.list, ∀ grp, s.uart.group g = some grp →
    grp.refs = s.devices.countP fun a => (s.device a).any fun dev => dev.uses grp.baseName
  groupPorts : ∀ g ∈ s.uart.list, ∀ grp, s.uart.group g = some grp → ∀ i a, grp.ports i = some a ↔
    a ∈ s.devices ∧ ∃ dev, s.device a = some dev ∧ dev.OnPort grp.baseName i

theorem Consistent.sound (hc : s.Consistent) : s.Sound where
  busList := ⟨hc.buses.nodup, fun b hb => (hc.buses.live b).mp hb⟩
  busIndex := hc.busIndex.listed hc.buses
  deviceList := ⟨hc.devices.nodup, fun a ha => (hc.devices.live a).mp ha⟩
  deviceIndex := hc.deviceIndex.listed hc.devices
  deviceBus a ha := by
    obtain ⟨dev, hdev⟩ := (hc.devices.live a).mp ha
    obtain ⟨bus, hb, ht⟩ := hc.deviceBus a dev hdev
    exact ⟨dev, bus, hdev, hc.buses.mem hb, hb, ht⟩
  locations b _ bus hb := (hc.locations b bus hb).listed hc.devices
  groupList := ⟨hc.uart.listed.nodup, fun g _ g' _ => hc.uart.distinct g g'⟩
  groupExists name := by
    constructor
    · rintro ⟨g, -, grp, hg, rfl⟩
      have hpos := hc.uart.used g grp hg
      rw [hc.uart.refs g grp hg] at hpos
      obtain ⟨a, dev, ha, hu⟩ := (population_pos hc.devices).mp hpos
      exact ⟨a, hc.devices.mem ha, dev, ha, hu⟩
    · rintro ⟨a, -, dev, ha, hu⟩
      obtain ⟨ht, hn⟩ := RuntimeDevice.uses_iff.mp hu
      obtain ⟨-, g, grp, -, hg, hname⟩ := hc.uart.member a dev ha ht
      exact ⟨g, hc.uart.listed.mem hg, grp, hg, hname.trans hn⟩
  groupRefs g _ grp hg := hc.uart.refs g grp hg
  groupPorts g _ grp hg := (hc.uart.carries g grp hg).ports.listed hc.devices

theorem CommandSpec.step {r : Option (Inventory × Int)} (hc : s.Consistent)
    (h : s.CommandSpec r) : ∃ t ret, r = some (t, ret) ∧ t.Consistent ∧ (ret ≠ 0 → t = s) := by
  rcases h with ⟨ret, -, hr⟩ | ⟨t, hr, hct⟩
  · exact ⟨s, ret, hr, hc, fun _ => rfl⟩
  · exact ⟨t, 0, hr, hct, fun h => absurd rfl h⟩

theorem consistent_of_exec (hc : s.Consistent) (es : List ControlEntry) :
    ∃ t, exec controlStep s es = some t ∧ t.Consistent := by
  induction es generalizing s with
  | nil => exact ⟨s, rfl, hc⟩
  | cons e es ih =>
    obtain ⟨t, ret, hstep, hct, -⟩ :=
      (handleControlMessage_spec hc e.message e.payloadLen e.answers).step hc
    obtain ⟨t', hexec, hct'⟩ := ih hct
    refine ⟨t', ?_, hct'⟩
    rw [exec, controlStep, hstep]
    exact hexec

end Inventory

/-- Any sequence of control commands runs to its end and leaves an inventory whose lists, indexes
and groups agree, and there a command that returns an error changes nothing. -/
theorem control_commands_sound (es : List ControlEntry) :
    ∃ s, exec controlStep .empty es = some s ∧ s.Sound ∧
      ∀ e : ControlEntry, ∃ t ret,
        s.handleControlMessage e.message e.payloadLen e.answers = some (t, ret) ∧
          (ret ≠ 0 → t = s) := by
  obtain ⟨s, hexec, hc⟩ := Inventory.consistent_of_exec Inventory.consistent_empty es
  refine ⟨s, hexec, hc.sound, fun e => ?_⟩
  obtain ⟨t, ret, hstep, -, herr⟩ :=
    (Inventory.handleControlMessage_spec hc e.message e.payloadLen e.answers).step hc
  exact ⟨t, ret, hstep, herr⟩

/-- Everything succeeds, and `a` and `g` are the addresses given out. -/
def Answers.willing (a g : Nat) : Answers where
  kzalloc := some a
  kzallocGroup := some g
  kcallocPorts := true
  kmallocTx := true
  kmallocRx := true
  xaHandle := true
  xaLocation := true
  i2cAddNumberedAdapter := 0
  spiAllocHost := true
  spiRegisterController := 0
  spiNewDevice := true
  setDriverOverride := 0
  spiSetup := 0
  deviceAttach := 1
  ttyAllocDriver := 0
  ttyRegisterDriver := 0
  ttyPortRegisterDevice := 0
  uartLines := 1024

-- `ttyS01` is another name for the port of `ttyS1`: the name check lets it through, the port check
-- does not.
example :
    (exec controlStep .empty
      [⟨.busAdd ⟨1, 3, text "uart0"⟩, 76, .willing 1 0⟩,
        ⟨.deviceAdd ⟨10, 3, 1, 1, 0, 0, 0, text "ttyS1"⟩, 92, .willing 1 7⟩,
        ⟨.deviceAdd ⟨11, 3, 1, 1, 0, 0, 0, text "ttyS01"⟩, 92, .willing 2 8⟩,
        ⟨.deviceAdd ⟨12, 3, 1, 2, 0, 0, 0, text "ttyS2"⟩, 92, .willing 3 8⟩]).map
      (fun s => (s.devices, s.uart.list, (s.uart.group 7).map UartGroup.refs)) =
      some ([1, 3], [7], some 2) := by
  decide +kernel

end Sensorium.Kernel

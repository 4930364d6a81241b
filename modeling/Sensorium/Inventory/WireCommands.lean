import Sensorium.Inventory.State
import Sensorium.Kernel.Inventory

/-!
# Commands on the wire

What `_add_bus_locked` and `_add_device_locked` pack for each item of a model, and the checks that
the kernel makes of a command before it turns to its lists and to the I2C, SPI and tty cores.
-/

namespace Sensorium.Inventory

open Lib Model
open Sensorium.Kernel (BusCmd DeviceCmd TransportType cString strscpy kstrtouint digitSplit)

/-! ## Packing -/

/-- `encode_c_string`, as the characters of the field. -/
def encodeCString (name : Text) (length : Nat) : Option Text :=
  match utf8? name with
  | some bs =>
    if bs.length < length then
      some (bs.map UInt8.toNat ++ List.replicate (length - bs.length) 0)
    else none
  | none => none

/-- `TRANSPORT_IDS`. -/
def transportId : Transport → Nat
  | .i2c => 1
  | .spi => 2
  | .uart => 3

/-- The payload of `BUS_ADD`; `none` is an exception of `encode_c_string` or of `pack`. -/
def packBus (handle : Nat) (bus : Bus) : Option BusCmd :=
  match encodeCString bus.name 64 with
  | some name => if fitsU32 handle then some ⟨handle, transportId bus.transport, name⟩ else none
  | none => none

/-- The payload of `DEVICE_ADD`. -/
def packDevice (handle busHandle : Nat) (dev : Device) : Option DeviceCmd := do
  let place ← location dev.part
  let spi ← spiFields dev
  let name ← encodeCString (nodeName dev) 64
  if fitsU32 handle && fitsU32 busHandle && fitsU32 place && fitsU32 spi.maxSpeedHz &&
      fitsU8 spi.mode && fitsU8 spi.bitsPerWord then
    some ⟨handle, transportId dev.part.transport, busHandle, place, spi.maxSpeedHz, spi.mode,
      spi.bitsPerWord, name⟩
  else none

/-- `UART_MODEM_BITS`. -/
def modemBits : List (Text × Nat) :=
  [(text "rts", 0x004), (text "cts", 0x020), (text "dtr", 0x002), (text "dsr", 0x100),
    (text "cd", 0x040), (text "ri", 0x080)]

/-- The loop of `modem_defaults`: the mask and the values. -/
def modemDefaults : Nat × Nat → List (Text × Bool) → Nat × Nat
  | acc, [] => acc
  | acc, (name, enabled) :: rest =>
    match dictGet modemBits (name.map lowerAscii) with
    | none => modemDefaults acc rest
    | some bit =>
      modemDefaults (acc.1 ||| bit, if enabled then acc.2 ||| bit else acc.2) rest

/-- `_sync_uart_defaults`: whether what it packs fits. -/
def packsModem (handle : Nat) : Part → Bool
  | .uart _ (.template .uartScript script) =>
    let (mask, values) := modemDefaults (0, 0) script.controlDefaults
    mask = 0 || fitsU32 handle && fitsU32 mask && fitsU32 values
  | _ => true

/-! ## The checks of the kernel -/

/-- What `sensorium_runtime_cmd_bus_add` asks of the command itself. -/
def passesBus (cmd : BusCmd) : Bool :=
  match TransportType.ofCode cmd.transport with
  | none => false
  | some .i2c => (Kernel.parseI2cName (strscpy cmd.name 64)).isOk
  | some .spi => (Kernel.parseSpiName (strscpy cmd.name 64)).isOk
  | some .virtual | some .uart => true

/-- What `sensorium_runtime_cmd_device_add` asks of the command itself. -/
def passesDevice (cmd : DeviceCmd) : Bool :=
  match TransportType.ofCode cmd.transport with
  | none | some .virtual => false
  | some .i2c => true
  | some .spi => !cmd.badSpi
  | some .uart =>
    match Kernel.parseTtyName (strscpy cmd.name 64) 32 with
    | .error _ => false
    | .ok (_, index) => cmd.location = index

theorem kstrtouint_error {s : Text} {ret : Int} (h : kstrtouint s = .error ret) : ret ≠ 0 := by
  unfold kstrtouint at h
  dsimp only at h
  repeat' split at h
  all_goals first
    | (cases h; decide)
    | cases h

theorem parseI2cName_error {name : Text} {ret : Int} (h : Kernel.parseI2cName name = .error ret) :
    ret ≠ 0 := by
  unfold Kernel.parseI2cName at h
  repeat' split at h
  · cases h; decide
  · cases h; decide
  · cases h; decide
  · exact kstrtouint_error h

theorem parseSpiName_error {name : Text} {ret : Int} (h : Kernel.parseSpiName name = .error ret) :
    ret ≠ 0 := by
  unfold Kernel.parseSpiName at h
  repeat' split at h
  · cases h; decide
  · cases h; decide
  · exact kstrtouint_error h

theorem parseTtyName_error {name : Text} {size : Nat} {ret : Int}
    (h : Kernel.parseTtyName name size = .error ret) : ret ≠ 0 := by
  unfold Kernel.parseTtyName at h
  dsimp only at h
  repeat' split at h
  · cases h; decide
  · cases h; decide
  · rename_i hk
    cases h
    exact kstrtouint_error hk
  · cases h

-- The name is all that registering a bus asks of it.
theorem registerBus_eq_zero_iff (bus : Kernel.RuntimeBus) {w : Kernel.Answers}
    (hi2c : w.i2cAddNumberedAdapter = 0) (hhost : w.spiAllocHost = true)
    (hspi : w.spiRegisterController = 0) :
    (Kernel.Inventory.registerBus bus w).2 = 0 ↔
      (bus.transport = .i2c → (Kernel.parseI2cName bus.name).isOk = true) ∧
      (bus.transport = .spi → (Kernel.parseSpiName bus.name).isOk = true) := by
  unfold Kernel.Inventory.registerBus
  cases bus.transport with
  | virtual | uart => exact iff_of_true rfl ⟨nofun, nofun⟩
  | i2c =>
    dsimp only
    cases hparse : Kernel.parseI2cName bus.name with
    | error ret => exact iff_of_false (parseI2cName_error hparse) fun h => nomatch h.1 rfl
    | ok index =>
      dsimp only
      rw [if_neg (not_not.mpr hi2c)]
      exact iff_of_true rfl ⟨fun _ => rfl, nofun⟩
  | spi =>
    dsimp only
    cases hparse : Kernel.parseSpiName bus.name with
    | error ret => exact iff_of_false (parseSpiName_error hparse) fun h => nomatch h.2 rfl
    | ok index =>
      dsimp only
      rw [hhost, if_neg (by decide), if_neg (not_not.mpr hspi)]
      exact iff_of_true rfl ⟨nofun, fun _ => rfl⟩

/-- Where the handle is new, memory is found and the cores agree, `BUS_ADD` succeeds exactly if the
command passes. -/
theorem cmdBusAdd_eq_zero_iff {k : Kernel.Inventory} {cmd : BusCmd} {w : Kernel.Answers} {b : Nat}
    (hnew : k.busIndex cmd.handle = none) (halloc : k.bus.alloc w.kzalloc = some b)
    (hxa : w.xaHandle = true) (hi2c : w.i2cAddNumberedAdapter = 0)
    (hhost : w.spiAllocHost = true) (hspi : w.spiRegisterController = 0) :
    (k.cmdBusAdd cmd w).2 = 0 ↔ passesBus cmd = true := by
  unfold Kernel.Inventory.cmdBusAdd passesBus
  cases TransportType.ofCode cmd.transport with
  | none => exact iff_of_false (show Kernel.eInval ≠ 0 by decide) Bool.false_ne_true
  | some transport =>
    dsimp only
    rw [hnew, halloc]
    simp only [Option.isSome_none, Bool.false_eq_true, if_false]
    have hregister := registerBus_eq_zero_iff ⟨cmd.handle, transport, strscpy cmd.name 64,
      fun _ => none, 0, false⟩ hi2c hhost hspi
    generalize Kernel.Inventory.registerBus _ w = registered at hregister ⊢
    have hindex (bus : Kernel.RuntimeBus) : (k.putBus b bus).busIndex cmd.handle = none := hnew
    refine Iff.trans ?_ (hregister.trans ?_)
    · by_cases hr : registered.2 = 0
      · rw [if_neg (not_not.mpr hr), Kernel.xaInsert, hindex, hxa]
        exact iff_of_true rfl hr
      · rw [if_pos hr]
    cases transport with
    | virtual | uart => exact iff_of_true ⟨(by cases ·), (by cases ·)⟩ rfl
    | i2c => exact ⟨fun h => h.1 rfl, fun h => ⟨fun _ => h, (by cases ·)⟩⟩
    | spi => exact ⟨fun h => h.2 rfl, fun h => ⟨(by cases ·), fun _ => h⟩⟩

/-- A port is registered only under a name with the number that is its location. -/
theorem registerUart_eq_zero {k k' : Kernel.Inventory} {a : Nat} {dev : Kernel.RuntimeDevice}
    {w : Kernel.Answers} (hdev : k.device a = some dev)
    (h : k.registerUart a w = some (k', 0)) :
    ∃ base, Kernel.parseTtyName dev.name 32 = .ok (base, dev.location) := by
  unfold Kernel.Inventory.registerUart at h
  rw [hdev, Option.bind_eq_bind, Option.bind_some] at h
  cases hparse : Kernel.parseTtyName dev.name 32 with
  | error ret =>
    rw [hparse] at h
    cases h
    exact absurd rfl (parseTtyName_error hparse)
  | ok parsed =>
    rw [hparse] at h
    dsimp only at h
    split at h
    · cases h
    · rename_i hlocation
      have heq : dev.location = parsed.2 := not_not.mp hlocation
      exact ⟨parsed.1, by rw [heq]⟩

/-- No command that fails a check adds a device. -/
theorem passesDevice_of_cmdDeviceAdd {k k' : Kernel.Inventory} {cmd : DeviceCmd}
    {w : Kernel.Answers} (h : k.cmdDeviceAdd cmd w = some (k', 0)) : passesDevice cmd = true := by
  have hentered : ∃ transport b, TransportType.ofCode cmd.transport = some transport ∧
      transport ≠ .virtual ∧ k.enterDevice cmd b transport w = some (k', 0) := by
    unfold Kernel.Inventory.cmdDeviceAdd at h
    split at h
    · cases h
    · cases h
    · rename_i transport hvirtual htransport
      split at h
      · cases h
      · split at h
        · cases h
        · obtain ⟨bus, _, h⟩ := Option.bind_eq_some_iff.mp h
          split at h
          · cases h
          · split at h
            · cases h
            · split at h
              · cases h
              · exact ⟨transport, _, htransport, hvirtual, h⟩
  obtain ⟨transport, b, htransport, hvirtual, h⟩ := hentered
  unfold Kernel.Inventory.enterDevice at h
  split at h
  · cases h
  · rename_i a _
    dsimp only at h
    split at h
    · cases h
    · rename_i hspi
      unfold passesDevice
      rw [htransport]
      cases transport with
      | virtual => exact absurd rfl hvirtual
      | i2c => rfl
      | spi => simpa using hspi
      | uart =>
        have hdev : (k.putDevice a (cmd.device b .uart)).device a = some (cmd.device b .uart) :=
          Function.update_self a _ _
        obtain ⟨⟨s, ret⟩, hregister, h⟩ := Option.bind_eq_some_iff.mp h
        have hret : ret = 0 := by
          dsimp only at h
          split at h
          · exact (Prod.mk.inj (Option.some.inj h)).2
          · rename_i hzero
            exact not_not.mp hzero
        unfold Kernel.Inventory.registerDevice at hregister
        rw [hdev, Option.bind_eq_bind, Option.bind_some, hret] at hregister
        obtain ⟨base, hparse⟩ := registerUart_eq_zero hdev hregister
        have hparse : Kernel.parseTtyName (strscpy cmd.name 64) 32 = .ok (base, cmd.location) :=
          hparse
        dsimp only
        rw [hparse]
        exact decide_eq_true rfl

/-! ## Names -/

theorem lt_of_isNameChar {c : Nat} (h : isNameChar c = true) : 0 < c ∧ c < 128 := by
  unfold isNameChar isLetter isDigit at h
  simp only [Bool.or_eq_true, Bool.and_eq_true, decide_eq_true_eq] at h
  omega

section Names

variable {s : Text} (hs : s.all isNameChar = true)

include hs

/-- A name is stored as it is, or it is too long. -/
theorem encodeCString_of_name (length : Nat) : encodeCString s length =
    if s.length < length then some (s ++ List.replicate (length - s.length) 0) else none := by
  have hchars (c : Nat) (hc : c ∈ s) := lt_of_isNameChar (List.all_eq_true.mp hs c hc)
  have hbytes : (s.map UInt8.ofNat).map UInt8.toNat = s := by
    rw [List.map_map]
    refine List.map_congr_left (fun c hc => ?_) |>.trans (List.map_id s)
    have hlt := (hchars c hc).2
    simp only [Function.comp_apply, UInt8.toNat_ofNat', id_eq]
    omega
  rw [encodeCString, utf8?_of_ascii fun c hc => (hchars c hc).2]
  dsimp only
  rw [List.length_map, hbytes]

theorem strscpy_of_name (hlen : s.length < 64) (n : Nat) :
    strscpy (s ++ List.replicate n 0) 64 = s := by
  have hchars : ∀ c ∈ s, decide (c ≠ 0) = true := by
    intro c hc
    have hpos := (lt_of_isNameChar (List.all_eq_true.mp hs c hc)).1
    exact decide_eq_true (by omega)
  have hcut : cString (s ++ List.replicate n 0) = s := by
    rw [cString, List.takeWhile_append_of_pos hchars]
    cases n with
    | zero => exact List.append_nil s
    | succ n => exact List.append_nil s
  rw [strscpy, hcut]
  exact List.take_of_length_le (by omega)

end Names

/-- The kernel reads a canonical number back, if it is one of 32 bits. -/
theorem kstrtouint_decimal (n : Nat) :
    kstrtouint (decimal n) = if n < 2 ^ 32 then .ok n else .error Kernel.eRange := by
  have hdigits : ∀ c ∈ decimal n, isDigit c = true := fun _ hc => isDigit_of_mem_decimal hc
  have htake : (decimal n).takeWhile isDigit = decimal n := List.takeWhile_eq_self_iff.mpr hdigits
  have hdrop : (decimal n).dropWhile isDigit = [] := List.dropWhile_eq_nil_iff.mpr hdigits
  have hsign : (decimal n).head? ≠ some 43 := by
    intro hhead
    have hmem := hdigits 43 (List.mem_of_head? hhead)
    exact absurd hmem (by decide)
  unfold kstrtouint
  simp only [if_neg hsign, htake, hdrop, decimalValue_decimal, decimal_ne_nil, List.head?_nil,
    reduceCtorEq, if_false, ne_eq, not_true_eq_false]
  split
  · rw [if_neg (by omega)]
  · split
    · rw [if_neg (by omega)]
    · rw [if_pos (by omega)]

theorem digitSplit_append_decimal {base : Text} (hbase : base.rdropWhile isDigit = base) (n : Nat) :
    digitSplit (base ++ decimal n) = base.length := by
  rw [digitSplit, rdropWhile_append_decimal hbase]

theorem parseI2cName_decimal (n : Nat) :
    Kernel.parseI2cName (text "i2c-" ++ decimal n) = kstrtouint (decimal n) := by
  have htake : (text "i2c-" ++ decimal n).take 4 = text "i2c-" := rfl
  have hdrop : (text "i2c-" ++ decimal n).drop 4 = decimal n := rfl
  rw [Kernel.parseI2cName, if_neg (by simp [decimal_ne_nil]), htake, if_neg (not_not.mpr rfl),
    hdrop, if_neg (decimal_ne_nil n)]

theorem parseSpiName_decimal (n : Nat) :
    Kernel.parseSpiName (text "spi" ++ decimal n) = kstrtouint (decimal n) := by
  have hstem : (text "spi").rdropWhile isDigit = text "spi" := by decide
  have hsplit := digitSplit_append_decimal hstem n
  have hlen : 0 < (decimal n).length := List.length_pos_iff.mpr (decimal_ne_nil n)
  rw [Kernel.parseSpiName, hsplit, if_neg (by simp [decimal_ne_nil]), if_neg ?_]
  · rfl
  · rw [List.length_append]
    have hthree : (text "spi").length = 3 := rfl
    omega

theorem parseTtyName_decimal {base : Text} (hbase : base.rdropWhile isDigit = base)
    (hne : base ≠ []) (n size : Nat) : Kernel.parseTtyName (base ++ decimal n) size =
      if base.length < size ∧ n < 2 ^ 32 then .ok (base, n)
      else if base.length < size then .error Kernel.eRange else .error Kernel.eInval := by
  have hsplit := digitSplit_append_decimal hbase n
  have hlen : 0 < (decimal n).length := List.length_pos_iff.mpr (decimal_ne_nil n)
  have hpos : 0 < base.length := List.length_pos_iff.mpr hne
  unfold Kernel.parseTtyName
  dsimp only
  rw [hsplit, if_neg (by simp [hne]), List.length_append, List.drop_left, List.take_left,
    kstrtouint_decimal]
  by_cases hsize : base.length < size
  · rw [if_neg (by omega), if_pos hsize]
    by_cases hn : n < 2 ^ 32
    · rw [if_pos hn, if_pos ⟨hsize, hn⟩]
    · rw [if_neg hn, if_neg fun h => hn h.2]
  · rw [if_pos (by omega), if_neg fun h => hsize h.1, if_neg hsize]

/-! ## What the adds of the daemon pack -/

theorem isSome_encodeCString (name : Text) :
    (encodeCString name 64).isSome = encodesCString name := by
  unfold encodeCString encodesCString
  cases utf8? name with
  | none => rfl
  | some bs =>
    dsimp only
    split
    · rename_i hlen
      exact (decide_eq_true hlen).symm
    · rename_i hlen
      exact (decide_eq_false hlen).symm

/-- `_add_bus_locked` raises before the write exactly where the command is not packed. -/
theorem isSome_packBus (handle : Nat) (bus : Bus) :
    (packBus handle bus).isSome = (fitsU32 handle && encodesCString bus.name) := by
  rw [← isSome_encodeCString, packBus]
  cases encodeCString bus.name 64 with
  | none => cases fitsU32 handle <;> rfl
  | some name => cases fitsU32 handle <;> rfl

/-- `_add_device_locked` raises before the write exactly where the bus is unknown or the command is
not packed. -/
theorem isSome_deviceCommand (d : Daemon) (dev : Device) : (deviceCommand d dev).isSome = true ↔
    ∃ bus ∈ dictGet d.buses dev.bus,
      (packDevice d.nextDeviceHandle bus.handle dev).isSome = true := by
  unfold deviceCommand packDevice
  cases dictGet d.buses dev.bus with
  | none => simp
  | some bus =>
    have hname := isSome_encodeCString (nodeName dev)
    cases location dev.part with
    | none => simp
    | some place =>
      cases spiFields dev with
      | none => simp
      | some spi =>
        cases hencode : encodeCString (nodeName dev) 64 with
        | none =>
          rw [hencode] at hname
          simp [← hname]
        | some name =>
          rw [hencode] at hname
          simp only [Option.bind_eq_bind, Option.bind_some, ← hname, Option.isSome_some,
            Bool.and_true, Option.mem_def, Option.some.injEq, exists_eq_left']
          split <;> simp

end Sensorium.Inventory

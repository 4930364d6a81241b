import Sensorium.Inventory.WireCommands
import Sensorium.Inventory.RoundTrip
import Sensorium.Inventory.Index

/-!
# Which accepted models can be sent

The normaliser bounds some of the fields that go on the wire; the others have to be bounded by the
model itself, and so do the texts that a template is built from between two commands.  The exact
limits are stated item by item and carried through the adds of a run.
-/

namespace Sensorium.Inventory

open Lib Model
open Sensorium.Kernel (BusCmd DeviceCmd strscpy kstrtouint)

/-! ## Buses -/

/-- The number at the end of a name. -/
def numberOf (name : Text) : Nat := decimalValue (name.rtakeWhile isDigit)

theorem numberOf_append_decimal {base : Text} (hbase : base.rdropWhile isDigit = base) (n : Nat) :
    numberOf (base ++ decimal n) = n := by
  rw [numberOf, rtakeWhile_append_decimal hbase, decimalValue_decimal]

/-- The number of an I2C or SPI bus is one of 32 bits; the name of a UART bus fits its field. -/
def BusWithin (b : Bus) : Prop :=
  match b.transport with
  | .i2c | .spi => numberOf b.name < 2 ^ 32
  | .uart => b.name.length < 64

theorem numberedBusName_shape {stem style : String} {v : Value} {label : Label} {s : Text}
    (h : expectNumberedBusName stem style v label = .ok s) :
    s.all isNameChar = true ∧ ∃ n, s = text stem ++ decimal n := by
  unfold expectNumberedBusName at h
  obtain ⟨t, ht, h⟩ := bind_eq_ok.mp h
  dsimp only at h
  split at h
  · obtain ⟨n, _, h⟩ := bind_eq_ok.mp h
    split at h
    · rename_i hcanon
      cases h
      exact ⟨(expectName_eq_ok.mp ht).2, n, hcanon⟩
    · cases h
  · cases h

/-- The name of an accepted bus. -/
theorem busName_shape {b : Bus} (h : b.Normal) : b.name.all isNameChar = true ∧
    (b.transport = .i2c → ∃ n, b.name = text "i2c-" ++ decimal n) ∧
    (b.transport = .spi → ∃ n, b.name = text "spi" ++ decimal n) := by
  obtain ⟨v, l, h⟩ := h
  unfold normalizeRuntimeBusItem at h
  obtain ⟨item, _, h⟩ := bind_eq_ok.mp h
  obtain ⟨id, _, h⟩ := bind_eq_ok.mp h
  obtain ⟨transport, _, h⟩ := bind_eq_ok.mp h
  cases transport with
  | i2c =>
    obtain ⟨name, hname, h⟩ := bind_eq_ok.mp h
    obtain ⟨metadata, _, h⟩ := bind_eq_ok.mp h
    cases h
    obtain ⟨hchars, hshape⟩ := numberedBusName_shape hname
    exact ⟨hchars, fun _ => hshape, nofun⟩
  | spi =>
    obtain ⟨name, hname, h⟩ := bind_eq_ok.mp h
    obtain ⟨metadata, _, h⟩ := bind_eq_ok.mp h
    cases h
    obtain ⟨hchars, hshape⟩ := numberedBusName_shape hname
    exact ⟨hchars, nofun, fun _ => hshape⟩
  | uart =>
    obtain ⟨name, hname, h⟩ := bind_eq_ok.mp h
    obtain ⟨metadata, _, h⟩ := bind_eq_ok.mp h
    cases h
    exact ⟨(expectName_eq_ok.mp hname).2, nofun, nofun⟩

/-- A short base and a number of 32 bits make a name that fits. -/
theorem length_of_numbered {base : Text} {n : Nat} (hbase : base.length < 32) (hn : n < 2 ^ 32) :
    (base ++ decimal n).length < 64 := by
  have hdigits : (decimal n).length ≤ 10 := length_decimal_le (by decide) (by omega)
  rw [List.length_append]
  omega

theorem isOk_kstrtouint_decimal (n : Nat) :
    (kstrtouint (decimal n)).isOk = true ↔ n < 2 ^ 32 := by
  rw [kstrtouint_decimal]
  split
  · exact iff_of_true rfl ‹_›
  · exact iff_of_false nofun ‹_›

theorem packBus_eq_some {handle : Nat} {b : Bus} (hb : b.Normal) {cmd : BusCmd} :
    packBus handle b = some cmd ↔ b.name.length < 64 ∧ handle < 2 ^ 32 ∧
      cmd = ⟨handle, transportId b.transport,
        b.name ++ List.replicate (64 - b.name.length) 0⟩ := by
  unfold packBus
  rw [encodeCString_of_name (busName_shape hb).1]
  by_cases hlen : b.name.length < 64
  · rw [if_pos hlen]
    dsimp only
    simp only [fitsU32, decide_eq_true_eq]
    split
    · rename_i hfits
      rw [Option.some.injEq]
      exact ⟨fun h => ⟨hlen, hfits, h.symm⟩, fun h => h.2.2.symm⟩
    · rename_i hfits
      exact ⟨nofun, fun h => absurd h.2.1 hfits⟩
  · rw [if_neg hlen]
    exact ⟨nofun, fun h => absurd h.1 hlen⟩

/-- `BUS_ADD` is packed and passes the checks of the kernel. -/
def BusSent (handle : Nat) (b : Bus) : Prop := ∃ cmd ∈ packBus handle b, passesBus cmd = true

theorem busSent_iff {b : Bus} (hb : b.Normal) (handle : Nat) :
    BusSent handle b ↔ handle < 2 ^ 32 ∧ BusWithin b := by
  obtain ⟨hchars, hi2c, hspi⟩ := busName_shape hb
  -- What the kernel reads of a name that fits.
  have hpasses (hlen : b.name.length < 64) :
      passesBus ⟨handle, transportId b.transport,
        b.name ++ List.replicate (64 - b.name.length) 0⟩ = true ↔
        (b.transport ≠ .uart → numberOf b.name < 2 ^ 32) := by
    unfold passesBus
    dsimp only
    rw [strscpy_of_name hchars hlen]
    cases ht : b.transport with
    | i2c =>
      obtain ⟨n, hn⟩ := hi2c ht
      rw [hn, numberOf_append_decimal (by decide)]
      change (Kernel.parseI2cName _).isOk = true ↔ _
      rw [parseI2cName_decimal, isOk_kstrtouint_decimal]
      exact ⟨fun h _ => h, fun h => h nofun⟩
    | spi =>
      obtain ⟨n, hn⟩ := hspi ht
      rw [hn, numberOf_append_decimal (by decide)]
      change (Kernel.parseSpiName _).isOk = true ↔ _
      rw [parseSpiName_decimal, isOk_kstrtouint_decimal]
      exact ⟨fun h _ => h, fun h => h nofun⟩
    | uart => exact ⟨fun _ h => absurd rfl h, fun _ => rfl⟩
  have hsent : BusSent handle b ↔ b.name.length < 64 ∧ handle < 2 ^ 32 ∧
      (b.transport ≠ .uart → numberOf b.name < 2 ^ 32) := by
    constructor
    · rintro ⟨cmd, hcmd, hpass⟩
      obtain ⟨hlen, hfits, rfl⟩ := (packBus_eq_some hb).mp hcmd
      exact ⟨hlen, hfits, (hpasses hlen).mp hpass⟩
    · rintro ⟨hlen, hfits, hnumber⟩
      exact ⟨_, (packBus_eq_some hb).mpr ⟨hlen, hfits, rfl⟩, (hpasses hlen).mpr hnumber⟩
  rw [hsent, BusWithin]
  cases ht : b.transport with
  | i2c =>
    obtain ⟨n, hn⟩ := hi2c ht
    dsimp only
    rw [hn, numberOf_append_decimal (by decide)]
    exact ⟨fun h => ⟨h.2.1, h.2.2 nofun⟩,
      fun h => ⟨length_of_numbered (by decide) h.2, h.1, fun _ => h.2⟩⟩
  | spi =>
    obtain ⟨n, hn⟩ := hspi ht
    dsimp only
    rw [hn, numberOf_append_decimal (by decide)]
    exact ⟨fun h => ⟨h.2.1, h.2.2 nofun⟩,
      fun h => ⟨length_of_numbered (by decide) h.2, h.1, fun _ => h.2⟩⟩
  | uart => exact ⟨fun h => ⟨h.2.1, h.1⟩, fun h => ⟨h.2, h.1, fun hne => absurd rfl hne⟩⟩

/-! ## Devices -/

/-- The fields of a device that the normaliser does not bound: the identifier that is the name of an
I2C device, the speed of an SPI device, the base and the number of a port name. -/
def FieldsWithin (dev : Device) : Prop :=
  match dev.part with
  | .i2c _ _ => dev.id.length < 64
  | .spi _ _ _ => ∀ speed ∈ settingInt dev.settings "max_speed_hz" 500000, speed < 2 ^ 32
  | .uart portName _ => (portName.rdropWhile isDigit).length < 32 ∧ numberOf portName < 2 ^ 32

/-- The line responses of a UART template have no lone surrogates. -/
def RepliesWithin : Part → Prop
  | .uart _ (.template .uartScript script) =>
    ∀ p ∈ script.lineResponses, ∀ c ∈ p.2, Nat.isValidChar c
  | _ => True

def DeviceWithin (dev : Device) : Prop := FieldsWithin dev ∧ RepliesWithin dev.part

/-- `DEVICE_ADD` is packed and passes the checks of the kernel, then the template is built, and the
modem lines are packed. -/
def DeviceSent (handle busHandle : Nat) (dev : Device) : Prop :=
  (∃ cmd ∈ packDevice handle busHandle dev, passesDevice cmd = true) ∧
    buildsTemplate dev.part = true ∧ packsModem handle dev.part = true

theorem buildsTemplate_iff (part : Part) : buildsTemplate part = true ↔ RepliesWithin part := by
  cases part with
  | i2c _ _ | spi _ _ _ => exact iff_of_true rfl trivial
  | uart _ backend =>
    cases backend with
    | controller _ => exact iff_of_true rfl trivial
    | template kind script =>
      cases kind with
      | uartScript => simp only [buildsTemplate, RepliesWithin, List.all_eq_true, isSome_utf8?]
      | i2cRegisterBank | spiScript => exact iff_of_true rfl trivial

/-- The command of a device whose fields all fit. -/
def wireDevice (handle busHandle : Nat) (dev : Device) (place : Nat) (spi : SpiFields) :
    DeviceCmd :=
  ⟨handle, transportId dev.part.transport, busHandle, place, spi.maxSpeedHz, spi.mode,
    spi.bitsPerWord, nodeName dev ++ List.replicate (64 - (nodeName dev).length) 0⟩

theorem packDevice_eq_some {dev : Device} {place : Nat} {spi : SpiFields}
    (hplace : location dev.part = some place) (hspi : spiFields dev = some spi)
    (hname : (nodeName dev).all isNameChar = true) {handle busHandle : Nat} {cmd : DeviceCmd} :
    packDevice handle busHandle dev = some cmd ↔
      ((nodeName dev).length < 64 ∧ handle < 2 ^ 32 ∧ busHandle < 2 ^ 32 ∧ place < 2 ^ 32 ∧
        spi.maxSpeedHz < 2 ^ 32 ∧ spi.mode < 256 ∧ spi.bitsPerWord < 256) ∧
      cmd = wireDevice handle busHandle dev place spi := by
  unfold packDevice
  rw [hplace, hspi, encodeCString_of_name hname]
  by_cases hlen : (nodeName dev).length < 64
  · rw [if_pos hlen]
    simp only [bind, Option.bind, fitsU32, fitsU8, Bool.and_eq_true, decide_eq_true_eq]
    split
    · rename_i hfits
      rw [Option.some.injEq]
      exact ⟨fun h => ⟨⟨hlen, by omega⟩, h.symm⟩, fun h => h.2.symm⟩
    · rename_i hfits
      exact ⟨nofun, fun h => absurd h.1.2 fun hall => hfits (by omega)⟩
  · rw [if_neg hlen]
    exact ⟨nofun, fun h => absurd h.1.1 hlen⟩

theorem packed_iff {dev : Device} {place : Nat} {spi : SpiFields}
    (hplace : location dev.part = some place) (hspi : spiFields dev = some spi)
    (hname : (nodeName dev).all isNameChar = true) (handle busHandle : Nat) :
    (∃ cmd ∈ packDevice handle busHandle dev, passesDevice cmd = true) ↔
      ((nodeName dev).length < 64 ∧ handle < 2 ^ 32 ∧ busHandle < 2 ^ 32 ∧ place < 2 ^ 32 ∧
        spi.maxSpeedHz < 2 ^ 32 ∧ spi.mode < 256 ∧ spi.bitsPerWord < 256) ∧
      passesDevice (wireDevice handle busHandle dev place spi) = true := by
  constructor
  · rintro ⟨cmd, hcmd, hpass⟩
    obtain ⟨hfits, rfl⟩ := (packDevice_eq_some hplace hspi hname).mp hcmd
    exact ⟨hfits, hpass⟩
  · rintro ⟨hfits, hpass⟩
    exact ⟨_, (packDevice_eq_some hplace hspi hname).mpr ⟨hfits, rfl⟩, hpass⟩

/-- The bits of the modem lines stay below 512. -/
theorem modemDefaults_lt (acc : Nat × Nat) (entries : List (Text × Bool))
    (hacc : acc.1 < 2 ^ 9 ∧ acc.2 < 2 ^ 9) :
    (modemDefaults acc entries).1 < 2 ^ 9 ∧ (modemDefaults acc entries).2 < 2 ^ 9 := by
  induction entries generalizing acc with
  | nil => exact hacc
  | cons p entries ih =>
    rw [modemDefaults]
    split
    · exact ih acc hacc
    · rename_i bit hbit
      have hlt : bit < 2 ^ 9 := by
        have hall : ∀ q ∈ modemBits, q.2 < 2 ^ 9 := by decide
        exact hall _ (mem_of_dictGet hbit)
      refine ih _ ⟨Nat.or_lt_two_pow hacc.1 hlt, ?_⟩
      split
      · exact Nat.or_lt_two_pow hacc.2 hlt
      · exact hacc.2

theorem packsModem_of_lt {handle : Nat} (h : handle < 2 ^ 32) (part : Part) :
    packsModem handle part = true := by
  unfold packsModem
  split
  · rename_i script
    have hbits := modemDefaults_lt (0, 0) script.controlDefaults (by decide)
    generalize modemDefaults (0, 0) script.controlDefaults = bits at hbits
    simp only [fitsU32, Bool.or_eq_true, Bool.and_eq_true, decide_eq_true_eq]
    exact .inr ⟨⟨by omega, by omega⟩, by omega⟩
  · rfl

/-! ### Accepted devices -/

theorem spidevName_length {index chipSelect : Nat} (hi : index < 2 ^ 32) (hc : chipSelect < 256) :
    (spidevName index chipSelect).length < 64 := by
  have hindex : (decimal index).length ≤ 10 := length_decimal_le (by decide) (by omega)
  have hchip : (decimal chipSelect).length ≤ 10 := length_decimal_le (by decide) (by omega)
  have hstem : (text "spidev").length = 6 := rfl
  have hdot : (text ".").length = 1 := rfl
  unfold spidevName
  rw [List.length_append, List.length_append, List.length_append]
  omega

/-- A port name is a base and a number in its only spelling. -/
theorem portName_shape {v : Value} {label : Label} {s : Text}
    (h : expectRuntimeUartPortName v label = .ok s) : s.all isNameChar = true ∧
    ∃ base index, s = base ++ decimal index ∧ base.rdropWhile isDigit = base ∧ base ≠ [] ∧
      parseTtyName s = some (base, index) := by
  unfold expectRuntimeUartPortName at h
  obtain ⟨⟨t, base, index⟩, hsplit, h⟩ := bind_eq_ok.mp h
  dsimp only at h
  split at h
  · rename_i hcanon
    cases h
    unfold splitRuntimeNumericSuffix at hsplit
    obtain ⟨u, hu, hsplit⟩ := bind_eq_ok.mp hsplit
    dsimp only at hsplit
    split at hsplit
    · rename_i hword
      obtain ⟨i, hi, hsplit⟩ := bind_eq_ok.mp hsplit
      cases hsplit
      refine ⟨(expectName_eq_ok.mp hu).2, _, index, hcanon, List.rdropWhile_idempotent _ _, ?_, ?_⟩
      · intro hnil
        rw [hnil] at hword
        simp at hword
      · unfold parseTtyName
        dsimp only
        rw [if_pos hword]
        unfold intOfDigits at hi
        split at hi
        · rename_i n hn
          cases hi
          rw [hn]
          rfl
        · cases hi
    · cases hsplit
  · cases h

theorem intOfDigits_decimal {n m : Nat} (h : intOfDigits (decimal n) = .ok m) : m = n := by
  unfold intOfDigits at h
  split at h
  · rename_i k hk
    cases h
    exact decimalLiteral?_decimal hk
  · cases h

/-- `DEVICE_ADD` for a port of an accepted name. -/
theorem uartPacked_iff {v : Value} {label : Label} {port : Text}
    (hport : expectRuntimeUartPortName v label = .ok port) {dev : Device}
    {backend : Backend UartScript} (hpart : dev.part = .uart port backend) {base : Text}
    {index : Nat} (hparse : parseTtyName port = some (base, index)) {handle busHandle : Nat} :
    (∃ cmd ∈ packDevice handle busHandle dev, passesDevice cmd = true) ↔
      handle < 2 ^ 32 ∧ busHandle < 2 ^ 32 ∧ base.length < 32 ∧ index < 2 ^ 32 := by
  obtain ⟨hchars, base', index', hshape, hbase, hne, hparse'⟩ := portName_shape hport
  cases Option.some.inj (hparse.symm.trans hparse')
  have hname : nodeName dev = port := by rw [nodeName, hpart]
  have hplace : location dev.part = some index := by
    rw [hpart, location, hparse]
    rfl
  have hspi : spiFields dev = some ⟨0, 0, 0⟩ := by rw [spiFields, hpart]
  have hpass (hlen : port.length < 64) :
      passesDevice (wireDevice handle busHandle dev index ⟨0, 0, 0⟩) = true ↔
        base.length < 32 ∧ index < 2 ^ 32 := by
    unfold passesDevice wireDevice
    dsimp only
    rw [hpart, hname, strscpy_of_name hchars hlen, hshape]
    have hkind : Kernel.TransportType.ofCode
        (transportId (Part.uart (base ++ decimal index) backend).transport) = some .uart := rfl
    simp only [hkind, parseTtyName_decimal hbase hne]
    split
    · rename_i e he
      refine iff_of_false Bool.false_ne_true fun hwithin => ?_
      rw [if_pos hwithin] at he
      cases he
    · rename_i i he
      split at he
      · rename_i hwithin
        cases he
        exact iff_of_true (decide_eq_true rfl) hwithin
      · split at he <;> cases he
  rw [packed_iff hplace hspi (by rw [hname]; exact hchars), hname]
  constructor
  · rintro ⟨hfits, hsent⟩
    exact ⟨hfits.2.1, hfits.2.2.1, (hpass hfits.1).mp hsent⟩
  · rintro ⟨hh, hb, hwithin⟩
    have hlen : port.length < 64 := by
      rw [hshape]
      exact length_of_numbered hwithin.1 hwithin.2
    exact ⟨⟨hlen, hh, hb, hwithin.2, by decide, by decide, by decide⟩, (hpass hlen).mpr hwithin⟩

section Accepted

variable {buses : List (Text × Bus)} {v : Value} {label : Label} {z : Device}
  (h : normalizeRuntimeDeviceItem v buses label = .ok z) {handle busHandle : Nat}

include h

theorem i2cSent_iff {address : Nat} {backend : Backend RegisterBank}
    (hpart : z.part = .i2c address backend) :
    (∃ cmd ∈ packDevice handle busHandle z, passesDevice cmd = true) ↔
      handle < 2 ^ 32 ∧ busHandle < 2 ^ 32 ∧ z.id.length < 64 := by
  obtain ⟨item, bus, fields, head, _, _, hz⟩ := normalizeRuntimeDeviceItem_eq_ok.mp h
  have hchecked := hz.part
  rw [hpart] at hchecked
  obtain ⟨a, haddress, hchecked⟩ := bind_eq_ok.mp hchecked
  obtain ⟨full, _, hchecked⟩ := bind_eq_ok.mp hchecked
  have hsame : a = address := by injection (Prod.mk.inj (Except.ok.inj hchecked)).1
  have hbound := (expectHexInt_eq_ok.mp haddress).2.2 0x7f rfl
  have hname : nodeName z = z.id := by rw [nodeName, hpart]
  have hplace : location z.part = some address := by rw [hpart]; rfl
  have hspi : spiFields z = some ⟨0, 0, 0⟩ := by rw [spiFields, hpart]
  have hpass : passesDevice (wireDevice handle busHandle z address ⟨0, 0, 0⟩) = true := by
    rw [passesDevice, wireDevice, hpart]
    rfl
  have hchars : (nodeName z).all isNameChar = true := by
    rw [hname]
    exact (expectName_eq_ok.mp hz.id).2
  rw [packed_iff hplace hspi hchars, hname]
  constructor
  · intro hsent
    exact ⟨hsent.1.2.1, hsent.1.2.2.1, hsent.1.1⟩
  · intro hwithin
    exact ⟨⟨hwithin.2.2, hwithin.1, hwithin.2.1, by omega, by decide, by decide, by decide⟩, hpass⟩

theorem spiSent_iff (hbus : ∀ bus, dictGet buses z.bus = some bus → bus.Normal ∧ BusWithin bus)
    {chipSelect : Nat} {name : Text} {backend : Backend SpiScript}
    (hpart : z.part = .spi chipSelect name backend) :
    (∃ cmd ∈ packDevice handle busHandle z, passesDevice cmd = true) ↔
      handle < 2 ^ 32 ∧ busHandle < 2 ^ 32 ∧
        ∀ speed ∈ settingInt z.settings "max_speed_hz" 500000, speed < 2 ^ 32 := by
  obtain ⟨item, bus, fields, head, _, hfind, hz⟩ := normalizeRuntimeDeviceItem_eq_ok.mp h
  have hchecked := hz.part
  rw [hpart] at hchecked
  obtain ⟨c, hchip, hchecked⟩ := bind_eq_ok.mp hchecked
  obtain ⟨index, hindex, hchecked⟩ := bind_eq_ok.mp hchecked
  obtain ⟨t, hchars, hchecked⟩ := bind_eq_ok.mp hchecked
  obtain ⟨_, hcanon, hchecked⟩ := bind_eq_ok.mp hchecked
  obtain ⟨settings, hsettings, hchecked⟩ := bind_eq_ok.mp hchecked
  obtain ⟨full, _, hchecked⟩ := bind_eq_ok.mp hchecked
  obtain ⟨hsame, hset⟩ := Prod.mk.inj (Except.ok.inj hchecked)
  injection hsame with hc ht
  subst hc ht
  have hcanon : t = spidevName index c := by
    unfold checkDeviceName at hcanon
    split at hcanon
    · assumption
    · cases hcanon
  have hc256 := (expectHexInt_eq_ok.mp hchip).2.2 255 rfl
  -- The number in the name of the device is that of the bus.
  have hi32 : index < 2 ^ 32 := by
    have htransport : bus.transport = .spi := by rw [← hz.same, hpart]; rfl
    obtain ⟨hnormal, hwithin⟩ := hbus bus hfind
    obtain ⟨n, hn⟩ := (busName_shape hnormal).2.2 htransport
    rw [BusWithin, htransport, hn, numberOf_append_decimal (by decide)] at hwithin
    rw [hn] at hindex
    rw [intOfDigits_decimal (n := n) hindex]
    exact hwithin
  unfold normalizeSpiSettings at hsettings
  obtain ⟨given, _, hsettings⟩ := bind_eq_ok.mp hsettings
  obtain ⟨mode, hmode, hsettings⟩ := bind_eq_ok.mp hsettings
  obtain ⟨bits, hbits, hsettings⟩ := bind_eq_ok.mp hsettings
  obtain ⟨speed, hspeed, hsettings⟩ := bind_eq_ok.mp hsettings
  have hstored := hset.symm.trans (Except.ok.inj hsettings).symm
  have hmode3 := (expectHexInt_eq_ok.mp hmode).2.2 3 rfl
  have hbits1 := (expectHexInt_eq_ok.mp hbits).2.1
  have hbits32 := (expectHexInt_eq_ok.mp hbits).2.2 32 rfl
  have hspeed1 := (expectHexInt_eq_ok.mp hspeed).2.1
  have hname : nodeName z = t := by rw [nodeName, hpart]
  have hplace : location z.part = some c := by rw [hpart]; rfl
  have hspi : spiFields z = some ⟨speed, mode, bits⟩ := by
    rw [spiFields, hpart, hstored]
    rfl
  have hsetting : settingInt z.settings "max_speed_hz" 500000 = some speed := by
    rw [hstored]
    rfl
  have hpass : passesDevice (wireDevice handle busHandle z c ⟨speed, mode, bits⟩) = true := by
    rw [passesDevice, wireDevice, hpart]
    change (!(decide (speed = 0) || decide (bits = 0) || decide (32 < bits) ||
      decide (3 < mode))) = true
    simp only [Bool.not_eq_true', Bool.or_eq_false_iff, decide_eq_false_iff_not]
    omega
  rw [packed_iff hplace hspi (by rw [hname]; exact (expectName_eq_ok.mp hchars).2), hname, hcanon,
    hsetting]
  constructor
  · intro hsent
    refine ⟨hsent.1.2.1, hsent.1.2.2.1, fun s hs => ?_⟩
    cases hs
    exact hsent.1.2.2.2.2.1
  · intro hwithin
    have hshort := spidevName_length hi32 (Nat.lt_succ_of_le hc256)
    exact ⟨⟨hshort, hwithin.1, hwithin.2.1, by omega, hwithin.2.2 speed rfl,
      hmode3.trans_lt (by decide), hbits32.trans_lt (by decide)⟩, hpass⟩

theorem uartSent_iff {portName : Text} {backend : Backend UartScript}
    (hpart : z.part = .uart portName backend) :
    (∃ cmd ∈ packDevice handle busHandle z, passesDevice cmd = true) ↔
      handle < 2 ^ 32 ∧ busHandle < 2 ^ 32 ∧
        (portName.rdropWhile isDigit).length < 32 ∧ numberOf portName < 2 ^ 32 := by
  obtain ⟨item, bus, fields, head, _, _, hz⟩ := normalizeRuntimeDeviceItem_eq_ok.mp h
  have hchecked := hz.part
  rw [hpart] at hchecked
  obtain ⟨port, hport, hchecked⟩ := bind_eq_ok.mp hchecked
  obtain ⟨settings, _, hchecked⟩ := bind_eq_ok.mp hchecked
  obtain ⟨full, _, hchecked⟩ := bind_eq_ok.mp hchecked
  have hsame : port = portName := by injection (Prod.mk.inj (Except.ok.inj hchecked)).1
  subst hsame
  obtain ⟨hchars, base, index, hshape, hbase, hne, hparse⟩ := portName_shape hport
  have hdrop : port.rdropWhile isDigit = base := by rw [hshape, rdropWhile_append_decimal hbase]
  have hnumber : numberOf port = index := by rw [hshape, numberOf_append_decimal hbase]
  rw [hdrop, hnumber]
  exact uartPacked_iff hport hpart hparse

theorem deviceSent_iff (hbus : ∀ bus, dictGet buses z.bus = some bus → bus.Normal ∧ BusWithin bus) :
    DeviceSent handle busHandle z ↔ handle < 2 ^ 32 ∧ busHandle < 2 ^ 32 ∧ DeviceWithin z := by
  have hadd : (∃ cmd ∈ packDevice handle busHandle z, passesDevice cmd = true) ↔
      handle < 2 ^ 32 ∧ busHandle < 2 ^ 32 ∧ FieldsWithin z := by
    unfold FieldsWithin
    cases hpart : z.part with
    | i2c address backend => exact i2cSent_iff h hpart
    | spi chipSelect name backend => exact spiSent_iff h hbus hpart
    | uart portName backend => exact uartSent_iff h hpart
  rw [DeviceSent, hadd, buildsTemplate_iff, DeviceWithin]
  constructor
  · rintro ⟨⟨hhandle, hbusHandle, hfields⟩, hreplies, _⟩
    exact ⟨hhandle, hbusHandle, hfields, hreplies⟩
  · rintro ⟨hhandle, hbusHandle, hfields, hreplies⟩
    exact ⟨⟨hhandle, hbusHandle, hfields⟩, hreplies, packsModem_of_lt hhandle z.part⟩

end Accepted

/-! ## Models -/

/-- The handles that the buses of a model get, `next_bus_handle` counting from 1. -/
def busHandles (m : RuntimeModel) : List (Text × Nat) :=
  m.buses.zipIdx.map fun p => (p.1.id, 1 + p.2)

/-- Every command of an apply is packed and passes the checks of the kernel, and every template is
built; `next_device_handle` counts from 1024. -/
structure Encodable (m : RuntimeModel) : Prop where
  buses : ∀ p ∈ m.buses.zipIdx, BusSent (1 + p.2) p.1
  devices : ∀ p ∈ m.devices.zipIdx, ∃ busHandle ∈ dictGet (busHandles m) p.1.bus,
    DeviceSent (1024 + p.2) busHandle p.1

/-- What the normaliser leaves unbounded. -/
structure WithinLimits (m : RuntimeModel) : Prop where
  busCount : m.buses.length < 2 ^ 32
  deviceCount : m.devices.length ≤ 2 ^ 32 - 1024
  buses : ∀ b ∈ m.buses, BusWithin b
  devices : ∀ dev ∈ m.devices, DeviceWithin dev

theorem exists_zipIdx_of_mem {α : Type} {xs : List α} {x : α} (h : x ∈ xs) :
    ∃ i < xs.length, (x, i) ∈ xs.zipIdx := by
  obtain ⟨i, hi, rfl⟩ := List.mem_iff_getElem.mp h
  exact ⟨i, hi, List.mem_zipIdx_iff_getElem?.mpr (List.getElem?_eq_getElem hi)⟩

-- The last item has the greatest position.
theorem length_le_of_zipIdx {α : Type} {xs : List α} {n : Nat} (h : ∀ p ∈ xs.zipIdx, p.2 < n) :
    xs.length ≤ n := by
  by_contra hlt
  have hn : n < xs.length := by omega
  have hmem : (xs[n], n) ∈ xs.zipIdx :=
    List.mem_zipIdx_iff_getElem?.mpr (List.getElem?_eq_getElem hn)
  exact absurd (h _ hmem) (lt_irrefl n)

/-- A device finds the handle of its bus. -/
theorem busHandles_of_onBus {m : RuntimeModel} {dev : Device} (h : dev ∈ m.devices) :
    ∃ i < m.buses.length, dictGet (busHandles m) dev.bus = some (1 + i) := by
  obtain ⟨b, hb, hid, _⟩ := m.onBus dev h
  obtain ⟨i, hi, hmem⟩ := exists_zipIdx_of_mem hb
  refine ⟨i, hi, dictGet_of_mem ?_ (List.mem_map.mpr ⟨(b, i), hmem, by rw [hid]⟩)⟩
  have hkeys : keys (busHandles m) = m.buses.map Bus.id := by
    rw [keys, busHandles, List.map_map]
    exact (List.map_map (f := Prod.fst) (g := Bus.id) (l := m.buses.zipIdx)).symm.trans
      (by rw [List.zipIdx_map_fst])
  rw [hkeys]
  exact m.busIds

/-- An accepted model is encodable exactly where it keeps the limits itself. -/
theorem encodable_iff_withinLimits {raw : Value} {m : RuntimeModel}
    (hm : normalizeRuntimeModelData raw = .ok m) : Encodable m ↔ WithinLimits m := by
  -- The bus of a device, for the number in the name of an SPI device.
  have hfound (hwithin : ∀ b ∈ m.buses, BusWithin b) {id : Text} {bus : Bus}
      (hbus : dictGet (busesById m.buses) id = some bus) : bus.Normal ∧ BusWithin bus := by
    obtain ⟨b, hb, heq⟩ := List.mem_map.mp (mem_of_dictGet hbus)
    cases heq
    exact ⟨m.busesNormal bus hb, hwithin bus hb⟩
  constructor
  · intro h
    have hbuses (p : Bus × Nat) (hp : p ∈ m.buses.zipIdx) :=
      (busSent_iff (m.busesNormal p.1 (List.fst_mem_of_mem_zipIdx hp)) (1 + p.2)).mp (h.buses p hp)
    have hwithin : ∀ b ∈ m.buses, BusWithin b := by
      intro b hb
      obtain ⟨i, _, hi⟩ := exists_zipIdx_of_mem hb
      exact (hbuses (b, i) hi).2
    have hdevices (p : Device × Nat) (hp : p ∈ m.devices.zipIdx) :
        1024 + p.2 < 2 ^ 32 ∧ DeviceWithin p.1 := by
      obtain ⟨busHandle, _, hsent⟩ := h.devices p hp
      obtain ⟨v, l, hnormal⟩ := normalized_of_mem hm (List.fst_mem_of_mem_zipIdx hp)
      have hiff := (deviceSent_iff hnormal fun _ => hfound hwithin).mp hsent
      exact ⟨hiff.1, hiff.2.2⟩
    refine ⟨?_, ?_, hwithin, fun dev hdev => ?_⟩
    · have hcount : m.buses.length ≤ 2 ^ 32 - 1 :=
        length_le_of_zipIdx fun p hp => by have := (hbuses p hp).1; omega
      omega
    · exact length_le_of_zipIdx fun p hp => by have := (hdevices p hp).1; omega
    · obtain ⟨i, _, hi⟩ := exists_zipIdx_of_mem hdev
      exact (hdevices (dev, i) hi).2
  · intro h
    refine ⟨fun p hp => ?_, fun p hp => ?_⟩
    · have hmem := List.fst_mem_of_mem_zipIdx hp
      have hlt := List.snd_lt_of_mem_zipIdx hp
      have hcount := h.busCount
      exact (busSent_iff (m.busesNormal p.1 hmem) _).mpr ⟨by omega, h.buses p.1 hmem⟩
    · have hmem := List.fst_mem_of_mem_zipIdx hp
      have hlt := List.snd_lt_of_mem_zipIdx hp
      have hcount := h.deviceCount
      obtain ⟨i, hi, hhandle⟩ := busHandles_of_onBus hmem
      have hbusCount := h.busCount
      obtain ⟨v, l, hnormal⟩ := normalized_of_mem hm hmem
      refine ⟨1 + i, hhandle, (deviceSent_iff hnormal fun _ => hfound h.buses).mpr ?_⟩
      exact ⟨by omega, by omega, h.devices p.1 hmem⟩

instance (b : Bus) : Decidable (BusWithin b) :=
  match b with
  | ⟨_, .i2c, name, _⟩ | ⟨_, .spi, name, _⟩ => inferInstanceAs (Decidable (numberOf name < 2 ^ 32))
  | ⟨_, .uart, name, _⟩ => inferInstanceAs (Decidable (name.length < 64))

instance (dev : Device) : Decidable (FieldsWithin dev) :=
  match dev with
  | ⟨id, _, .i2c _ _, _, _, _⟩ => inferInstanceAs (Decidable (id.length < 64))
  | ⟨_, _, .spi _ _ _, _, _, settings⟩ => inferInstanceAs (Decidable
      (∀ speed ∈ settingInt settings "max_speed_hz" 500000, speed < 2 ^ 32))
  | ⟨_, _, .uart portName _, _, _, _⟩ => inferInstanceAs (Decidable
      ((portName.rdropWhile isDigit).length < 32 ∧ numberOf portName < 2 ^ 32))

instance (dev : Device) : Decidable (DeviceWithin dev) :=
  decidable_of_iff (FieldsWithin dev ∧ buildsTemplate dev.part = true)
    (and_congr_right fun _ => buildsTemplate_iff dev.part)

theorem withinLimits_iff {m : RuntimeModel} : WithinLimits m ↔ m.buses.length < 2 ^ 32 ∧
    m.devices.length ≤ 2 ^ 32 - 1024 ∧ (∀ b ∈ m.buses, BusWithin b) ∧
      ∀ dev ∈ m.devices, DeviceWithin dev :=
  ⟨fun h => ⟨h.busCount, h.deviceCount, h.buses, h.devices⟩, fun h => ⟨h.1, h.2.1, h.2.2.1, h.2.2.2⟩⟩

instance (m : RuntimeModel) : Decidable (WithinLimits m) := decidable_of_iff _ withinLimits_iff.symm

/-- One device on a bus of each transport; the speed of the SPI device is a parameter. -/
def wireBench (speed : Int) : Value :=
  exportedModel (text "bench")
    [.dict [(.lit "id", .lit "b0"), (.lit "transport", .lit "i2c"), (.lit "name", .lit "i2c-7")],
      .dict [(.lit "id", .lit "b1"), (.lit "transport", .lit "spi"), (.lit "name", .lit "spi3")],
      .dict [(.lit "id", .lit "b2"), (.lit "transport", .lit "uart"), (.lit "name", .lit "u")]]
    [.dict [(.lit "id", .lit "t0"), (.lit "bus", .lit "b0"), (.lit "transport", .lit "i2c"),
        (.lit "address", .int 72), (.lit "backend", .dict [(.lit "kind", .lit "controller")])],
      .dict [(.lit "id", .lit "s0"), (.lit "bus", .lit "b1"), (.lit "transport", .lit "spi"),
        (.lit "chip_select", .int 0), (.lit "backend", .dict [(.lit "kind", .lit "controller")]),
        (.lit "settings", .dict [(.lit "max_speed_hz", .int speed)])],
      .dict [(.lit "id", .lit "p0"), (.lit "bus", .lit "b2"), (.lit "transport", .lit "uart"),
        (.lit "port_name", .lit "ttySEN0"), (.lit "backend", .dict [(.lit "kind", .lit "template"),
          (.lit "template", .lit "uart-script"),
          (.lit "control_defaults", .dict [(.lit "CTS", .bool true)])])]]

theorem encodable_bench : ∃ m, normalizeRuntimeModelData (wireBench 1000000) = .ok m ∧
    m.devices.length = 3 ∧ Encodable m := by
  have hview : (normalizeRuntimeModelData (wireBench 1000000)).toOption.map
      (fun m => (m.devices.length, decide (WithinLimits m))) = some (3, true) := by decide +kernel
  obtain ⟨m, hm, hview⟩ := Option.map_eq_some_iff.mp hview
  obtain ⟨hcount, hwithin⟩ := Prod.mk.inj hview
  have hm := ok_of_toOption hm
  exact ⟨m, hm, hcount, (encodable_iff_withinLimits hm).mpr (of_decide_eq_true hwithin)⟩

/-- A speed of 2^32 Hz is accepted, and `DEVICE_ADD` is not packed. -/
theorem accepted_not_encodable :
    ¬ ∀ raw m, normalizeRuntimeModelData raw = .ok m → Encodable m := by
  intro h
  have hview : (normalizeRuntimeModelData (wireBench 4294967296)).toOption.map
      (fun m => m.devices.zipIdx.map fun p => (dictGet (busHandles m) p.1.bus).map fun busHandle =>
        (packDevice (1024 + p.2) busHandle p.1).isSome) =
      some [some true, some false, some true] := by decide +kernel
  obtain ⟨m, hm, hview⟩ := Option.map_eq_some_iff.mp hview
  have hmem : some false ∈ [some true, some false, some true] := by decide
  rw [← hview] at hmem
  obtain ⟨p, hp, hpacked⟩ := List.mem_map.mp hmem
  obtain ⟨busHandle, hbus, ⟨cmd, hcmd, _⟩, _⟩ := (h _ m (ok_of_toOption hm)).devices p hp
  have hbus : dictGet (busHandles m) p.1.bus = some busHandle := hbus
  have hcmd : packDevice (1024 + p.2) busHandle p.1 = some cmd := hcmd
  rw [hbus, Option.map_some, hcmd] at hpacked
  cases hpacked

/-! ## The adds of a run -/

/-- The handles count the items that have been added. -/
structure InOrder (d : Daemon) (m : RuntimeModel) (bs : List Bus) (ds : List Device) : Prop where
  buses : ∃ done, m.buses = done ++ bs ∧ d.nextBusHandle = 1 + done.length ∧
    (d.buses.map fun p => (p.1, p.2.handle)) = done.zipIdx.map fun p => (p.1.id, 1 + p.2)
  devices : ∃ done, m.devices = done ++ ds ∧ d.nextDeviceHandle = 1024 + done.length

theorem BusAdded.inOrder {d : Daemon} {k : Kernel} {bus : Bus} {r : Added} {m : RuntimeModel}
    {bs : List Bus} {ds : List Device} (h : BusAdded d k bus r)
    (ho : InOrder d m (bus :: bs) ds) : InOrder r.daemon m bs ds := by
  obtain ⟨⟨done, hm, hnext, htable⟩, hdevices⟩ := ho
  refine ⟨⟨done ++ [bus], ?_, ?_, ?_⟩, h.nextDeviceHandle ▸ hdevices⟩
  · rw [hm, List.append_assoc]
    rfl
  · rw [h.nextBusHandle, hnext, List.length_append]
    rfl
  · rw [h.buses, List.map_append, htable, List.zipIdx_append, List.map_append, hnext]
    simp

theorem DeviceAdded.inOrder {d : Daemon} {k : Kernel} {dev : Device} {r : Added} {m : RuntimeModel}
    {bs : List Bus} {ds : List Device} (h : DeviceAdded d k dev r)
    (ho : InOrder d m bs (dev :: ds)) : InOrder r.daemon m bs ds := by
  obtain ⟨hbuses, done, hm, hnext⟩ := ho
  refine ⟨?_, done ++ [dev], ?_, ?_⟩
  · rw [h.nextBusHandle, h.buses]
    exact hbuses
  · rw [hm, List.append_assoc]
    rfl
  · rw [h.nextDeviceHandle, hnext, List.length_append]
    rfl

theorem inOrder_clear (d : Daemon) (m : RuntimeModel) :
    InOrder { d.clear with modelName := some m.name } m m.buses m.devices :=
  ⟨⟨[], rfl, rfl, rfl⟩, [], rfl, rfl⟩

/-- What the worker inside the lock has added so far. -/
def Pc.InOrder (d : Daemon) : Pc → Prop
  | .adds job bs ds _ => Inventory.InOrder d job.model bs ds
  | _ => True

theorem Pc.inOrder_of_not_holds {p : Pc} (h : p.holds = false) (d : Daemon) : p.InOrder d := by
  cases p with
  | adds _ _ _ _ => cases h
  | idle _ | send _ | sent _ | rollback _ _ | settleFailed | fatal | resyncFailed => trivial

theorem Job.AddStep.inOrder {job : Job} {d : Daemon} {k : Kernel} {bs : List Bus}
    {ds : List Device} {m : Move} (h : job.AddStep d k bs ds m)
    (ho : InOrder d job.model bs ds) : m.pc.InOrder m.daemon := by
  cases h with
  | failed _ _ => exact Pc.inOrder_of_not_holds (by cases job <;> rfl) _
  | modem => exact ho
  | bus hadd => exact hadd.inOrder ho
  | device hadd => exact hadd.inOrder ho
  | done _ _ => exact Pc.inOrder_of_not_holds (by cases job <;> rfl) _

theorem inOrder_advance {d : Daemon} {k : Kernel} {o : Outside} {p : Pc} {m : Move}
    (hp : p.Filing d) (ho : p.InOrder d) (h : advance d k o p = some m) :
    m.pc.InOrder m.daemon := by
  cases p with
  | idle _ => cases h
  | send x => exact Pc.inOrder_of_not_holds (advance_daemon h rfl rfl).2 _
  | sent x =>
    cases h
    rcases x.accepted_cases d k o with he | ⟨_, he⟩
    · rw [he]
      cases x with
      | reset => trivial
      | apply c => exact inOrder_clear d c.model
      | discard c =>
        change c.discarded.InOrder _
        unfold Call.discarded
        split <;> trivial
      | resync m attachments => exact inOrder_clear (d.setState .applying) m
    · rw [he]
      cases x <;> trivial
  | adds job bs ds modem =>
    cases h
    exact (job.add_cases k o modem hp.toPending).inOrder ho
  | rollback c s =>
    rw [advance] at h
    split at h
    · cases h
      trivial
    · rename_i m' attachments _
      cases h
      rcases c.rolledBack_cases d k o m' attachments with he | ⟨_, _, he⟩
      · rw [he]
        exact inOrder_clear d m'
      · rw [he]
        trivial
  | settleFailed =>
    cases h
    dsimp only
    split <;> trivial
  | fatal | resyncFailed =>
    cases h
    trivial

theorem keeps_inOrder : Keeps anyStep Daemon.Filed fun d p => p.Filing d ∧ p.InOrder d where
  idle _ := ⟨trivial, trivial⟩
  frame hh _ := ⟨Pc.filing_of_not_holds hh _, Pc.inOrder_of_not_holds hh _⟩
  begins hok hf hb := by
    obtain ⟨hf', hp⟩ := keeps_filed.begins hok hf hb
    exact ⟨hf', hp, Pc.inOrder_of_not_holds (begin_holds hb) _⟩
  advances hok hp hf hL hm := by
    obtain ⟨hf', hp'⟩ := keeps_filed.advances hok hp hf hL.1 hm
    exact ⟨hf', hp', inOrder_advance hL.1 hL.2 hm⟩
  changes hok hf := keeps_filed.changes hok hf
  loose {w c p} hok hc hf hL := by
    refine ⟨keeps_filed.loose hok hc hf hL.1, ?_⟩
    cases p with
    | adds job bs ds modem =>
      obtain ⟨_, hbuses, hdevices⟩ := hL
      -- Requests change no bus and no counter.
      have hsame : (c.on w.daemon).nextBusHandle = w.daemon.nextBusHandle ∧
          (c.on w.daemon).nextDeviceHandle = w.daemon.nextDeviceHandle ∧
          (c.on w.daemon).buses = w.daemon.buses := by
        cases c with
        | uartConfig c =>
          change (w.daemon.uartConfig c).nextBusHandle = _ ∧ (w.daemon.uartConfig c).nextDeviceHandle
            = _ ∧ (w.daemon.uartConfig c).buses = _
          unfold Daemon.uartConfig Daemon.modifyByHandle
          split <;> exact ⟨rfl, rfl, rfl⟩
        | faultedRequest id => exact ⟨rfl, rfl, rfl⟩
        | updateDevice _ _ | attach _ _ | detach _ _ | bridgeFailure | refreshWorkers _
        | refreshBridgeMetrics _ => cases hc
      refine ⟨?_, ?_⟩
      · rw [hsame.1, hsame.2.2]
        exact hbuses
      · rw [hsame.2.1]
        exact hdevices
    | idle _ | send _ | sent _ | rollback _ _ | settleFailed | fatal | resyncFailed => trivial

/-- In every state of every run, the next write of a worker that rebuilds an encodable model is
packed and passes the checks of the kernel, and the template behind it is built. -/
theorem adds_sent {k : Kernel} {generation n : Nat} {w : World}
    (hr : Reach step anyStep (start k generation n) w) {t : Nat} {job : Job} {bs : List Bus}
    {ds : List Device} (hp : w.pcs[t]? = some (.adds job bs ds none))
    (hm : Encodable job.model) :
    (∀ b ∈ bs.head?, BusSent w.daemon.nextBusHandle b) ∧
      (bs = [] → ∀ dev ∈ ds.head?, ∃ bus ∈ dictGet w.daemon.buses dev.bus,
        DeviceSent w.daemon.nextDeviceHandle bus.handle dev) := by
  have hkept := World.kept_of_reach keeps_inOrder (filed_empty rfl rfl rfl) hr
  obtain ⟨⟨done, hbuses, hnext, htable⟩, done', hdevices, hnext'⟩ := (hkept.pcs t _ hp).2
  constructor
  · intro b hb
    obtain ⟨rest, rfl⟩ := List.head?_eq_some_iff.mp hb
    rw [hnext]
    refine hm.buses (b, done.length) (List.mem_zipIdx_iff_getElem?.mpr ?_)
    rw [hbuses, List.getElem?_append_right le_rfl, Nat.sub_self]
    rfl
  · rintro rfl dev hdev
    obtain ⟨rest, rfl⟩ := List.head?_eq_some_iff.mp hdev
    obtain ⟨busHandle, hfind, hsent⟩ := hm.devices (dev, done'.length) <| by
      refine List.mem_zipIdx_iff_getElem?.mpr ?_
      rw [hdevices, List.getElem?_append_right le_rfl, Nat.sub_self]
      rfl
    rw [List.append_nil] at hbuses
    -- All buses are there, with the handles of their positions.
    have hlookup : (dictGet w.daemon.buses dev.bus).map BusRecord.handle = some busHandle := by
      rw [← dictGet_map_snd, htable, ← hbuses]
      exact hfind
    obtain ⟨bus, hbus, rfl⟩ := Option.map_eq_some_iff.mp hlookup
    rw [hnext']
    exact ⟨bus, hbus, hsent⟩

end Sensorium.Inventory

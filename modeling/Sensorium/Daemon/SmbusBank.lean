import Sensorium.Daemon.AliasBank
import Sensorium.Kernel.RuntimeSmbus

/-!
# SMBus on the register bank of the daemon

An SMBus operation on an adapter of the runtime goes through the transfer buffer, the messages of
`i2c_exec`, the request and the handler of the daemon to a register bank, and back.  On a plain bank
of 256 registers a read gives back what a write of the same size has stored.
-/

namespace Sensorium.Daemon

open Lib Model Kernel

def eIo : Int := -5

/-- `sensorium_runtime_i2c_master_xfer`, where `find` is the bus's
`sensorium_runtime_find_i2c_device_locked` and memory is there.  A handler that raises is answered
with `-EIO`. -/
def busXfer (find : UInt16 → Option TransferDevice) (device : Device) (t : BankTemplate)
    (msgs : List I2cMsg) : BankTemplate × Int × List (List UInt8) :=
  match msgs with
  | [] => (t, eInval, [])
  | first :: _ =>
    match find first.addr with
    | none => (t, eNxIo, msgs.map (·.buf))
    | some dev => (runtimeXfer dev device t msgs true true).getD (t, eIo, msgs.map (·.buf))

/-- A bank of 256 registers with its default fields, in any state. -/
structure PlainBank (t : BankTemplate) : Prop where
  size : t.size = 256
  width : t.pointerWidth = 1
  increment : t.autoIncrement = true
  clear : t.clearOnRead = []
  effects : t.writeEffects = []
  length : t.registers.length = 256
  bytes : ∀ value ∈ t.registers, value < 256
  pointer : t.pointer < 256

/-- A device without a fault that the bus finds at `addr`. -/
structure Behind (find : UInt16 → Option TransferDevice) (device : Device) (addr : UInt16) :
    Prop where
  found : (find addr).isSome = true
  address : deviceAddress device = some addr.toNat
  fault : device.faults.mode = .none

/-! ## The bank as an alias -/

theorem PlainBank.exists_mirrors {t : BankTemplate} (h : PlainBank t) (addr : UInt16) :
    ∃ a : I2cAlias, Mirrors a t ∧ a.refused addr false = 0 := by
  let registers : Vector UInt8 256 :=
    Vector.ofFn fun i => UInt8.ofNat (t.registers.get ⟨i.val, h.length.symm ▸ i.isLt⟩)
  have hpointer := h.pointer
  refine ⟨⟨.none, addr, UInt8.ofNat t.pointer, registers⟩, ?_, ?_⟩
  · refine ⟨h.size, h.width, h.increment, h.clear, h.effects, ?_, ?_⟩
    · apply List.ext_getElem
      · rw [h.length, List.length_map, Vector.length_toList]
      · intro i hi hi'
        have hbyte := h.bytes _ (List.getElem_mem hi)
        simp [registers, Nat.mod_eq_of_lt hbyte]
    · show t.pointer = (UInt8.ofNat t.pointer).toNat
      rw [UInt8.toNat_ofNat']
      omega
  · show (if addr ≠ addr then eNxIo else 0) = 0
    rw [if_neg (fun hne => hne rfl)]

theorem Mirrors.plainBank {a : I2cAlias} {t : BankTemplate} (h : Mirrors a t) : PlainBank t where
  size := h.size
  width := h.width
  increment := h.increment
  clear := h.clear
  effects := h.effects
  length := h.length
  bytes := by
    intro value hvalue
    rw [h.registers] at hvalue
    obtain ⟨byte, -, rfl⟩ := List.mem_map.mp hvalue
    exact byte.toNat_lt
  pointer := by
    rw [h.pointer]
    exact a.regPtr.toNat_lt

theorem Mirrors.getElem? {a : I2cAlias} {t : BankTemplate} (h : Mirrors a t) (i : UInt8) :
    t.registers[i.toNat]? = some (registerAt a.registers i).toNat := by
  rw [h.registers, List.getElem?_map,
    List.getElem?_eq_getElem (by rw [Vector.length_toList]; exact i.toNat_lt)]
  simp [registerAt]

/-! ## The bus serves the bank -/

theorem refused_transferAll (a : I2cAlias) (msgs : List I2cMsg) (addr : UInt16) (tenbit : Bool) :
    (a.transferAll msgs).1.refused addr tenbit = a.refused addr tenbit := by
  induction msgs generalizing a with
  | nil => rfl
  | cons m ms ih =>
    show ((a.transferOne m).1.transferAll ms).1.refused addr tenbit = _
    rw [ih, I2cAlias.refused_transferOne]

theorem i2cLengths_le {addr : UInt16} {msgs : List I2cMsg} (h : ∀ m ∈ msgs, FitsBuffer addr m) :
    i2cDataLen msgs ≤ 33 * msgs.length ∧ i2cRxLen msgs ≤ 33 * msgs.length := by
  induction msgs with
  | nil => exact ⟨Nat.le_refl 0, Nat.le_refl 0⟩
  | cons m ms ih =>
    have hm := (h m List.mem_cons_self).len
    obtain ⟨hdata, hrx⟩ := ih fun m' hm' => h m' (List.mem_cons_of_mem m hm')
    rw [i2cDataLen, i2cRxLen, List.length_cons]
    cases m.isRead with
    | true =>
      simp only [if_true]
      omega
    | false =>
      simp only [Bool.false_eq_true, if_false]
      omega

theorem i2cExecBegin_fits (dev : TransferDevice) {addr : UInt16} {msgs : List I2cMsg}
    (hne : msgs ≠ []) (hcount : msgs.length ≤ 2) (h : ∀ m ∈ msgs, FitsBuffer addr m) :
    i2cExecBegin dev msgs true true = .ok (i2cPayload dev msgs) := by
  obtain ⟨hdata, hrx⟩ := i2cLengths_le h
  cases msgs with
  | nil => exact absurd rfl hne
  | cons first rest =>
    have hsame : ((first :: rest).any fun m => m.addr ≠ first.addr) = false := by
      rw [List.any_eq_false]
      intro m hm
      rw [(h m hm).addr, (h first List.mem_cons_self).addr]
      simp
    have hmax : maxI2cMsgs = 256 := rfl
    have hpayload : Bridge.maxPayload = 4194304 := rfl
    unfold i2cExecBegin
    dsimp only
    rw [if_neg (by omega), hsame, if_neg Bool.false_ne_true, if_neg (by omega), if_neg (by omega)]
    simp

theorem servesBank_busXfer {find : UInt16 → Option TransferDevice} {device : Device}
    {addr : UInt16} (h : Behind find device addr) :
    ServesBank (busXfer find device) addr fun t a => Mirrors a t ∧ a.refused addr false = 0 := by
  intro t a msgs hR hne hcount hfits
  obtain ⟨hmirror, htaken⟩ := hR
  obtain ⟨dev, hdev⟩ := Option.isSome_iff_exists.mp h.found
  have hrefused : ∀ m ∈ msgs, a.refused m.addr m.isTen = 0 := by
    intro m hm
    rw [(hfits m hm).addr, (hfits m hm).isTen]
    exact htaken
  have haddr : addr = a.addr := by
    obtain ⟨m, hm⟩ := List.exists_mem_of_ne_nil msgs hne
    rw [← addr_of_not_refused (hrefused m hm), (hfits m hm).addr]
  have htarget : SameTarget a device := ⟨haddr ▸ h.address, h.fault⟩
  -- the request, the handler and the reply do on the bank what the alias does
  obtain ⟨t', hruntime, hmirror'⟩ := runtimeXfer_eq hmirror htarget hrefused
    (i2cExecBegin_fits dev hne hcount hfits)
  refine ⟨t', msgs.length, ?_, Int.natCast_nonneg _, hmirror', ?_⟩
  · cases msgs with
    | nil => exact absurd rfl hne
    | cons first rest =>
      have hfirst : find first.addr = some dev := by
        rw [(hfits first List.mem_cons_self).addr, hdev]
      unfold busXfer
      dsimp only
      rw [hfirst]
      dsimp only
      rw [hruntime]
      rfl
  · rw [refused_transferAll]
    exact htaken

/-! ## The round trip -/

/-- A write returns 0, changes the registers that it writes, with wrap-around, and no others; a
process call has its word in the data again.  A read of the same size from the same command, with
the length of the block in its data, returns what was written. -/
theorem smbus_round_trip {find : UInt16 → Option TransferDevice} {device : Device} {addr : UInt16}
    (h : Behind find device addr) {t : BankTemplate} (hbank : PlainBank t) {size : SmbusSize}
    (hsize : size.addressed = true) (command : UInt8) {data : SmbusData}
    (hsized : data.Sized size) (buf : XferBuffer) :
    ∃ t₁, runtimeSmbusXfer (busXfer find device) t addr false command size data buf =
        some (t₁, 0, data) ∧ PlainBank t₁ ∧
      (∀ i : UInt8, t₁.registers[i.toNat]? =
        (((data.payload size)[(i - command).toNat]?).map UInt8.toNat).or t.registers[i.toNat]?) ∧
      ∀ (asked : SmbusData) (buf' : XferBuffer), asked.Sized size →
        (asked.payload size).length = (data.payload size).length →
          ∃ t₂ answer, runtimeSmbusXfer (busXfer find device) t₁ addr true command size asked buf' =
              some (t₂, 0, answer) ∧ PlainBank t₂ ∧ t₂.registers = t₁.registers ∧
            answer.payload size = data.payload size := by
  -- an alias with the same registers says what each message does
  obtain ⟨a, hmirror, htaken⟩ := hbank.exists_mirrors addr
  have hserves := servesBank_busXfer h
  have hlen : (data.payload size).length ≤ 256 :=
    (SmbusData.length_payload_le hsized).trans (by decide)
  obtain ⟨t₁, hwrite, hmirror₁, htaken₁⟩ :=
    runtimeSmbusXfer_write hserves ⟨hmirror, htaken⟩ hsize hsized command buf
  refine ⟨t₁, hwrite, hmirror₁.plainBank, ?_, ?_⟩
  · intro i
    have hcell : registerAt (a.stored command (data.payload size)).registers i = _ :=
      registerAt_writeLoop hlen i
    -- a register is written where the payload reaches it, counted from the command on
    rw [hmirror₁.getElem?, hmirror.getElem?, hcell]
    cases (data.payload size)[(i - command).toNat]? <;> rfl
  · intro asked buf' hasked hsame
    obtain ⟨t₂, answer, hread, ⟨hmirror₂, -⟩, hanswer⟩ :=
      runtimeSmbusXfer_read hserves ⟨hmirror₁, htaken₁⟩ hsize hasked command buf'
    refine ⟨t₂, answer, hread, hmirror₂.plainBank, ?_, ?_⟩
    · rw [hmirror₂.registers, hmirror₁.registers]
    · rw [hanswer, hsame]
      exact registersFrom_writeLoop _ hlen

theorem plainBank_default : PlainBank .default := mirrors_blank.plainBank

/-- A word at the last register wraps around to register 0. -/
theorem smbus_round_trip_wraps :
    ∃ t₁, runtimeSmbusXfer (busXfer (fun _ => some ⟨1, 1⟩) bankBox) .default 0x50 false 0xff
        .wordData (Vector.replicate 34 7) (Vector.replicate 33 0) =
          some (t₁, 0, Vector.replicate 34 7) ∧
      t₁.registers[0]? = some 7 ∧ t₁.registers[1]? = some 0 ∧
      ∃ t₂ answer, runtimeSmbusXfer (busXfer (fun _ => some ⟨1, 1⟩) bankBox) t₁ 0x50 true 0xff
          .wordData (Vector.replicate 34 0) (Vector.replicate 33 0) = some (t₂, 0, answer) ∧
        answer.payload .wordData = [7, 7] := by
  obtain ⟨t₁, hwrite, -, hregisters, hread⟩ :=
    @smbus_round_trip (fun _ => some ⟨1, 1⟩) bankBox 0x50 ⟨rfl, rfl, rfl⟩ .default
      plainBank_default .wordData rfl 0xff (Vector.replicate 34 7) trivial (Vector.replicate 33 0)
  obtain ⟨t₂, answer, hanswer, -, -, hpayload⟩ :=
    hread (Vector.replicate 34 0) (Vector.replicate 33 0) trivial rfl
  exact ⟨t₁, hwrite, hregisters 0, hregisters 1, t₂, answer, hanswer, hpayload⟩

end Sensorium.Daemon

import Sensorium.Daemon.TemplateReplies
import Sensorium.Kernel.AliasI2c

/-!
# The alias and the register bank

The alias of the kernel is a bank of 256 registers, and so is the template of the daemon with its
default fields.  Through `i2c_exec` the template gives a caller the bytes that the alias gives him,
and both banks stay the same; the value that the alias returns is not the number of messages.
-/

namespace Sensorium.Daemon

open Lib Model Kernel

/-- An alias and a plain bank in the same state. -/
structure Mirrors (a : I2cAlias) (t : BankTemplate) : Prop where
  size : t.size = 256
  width : t.pointerWidth = 1
  increment : t.autoIncrement = true
  clear : t.clearOnRead = []
  effects : t.writeEffects = []
  registers : t.registers = a.registers.toList.map UInt8.toNat
  pointer : t.pointer = a.regPtr.toNat

/-- `sensorium_runtime_i2c_exec` on a device of the daemon with a register bank; `none` is a
handler that raises. -/
def runtimeXfer (dev : TransferDevice) (device : Device) (t : BankTemplate) (msgs : List I2cMsg)
    (reqMem replyMem : Bool) : Option (BankTemplate × Int × List (List UInt8)) :=
  match i2cExecBegin dev msgs reqMem replyMem with
  | .error status => some (t, status, msgs.map (·.buf))
  | .ok payload =>
    match serveI2c dev.handle.toNat device (.bank t) payload with
    | some (.bank t, status, data) =>
      let (status, len) := (Fill.reply ⟨status, data⟩).outcome (i2cRxLen msgs)
      some (t, i2cExecEnd msgs status len data)
    | _ => none

/-! ## One message -/

namespace Mirrors

variable {a : I2cAlias} {t : BankTemplate}

theorem length (h : Mirrors a t) : t.registers.length = 256 := by
  rw [h.registers, List.length_map, Vector.length_toList]

/-- The daemon's index and the kernel's. -/
theorem register (h : Mirrors a t) (i : Nat) :
    t.registers[(t.pointer + i) % t.size]? =
      some (registerAt a.registers (a.regPtr + UInt8.ofNat i)).toNat := by
  rw [h.size, h.pointer, h.registers, ← toNat_add_ofNat, List.getElem?_map,
    List.getElem?_eq_getElem (by rw [Vector.length_toList]; exact UInt8.toNat_lt _)]
  simp [registerAt]

theorem readBytes (h : Mirrors a t) (n : Nat) :
    t.readBytes n = some (readLoop a.registers a.regPtr n).1 := by
  rw [readLoop_eq]
  apply mapM_eq_some_map
  intro i _
  rw [h.register i]
  show (if (registerAt a.registers (a.regPtr + UInt8.ofNat i)).toNat < 256 then _ else none) = _
  rw [if_pos (UInt8.toNat_lt _), UInt8.ofNat_toNat]

theorem clearRead (h : Mirrors a t) (n : Nat) : t.clearRead n = some t.registers := by
  have hfold : ∀ l : List Nat, l.foldlM (fun registers i =>
      let register := (t.pointer + i) % t.size
      if register ∈ t.clearOnRead then setByte registers register 0 else some registers)
      t.registers = some t.registers := by
    intro l
    induction l with
    | nil => rfl
    | cons i l ih =>
      rw [List.foldlM_cons]
      dsimp only
      rw [if_neg (by rw [h.clear]; exact List.not_mem_nil)]
      exact ih
  exact hfold (List.range n)

theorem readMessage (h : Mirrors a t) (n : Nat) :
    ∃ t', t.readMessage n = some (t', (readLoop a.registers a.regPtr n).1) ∧
      Mirrors { a with regPtr := (readLoop a.registers a.regPtr n).2 } t' := by
  refine ⟨{ t with pointer := (t.pointer + n) % t.size }, ?_, ?_⟩
  · unfold BankTemplate.readMessage
    rw [h.readBytes, h.clearRead, h.increment]
    rfl
  · refine ⟨h.size, h.width, h.increment, h.clear, h.effects, h.registers, ?_⟩
    show (t.pointer + n) % t.size = _
    rw [readLoop_eq, h.size, h.pointer]
    exact (toNat_add_ofNat _ _).symm

/-- The loop of a write; `offset` counts from `pointer`. -/
theorem writeBytes (h : Mirrors a t) (pointer : Nat) (bytes : List UInt8) {offset : Nat}
    {registers : Vector UInt8 256} {reg : UInt8} (hreg : (pointer + offset) % 256 = reg.toNat) :
    t.writeBytes pointer (registers.toList.map UInt8.toNat) offset bytes =
      some ((writeLoop registers reg bytes).1.toList.map UInt8.toNat) := by
  induction bytes generalizing offset registers reg with
  | nil => rfl
  | cons byte bytes ih =>
    have hnext : (pointer + (offset + 1)) % 256 = (reg + 1).toNat := by
      rw [UInt8.toNat_add, UInt8.toNat_one, ← hreg]
      omega
    have hset : setByte (registers.toList.map UInt8.toNat) reg.toNat byte.toNat =
        some ((setRegister registers reg byte).toList.map UInt8.toNat) := by
      have hlt : reg.toNat < (registers.toList.map UInt8.toNat).length := by
        rw [List.length_map, Vector.length_toList]
        exact reg.toNat_lt
      rw [setByte, if_pos ⟨hlt, byte.toNat_lt⟩, setRegister, Vector.toList_set, List.map_set]
    rw [BankTemplate.writeBytes, h.size, hreg, hset, h.effects]
    exact ih hnext

/-- What a write of at least its pointer byte leaves. -/
theorem writeMessage_cons (h : Mirrors a t) (reg : UInt8) (bytes : List UInt8) :
    t.writeMessage (reg :: bytes) =
      some { t with
        registers := (writeLoop a.registers reg bytes).1.toList.map UInt8.toNat
        pointer := (writeLoop a.registers reg bytes).2.toNat } := by
  have hpointer : BankTemplate.bigEndian ((reg :: bytes).take t.pointerWidth) % t.size =
      reg.toNat := by
    have hone : BankTemplate.bigEndian [reg] = reg.toNat := Nat.zero_add _
    have := reg.toNat_lt
    rw [h.width, h.size, List.take_succ_cons, List.take_zero, hone]
    omega
  have hpayload : (reg :: bytes).drop t.pointerWidth = bytes := by
    rw [h.width]
    rfl
  have hwidth : ¬ (reg :: bytes).length < t.pointerWidth := by
    rw [h.width, List.length_cons]
    omega
  unfold BankTemplate.writeMessage
  rw [if_neg (by simp), if_neg hwidth]
  dsimp only
  rw [hpointer, hpayload]
  split
  · rename_i hempty
    subst hempty
    show some { t with pointer := reg.toNat } = some { t with
      registers := a.registers.toList.map UInt8.toNat
      pointer := reg.toNat }
    rw [← h.registers]
  · have hreg : (reg.toNat + 0) % 256 = reg.toNat := Nat.mod_eq_of_lt reg.toNat_lt
    have hlast : (reg.toNat + bytes.length) % t.size =
        (writeLoop a.registers reg bytes).2.toNat := by
      rw [writeLoop_last, toNat_add_ofNat, h.size]
    rw [h.registers, h.writeBytes reg.toNat bytes hreg, h.increment, if_pos rfl, hlast]
    rfl

theorem writeMessage (h : Mirrors a t) (m : I2cMsg) (hwrite : m.isRead = false) :
    ∃ t', t.writeMessage m.buf = some t' ∧ Mirrors (a.transferOne m).1 t' := by
  rw [I2cAlias.transferOne, if_neg (by rw [hwrite]; decide)]
  cases hbuf : m.buf with
  | nil => exact ⟨t, rfl, h⟩
  | cons reg bytes =>
    refine ⟨_, h.writeMessage_cons reg bytes, ?_⟩
    cases bytes with
    | nil => exact ⟨h.size, h.width, h.increment, h.clear, h.effects, rfl, rfl⟩
    | cons byte bytes => exact ⟨h.size, h.width, h.increment, h.clear, h.effects, rfl, rfl⟩

/-- One message on both sides. -/
theorem handleMessage (h : Mirrors a t) (m : I2cMsg) :
    ∃ t', t.handleMessage (.ofMsg m) =
        some (t', if m.isRead then (a.transferOne m).2 else []) ∧
      Mirrors (a.transferOne m).1 t' := by
  have hflags := isRead_iff m
  cases hread : m.isRead with
  | true =>
    obtain ⟨t', hmessage, hmirror⟩ := h.readMessage m.len.toNat
    have hset : (I2cEntry.ofMsg m).flags &&& 1 ≠ 0 := by
      intro hzero
      rw [hflags.mpr hzero] at hread
      cases hread
    refine ⟨t', ?_, ?_⟩
    · rw [BankTemplate.handleMessage, if_pos hset, if_pos rfl, I2cAlias.transferOne, if_pos hread]
      exact hmessage
    · rw [I2cAlias.transferOne, if_pos hread]
      exact hmirror
  | false =>
    obtain ⟨t', hmessage, hmirror⟩ := h.writeMessage m hread
    have hclear : ¬ (I2cEntry.ofMsg m).flags &&& 1 ≠ 0 := fun hne => hne (hflags.mp hread)
    have hdata : (I2cEntry.ofMsg m).data = m.buf := if_neg (by rw [hread]; decide)
    refine ⟨t', ?_, hmirror⟩
    rw [BankTemplate.handleMessage, if_neg hclear, hdata, hmessage]
    rfl

end Mirrors

/-! ## Message lists -/

/-- The bytes that the alias reads for a list. -/
def readData (a : I2cAlias) : List I2cMsg → List UInt8
  | [] => []
  | m :: ms =>
    (if m.isRead then (a.transferOne m).2 else []) ++ readData (a.transferOne m).1 ms

theorem Mirrors.handleI2c {a : I2cAlias} {t : BankTemplate} (h : Mirrors a t) (msgs : List I2cMsg) :
    ∃ t', t.handleI2c (msgs.map .ofMsg) = some (t', readData a msgs) ∧
      Mirrors (a.transferAll msgs).1 t' := by
  induction msgs generalizing a t with
  | nil => exact ⟨t, rfl, h⟩
  | cons m ms ih =>
    obtain ⟨t₁, hmessage, h₁⟩ := h.handleMessage m
    obtain ⟨t₂, hrest, h₂⟩ := ih h₁
    refine ⟨t₂, ?_, h₂⟩
    rw [List.map_cons, BankTemplate.handleI2c, hmessage]
    simp only [bind, Option.bind, hrest]
    rfl

theorem length_transferOne (a : I2cAlias) (m : I2cMsg) (hread : m.isRead = true) :
    (a.transferOne m).2.length = m.len.toNat := by
  rw [I2cAlias.transferOne, if_pos hread, readLoop_eq]
  simp

theorem transferOne_write_buf (a : I2cAlias) (m : I2cMsg) (hwrite : m.isRead = false) :
    (a.transferOne m).2 = m.buf := by
  rw [I2cAlias.transferOne, if_neg (by rw [hwrite]; decide)]
  split <;> simp [*]

theorem length_readData (a : I2cAlias) (msgs : List I2cMsg) :
    (readData a msgs).length = i2cRxLen msgs := by
  induction msgs generalizing a with
  | nil => rfl
  | cons m ms ih =>
    rw [readData, i2cRxLen, List.length_append, ih]
    split
    · rw [length_transferOne a m ‹_›]
    · rfl

/-- Spreading the reply over the read buffers gives the alias's buffers. -/
theorem scatter_readData (a : I2cAlias) (before : List UInt8) (msgs : List I2cMsg) :
    i2cScatter (before ++ readData a msgs) before.length msgs = (a.transferAll msgs).2 := by
  induction msgs generalizing a before with
  | nil => rfl
  | cons m ms ih =>
    rw [i2cScatter]
    cases hread : m.isRead with
    | true =>
      have hlen := length_transferOne a m hread
      have hrest := ih (a.transferOne m).1 (before ++ (a.transferOne m).2)
      rw [List.length_append, hlen, List.append_assoc] at hrest
      rw [if_pos rfl, readData, if_pos hread, hrest, List.drop_left, List.take_left' hlen]
      rfl
    | false =>
      rw [if_neg (by decide), readData, if_neg (by rw [hread]; decide), List.nil_append, ih,
        ← transferOne_write_buf a m hread]
      rfl

/-! ## The transfer -/

/-- Bytes, registers, pointer, and the number of messages as the value returned. -/
def TransferAgrees (a : I2cAlias) (dev : TransferDevice) (device : Device) (t : BankTemplate)
    (msgs : List I2cMsg) (reqMem replyMem : Bool) : Prop :=
  ∃ t' bufs, runtimeXfer dev device t msgs reqMem replyMem = some (t', (msgs.length : Int), bufs) ∧
    (a.masterXfer msgs).2.1 = msgs.length ∧ (a.masterXfer msgs).2.2 = bufs ∧
    Mirrors (a.masterXfer msgs).1 t'

/-- A device without a fault at the alias's address. -/
structure SameTarget (a : I2cAlias) (device : Device) : Prop where
  address : deviceAddress device = some a.addr.toNat
  fault : device.faults.mode = .none

theorem addr_of_not_refused {a : I2cAlias} {m : I2cMsg} (h : a.refused m.addr m.isTen = 0) :
    m.addr = a.addr := by
  have hcheck := (I2cAlias.refused_eq_zero h).2
  unfold I2cAlias.checkAddr at hcheck
  by_contra hne
  rw [if_pos hne] at hcheck
  split at hcheck <;> cases hcheck

/-- What the daemon's bank gives to a caller whose messages the alias takes. -/
theorem runtimeXfer_eq {a : I2cAlias} {t : BankTemplate} {device : Device} (h : Mirrors a t)
    (hdevice : SameTarget a device) {dev : TransferDevice} {msgs : List I2cMsg}
    {reqMem replyMem : Bool} {payload : List UInt8}
    (hmsgs : ∀ m ∈ msgs, a.refused m.addr m.isTen = 0)
    (hbegin : i2cExecBegin dev msgs reqMem replyMem = .ok payload) :
    ∃ t', runtimeXfer dev device t msgs reqMem replyMem =
        some (t', (msgs.length : Int), (a.transferAll msgs).2) ∧ Mirrors (a.transferAll msgs).1 t' := by
  obtain ⟨t', hhandle, hmirror⟩ := h.handleI2c msgs
  refine ⟨t', ?_, hmirror⟩
  have hreceive := (receiveI2c_begin hbegin).2
    (fun handle => if handle = dev.handle.toNat then some device else none) device (if_pos rfl) ?_
  · rw [applyFaultPre_none hdevice.fault] at hreceive
    have hserve : serveI2c dev.handle.toNat device (.bank t) payload =
        some (.bank t', 0, readData a msgs) := by
      unfold serveI2c
      rw [hreceive]
      simp only [hhandle, bind, Option.bind, applyFaultPost_none hdevice.fault]
    unfold runtimeXfer
    rw [hbegin]
    dsimp only
    rw [hserve]
    show some (t', i2cExecEnd msgs 0 _ (readData a msgs)) = _
    rw [i2cExecEnd_complete msgs (length_readData a msgs), ← scatter_readData a [] msgs]
    rfl
  · intro m hm
    rw [hdevice.address, addr_of_not_refused (hmsgs m hm)]

theorem not_transferAgrees (a : I2cAlias) (dev : TransferDevice) (device : Device)
    (t : BankTemplate) (msgs : List I2cMsg) (reqMem replyMem : Bool) :
    ¬ TransferAgrees a dev device t msgs reqMem replyMem := by
  rintro ⟨t', bufs, hruntime, hreturn, -⟩
  cases msgs with
  | nil => cases hruntime
  | cons m ms =>
    have hle := I2cAlias.masterXfer_nonpos (a := a) m ms
    rw [hreturn, List.length_cons] at hle
    omega

/-- No list returns its number of messages on both sides.  Where `i2c_exec` sends it and the alias
takes it, everything else agrees, and the alias returns 0. -/
theorem alias_transfer_returns_no_count (a : I2cAlias) (dev : TransferDevice) (device : Device)
    (t : BankTemplate) (msgs : List I2cMsg) (reqMem replyMem : Bool) :
    ¬ TransferAgrees a dev device t msgs reqMem replyMem ∧
      (Mirrors a t → SameTarget a device → (∀ m ∈ msgs, a.refused m.addr m.isTen = 0) →
        ∀ payload, i2cExecBegin dev msgs reqMem replyMem = .ok payload →
          ∃ t', runtimeXfer dev device t msgs reqMem replyMem =
              some (t', (msgs.length : Int), (a.masterXfer msgs).2.2) ∧
            Mirrors (a.masterXfer msgs).1 t' ∧ (a.masterXfer msgs).2.1 = 0) := by
  refine ⟨not_transferAgrees a dev device t msgs reqMem replyMem, ?_⟩
  intro hmirror hdevice hmsgs payload hbegin
  obtain ⟨t', hruntime, hmirror'⟩ := runtimeXfer_eq hmirror hdevice hmsgs hbegin
  cases msgs with
  | nil => cases hbegin
  | cons m ms =>
    rw [I2cAlias.masterXfer_eq hmsgs]
    exact ⟨t', hruntime, hmirror', rfl⟩

/-- The daemon's device for it. -/
def bankBox : Device :=
  { i2cBox with part := .i2c 0x50 (.template .i2cRegisterBank ⟨256, 1, true, [], [], []⟩) }

theorem mirrors_blank : Mirrors blankAlias .default where
  size := rfl
  width := rfl
  increment := rfl
  clear := rfl
  effects := rfl
  registers := by
    show List.replicate 256 0 = (Vector.replicate 256 (0 : UInt8)).toList.map UInt8.toNat
    rw [Vector.toList_replicate, List.map_replicate]
    rfl
  pointer := rfl

theorem alias_transfer_returns_no_count_read :
    ∃ t', runtimeXfer ⟨1, 1⟩ bankBox .default pointerThenRead true true =
        some (t', 2, (blankAlias.masterXfer pointerThenRead).2.2) ∧
      Mirrors (blankAlias.masterXfer pointerThenRead).1 t' ∧
      (blankAlias.masterXfer pointerThenRead).2.1 = 0 :=
  (alias_transfer_returns_no_count blankAlias ⟨1, 1⟩ bankBox .default pointerThenRead true true).2
    mirrors_blank ⟨rfl, rfl⟩ (by decide) (i2cPayload ⟨1, 1⟩ pointerThenRead) rfl

/-- A register pointer and a read of two bytes: the alias returns 0 and the daemon's bank 2. -/
theorem alias_transfer_count_zero :
    Mirrors blankAlias .default ∧ SameTarget blankAlias bankBox ∧
      (∀ m ∈ pointerThenRead, blankAlias.refused m.addr m.isTen = 0) ∧
      (blankAlias.masterXfer pointerThenRead).2.1 = 0 ∧
      ¬ TransferAgrees blankAlias ⟨1, 1⟩ bankBox .default pointerThenRead true true :=
  ⟨mirrors_blank, ⟨rfl, rfl⟩, by decide, by decide, not_transferAgrees _ _ _ _ _ _ _⟩

end Sensorium.Daemon

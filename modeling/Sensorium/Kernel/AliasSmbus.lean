import Sensorium.Kernel.AliasI2c

/-!
# SMBus operations of the I2C alias

`sensorium_i2c_smbus_xfer` works on the registers directly.  `sensorium_runtime_i2c_smbus_xfer`
writes the same operations as messages for a `master_xfer`; run on the alias they are what its own
operations should do.
-/

namespace Sensorium.Kernel

open Lib

/-- The sizes of `linux/i2c.h` that are handled, and the others. -/
inductive SmbusSize
  | quick
  | byte
  | byteData
  | wordData
  | procCall
  | blockData
  | i2cBlockBroken
  | i2cBlockData
  | other
  deriving DecidableEq, Repr

def i2cSmbusBlockMax : Nat := 32

/-- `union i2c_smbus_data`: `byte` is its first byte, the halves of `word` are its first two, and
`block` is all of it. -/
abbrev SmbusData := Vector UInt8 34

namespace SmbusData

variable (data : SmbusData)

def setByte (value : UInt8) : SmbusData := data.set 0 value

/-- `data->word = low | (high << 8)`. -/
def setWord (low high : UInt8) : SmbusData := (data.set 0 low).set 1 high

/-- `data->byte`. -/
abbrev byte : UInt8 := data[0]

/-- `data->word & 0xff`. -/
abbrev wordLow : UInt8 := data[0]

/-- `(data->word >> 8) & 0xff`. -/
abbrev wordHigh : UInt8 := data[1]

/-- `data->block[0] = len`. -/
abbrev setLength (len : Nat) : SmbusData := data.set 0 (UInt8.ofNat len)

/-- `data->block[0] = len` and the copy to `block[1]`. -/
def setBlock (bytes : List UInt8) : SmbusData :=
  Vector.ofFn fun i =>
    if i.val = 0 then UInt8.ofNat bytes.length
    else (bytes[i.val - 1]?).getD data[i]

/-- `len` bytes from `block[1]` on. -/
def block (len : Nat) : List UInt8 := (data.toList.drop 1).take len

/-- The length of a block: how many bytes a read asks for, or a write carries. -/
def blockLen (isRead : Bool) : Nat :=
  if isRead ∧ data[0] = 0 then i2cSmbusBlockMax else min data[0].toNat i2cSmbusBlockMax

theorem blockLen_le (isRead : Bool) : data.blockLen isRead ≤ 32 := by
  unfold blockLen i2cSmbusBlockMax
  split <;> omega

theorem length_block {len : Nat} (h : len ≤ 32) : (data.block len).length = len := by
  rw [block, List.length_take, List.length_drop, Vector.length_toList]
  omega

end SmbusData

/-! ## What an operation carries -/

/-- The sizes that write data to a command or read them from it. -/
def SmbusSize.addressed : SmbusSize → Bool
  | .byteData | .wordData | .procCall | .blockData | .i2cBlockBroken | .i2cBlockData => true
  | .quick | .byte | .other => false

namespace SmbusData

/-- The data of an operation; the length of a block is in `block[0]`. -/
def payload (data : SmbusData) : SmbusSize → List UInt8
  | .byteData => [data[0]]
  | .wordData | .procCall => [data[0], data[1]]
  | .blockData | .i2cBlockBroken | .i2cBlockData => data.block data[0].toNat
  | .quick | .byte | .other => []

/-- A block has 1 to 32 bytes. -/
def Sized (data : SmbusData) : SmbusSize → Prop
  | .blockData | .i2cBlockBroken | .i2cBlockData => 1 ≤ data[0].toNat ∧ data[0].toNat ≤ 32
  | _ => True

instance (data : SmbusData) (size : SmbusSize) : Decidable (data.Sized size) := by
  unfold Sized
  split <;> infer_instance

theorem blockLen_of_sized {data : SmbusData} (h : 1 ≤ data[0].toNat ∧ data[0].toNat ≤ 32)
    (isRead : Bool) : data.blockLen isRead = data[0].toNat := by
  have hne : data[0] ≠ 0 := by
    intro hzero
    rw [hzero] at h
    exact absurd h.1 (by decide)
  unfold blockLen i2cSmbusBlockMax
  rw [if_neg fun hread => hne hread.2, Nat.min_eq_left h.2]

theorem length_payload_le {data : SmbusData} {size : SmbusSize} (h : data.Sized size) :
    (data.payload size).length ≤ 32 := by
  cases size with
  | blockData | i2cBlockBroken | i2cBlockData =>
    show (data.block data[0].toNat).length ≤ 32
    rw [data.length_block h.2]
    exact h.2
  | quick | byte | other => exact Nat.zero_le _
  | byteData => exact show 1 ≤ 32 by decide
  | wordData | procCall => exact show 2 ≤ 32 by decide

theorem setWord_self (data : SmbusData) : data.setWord data[0] data[1] = data := by
  simp [setWord]

end SmbusData

/-! ## The alias -/

/-- `memcpy(dst, &registers[start], len)`; `none` is a read outside the array. -/
def copyFromRegisters (registers : Vector UInt8 256) (start len : Nat) : Option (List UInt8) :=
  if start + len ≤ 256 then some ((registers.toList.drop start).take len) else none

/-- `memcpy(&registers[start], src, len)`; `none` is a write outside the array. -/
def copyToRegisters (registers : Vector UInt8 256) (start : Nat) (bytes : List UInt8) :
    Option (Vector UInt8 256) :=
  if start + bytes.length ≤ 256 then
    some (Vector.ofFn fun i =>
      if start ≤ i.val then (bytes[i.val - start]?).getD registers[i] else registers[i])
  else none

namespace I2cAlias

variable (a : I2cAlias)

/-- The branch of `I2C_SMBUS_WORD_DATA` and `I2C_SMBUS_PROC_CALL`. -/
def smbusWord (isRead isProcCall : Bool) (command : UInt8) (data : SmbusData) :
    I2cAlias × SmbusData :=
  let data :=
    if isRead || isProcCall then
      data.setWord (registerAt a.registers command) (registerAt a.registers (command + 1))
    else data
  let registers :=
    if !isRead || isProcCall then
      setRegister (setRegister a.registers command data[0]) (command + 1) data[1]
    else a.registers
  ({ a with registers := registers, regPtr := command + 2 }, data)

/-- The branch of the block sizes. -/
def smbusBlock (isRead : Bool) (command : UInt8) (data : SmbusData) :
    Option (I2cAlias × SmbusData) :=
  let len := data.blockLen isRead
  let regPtr := command + UInt8.ofNat len
  if isRead then
    (copyFromRegisters a.registers command.toNat len).map fun bytes =>
      ({ a with regPtr := regPtr }, data.setBlock bytes)
  else
    (copyToRegisters a.registers command.toNat (data.block len)).map fun registers =>
      ({ a with registers := registers, regPtr := regPtr }, data.set 0 (UInt8.ofNat len))

/-- `sensorium_i2c_smbus_xfer`: the alias after it, the value returned and the data. -/
def smbusXfer (addr : UInt16) (isRead : Bool) (command : UInt8) (size : SmbusSize)
    (data : SmbusData) : Option (I2cAlias × Int × SmbusData) :=
  if a.faultMode = .timeout then some (a, eTimedOut, data)
  else if a.checkAddr addr false ≠ 0 then some (a, a.checkAddr addr false, data)
  else
    match size with
    | .quick => some (a, 0, data)
    | .byte =>
      if isRead then
        some ({ a with regPtr := a.regPtr + 1 }, 0,
          data.setByte (registerAt a.registers a.regPtr))
      else some ({ a with regPtr := command }, 0, data)
    | .byteData =>
      if isRead then
        some ({ a with regPtr := command + 1 }, 0,
          data.setByte (registerAt a.registers command))
      else
        some ({ a with
          registers := setRegister a.registers command data[0]
          regPtr := command + 1 }, 0, data)
    | .wordData =>
      let (a, data) := a.smbusWord isRead false command data
      some (a, 0, data)
    | .procCall =>
      let (a, data) := a.smbusWord isRead true command data
      some (a, 0, data)
    | .blockData | .i2cBlockBroken | .i2cBlockData =>
      (a.smbusBlock isRead command data).map fun (a, data) => (a, 0, data)
    | .other => some (a, eOpNotSupp, data)

end I2cAlias

/-! ## The operations as messages -/

/-- A message on the stack buffer of 33 bytes. -/
def smbusMsg (addr flags : UInt16) (buf : List UInt8) (h : buf.length ≤ 33) : I2cMsg where
  addr := addr
  flags := flags
  len := UInt16.ofNat buf.length
  buf := buf
  buf_length := by
    rw [UInt16.toNat_ofNat']
    omega

def smbusWrite (addr : UInt16) (buf : List UInt8) (h : buf.length ≤ 33) : I2cMsg :=
  smbusMsg addr 0 buf h

def smbusRead (addr : UInt16) (len : Nat) (h : len ≤ 32) : I2cMsg :=
  smbusMsg addr 1 (List.replicate len 0) (by rw [List.length_replicate]; omega)

section Messages

variable {σ : Type*} (xfer : σ → List I2cMsg → σ × Int × List (List UInt8)) (s : σ)

/-- A list that returns no data. -/
def sendMessages (msgs : List I2cMsg) (data : SmbusData) : σ × Int × SmbusData :=
  let (s, ret, _) := xfer s msgs
  (s, if ret < 0 then ret else 0, data)

/-- A list whose last buffer returns data. -/
def readMessages (msgs : List I2cMsg) (data : SmbusData) (store : List UInt8 → SmbusData) :
    σ × Int × SmbusData :=
  let (s, ret, bufs) := xfer s msgs
  if ret < 0 then (s, ret, data) else (s, 0, store (bufs.getLast?.getD []))

/-- `data->byte` from the byte of a reply. -/
def storeByte (data : SmbusData) (bytes : List UInt8) : SmbusData := data.setByte (bytes.getD 0 0)

/-- `data->word` from the two bytes of a reply. -/
def storeWord (data : SmbusData) (bytes : List UInt8) : SmbusData :=
  data.setWord (bytes.getD 0 0) (bytes.getD 1 0)

/-- `sensorium_runtime_i2c_smbus_xfer` on a `master_xfer`. -/
def smbusByMessages (addr : UInt16) (isRead : Bool) (command : UInt8) (size : SmbusSize)
    (data : SmbusData) : σ × Int × SmbusData :=
  let select := smbusWrite addr [command] (by simp)
  match size with
  | .quick => sendMessages xfer s [smbusMsg addr (if isRead then 1 else 0) [] (by decide)] data
  | .byte =>
    if isRead then
      readMessages xfer s [smbusRead addr 1 (by decide)] data (storeByte data)
    else sendMessages xfer s [select] data
  | .byteData =>
    if isRead then
      readMessages xfer s [select, smbusRead addr 1 (by decide)] data (storeByte data)
    else sendMessages xfer s [smbusWrite addr [command, data[0]] (by simp)] data
  | .wordData =>
    if isRead then
      readMessages xfer s [select, smbusRead addr 2 (by decide)] data (storeWord data)
    else sendMessages xfer s [smbusWrite addr [command, data[0], data[1]] (by simp)] data
  | .procCall =>
    if isRead then
      readMessages xfer s [select, smbusRead addr 2 (by decide)] data (storeWord data)
    else
      let (s, ret, data) :=
        sendMessages xfer s [smbusWrite addr [command, data[0], data[1]] (by simp)] data
      if ret < 0 then (s, ret, data)
      else readMessages xfer s [select, smbusRead addr 2 (by decide)] data (storeWord data)
  | .blockData | .i2cBlockBroken | .i2cBlockData =>
    if isRead then
      readMessages xfer s [select, smbusRead addr (data.blockLen isRead) (data.blockLen_le isRead)]
        data data.setBlock
    else
      sendMessages xfer s
        [smbusWrite addr (command :: data.block (data.blockLen isRead))
          (by rw [List.length_cons, data.length_block (data.blockLen_le isRead)]
              exact Nat.succ_le_succ (data.blockLen_le isRead))] data
  | .other => (s, eOpNotSupp, data)

end Messages

/-! ## Message lists on the alias -/

namespace I2cAlias

variable {a : I2cAlias} {addr : UInt16}

theorem smbusMsg_len {addr flags : UInt16} {buf : List UInt8} (h : buf.length ≤ 33) :
    (smbusMsg addr flags buf h).len.toNat = buf.length :=
  (smbusMsg addr flags buf h).buf_length.symm

theorem isRead_of_flags_zero {m : I2cMsg} (h : m.flags = 0) : m.isRead = false := by
  rw [I2cMsg.isRead, h]
  decide

theorem isRead_of_flags_one {m : I2cMsg} (h : m.flags = 1) : m.isRead = true := by
  rw [I2cMsg.isRead, h]
  decide

theorem isRead_smbusWrite (buf : List UInt8) (h : buf.length ≤ 33) :
    (smbusWrite addr buf h).isRead = false :=
  isRead_of_flags_zero rfl

theorem isRead_smbusRead (len : Nat) (h : len ≤ 32) : (smbusRead addr len h).isRead = true :=
  isRead_of_flags_one rfl

theorem transferOne_of_write {m : I2cMsg} {reg : UInt8} {bytes : List UInt8}
    (hwrite : m.isRead = false) (hbuf : m.buf = reg :: bytes) :
    a.transferOne m =
      ({ a with
        registers := (writeLoop a.registers reg bytes).1
        regPtr := reg + UInt8.ofNat bytes.length }, reg :: bytes) := by
  rw [transferOne, if_neg (by rw [hwrite]; decide), hbuf]
  cases bytes with
  | nil =>
    show ({ a with regPtr := reg }, [reg]) = _
    rw [List.length_nil, add_ofNat_zero]
    rfl
  | cons byte bytes =>
    rw [← writeLoop_last a.registers reg (byte :: bytes)]

theorem transferOne_write (reg : UInt8) (bytes : List UInt8) (h : (reg :: bytes).length ≤ 33) :
    a.transferOne (smbusWrite addr (reg :: bytes) h) =
      ({ a with
        registers := (writeLoop a.registers reg bytes).1
        regPtr := reg + UInt8.ofNat bytes.length }, reg :: bytes) :=
  transferOne_of_write (isRead_smbusWrite _ h) rfl

/-- `len` registers from `reg` on. -/
def registersFrom (registers : Vector UInt8 256) (reg : UInt8) (len : Nat) : List UInt8 :=
  (List.range len).map fun i => registerAt registers (reg + UInt8.ofNat i)

theorem transferOne_of_read {m : I2cMsg} (hread : m.isRead = true) :
    a.transferOne m =
      ({ a with regPtr := a.regPtr + UInt8.ofNat m.len.toNat },
        registersFrom a.registers a.regPtr m.len.toNat) := by
  rw [transferOne, if_pos hread, readLoop_eq]
  rfl

theorem transferOne_read (len : Nat) (h : len ≤ 32) :
    a.transferOne (smbusRead addr len h) =
      ({ a with regPtr := a.regPtr + UInt8.ofNat len }, registersFrom a.registers a.regPtr len) := by
  have hlen : (smbusRead addr len h).len.toNat = len := by
    rw [smbusRead, smbusMsg_len, List.length_replicate]
  rw [transferOne_of_read (isRead_smbusRead len h), hlen]

end I2cAlias

/-! ## Refused operations -/

section Refused

variable {σ : Type*} {xfer : σ → List I2cMsg → σ × Int × List (List UInt8)} {s : σ} {addr : UInt16}
  {ret : Int}

/-- A `master_xfer` that refuses every list for `addr`. -/
def Refuses (xfer : σ → List I2cMsg → σ × Int × List (List UInt8)) (s : σ) (addr : UInt16)
    (ret : Int) : Prop :=
  ret < 0 ∧ ∀ flags buf h ms, flags = 0 ∨ flags = 1 →
    ∃ bufs, xfer s (smbusMsg addr flags buf h :: ms) = (s, ret, bufs)

theorem Refuses.send (h : Refuses xfer s addr ret) {flags : UInt16} {buf : List UInt8}
    (hbuf : buf.length ≤ 33) (hflags : flags = 0 ∨ flags = 1) (ms : List I2cMsg) (data : SmbusData) :
    sendMessages xfer s (smbusMsg addr flags buf hbuf :: ms) data = (s, ret, data) := by
  obtain ⟨bufs, hxfer⟩ := h.2 flags buf hbuf ms hflags
  simp only [sendMessages, hxfer, if_pos h.1]

theorem Refuses.read (h : Refuses xfer s addr ret) {flags : UInt16} {buf : List UInt8}
    (hbuf : buf.length ≤ 33) (hflags : flags = 0 ∨ flags = 1) (ms : List I2cMsg) (data : SmbusData)
    (store : List UInt8 → SmbusData) :
    readMessages xfer s (smbusMsg addr flags buf hbuf :: ms) data store = (s, ret, data) := by
  obtain ⟨bufs, hxfer⟩ := h.2 flags buf hbuf ms hflags
  simp only [readMessages, hxfer, if_pos h.1]

theorem Refuses.smbus (h : Refuses xfer s addr ret) (isRead : Bool) (command : UInt8)
    {size : SmbusSize} (hsize : size ≠ .other) (data : SmbusData) :
    smbusByMessages xfer s addr isRead command size data = (s, ret, data) := by
  unfold smbusByMessages
  cases size with
  | other => exact absurd rfl hsize
  | quick => exact h.send _ (by cases isRead <;> simp) _ _
  | byte =>
    dsimp only
    split
    · exact h.read _ (.inr rfl) _ _ _
    · exact h.send _ (.inl rfl) _ _
  | byteData | wordData | blockData | i2cBlockBroken | i2cBlockData =>
    dsimp only
    split
    · exact h.read _ (.inl rfl) _ _ _
    · exact h.send _ (.inl rfl) _ _
  | procCall =>
    have hsend := h.send (show [command, data[0], data[1]].length ≤ 33 by simp) (.inl rfl) [] data
    dsimp only
    split
    · exact h.read _ (.inl rfl) _ _ _
    · rw [smbusWrite, hsend]
      exact if_pos h.1

end Refused

/-! ## Operations that the alias takes -/

namespace I2cAlias

variable {a : I2cAlias} {addr : UInt16}

theorem isTen_smbusMsg {flags : UInt16} (hflags : flags = 0 ∨ flags = 1) {buf : List UInt8}
    (h : buf.length ≤ 33) : (smbusMsg addr flags buf h).isTen = false := by
  rcases hflags with rfl | rfl
  · show decide ((0 : UInt16) &&& 0x10 ≠ 0) = false
    decide
  · show decide ((1 : UInt16) &&& 0x10 ≠ 0) = false
    decide

theorem refuses_of_refused (h : a.refused addr false ≠ 0) :
    Refuses masterXfer a addr (a.refused addr false) := by
  refine ⟨refused_neg h, fun flags buf hbuf ms hflags => ?_⟩
  have hten : (smbusMsg addr flags buf hbuf).isTen = false := isTen_smbusMsg hflags hbuf
  have hrefused : a.refused addr (smbusMsg addr flags buf hbuf).isTen ≠ 0 := by
    rw [hten]
    exact h
  have hxfer : a.masterXfer (smbusMsg addr flags buf hbuf :: ms) =
      (a, a.refused addr (smbusMsg addr flags buf hbuf).isTen, _) := masterXfer_refused hrefused
  rw [hten] at hxfer
  exact ⟨_, hxfer⟩

/-- A message of an operation for `addr`. -/
def IsSmbus (addr : UInt16) (m : I2cMsg) : Prop := m.addr = addr ∧ m.isTen = false

theorem isSmbus_write (buf : List UInt8) (h : buf.length ≤ 33) :
    IsSmbus addr (smbusWrite addr buf h) := ⟨rfl, isTen_smbusMsg (.inl rfl) h⟩

theorem isSmbus_read (len : Nat) (h : len ≤ 32) : IsSmbus addr (smbusRead addr len h) :=
  ⟨rfl, isTen_smbusMsg (.inr rfl) _⟩

theorem masterXfer_smbus (h : a.refused addr false = 0) {m : I2cMsg} {ms : List I2cMsg}
    (hms : ∀ m' ∈ m :: ms, IsSmbus addr m') :
    a.masterXfer (m :: ms) = ((a.transferAll (m :: ms)).1, 0, (a.transferAll (m :: ms)).2) := by
  apply masterXfer_eq
  intro m' hm'
  rw [(hms m' hm').1, (hms m' hm').2]
  exact h

theorem masterXfer_one (h : a.refused addr false = 0) {m : I2cMsg} (hm : IsSmbus addr m) :
    a.masterXfer [m] = ((a.transferAll [m]).1, 0, (a.transferAll [m]).2) :=
  masterXfer_smbus h (List.forall_mem_singleton.mpr hm)

theorem send_empty (h : a.refused addr false = 0) {flags : UInt16}
    (hflags : flags = 0 ∨ flags = 1) (hlen : [].length ≤ 33) (data : SmbusData) :
    sendMessages masterXfer a [smbusMsg addr flags [] hlen] data = (a, 0, data) := by
  have hsmbus : IsSmbus addr (smbusMsg addr flags [] hlen) := ⟨rfl, isTen_smbusMsg hflags hlen⟩
  have hxfer := masterXfer_one h hsmbus
  have hone : (a.transferOne (smbusMsg addr flags [] hlen)).1 = a := by
    unfold transferOne
    split <;> rfl
  rw [sendMessages, hxfer]
  show ((a.transferOne (smbusMsg addr flags [] hlen)).1, 0, data) = _
  rw [hone]

theorem send_write (h : a.refused addr false = 0) (reg : UInt8) (bytes : List UInt8)
    (hlen : (reg :: bytes).length ≤ 33) (data : SmbusData) :
    sendMessages masterXfer a [smbusWrite addr (reg :: bytes) hlen] data =
      ({ a with
        registers := (writeLoop a.registers reg bytes).1
        regPtr := reg + UInt8.ofNat bytes.length }, 0, data) := by
  have hxfer := masterXfer_one h (isSmbus_write (reg :: bytes) hlen)
  rw [sendMessages, hxfer]
  show ((a.transferOne (smbusWrite addr (reg :: bytes) hlen)).1, 0, data) = _
  rw [transferOne_write]

theorem read_at_pointer (h : a.refused addr false = 0) (len : Nat) (hlen : len ≤ 32)
    (data : SmbusData) (store : List UInt8 → SmbusData) :
    readMessages masterXfer a [smbusRead addr len hlen] data store =
      ({ a with regPtr := a.regPtr + UInt8.ofNat len }, 0,
        store (registersFrom a.registers a.regPtr len)) := by
  have hxfer := masterXfer_one h (isSmbus_read len hlen)
  rw [readMessages, hxfer]
  show ((a.transferOne (smbusRead addr len hlen)).1, 0,
    store (a.transferOne (smbusRead addr len hlen)).2) = _
  rw [transferOne_read]

theorem read_selected (h : a.refused addr false = 0) (reg : UInt8) (len : Nat)
    (hreg : [reg].length ≤ 33) (hlen : len ≤ 32) (data : SmbusData)
    (store : List UInt8 → SmbusData) :
    readMessages masterXfer a [smbusWrite addr [reg] hreg, smbusRead addr len hlen] data store =
      ({ a with regPtr := reg + UInt8.ofNat len }, 0, store (registersFrom a.registers reg len)) := by
  have hxfer := masterXfer_smbus h (List.forall_mem_cons.mpr ⟨isSmbus_write [reg] hreg,
    List.forall_mem_singleton.mpr (isSmbus_read len hlen)⟩)
  rw [readMessages, hxfer]
  show (((a.transferOne (smbusWrite addr [reg] hreg)).1.transferOne (smbusRead addr len hlen)).1, 0,
    store ((a.transferOne (smbusWrite addr [reg] hreg)).1.transferOne
      (smbusRead addr len hlen)).2) = _
  rw [transferOne_write, transferOne_read, List.length_nil, add_ofNat_zero]
  rfl

/-! ### Blocks -/

theorem registersFrom_eq {registers : Vector UInt8 256} {reg : UInt8} {len : Nat}
    (hend : reg.toNat + len ≤ 256) :
    registersFrom registers reg len = (registers.toList.drop reg.toNat).take len := by
  apply List.ext_getElem
  · simp [registersFrom]
    omega
  · intro i hi _
    rw [registersFrom, List.length_map, List.length_range] at hi
    simp [registersFrom, registerAt, Nat.mod_eq_of_lt (show reg.toNat + i < 256 by omega)]

theorem copyFromRegisters_eq {registers : Vector UInt8 256} {reg : UInt8} {len : Nat}
    (hend : reg.toNat + len ≤ 256) :
    copyFromRegisters registers reg.toNat len = some (registersFrom registers reg len) := by
  rw [copyFromRegisters, if_pos hend, registersFrom_eq hend]

theorem copyToRegisters_eq {registers : Vector UInt8 256} {reg : UInt8} {bytes : List UInt8}
    (hend : reg.toNat + bytes.length ≤ 256) :
    copyToRegisters registers reg.toNat bytes = some (writeLoop registers reg bytes).1 := by
  rw [copyToRegisters, if_pos hend]
  apply congrArg some
  apply Vector.ext
  intro i hi
  rw [Vector.getElem_ofFn, writeLoop_get hend hi]
  rfl

/-- A block that ends inside the bank is read or written as its messages do. -/
theorem smbusBlock_eq (isRead : Bool) {command : UInt8} {data : SmbusData}
    (hend : command.toNat + data.blockLen isRead ≤ 256) :
    a.smbusBlock isRead command data =
      if isRead then
        some ({ a with regPtr := command + UInt8.ofNat (data.blockLen isRead) },
          data.setBlock (registersFrom a.registers command (data.blockLen isRead)))
      else
        some ({ a with
          registers := (writeLoop a.registers command (data.block (data.blockLen isRead))).1
          regPtr := command + UInt8.ofNat (data.blockLen isRead) },
          data.set 0 (UInt8.ofNat (data.blockLen isRead))) := by
  have hlen := data.length_block (data.blockLen_le isRead)
  unfold smbusBlock
  cases isRead with
  | true => simp [copyFromRegisters_eq hend]
  | false =>
    simp only [Bool.false_eq_true, if_false]
    rw [copyToRegisters_eq (by rw [hlen]; exact hend)]
    rfl

theorem smbusBlock_none (isRead : Bool) {command : UInt8} {data : SmbusData}
    (hend : ¬ command.toNat + data.blockLen isRead ≤ 256) :
    a.smbusBlock isRead command data = none := by
  have hlen := data.length_block (data.blockLen_le isRead)
  unfold smbusBlock
  cases isRead with
  | true => simp [copyFromRegisters, hend]
  | false => simp [copyToRegisters, hlen, hend]

/-! ### Words -/

theorem registerAt_set_self (registers : Vector UInt8 256) (reg value : UInt8) :
    registerAt (setRegister registers reg value) reg = value := by
  simp [registerAt, setRegister]

theorem registerAt_set_ne (registers : Vector UInt8 256) {reg other : UInt8} (h : reg ≠ other)
    (value : UInt8) :
    registerAt (setRegister registers reg value) other = registerAt registers other := by
  have hne : reg.toNat ≠ other.toNat := fun heq => h (UInt8.toNat_inj.mp heq)
  simp [registerAt, setRegister, hne]

theorem setRegister_self (registers : Vector UInt8 256) (reg : UInt8) :
    setRegister registers reg (registerAt registers reg) = registers := by
  simp [registerAt, setRegister]

theorem ne_add_one (reg : UInt8) : reg ≠ reg + 1 := by
  intro heq
  have hval := congrArg UInt8.toNat heq
  have := reg.toNat_lt
  rw [UInt8.toNat_add, UInt8.toNat_one] at hval
  omega

/-- Two registers are set to what they hold exactly if they hold it. -/
theorem setRegisters_eq_iff (registers : Vector UInt8 256) (reg low high : UInt8) :
    setRegister (setRegister registers reg low) (reg + 1) high = registers ↔
      registerAt registers reg = low ∧ registerAt registers (reg + 1) = high := by
  constructor
  · intro h
    have hlow := congrArg (fun registers => registerAt registers reg) h
    have hhigh := congrArg (fun registers => registerAt registers (reg + 1)) h
    rw [registerAt_set_ne _ (ne_add_one reg).symm, registerAt_set_self] at hlow
    rw [registerAt_set_self] at hhigh
    exact ⟨hlow.symm, hhigh.symm⟩
  · rintro ⟨rfl, rfl⟩
    rw [setRegister_self, setRegister_self]

/-! ## An operation and its messages -/

theorem smbusXfer_refused (h : a.refused addr false ≠ 0) (isRead : Bool) (command : UInt8)
    (size : SmbusSize) (data : SmbusData) :
    a.smbusXfer addr isRead command size data = some (a, a.refused addr false, data) := by
  unfold smbusXfer
  unfold refused at *
  split at h
  · rename_i hfault
    rw [if_pos hfault, if_pos hfault]
  · rename_i hfault
    rw [if_neg hfault, if_neg hfault, if_pos h]

/-- The alias after an operation, the value returned, and the data where there are any. -/
def SmbusAgrees (a : I2cAlias) (addr : UInt16) (isRead : Bool) (command : UInt8)
    (size : SmbusSize) (data : SmbusData) : Prop :=
  ∃ r, a.smbusXfer addr isRead command size data = some r ∧
    (smbusByMessages masterXfer a addr isRead command size data).1 = r.1 ∧
    (smbusByMessages masterXfer a addr isRead command size data).2.1 = r.2.1 ∧
    (isRead = true ∨ size = .procCall →
      (smbusByMessages masterXfer a addr isRead command size data).2.2 = r.2.2)

/-- No block crosses the end of the bank, and a process call sends what the registers hold. -/
def Regular (a : I2cAlias) (isRead : Bool) (command : UInt8) (size : SmbusSize)
    (data : SmbusData) : Prop :=
  match size with
  | .procCall =>
    isRead = true ∨
      registerAt a.registers command = data[0] ∧ registerAt a.registers (command + 1) = data[1]
  | .blockData | .i2cBlockBroken | .i2cBlockData => command.toNat + data.blockLen isRead ≤ 256
  | _ => True

variable {isRead : Bool} {command : UInt8} {data : SmbusData}

theorem smbusAgrees_of_refused (h : a.refused addr false ≠ 0) {size : SmbusSize}
    (hsize : size ≠ .other) : a.SmbusAgrees addr isRead command size data := by
  have hmessages := (refuses_of_refused h).smbus isRead command hsize data
  refine ⟨_, smbusXfer_refused h isRead command size data, ?_⟩
  rw [hmessages]
  exact ⟨rfl, rfl, fun _ => rfl⟩

theorem smbusXfer_taken (h : a.refused addr false = 0) (size : SmbusSize) :
    a.smbusXfer addr isRead command size data =
      match size with
      | .quick => some (a, 0, data)
      | .byte =>
        if isRead then
          some ({ a with regPtr := a.regPtr + 1 }, 0,
            data.setByte (registerAt a.registers a.regPtr))
        else some ({ a with regPtr := command }, 0, data)
      | .byteData =>
        if isRead then
          some ({ a with regPtr := command + 1 }, 0,
            data.setByte (registerAt a.registers command))
        else
          some ({ a with
            registers := setRegister a.registers command data[0]
            regPtr := command + 1 }, 0, data)
      | .wordData =>
        some ((a.smbusWord isRead false command data).1, 0,
          (a.smbusWord isRead false command data).2)
      | .procCall =>
        some ((a.smbusWord isRead true command data).1, 0,
          (a.smbusWord isRead true command data).2)
      | .blockData | .i2cBlockBroken | .i2cBlockData =>
        (a.smbusBlock isRead command data).map fun r => (r.1, 0, r.2)
      | .other => some (a, eOpNotSupp, data) := by
  have ⟨hfault, hcheck⟩ := refused_eq_zero h
  unfold smbusXfer
  rw [if_neg hfault, hcheck, if_neg (fun hne => hne rfl)]

theorem registersFrom_one (registers : Vector UInt8 256) (reg : UInt8) :
    registersFrom registers reg 1 = [registerAt registers reg] := by
  show [registerAt registers (reg + UInt8.ofNat 0)] = _
  rw [add_ofNat_zero]

theorem registersFrom_two (registers : Vector UInt8 256) (reg : UInt8) :
    registersFrom registers reg 2 = [registerAt registers reg, registerAt registers (reg + 1)] := by
  show [registerAt registers (reg + UInt8.ofNat 0), registerAt registers (reg + UInt8.ofNat 1)] = _
  rw [add_ofNat_zero]
  rfl

theorem smbusAgrees_of_eq {size : SmbusSize} {r : I2cAlias × Int × SmbusData}
    (hx : a.smbusXfer addr isRead command size data = some r)
    (hm : smbusByMessages masterXfer a addr isRead command size data = r) :
    a.SmbusAgrees addr isRead command size data := by
  refine ⟨r, hx, ?_⟩
  rw [hm]
  exact ⟨rfl, rfl, fun _ => rfl⟩

theorem smbusAgrees_quick (h : a.refused addr false = 0) :
    a.SmbusAgrees addr isRead command .quick data := by
  apply smbusAgrees_of_eq (smbusXfer_taken h _)
  rw [smbusByMessages, send_empty h (by cases isRead <;> simp)]

theorem smbusAgrees_byte (h : a.refused addr false = 0) :
    a.SmbusAgrees addr isRead command .byte data := by
  cases isRead with
  | true =>
    apply smbusAgrees_of_eq (smbusXfer_taken h _)
    show readMessages masterXfer a [smbusRead addr 1 _] data (storeByte data) = _
    rw [read_at_pointer h, registersFrom_one]
    rfl
  | false =>
    apply smbusAgrees_of_eq (smbusXfer_taken h _)
    show sendMessages masterXfer a [smbusWrite addr [command] _] data = _
    rw [send_write h, List.length_nil, add_ofNat_zero]
    rfl

theorem smbusAgrees_byteData (h : a.refused addr false = 0) :
    a.SmbusAgrees addr isRead command .byteData data := by
  cases isRead with
  | true =>
    apply smbusAgrees_of_eq (smbusXfer_taken h _)
    show readMessages masterXfer a [smbusWrite addr [command] _, smbusRead addr 1 _] data
      (storeByte data) = _
    rw [read_selected h, registersFrom_one]
    rfl
  | false =>
    apply smbusAgrees_of_eq (smbusXfer_taken h _)
    show sendMessages masterXfer a [smbusWrite addr [command, data[0]] _] data = _
    rw [send_write h]
    rfl

-- Both directions of a word, also as the two halves of a process call.
theorem readMessages_word (h : a.refused addr false = 0) (hreg : [command].length ≤ 33)
    (hlen : 2 ≤ 32) :
    readMessages masterXfer a [smbusWrite addr [command] hreg, smbusRead addr 2 hlen] data
        (storeWord data) =
      ({ a with regPtr := command + 2 }, 0,
        data.setWord (registerAt a.registers command) (registerAt a.registers (command + 1))) := by
  rw [read_selected h, registersFrom_two]
  rfl

theorem sendMessages_word (h : a.refused addr false = 0)
    (hlen : [command, data[0], data[1]].length ≤ 33) :
    sendMessages masterXfer a [smbusWrite addr [command, data[0], data[1]] hlen] data =
      ({ a with
        registers := setRegister (setRegister a.registers command data[0]) (command + 1) data[1]
        regPtr := command + 2 }, 0, data) := by
  rw [send_write h]
  rfl

theorem smbusAgrees_wordData (h : a.refused addr false = 0) :
    a.SmbusAgrees addr isRead command .wordData data := by
  cases isRead with
  | true =>
    apply smbusAgrees_of_eq (smbusXfer_taken h _)
    show readMessages masterXfer a [smbusWrite addr [command] _, smbusRead addr 2 _] data
      (storeWord data) = _
    rw [readMessages_word h]
    rfl
  | false =>
    apply smbusAgrees_of_eq (smbusXfer_taken h _)
    show sendMessages masterXfer a [smbusWrite addr [command, data[0], data[1]] _] data = _
    rw [sendMessages_word h]
    rfl

/-- The alias reads the word and writes back what it has read. -/
theorem smbusWord_procCall (a : I2cAlias) (isRead : Bool) (command : UInt8) (data : SmbusData) :
    a.smbusWord isRead true command data =
      ({ a with regPtr := command + 2 },
        data.setWord (registerAt a.registers command) (registerAt a.registers (command + 1))) := by
  have hsame : setRegister (setRegister a.registers command (registerAt a.registers command))
      (command + 1) (registerAt a.registers (command + 1)) = a.registers :=
    (setRegisters_eq_iff _ _ _ _).mpr ⟨rfl, rfl⟩
  have hlow : (data.setWord (registerAt a.registers command)
      (registerAt a.registers (command + 1)))[0] = registerAt a.registers command := by
    simp [SmbusData.setWord]
  have hhigh : (data.setWord (registerAt a.registers command)
      (registerAt a.registers (command + 1)))[1] = registerAt a.registers (command + 1) := by
    simp [SmbusData.setWord]
  simp only [smbusWord, Bool.or_true, if_true, hlow, hhigh, hsame]

theorem smbusAgrees_procCall (h : a.refused addr false = 0) :
    a.SmbusAgrees addr isRead command .procCall data ↔ a.Regular isRead command .procCall data := by
  have hx : a.smbusXfer addr isRead command .procCall data =
      some ((a.smbusWord isRead true command data).1, 0,
        (a.smbusWord isRead true command data).2) := smbusXfer_taken h .procCall
  rw [smbusWord_procCall] at hx
  cases isRead with
  | true =>
    refine iff_of_true (smbusAgrees_of_eq hx ?_) (.inl rfl)
    show readMessages masterXfer a [smbusWrite addr [command] _, smbusRead addr 2 _] data
      (storeWord data) = _
    rw [readMessages_word h]
  | false =>
    have hm : smbusByMessages masterXfer a addr false command .procCall data =
        readMessages masterXfer
          { a with
            registers := setRegister (setRegister a.registers command data[0]) (command + 1) data[1]
            regPtr := command + 2 }
          [smbusWrite addr [command] (by simp), smbusRead addr 2 (by decide)] data
          (storeWord data) := by
      unfold smbusByMessages
      dsimp only
      rw [if_neg (by decide), sendMessages_word h]
      rfl
    have hstored : { a with
        registers := setRegister (setRegister a.registers command data[0]) (command + 1) data[1]
        regPtr := command + 2 }.refused addr false = 0 := h
    rw [readMessages_word hstored] at hm
    unfold SmbusAgrees
    rw [hm, hx]
    constructor
    · rintro ⟨r, hr, halias, -⟩
      cases hr
      exact .inr ((setRegisters_eq_iff _ _ _ _).mp (congrArg I2cAlias.registers halias))
    · intro hregular
      have hheld := hregular.resolve_left (by decide)
      rw [(setRegisters_eq_iff _ _ _ _).mpr hheld]
      exact ⟨_, rfl, rfl, rfl, fun _ => rfl⟩

theorem smbusAgrees_block (h : a.refused addr false = 0) {size : SmbusSize}
    (hsize : size = .blockData ∨ size = .i2cBlockBroken ∨ size = .i2cBlockData) :
    a.SmbusAgrees addr isRead command size data ↔
      command.toNat + data.blockLen isRead ≤ 256 := by
  have hx : a.smbusXfer addr isRead command size data =
      (a.smbusBlock isRead command data).map fun r => (r.1, 0, r.2) := by
    rw [smbusXfer_taken h]
    rcases hsize with rfl | rfl | rfl <;> rfl
  by_cases hend : command.toNat + data.blockLen isRead ≤ 256
  · rw [smbusBlock_eq isRead hend] at hx
    refine iff_of_true ?_ hend
    cases isRead with
    | true =>
      apply smbusAgrees_of_eq hx
      have hm := read_selected h command (data.blockLen true) (by simp) (data.blockLen_le true) data
        data.setBlock
      rcases hsize with rfl | rfl | rfl <;> exact hm
    | false =>
      refine ⟨_, hx, ?_⟩
      have hlen := data.length_block (data.blockLen_le false)
      have hm : ∀ hfit, sendMessages masterXfer a
          [smbusWrite addr (command :: data.block (data.blockLen false)) hfit] data =
            ({ a with
              registers := (writeLoop a.registers command (data.block (data.blockLen false))).1
              regPtr := command + UInt8.ofNat (data.blockLen false) }, 0, data) := by
        intro hfit
        rw [send_write h, hlen]
      rcases hsize with rfl | rfl | rfl <;>
      · unfold smbusByMessages
        dsimp only
        rw [if_neg (by decide), hm]
        exact ⟨rfl, rfl, by simp⟩
  · rw [smbusBlock_none isRead hend] at hx
    refine iff_of_false ?_ hend
    rintro ⟨r, hr, -⟩
    rw [hx] at hr
    cases hr

end I2cAlias

/-- An operation of the alias does what its messages do exactly if it is refused or regular. -/
theorem smbus_agrees_iff (a : I2cAlias) (addr : UInt16) (isRead : Bool) (command : UInt8)
    (size : SmbusSize) (hsize : size ≠ .other) (data : SmbusData) :
    a.SmbusAgrees addr isRead command size data ↔
      a.refused addr false ≠ 0 ∨ a.Regular isRead command size data := by
  by_cases h : a.refused addr false = 0
  · rw [or_iff_right (fun hne => hne h)]
    cases size with
    | other => exact absurd rfl hsize
    | quick => exact iff_of_true (I2cAlias.smbusAgrees_quick h) trivial
    | byte => exact iff_of_true (I2cAlias.smbusAgrees_byte h) trivial
    | byteData => exact iff_of_true (I2cAlias.smbusAgrees_byteData h) trivial
    | wordData => exact iff_of_true (I2cAlias.smbusAgrees_wordData h) trivial
    | procCall => exact I2cAlias.smbusAgrees_procCall h
    | blockData => exact I2cAlias.smbusAgrees_block h (.inl rfl)
    | i2cBlockBroken => exact I2cAlias.smbusAgrees_block h (.inr (.inl rfl))
    | i2cBlockData => exact I2cAlias.smbusAgrees_block h (.inr (.inr rfl))
  · exact iff_of_true (I2cAlias.smbusAgrees_of_refused h hsize) (.inl h)

theorem smbus_agrees_iff_block :
    blankAlias.SmbusAgrees 0x50 false 0xe0 .blockData (Vector.replicate 34 32) ↔
      blankAlias.refused 0x50 false ≠ 0 ∨
        blankAlias.Regular false 0xe0 .blockData (Vector.replicate 34 32) :=
  smbus_agrees_iff blankAlias 0x50 false 0xe0 .blockData (by decide) (Vector.replicate 34 32)

/-- A block of 32 bytes at 0xf0 leaves the registers, and a process call does not store its word. -/
theorem smbus_operations_diverge :
    ¬ blankAlias.SmbusAgrees 0x50 false 0xf0 .blockData (Vector.replicate 34 32) ∧
      ¬ blankAlias.SmbusAgrees 0x50 false 0 .procCall (Vector.replicate 34 7) := by
  have htaken : blankAlias.refused 0x50 false = 0 := by decide
  constructor
  · rw [I2cAlias.smbusAgrees_block htaken (.inl rfl)]
    decide
  · rw [I2cAlias.smbusAgrees_procCall htaken]
    show ¬ (false = true ∨ registerAt blankAlias.registers 0 = 7 ∧
      registerAt blankAlias.registers 1 = 7)
    decide

end Sensorium.Kernel

import Sensorium.Kernel.AliasSmbus
import Sensorium.Lib.Slices

/-!
# SMBus operations on the transfer buffer

`sensorium_runtime_i2c_smbus_xfer` keeps the bytes of an operation in 33 bytes of its stack, and its
messages point into them.  `none` is an access outside of the buffer or of the caller's block.
-/

namespace Sensorium.Kernel

open Lib

/-- `u8 buf[1 + I2C_SMBUS_BLOCK_MAX]`. -/
abbrev XferBuffer := Vector UInt8 33

/-- `buf[i] = value`. -/
def XferBuffer.put (buf : XferBuffer) (i : Fin 33) (value : UInt8) : XferBuffer :=
  buf.set i value i.isLt

@[simp] theorem getElem_put (buf : XferBuffer) (i : Fin 33) (value : UInt8) {j : Nat}
    (hj : j < 33) : (buf.put i value)[j] = if i.val = j then value else buf[j] :=
  Vector.getElem_set i.isLt hj

@[simp] theorem get_put (buf : XferBuffer) (i j : Fin 33) (value : UInt8) :
    (buf.put i value).get j = if i = j then value else buf.get j := by
  show (buf.put i value)[j.val] = _
  rw [getElem_put]
  simp only [Fin.ext_iff]
  rfl

/-- A `struct i2c_msg` whose `buf` is `&buf[start]`. -/
structure BufferMsg where
  addr : UInt16
  flags : UInt16
  len : UInt16
  start : Nat
  deriving DecidableEq, Repr

/-- The message with the bytes that it points to. -/
def BufferMsg.load (buf : XferBuffer) (m : BufferMsg) : Option I2cMsg :=
  match h : slice buf m.start m.len.toNat with
  | some bytes => some ⟨m.addr, m.flags, m.len, bytes, length_of_slice h⟩
  | none => none

/-- The buffers of the read messages, as a transfer leaves them. -/
def storeReads : XferBuffer → List BufferMsg → List (List UInt8) → Option XferBuffer
  | buf, m :: msgs, bytes :: bufs =>
    if m.flags &&& 1 ≠ 0 then (splice buf m.start bytes).bind fun buf => storeReads buf msgs bufs
    else storeReads buf msgs bufs
  | buf, _, _ => some buf

section Operations

variable {σ : Type} (xfer : σ → List I2cMsg → σ × Int × List (List UInt8)) (s : σ)

/-- `sensorium_runtime_i2c_master_xfer` on messages in the buffer. -/
def transferOnBuffer (buf : XferBuffer) (msgs : List BufferMsg) :
    Option (σ × Int × XferBuffer) := do
  let loaded ← msgs.mapM (BufferMsg.load buf)
  let (s, ret, bufs) := xfer s loaded
  let buf ← storeReads buf msgs bufs
  some (s, ret, buf)

/-- A transfer and `return ret < 0 ? ret : 0`. -/
def sendOnBuffer (buf : XferBuffer) (msgs : List BufferMsg) (data : SmbusData) :
    Option (σ × Int × SmbusData) :=
  (transferOnBuffer xfer s buf msgs).map fun (s, ret, _) => (s, if ret < 0 then ret else 0, data)

/-- A transfer and, unless it fails, what the operation takes from the buffer. -/
def readOnBuffer (buf : XferBuffer) (msgs : List BufferMsg) (data : SmbusData)
    (store : XferBuffer → Option SmbusData) : Option (σ × Int × SmbusData) := do
  let (s, ret, buf) ← transferOnBuffer xfer s buf msgs
  if ret < 0 then some (s, ret, data)
  else (store buf).map fun data => (s, 0, data)

/-- `data->block[0] = read_len` and the copy from `buf[1]` to `data->block[1]`. -/
def takeBlock (data : SmbusData) (readLen : Nat) (buf : XferBuffer) : Option SmbusData := do
  let bytes ← slice buf 1 readLen
  splice (data.setLength readLen) 1 bytes

/-- `sensorium_runtime_i2c_smbus_xfer`; `buf` is what the stack holds. -/
def runtimeSmbusXfer (addr : UInt16) (isRead : Bool) (command : UInt8) (size : SmbusSize)
    (data : SmbusData) (buf : XferBuffer) : Option (σ × Int × SmbusData) :=
  let select : BufferMsg := ⟨addr, 0, 1, 0⟩
  match size with
  | .quick => sendOnBuffer xfer s buf [⟨addr, if isRead then 1 else 0, 0, 0⟩] data
  | .byte =>
    if isRead then
      readOnBuffer xfer s (buf.put 0 0) [⟨addr, 1, 1, 0⟩] data fun buf =>
        some (data.setByte (buf.get 0))
    else sendOnBuffer xfer s (buf.put 0 command) [select] data
  | .byteData =>
    let buf := buf.put 0 command
    if isRead then
      readOnBuffer xfer s buf [select, ⟨addr, 1, 1, 1⟩] data fun buf =>
        some (data.setByte (buf.get 1))
    else sendOnBuffer xfer s (buf.put 1 data.byte) [⟨addr, 0, 2, 0⟩] data
  | .wordData | .procCall =>
    let buf := buf.put 0 command
    let readWord (s : σ) (buf : XferBuffer) : Option (σ × Int × SmbusData) :=
      readOnBuffer xfer s buf [select, ⟨addr, 1, 2, 1⟩] data fun buf =>
        some (data.setWord (buf.get 1) (buf.get 2))
    if isRead then readWord s buf
    else do
      let buf := (buf.put 1 data.wordLow).put 2 data.wordHigh
      let (s, ret, buf) ← transferOnBuffer xfer s buf [⟨addr, 0, 3, 0⟩]
      if ret < 0 then some (s, ret, data)
      else if size = .procCall then readWord s buf
      else some (s, 0, data)
  | .blockData | .i2cBlockBroken | .i2cBlockData =>
    let buf := buf.put 0 command
    let readLen := data.blockLen isRead
    if isRead then
      readOnBuffer xfer s buf [select, ⟨addr, 1, UInt16.ofNat readLen, 1⟩] data
        (takeBlock data readLen)
    else do
      let bytes ← slice data 1 readLen
      let buf ← splice buf 1 bytes
      sendOnBuffer xfer s buf [⟨addr, 0, UInt16.ofNat (1 + readLen), 0⟩] data
  | .other => some (s, eOpNotSupp, data)

end Operations

/-! ## Registers -/

/-- A register after a write of up to 256 bytes. -/
theorem registerAt_writeLoop {registers : Vector UInt8 256} {reg : UInt8} {bytes : List UInt8}
    (hlen : bytes.length ≤ 256) (i : UInt8) :
    registerAt (writeLoop registers reg bytes).1 i =
      (bytes[(i - reg).toNat]?).getD (registerAt registers i) := by
  induction bytes generalizing registers reg with
  | nil => rfl
  | cons byte bytes ih =>
    rw [List.length_cons] at hlen
    rw [writeLoop, ih (by omega)]
    by_cases hi : i = reg
    · -- the first register is not reached again
      subst hi
      have hlast : (i - (i + 1)).toNat = 255 := by
        rw [UInt8.toNat_sub, UInt8.toNat_add, UInt8.toNat_one]
        have := i.toNat_lt
        omega
      have hfirst : (i - i).toNat = 0 := by
        rw [UInt8.sub_self]
        rfl
      rw [hlast, hfirst, List.getElem?_eq_none (by omega), I2cAlias.registerAt_set_self]
      rfl
    · have hne : reg ≠ i := fun h => hi h.symm
      have hsucc : (i - reg).toNat = (i - (reg + 1)).toNat + 1 := by
        have hvals : i.toNat ≠ reg.toNat := fun h => hi (UInt8.toNat_inj.mp h)
        rw [UInt8.toNat_sub, UInt8.toNat_sub, UInt8.toNat_add, UInt8.toNat_one]
        have := i.toNat_lt
        have := reg.toNat_lt
        omega
      rw [hsucc, List.getElem?_cons_succ, I2cAlias.registerAt_set_ne _ hne]

/-- What has been written is read back. -/
theorem registersFrom_writeLoop {registers : Vector UInt8 256} {reg : UInt8} (bytes : List UInt8)
    (hlen : bytes.length ≤ 256) :
    I2cAlias.registersFrom (writeLoop registers reg bytes).1 reg bytes.length = bytes := by
  unfold I2cAlias.registersFrom
  apply List.ext_getElem
  · simp
  · intro i hi hi'
    have hplace : (reg + UInt8.ofNat i - reg).toNat = i := by
      rw [UInt8.toNat_sub, toNat_add_ofNat]
      have := reg.toNat_lt
      omega
    rw [List.getElem_map, List.getElem_range, registerAt_writeLoop hlen, hplace,
      List.getElem?_eq_getElem hi']
    rfl

/-! ## Transfers on a bank -/

section Bank

variable {σ : Type} {xfer : σ → List I2cMsg → σ × Int × List (List UInt8)} {addr : UInt16}
  {R : σ → I2cAlias → Prop} {s : σ} {a : I2cAlias} {buf : XferBuffer} {data : SmbusData}

/-- A message for `addr` that fits into the buffer. -/
structure FitsBuffer (addr : UInt16) (m : I2cMsg) : Prop where
  addr : m.addr = addr
  isTen : m.isTen = false
  len : m.len.toNat ≤ 33

theorem fitsBuffer {flags len : UInt16} {bytes : List UInt8} {hbytes : bytes.length = len.toNat}
    (hflags : flags = 0 ∨ flags = 1) (hlen : len.toNat ≤ 33) :
    FitsBuffer addr ⟨addr, flags, len, bytes, hbytes⟩ := by
  refine ⟨rfl, ?_, hlen⟩
  rcases hflags with rfl | rfl
  · show decide ((0 : UInt16) &&& 0x10 ≠ 0) = false
    decide
  · show decide ((1 : UInt16) &&& 0x10 ≠ 0) = false
    decide

/-- The messages of an operation are answered from a bank, which `R` relates to the state. -/
def ServesBank (xfer : σ → List I2cMsg → σ × Int × List (List UInt8)) (addr : UInt16)
    (R : σ → I2cAlias → Prop) : Prop :=
  ∀ ⦃s : σ⦄ ⦃a : I2cAlias⦄ ⦃msgs : List I2cMsg⦄, R s a → msgs ≠ [] → msgs.length ≤ 2 →
    (∀ m ∈ msgs, FitsBuffer addr m) →
      ∃ s' ret, xfer s msgs = (s', ret, (a.transferAll msgs).2) ∧ 0 ≤ ret ∧
        R s' (a.transferAll msgs).1

/-- The bank after `bytes` have been written from `reg` on. -/
def I2cAlias.stored (a : I2cAlias) (reg : UInt8) (bytes : List UInt8) : I2cAlias :=
  { a with
    registers := (writeLoop a.registers reg bytes).1
    regPtr := reg + UInt8.ofNat bytes.length }

theorem load_eq {flags len : UInt16} {start : Nat} {bytes : List UInt8}
    (h : slice buf start len.toNat = some bytes) :
    BufferMsg.load buf ⟨addr, flags, len, start⟩ =
      some ⟨addr, flags, len, bytes, length_of_slice h⟩ := by
  unfold BufferMsg.load
  split
  · rename_i bytes' h'
    have hsame : bytes' = bytes := Option.some_inj.mp (h'.symm.trans h)
    subst hsame
    rfl
  · rename_i h'
    rw [h] at h'
    cases h'

theorem storeReads_write {len : UInt16} {start : Nat} (bytes : List UInt8) (msgs : List BufferMsg)
    (bufs : List (List UInt8)) :
    storeReads buf (⟨addr, 0, len, start⟩ :: msgs) (bytes :: bufs) = storeReads buf msgs bufs := by
  have hzero : ¬ (0 : UInt16) &&& 1 ≠ 0 := by decide
  rw [storeReads, if_neg hzero]

theorem storeReads_read {len : UInt16} {start : Nat} (bytes : List UInt8) (msgs : List BufferMsg)
    (bufs : List (List UInt8)) :
    storeReads buf (⟨addr, 1, len, start⟩ :: msgs) (bytes :: bufs) =
      (splice buf start bytes).bind fun buf => storeReads buf msgs bufs := by
  have hone : (1 : UInt16) &&& 1 ≠ 0 := by decide
  rw [storeReads, if_pos hone]

/-- One write message. -/
theorem transferOnBuffer_write (hx : ServesBank xfer addr R) (hR : R s a) (len : UInt16)
    {reg : UInt8} {bytes : List UInt8} (hlen : len.toNat ≤ 33)
    (hbuf : slice buf 0 len.toNat = some (reg :: bytes)) :
    ∃ s' ret, transferOnBuffer xfer s buf [⟨addr, 0, len, 0⟩] = some (s', ret, buf) ∧ 0 ≤ ret ∧
      R s' (a.stored reg bytes) := by
  let m : I2cMsg := ⟨addr, 0, len, reg :: bytes, length_of_slice hbuf⟩
  have hfits : ∀ m' ∈ [m], FitsBuffer addr m' :=
    List.forall_mem_singleton.mpr (fitsBuffer (.inl rfl) hlen)
  have hone : a.transferOne m = (a.stored reg bytes, reg :: bytes) :=
    I2cAlias.transferOne_of_write (I2cAlias.isRead_of_flags_zero rfl) rfl
  obtain ⟨s', ret, hxfer, hret, hR'⟩ := hx hR (by simp) (by simp) hfits
  have hall : a.transferAll [m] = (a.stored reg bytes, [reg :: bytes]) := by
    simp only [I2cAlias.transferAll, hone]
  rw [hall] at hxfer hR'
  refine ⟨s', ret, ?_, hret, hR'⟩
  unfold transferOnBuffer
  rw [List.mapM_cons, load_eq hbuf]
  simp only [List.mapM_nil, pure, bind, Option.bind]
  rw [hxfer]
  dsimp only
  rw [storeReads_write]
  rfl

/-- A write of the register and a read behind it in the buffer. -/
theorem transferOnBuffer_read (hx : ServesBank xfer addr R) (hR : R s a) (len : UInt16)
    {reg : UInt8} (hlen : len.toNat ≤ 32) (hbuf : slice buf 0 1 = some [reg]) :
    ∃ s' ret buf', transferOnBuffer xfer s buf [⟨addr, 0, 1, 0⟩, ⟨addr, 1, len, 1⟩] =
        some (s', ret, buf') ∧ 0 ≤ ret ∧ R s' { a with regPtr := reg + UInt8.ofNat len.toNat } ∧
      slice buf' 1 len.toNat = some (I2cAlias.registersFrom a.registers reg len.toNat) := by
  obtain ⟨old, hold, -⟩ := exists_slice buf 1 len.toNat (by omega)
  let m : I2cMsg := ⟨addr, 0, 1, [reg], length_of_slice hbuf⟩
  let m' : I2cMsg := ⟨addr, 1, len, old, length_of_slice hold⟩
  have hfits : ∀ x ∈ [m, m'], FitsBuffer addr x := List.forall_mem_cons.mpr
    ⟨fitsBuffer (.inl rfl) (show (1 : UInt16).toNat ≤ 33 by decide),
      List.forall_mem_singleton.mpr (fitsBuffer (.inr rfl) (Nat.le_succ_of_le hlen))⟩
  have hselect : a.transferOne m = ({ a with regPtr := reg }, [reg]) := by
    have hwrite : a.transferOne m = _ :=
      I2cAlias.transferOne_of_write (I2cAlias.isRead_of_flags_zero rfl) rfl
    rw [hwrite, List.length_nil, add_ofNat_zero]
    rfl
  have hread : ({ a with regPtr := reg } : I2cAlias).transferOne m' =
      ({ a with regPtr := reg + UInt8.ofNat len.toNat },
        I2cAlias.registersFrom a.registers reg len.toNat) :=
    I2cAlias.transferOne_of_read (I2cAlias.isRead_of_flags_one rfl)
  have hall : a.transferAll [m, m'] = ({ a with regPtr := reg + UInt8.ofNat len.toNat },
      [[reg], I2cAlias.registersFrom a.registers reg len.toNat]) := by
    simp only [I2cAlias.transferAll, hselect, hread]
  obtain ⟨s', ret, hxfer, hret, hR'⟩ := hx hR (by simp) (by simp) hfits
  rw [hall] at hxfer hR'
  have hcount : (I2cAlias.registersFrom a.registers reg len.toNat).length = len.toNat := by
    simp [I2cAlias.registersFrom]
  obtain ⟨buf', hstore⟩ := exists_splice buf 1 (I2cAlias.registersFrom a.registers reg len.toNat)
    (by rw [hcount]; omega)
  have hback := slice_splice hstore
  rw [hcount] at hback
  refine ⟨s', ret, buf', ?_, hret, hR', hback⟩
  unfold transferOnBuffer
  rw [List.mapM_cons, load_eq hbuf, List.mapM_cons, load_eq hold]
  simp only [List.mapM_nil, pure, bind, Option.bind]
  rw [hxfer]
  dsimp only
  rw [storeReads_write, storeReads_read, hstore]
  rfl

theorem sendOnBuffer_write (hx : ServesBank xfer addr R) (hR : R s a) (len : UInt16)
    {reg : UInt8} {bytes : List UInt8} (hlen : len.toNat ≤ 33)
    (hbuf : slice buf 0 len.toNat = some (reg :: bytes)) (data : SmbusData) :
    ∃ s', sendOnBuffer xfer s buf [⟨addr, 0, len, 0⟩] data = some (s', 0, data) ∧
      R s' (a.stored reg bytes) := by
  obtain ⟨s', ret, hxfer, hret, hR'⟩ := transferOnBuffer_write hx hR len hlen hbuf
  refine ⟨s', ?_, hR'⟩
  rw [sendOnBuffer, hxfer, Option.map_some]
  dsimp only
  rw [if_neg (Int.not_lt.mpr hret)]

theorem readOnBuffer_read (hx : ServesBank xfer addr R) (hR : R s a) (len : UInt16)
    {reg : UInt8} (hlen : len.toNat ≤ 32) (hbuf : slice buf 0 1 = some [reg]) (data : SmbusData)
    (store : XferBuffer → Option SmbusData) :
    ∃ s' buf', readOnBuffer xfer s buf [⟨addr, 0, 1, 0⟩, ⟨addr, 1, len, 1⟩] data store =
        (store buf').map (fun data => (s', 0, data)) ∧
      R s' { a with regPtr := reg + UInt8.ofNat len.toNat } ∧
      slice buf' 1 len.toNat = some (I2cAlias.registersFrom a.registers reg len.toNat) := by
  obtain ⟨s', ret, buf', hxfer, hret, hR', hback⟩ := transferOnBuffer_read hx hR len hlen hbuf
  refine ⟨s', buf', ?_, hR', hback⟩
  rw [readOnBuffer, hxfer]
  exact if_neg (Int.not_lt.mpr hret)

/-! ## The operations -/

theorem slice_command (buf : XferBuffer) (command : UInt8) :
    slice (buf.put 0 command) 0 1 = some [command] := by
  rw [slice_succ _ (by decide), slice_zero _ (by decide)]
  simp

theorem slice_one (buf : XferBuffer) : slice buf 1 1 = some [buf.get 1] := by
  rw [slice_succ _ (by decide), slice_zero _ (by decide)]
  rfl

theorem slice_two (buf : XferBuffer) : slice buf 1 2 = some [buf.get 1, buf.get 2] := by
  rw [slice_succ _ (by decide), slice_succ _ (by decide), slice_zero _ (by decide)]
  rfl

/-- The registers of a word come back in both bytes. -/
theorem readWord (hx : ServesBank xfer addr R) (hR : R s a) {command : UInt8}
    (hbuf : slice buf 0 1 = some [command]) (data : SmbusData) :
    ∃ s' low high, readOnBuffer xfer s buf [⟨addr, 0, 1, 0⟩, ⟨addr, 1, 2, 1⟩] data
        (fun buf => some (data.setWord (buf.get 1) (buf.get 2))) =
          some (s', 0, data.setWord low high) ∧
      R s' { a with regPtr := command + 2 } ∧
      [low, high] = I2cAlias.registersFrom a.registers command 2 := by
  obtain ⟨s', buf', hread, hR', hback⟩ :=
    readOnBuffer_read hx hR 2 (by decide) hbuf data
      fun buf => some (data.setWord (buf.get 1) (buf.get 2))
  have hword : slice buf' 1 2 = some (I2cAlias.registersFrom a.registers command 2) := hback
  rw [slice_two, Option.some_inj] at hword
  exact ⟨s', buf'.get 1, buf'.get 2, hread, hR', hword⟩

theorem takeBlock_eq {buf : XferBuffer} (bytes : List UInt8) (hlen : bytes.length ≤ 32)
    (hbuf : slice buf 1 bytes.length = some bytes) (data : SmbusData) :
    ∃ data', takeBlock data bytes.length buf = some data' ∧ data'[0] = UInt8.ofNat bytes.length ∧
      data'.block bytes.length = bytes := by
  obtain ⟨data', hstore⟩ := exists_splice (data.set 0 (UInt8.ofNat bytes.length)) 1 bytes
    (by omega)
  have hfirst := getElem_splice_of_lt hstore (i := 0) (by decide) (by decide)
  have hback := slice_splice hstore
  rw [slice_of_le _ (by omega), Option.some_inj] at hback
  refine ⟨data', ?_, ?_, hback⟩
  · rw [takeBlock, hbuf]
    exact hstore
  · rw [hfirst]
    simp

/-- What a block write sends. -/
theorem slice_block {buf buf' : XferBuffer} {command : UInt8} {bytes : List UInt8}
    (hlen : bytes.length ≤ 32) (h : splice (buf.put 0 command) 1 bytes = some buf') :
    slice buf' 0 (UInt16.ofNat (1 + bytes.length)).toNat = some (command :: bytes) := by
  have hcount : (UInt16.ofNat (1 + bytes.length)).toNat = bytes.length + 1 := by
    rw [UInt16.toNat_ofNat']
    omega
  have hfirst := getElem_splice_of_lt h (i := 0) (by decide) (by decide)
  rw [hcount, slice_succ _ (by decide), slice_splice h, hfirst]
  simp

/-- A write stores its data from the command on, and returns the data as they were. -/
theorem runtimeSmbusXfer_write (hx : ServesBank xfer addr R) (hR : R s a) {size : SmbusSize}
    (hsize : size.addressed = true) (hsized : data.Sized size) (command : UInt8)
    (buf : XferBuffer) :
    ∃ s', runtimeSmbusXfer xfer s addr false command size data buf = some (s', 0, data) ∧
      R s' (a.stored command (data.payload size)) := by
  have hword : slice (((buf.put 0 command).put 1 data[0]).put 2 data[1]) 0 3 =
      some [command, data[0], data[1]] := by
    rw [slice_succ _ (by decide), slice_two]
    simp
  cases size with
  | quick | byte | other => cases hsize
  | byteData =>
    have hbuf : slice ((buf.put 0 command).put 1 data[0]) 0 2 = some [command, data[0]] := by
      rw [slice_succ _ (by decide), slice_one]
      simp
    exact sendOnBuffer_write hx hR 2 (by decide) hbuf data
  | wordData =>
    obtain ⟨s', ret, hxfer, hret, hR'⟩ := transferOnBuffer_write hx hR 3 (by decide) hword
    refine ⟨s', ?_, hR'⟩
    show (transferOnBuffer xfer s _ _).bind _ = _
    rw [hxfer]
    exact if_neg (Int.not_lt.mpr hret)
  | procCall =>
    obtain ⟨s₁, ret, hxfer, hret, hR₁⟩ := transferOnBuffer_write hx hR 3 (by decide) hword
    have hcommand : slice (((buf.put 0 command).put 1 data[0]).put 2 data[1]) 0 1 =
        some [command] := by
      rw [slice_succ _ (by decide), slice_zero _ (by decide)]
      simp
    obtain ⟨s₂, low, high, hread, hR₂, hback⟩ := readWord hx hR₁ hcommand data
    -- the two registers hold the word that has just been written
    have hstored : [low, high] = [data[0], data[1]] :=
      hback.trans (registersFrom_writeLoop [data[0], data[1]] (show 2 ≤ 256 by decide))
    obtain ⟨rfl, hrest⟩ := List.cons.inj hstored
    obtain ⟨rfl, -⟩ := List.cons.inj hrest
    rw [data.setWord_self] at hread
    refine ⟨s₂, ?_, hR₂⟩
    show (transferOnBuffer xfer s _ _).bind _ = _
    rw [hxfer]
    exact (if_neg (Int.not_lt.mpr hret)).trans hread
  | blockData | i2cBlockBroken | i2cBlockData =>
    have hmax : data[0].toNat ≤ 32 := hsized.2
    have hlen := data.length_block hmax
    have hshort : (data.block data[0].toNat).length ≤ 32 := by omega
    obtain ⟨buf', hstore⟩ := exists_splice (buf.put 0 command) 1 (data.block data[0].toNat)
      (by omega)
    have hslice : slice data 1 data[0].toNat = some (data.block data[0].toNat) :=
      slice_of_le data (by omega)
    obtain ⟨s', hsend, hR'⟩ := sendOnBuffer_write hx hR
      (UInt16.ofNat (1 + (data.block data[0].toNat).length))
      (by rw [UInt16.toNat_ofNat']; omega) (slice_block hshort hstore) data
    refine ⟨s', ?_, hR'⟩
    rw [hlen] at hsend
    show (slice data 1 (data.blockLen false)).bind _ = _
    rw [SmbusData.blockLen_of_sized hsized, hslice]
    show (splice (buf.put 0 command) 1 _).bind _ = _
    rw [hstore]
    exact hsend

/-- A read returns as many registers from the command on as its data ask for. -/
theorem runtimeSmbusXfer_read (hx : ServesBank xfer addr R) (hR : R s a) {size : SmbusSize}
    (hsize : size.addressed = true) (hsized : data.Sized size) (command : UInt8)
    (buf : XferBuffer) :
    ∃ s' data', runtimeSmbusXfer xfer s addr true command size data buf = some (s', 0, data') ∧
      R s' { a with regPtr := command + UInt8.ofNat (data.payload size).length } ∧
      data'.payload size =
        I2cAlias.registersFrom a.registers command (data.payload size).length := by
  have hcommand := slice_command buf command
  cases size with
  | quick | byte | other => cases hsize
  | byteData =>
    obtain ⟨s', buf', hread, hR', hback⟩ := readOnBuffer_read hx hR 1 (by decide) hcommand
      data fun buf => some (data.setByte (buf.get 1))
    have hbyte : slice buf' 1 1 = some (I2cAlias.registersFrom a.registers command 1) := hback
    rw [slice_one, Option.some_inj] at hbyte
    refine ⟨s', data.setByte (buf'.get 1), hread, hR', ?_⟩
    show [(data.setByte (buf'.get 1))[0]] = I2cAlias.registersFrom a.registers command 1
    rw [← hbyte]
    simp [SmbusData.setByte]
  | wordData | procCall =>
    obtain ⟨s', low, high, hread, hR', hback⟩ := readWord hx hR hcommand data
    refine ⟨s', data.setWord low high, hread, hR', ?_⟩
    show [(data.setWord low high)[0], (data.setWord low high)[1]] =
      I2cAlias.registersFrom a.registers command 2
    rw [← hback]
    simp [SmbusData.setWord]
  | blockData | i2cBlockBroken | i2cBlockData =>
    -- the length of the block is the one that its data give
    have hmax : data[0].toNat ≤ 32 := hsized.2
    have hlen := data.length_block hmax
    have hcount : (UInt16.ofNat data[0].toNat).toNat = data[0].toNat := by
      rw [UInt16.toNat_ofNat']
      omega
    obtain ⟨s', buf', hread, hR', hback⟩ := readOnBuffer_read hx hR
      (UInt16.ofNat data[0].toNat) (by rw [hcount]; exact hmax) hcommand data
      (takeBlock data data[0].toNat)
    rw [hcount] at hR' hback
    have hregisters : (I2cAlias.registersFrom a.registers command data[0].toNat).length =
        data[0].toNat := by
      simp [I2cAlias.registersFrom]
    obtain ⟨data', htake, hfirst, hblock⟩ := takeBlock_eq
      (I2cAlias.registersFrom a.registers command data[0].toNat)
      (by rw [hregisters]; exact hmax) (by rw [hregisters]; exact hback) data
    rw [hregisters] at htake hfirst hblock
    refine ⟨s', data', ?_, ?_, ?_⟩
    · rw [htake] at hread
      show readOnBuffer xfer s _ [_, ⟨addr, 1, UInt16.ofNat (data.blockLen true), 1⟩] data
        (takeBlock data (data.blockLen true)) = _
      rw [SmbusData.blockLen_of_sized hsized]
      exact hread
    · show R s' { a with regPtr := command + UInt8.ofNat (data.block data[0].toNat).length }
      rw [hlen]
      exact hR'
    · show data'.block data'[0].toNat = I2cAlias.registersFrom a.registers command
        (data.block data[0].toNat).length
      rw [hlen, hfirst, UInt8.ofNat_toNat]
      exact hblock

end Bank

/-! ## The messages without the buffer -/

/-- The messages ask for the same; the buffer of a read may hold anything. -/
def I2cMsg.Asks (m m' : I2cMsg) : Prop :=
  m.addr = m'.addr ∧ m.flags = m'.flags ∧ m.len = m'.len ∧ m.txData = m'.txData

theorem asks_of_read {m m' : I2cMsg} (haddr : m.addr = m'.addr) (h : m.flags = 1)
    (h' : m'.flags = 1) (hlen : m.len = m'.len) : m.Asks m' := by
  refine ⟨haddr, h.trans h'.symm, hlen, ?_⟩
  rw [I2cMsg.txData, I2cAlias.isRead_of_flags_one h, I2cMsg.txData,
    I2cAlias.isRead_of_flags_one h', if_pos rfl, if_pos rfl]

/-- A transfer does not look at the buffers of its reads, and leaves every buffer its length. -/
structure Transport {σ : Type} (xfer : σ → List I2cMsg → σ × Int × List (List UInt8)) : Prop where
  blind : ∀ ⦃s : σ⦄ ⦃msgs msgs' : List I2cMsg⦄, List.Forall₂ I2cMsg.Asks msgs msgs' →
    (xfer s msgs).1 = (xfer s msgs').1 ∧ (xfer s msgs).2.1 = (xfer s msgs').2.1 ∧
      (0 ≤ (xfer s msgs).2.1 → (xfer s msgs).2.2 = (xfer s msgs').2.2)
  lengths : ∀ (s : σ) (msgs : List I2cMsg),
    (xfer s msgs).2.2.map List.length = msgs.map fun m => m.len.toNat

section Lists

variable {σ : Type} {xfer : σ → List I2cMsg → σ × Int × List (List UInt8)} {s : σ}
  {buf : XferBuffer} {addr : UInt16} {data : SmbusData}

theorem load_cases {m : BufferMsg} {loaded : I2cMsg} (h : m.load buf = some loaded) :
    m.start + m.len.toNat ≤ 33 ∧ loaded.len = m.len := by
  unfold BufferMsg.load at h
  split at h
  · rename_i bytes hslice
    cases h
    refine ⟨?_, rfl⟩
    unfold slice at hslice
    split at hslice
    · assumption
    · cases hslice
  · cases h

/-- What was loaded from the buffer can be stored into it. -/
theorem exists_storeReads {msgs : List BufferMsg} {loaded : List I2cMsg}
    (hload : msgs.mapM (BufferMsg.load buf) = some loaded) {bufs : List (List UInt8)}
    (hlen : bufs.map List.length = loaded.map fun m => m.len.toNat) (buf₀ : XferBuffer) :
    ∃ buf', storeReads buf₀ msgs bufs = some buf' := by
  induction msgs generalizing loaded bufs buf₀ with
  | nil => exact ⟨buf₀, by rw [storeReads]; intro _ _ _ _ h; cases h⟩
  | cons m msgs ih =>
    rw [List.mapM_cons] at hload
    obtain ⟨first, hfirst, hload⟩ := Option.bind_eq_some_iff.mp hload
    obtain ⟨rest, hrest, hload⟩ := Option.bind_eq_some_iff.mp hload
    cases hload
    obtain ⟨hend, hcount⟩ := load_cases hfirst
    cases bufs with
    | nil => cases hlen
    | cons bytes bufs =>
      obtain ⟨hbytes, hlen⟩ := List.cons.inj hlen
      rw [storeReads]
      split
      · have hfits : m.start + bytes.length ≤ 33 := by
          rw [hbytes]
          show m.start + first.len.toNat ≤ 33
          rw [hcount]
          exact hend
        obtain ⟨buf₁, hstore⟩ := exists_splice buf₀ m.start bytes hfits
        rw [hstore]
        exact ih hrest hlen buf₁
      · exact ih hrest hlen buf₀

theorem transferOnBuffer_eq {buf' : XferBuffer} {msgs : List BufferMsg} {loaded : List I2cMsg}
    (hload : msgs.mapM (BufferMsg.load buf) = some loaded)
    (hstore : storeReads buf msgs (xfer s loaded).2.2 = some buf') :
    transferOnBuffer xfer s buf msgs = some ((xfer s loaded).1, (xfer s loaded).2.1, buf') := by
  rw [transferOnBuffer, hload]
  show (storeReads buf msgs (xfer s loaded).2.2).bind _ = _
  rw [hstore]
  rfl

theorem storeReads_one (len : UInt16) (start : Nat) (bufs : List (List UInt8)) :
    storeReads buf [⟨addr, 0, len, start⟩] bufs = some buf := by
  cases bufs with
  | nil => rfl
  | cons bytes bufs =>
    rw [storeReads_write]
    rfl

/-- A transfer that returns no data. -/
theorem sendOnBuffer_eq (hx : Transport xfer) {msgs : List BufferMsg} {loaded lists : List I2cMsg}
    (hload : msgs.mapM (BufferMsg.load buf) = some loaded)
    (hasks : List.Forall₂ I2cMsg.Asks loaded lists) (data : SmbusData) :
    sendOnBuffer xfer s buf msgs data = some (sendMessages xfer s lists data) := by
  obtain ⟨buf', hstore⟩ := exists_storeReads hload (hx.lengths s loaded) buf
  obtain ⟨hstate, hret, -⟩ := hx.blind (s := s) hasks
  rw [sendOnBuffer, transferOnBuffer_eq hload hstore, Option.map_some, hstate, hret]
  rfl

/-- The buffer of the last message takes the last data. -/
theorem storeReads_last {pre : List BufferMsg} (hpre : ∀ m ∈ pre, m.flags = 0) (len : UInt16)
    (start : Nat) {bufs : List (List UInt8)} {bytes : List UInt8}
    (hcount : bufs.length = pre.length) (buf : XferBuffer) :
    storeReads buf (pre ++ [⟨addr, 1, len, start⟩]) (bufs ++ [bytes]) = splice buf start bytes := by
  induction pre generalizing bufs with
  | nil =>
    rw [List.length_eq_zero_iff.mp hcount]
    show storeReads buf [⟨addr, 1, len, start⟩] [bytes] = _
    rw [storeReads_read]
    cases splice buf start bytes <;> rfl
  | cons m pre ih =>
    obtain ⟨addr', flags, len', start'⟩ := m
    have hzero : flags = 0 := hpre _ List.mem_cons_self
    subst hzero
    cases bufs with
    | nil => cases hcount
    | cons first bufs =>
      rw [List.cons_append, List.cons_append, storeReads_write]
      exact ih (fun m hm => hpre m (List.mem_cons_of_mem _ hm)) (Nat.succ.inj hcount)

/-- A transfer whose last message is a read. -/
theorem readOnBuffer_eq (hx : Transport xfer) (pre : List BufferMsg) (front : List I2cMsg)
    {len : UInt16} {start : Nat} {loaded : List I2cMsg} {last : I2cMsg}
    (hload : List.mapM (BufferMsg.load buf) (pre ++ [⟨addr, 1, len, start⟩]) = some loaded)
    (hasks : List.Forall₂ I2cMsg.Asks loaded (front ++ [last]))
    (hpre : ∀ m ∈ pre, m.flags = 0) (hcount : front.length = pre.length) (hlast : last.len = len)
    {store : XferBuffer → Option SmbusData} {keep : List UInt8 → SmbusData}
    (hkeep : ∀ (buf' : XferBuffer) (bytes : List UInt8), bytes.length = len.toNat →
      slice buf' start len.toNat = some bytes → store buf' = some (keep bytes))
    (data : SmbusData) :
    readOnBuffer xfer s buf (pre ++ [⟨addr, 1, len, start⟩]) data store =
      some (readMessages xfer s (front ++ [last]) data keep) := by
  obtain ⟨buf', hstore⟩ := exists_storeReads hload (hx.lengths s loaded) buf
  obtain ⟨hstate, hret, hbufs⟩ := hx.blind (s := s) hasks
  rw [readOnBuffer, transferOnBuffer_eq hload hstore]
  unfold readMessages
  dsimp only [bind, Option.bind]
  rw [hret] at hbufs ⊢
  rw [hstate]
  by_cases hneg : (xfer s (front ++ [last])).2.1 < 0
  · rw [if_pos hneg, if_pos hneg]
  · rw [if_neg hneg, if_neg hneg]
    rw [hbufs (Int.not_lt.mp hneg)] at hstore
    -- the data of the last message are what the buffer then holds
    have hlengths := hx.lengths s (front ++ [last])
    rw [List.map_append, List.map_singleton] at hlengths
    obtain ⟨bufs, tail, hsplit, hfront, htail⟩ := List.map_eq_append_iff.mp hlengths
    obtain ⟨bytes, rfl, hbytes⟩ := List.map_eq_singleton_iff.mp htail
    have hsame : bufs.length = pre.length := by
      rw [← hcount, ← List.length_map (f := List.length), hfront, List.length_map]
    rw [hsplit, storeReads_last hpre len start hsame] at hstore
    rw [hsplit, List.getLast?_concat]
    have hcells := slice_splice hstore
    have hlen : bytes.length = len.toNat := by rw [hbytes, hlast]
    rw [hlen] at hcells
    rw [hkeep buf' bytes hlen hcells]
    rfl

theorem load_one {flags len : UInt16} {start : Nat} {bytes : List UInt8}
    (h : slice buf start len.toNat = some bytes) :
    List.mapM (BufferMsg.load buf) [⟨addr, flags, len, start⟩] =
      some [⟨addr, flags, len, bytes, length_of_slice h⟩] := by
  rw [List.mapM_cons, load_eq h]
  rfl

theorem load_two {flags flags' len len' : UInt16} {start start' : Nat} {bytes bytes' : List UInt8}
    (h : slice buf start len.toNat = some bytes) (h' : slice buf start' len'.toNat = some bytes') :
    List.mapM (BufferMsg.load buf) [⟨addr, flags, len, start⟩, ⟨addr, flags', len', start'⟩] =
      some [⟨addr, flags, len, bytes, length_of_slice h⟩,
        ⟨addr, flags', len', bytes', length_of_slice h'⟩] := by
  rw [List.mapM_cons, load_eq h, load_one h']
  rfl

/-- One message from the front of the buffer. -/
theorem sendOne_eq (hx : Transport xfer) {flags len : UInt16} (bytes : List UInt8)
    (hbytes : bytes.length ≤ 33) (hlen : len = UInt16.ofNat bytes.length)
    (hbuf : slice buf 0 len.toNat = some bytes) (data : SmbusData) :
    sendOnBuffer xfer s buf [⟨addr, flags, len, 0⟩] data =
      some (sendMessages xfer s [smbusMsg addr flags bytes hbytes] data) := by
  have hasks : I2cMsg.Asks ⟨addr, flags, len, bytes, length_of_slice hbuf⟩
      (smbusMsg addr flags bytes hbytes) := ⟨rfl, rfl, hlen, rfl⟩
  exact sendOnBuffer_eq hx (load_one hbuf) (.cons hasks .nil) data

/-- The command from the front of the buffer, and a read behind it. -/
theorem readBehind_eq (hx : Transport xfer) {command : UInt8} (hselect : [command].length ≤ 33)
    (len : Nat) (hlen : len ≤ 32) (hbuf : slice buf 0 1 = some [command])
    {store : XferBuffer → Option SmbusData}
    {keep : List UInt8 → SmbusData}
    (hkeep : ∀ (buf' : XferBuffer) (bytes : List UInt8), bytes.length = len →
      slice buf' 1 len = some bytes → store buf' = some (keep bytes)) (data : SmbusData) :
    readOnBuffer xfer s buf [⟨addr, 0, 1, 0⟩, ⟨addr, 1, UInt16.ofNat len, 1⟩] data store =
      some (readMessages xfer s [smbusWrite addr [command] hselect, smbusRead addr len hlen]
        data keep) := by
  have hcount : (UInt16.ofNat len).toNat = len := by
    rw [UInt16.toNat_ofNat']
    omega
  obtain ⟨old, hold, -⟩ := exists_slice buf 1 len (by omega)
  have hread : (smbusRead addr len hlen).len = UInt16.ofNat len := by
    show UInt16.ofNat (List.replicate len (0 : UInt8)).length = _
    rw [List.length_replicate]
  have hload : List.mapM (BufferMsg.load buf)
      [⟨addr, 0, 1, 0⟩, ⟨addr, 1, UInt16.ofNat len, 1⟩] = _ := load_two hbuf (hcount.symm ▸ hold)
  refine readOnBuffer_eq hx [⟨addr, 0, 1, 0⟩] [smbusWrite addr [command] hselect] hload ?_ ?_
    rfl hread ?_ data
  · exact .cons ⟨rfl, rfl, rfl, rfl⟩ (.cons (asks_of_read rfl rfl rfl hread.symm) .nil)
  · exact List.forall_mem_singleton.mpr rfl
  · rw [hcount]
    exact hkeep

theorem readFront_eq (hx : Transport xfer) (hlen : 1 ≤ 32) (buf : XferBuffer) (data : SmbusData) :
    readOnBuffer xfer s (buf.put 0 0) [⟨addr, 1, 1, 0⟩] data
        (fun buf => some (data.setByte (buf.get 0))) =
      some (readMessages xfer s [smbusRead addr 1 hlen] data (storeByte data)) := by
  have hbuf : slice (buf.put 0 0) 0 1 = some [0] := slice_command buf 0
  have hload : List.mapM (BufferMsg.load (buf.put 0 0)) [⟨addr, 1, 1, 0⟩] = _ := load_one hbuf
  refine readOnBuffer_eq hx [] [] hload (.cons (asks_of_read rfl rfl rfl rfl) .nil)
    (fun _ h => absurd h List.not_mem_nil) rfl rfl (fun buf' bytes _ hcells => ?_) data
  have hcell : slice buf' 0 1 = some [buf'.get 0] := by
    rw [slice_succ _ (by decide), slice_zero _ (by decide)]
    rfl
  have hbytes : [buf'.get 0] = bytes := Option.some_inj.mp (hcell.symm.trans hcells)
  rw [← hbytes]
  rfl

theorem writeWord_eq {command low high : UInt8} (hlen : [command, low, high].length ≤ 33)
    (hbuf : slice buf 0 3 = some [command, low, high]) :
    transferOnBuffer xfer s buf [⟨addr, 0, 3, 0⟩] =
      some ((xfer s [smbusWrite addr [command, low, high] hlen]).1,
        (xfer s [smbusWrite addr [command, low, high] hlen]).2.1, buf) := by
  have hload : List.mapM (BufferMsg.load buf) [⟨addr, 0, 3, 0⟩] = _ := load_one hbuf
  exact transferOnBuffer_eq hload (storeReads_one 3 0 _)

theorem readByte_eq (hx : Transport xfer) {command : UInt8} (hselect : [command].length ≤ 33)
    (hlen : 1 ≤ 32) (hbuf : slice buf 0 1 = some [command]) (data : SmbusData) :
    readOnBuffer xfer s buf [⟨addr, 0, 1, 0⟩, ⟨addr, 1, 1, 1⟩] data
        (fun buf => some (data.setByte (buf.get 1))) =
      some (readMessages xfer s [smbusWrite addr [command] hselect, smbusRead addr 1 hlen]
        data (storeByte data)) := by
  refine readBehind_eq hx hselect 1 hlen hbuf (fun buf' bytes _ hcells => ?_) data
  rw [slice_one, Option.some_inj] at hcells
  rw [← hcells]
  rfl

theorem readWord_eq (hx : Transport xfer) {command : UInt8} (hselect : [command].length ≤ 33)
    (hlen : 2 ≤ 32) (hbuf : slice buf 0 1 = some [command]) (data : SmbusData) :
    readOnBuffer xfer s buf [⟨addr, 0, 1, 0⟩, ⟨addr, 1, 2, 1⟩] data
        (fun buf => some (data.setWord (buf.get 1) (buf.get 2))) =
      some (readMessages xfer s [smbusWrite addr [command] hselect, smbusRead addr 2 hlen]
        data (storeWord data)) := by
  refine readBehind_eq hx hselect 2 hlen hbuf (fun buf' bytes _ hcells => ?_) data
  rw [slice_two, Option.some_inj] at hcells
  rw [← hcells]
  rfl

theorem takeBlock_setBlock {buf' : XferBuffer} {bytes : List UInt8} (hlen : bytes.length ≤ 32)
    (hcells : slice buf' 1 bytes.length = some bytes) (data : SmbusData) :
    takeBlock data bytes.length buf' = some (data.setBlock bytes) := by
  have hfits : 1 + bytes.length ≤ 34 := by omega
  rw [takeBlock, hcells]
  show splice (data.setLength bytes.length) 1 bytes = _
  rw [splice, if_pos hfits, Option.some_inj]
  apply Vector.ext
  intro i hi
  rw [SmbusData.setBlock, Vector.getElem_ofFn, Vector.getElem_ofFn]
  cases i with
  | zero => simp [SmbusData.setLength]
  | succ i => simp [SmbusData.setLength]

/-- Nothing outside of the buffer or of the block is accessed, and what the operation does is what
its messages do. -/
theorem runtimeSmbusXfer_eq (hx : Transport xfer) (s : σ) (addr : UInt16) (isRead : Bool)
    (command : UInt8) (size : SmbusSize) (data : SmbusData) (buf : XferBuffer) :
    runtimeSmbusXfer xfer s addr isRead command size data buf =
      some (smbusByMessages xfer s addr isRead command size data) := by
  have hcommand := slice_command buf command
  have hword : slice (((buf.put 0 command).put 1 data[0]).put 2 data[1]) 0 3 =
      some [command, data[0], data[1]] := by
    rw [slice_succ _ (by decide), slice_two]
    simp
  cases size with
  | quick =>
    have hbuf : slice buf 0 0 = some [] := slice_zero buf (by decide)
    cases isRead <;> exact sendOne_eq hx [] (by decide) rfl hbuf data
  | byte =>
    cases isRead with
    | false => exact sendOne_eq hx [command] (by simp) rfl hcommand data
    | true => exact readFront_eq hx _ buf data
  | byteData =>
    cases isRead with
    | false =>
      have hbuf : slice ((buf.put 0 command).put 1 data[0]) 0 2 = some [command, data[0]] := by
        rw [slice_succ _ (by decide), slice_one]
        simp
      exact sendOne_eq hx [command, data[0]] (by simp) rfl hbuf data
    | true => exact readByte_eq hx _ _ hcommand data
  | wordData =>
    cases isRead with
    | false =>
      show (transferOnBuffer xfer s _ _).bind _ = _
      rw [writeWord_eq (by simp) hword]
      show _ = some (sendMessages xfer s [smbusWrite addr [command, data[0], data[1]] _] data)
      rw [sendMessages]
      dsimp only [Option.bind]
      split
      · rfl
      · rfl
    | true => exact readWord_eq hx _ _ hcommand data
  | procCall =>
    cases isRead with
    | false =>
      have hselect : slice (((buf.put 0 command).put 1 data[0]).put 2 data[1]) 0 1 =
          some [command] := by
        rw [slice_succ _ (by decide), slice_zero _ (by decide)]
        simp
      show (transferOnBuffer xfer s _ _).bind _ = _
      rw [writeWord_eq (by simp) hword]
      unfold smbusByMessages sendMessages
      dsimp only [Option.bind]
      split
      · rfl
      · exact readWord_eq hx _ _ hselect data
    | true => exact readWord_eq hx _ _ hcommand data
  | blockData | i2cBlockBroken | i2cBlockData =>
    -- the length of the copies is bounded by the 32 bytes of a block
    have hmax := data.blockLen_le isRead
    have hlen := data.length_block hmax
    cases isRead with
    | true =>
      refine readBehind_eq hx _ (data.blockLen true) hmax hcommand
        (fun buf' bytes hcount hcells => ?_) data
      rw [← hcount] at hcells ⊢
      exact takeBlock_setBlock (hcount ▸ hmax) hcells data
    | false =>
      have hshort : (data.block (data.blockLen false)).length ≤ 32 := by omega
      have hslice : slice data 1 (data.blockLen false) = some (data.block (data.blockLen false)) :=
        slice_of_le data (by omega)
      obtain ⟨buf', hstore⟩ := exists_splice (buf.put 0 command) 1
        (data.block (data.blockLen false)) (by omega)
      have hsent := slice_block hshort hstore
      rw [hlen] at hsent
      show (slice data 1 (data.blockLen false)).bind _ = _
      rw [hslice]
      show (splice (buf.put 0 command) 1 _).bind _ = _
      rw [hstore]
      refine sendOne_eq hx (command :: data.block (data.blockLen false)) ?_ ?_ hsent data
      rw [List.length_cons, hlen, Nat.add_comm]
  | other => rfl

end Lists

/-! ## The alias as a transport -/

namespace I2cAlias

variable {a : I2cAlias} {m m' : I2cMsg}

theorem transferOne_asks (h : m.Asks m') : a.transferOne m = a.transferOne m' := by
  obtain ⟨-, hflags, hlen, hdata⟩ := h
  have hread : m.isRead = m'.isRead := by rw [I2cMsg.isRead, hflags, ← I2cMsg.isRead]
  unfold I2cMsg.txData at hdata
  unfold transferOne
  rw [hread] at hdata ⊢
  rw [hlen]
  cases hkind : m'.isRead with
  | true => rfl
  | false =>
    rw [hkind] at hdata
    have hbuf : m.buf = m'.buf := hdata
    rw [hbuf]

theorem length_transferOne (a : I2cAlias) (m : I2cMsg) :
    (a.transferOne m).2.length = m.len.toNat := by
  unfold transferOne
  split
  · dsimp only
    rw [readLoop_eq, List.length_map, List.length_range]
  · rw [← m.buf_length]
    split <;> rename_i hbuf <;> rw [hbuf]

theorem xferLoop_asks {msgs msgs' : List I2cMsg} (h : List.Forall₂ I2cMsg.Asks msgs msgs')
    (a : I2cAlias) (ret : Int) :
    (a.xferLoop ret msgs).1 = (a.xferLoop ret msgs').1 ∧
      (a.xferLoop ret msgs).2.1 = (a.xferLoop ret msgs').2.1 ∧
      (0 ≤ (a.xferLoop ret msgs).2.1 → (a.xferLoop ret msgs).2.2 = (a.xferLoop ret msgs').2.2) := by
  induction h generalizing a ret with
  | nil => exact ⟨rfl, rfl, fun _ => rfl⟩
  | @cons m m' msgs msgs' hasks hrest ih =>
    have htake : a.transferOne m = a.transferOne m' := transferOne_asks hasks
    have hcheck : a.checkAddr m.addr m.isTen = a.checkAddr m'.addr m'.isTen := by
      rw [hasks.1, I2cMsg.isTen, hasks.2.1, ← I2cMsg.isTen]
    have hle := a.checkAddr_nonpos m'.addr m'.isTen
    unfold xferLoop
    rw [htake, hcheck]
    dsimp only
    split
    · rename_i hne
      -- a refused message leaves the buffers as they are, and fails
      exact ⟨rfl, rfl, fun hge => absurd (Int.le_antisymm hle hge) hne⟩
    · obtain ⟨hstate, hret, hbufs⟩ := ih (a.transferOne m').1 (a.checkAddr m'.addr m'.isTen)
      exact ⟨hstate, hret, fun hge => congrArg (List.cons _) (hbufs hge)⟩

theorem lengths_xferLoop (a : I2cAlias) (ret : Int) (msgs : List I2cMsg) :
    (a.xferLoop ret msgs).2.2.map List.length = msgs.map fun m => m.len.toNat := by
  induction msgs generalizing a ret with
  | nil => rfl
  | cons m msgs ih =>
    unfold xferLoop
    dsimp only
    split
    · rw [List.map_map]
      exact List.map_congr_left fun m' _ => m'.buf_length
    · rw [List.map_cons, List.map_cons, length_transferOne, ih]

theorem transport_masterXfer : Transport masterXfer where
  blind a msgs msgs' hasks := by
    unfold masterXfer
    split
    · exact ⟨rfl, rfl, fun hge => absurd hge (show ¬ 0 ≤ eTimedOut by decide)⟩
    · rw [hasks.length_eq]
      exact xferLoop_asks hasks a _
  lengths a msgs := by
    unfold masterXfer
    split
    · rw [List.map_map]
      exact List.map_congr_left fun m _ => m.buf_length
    · exact lengths_xferLoop a _ msgs

/-- So the operations on the alias are those of its messages. -/
theorem runtimeSmbusXfer_masterXfer (a : I2cAlias) (addr : UInt16) (isRead : Bool) (command : UInt8)
    (size : SmbusSize) (data : SmbusData) (buf : XferBuffer) :
    runtimeSmbusXfer masterXfer a addr isRead command size data buf =
      some (smbusByMessages masterXfer a addr isRead command size data) :=
  runtimeSmbusXfer_eq transport_masterXfer a addr isRead command size data buf

end I2cAlias

end Sensorium.Kernel

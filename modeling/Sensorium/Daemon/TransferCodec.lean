import Sensorium.Daemon.Transfers

/-!
# The daemon reads what the kernel encodes

The kernel writes a fixed part, a table of descriptors and the data of all messages one after the
other; the daemon reads them back with its own offsets and cursor.
-/

namespace Sensorium.Daemon

open Lib Model Kernel

/-! ## I2C -/

/-- What a message is to the daemon. -/
def I2cEntry.ofMsg (m : I2cMsg) : I2cEntry :=
  ⟨m.addr.toNat, m.flags.toNat, m.len.toNat, if m.isRead then [] else m.buf⟩

def I2cDesc.ofMsg (m : I2cMsg) : I2cDesc := ⟨m.addr.toNat, m.flags.toNat, m.len.toNat, 0⟩

theorem length_i2cDesc (m : I2cMsg) : m.desc.length = 8 := by
  simp only [I2cMsg.desc, List.length_append, length_leBytes]

theorem unpackI2cMsg_desc (m : I2cMsg) (before after : List UInt8) :
    unpackI2cMsg (before ++ (m.desc ++ after)) before.length = I2cDesc.ofMsg m := by
  have haddr : m.addr.toNat < 256 ^ 2 := m.addr.toNat_lt
  have hflags : m.flags.toNat < 256 ^ 2 := m.flags.toNat_lt
  have hlen : m.len.toNat < 256 ^ 2 := m.len.toNat_lt
  have hzero : 0 < 256 ^ 2 := by decide
  simp (disch := simp) only [unpackI2cMsg, I2cDesc.ofMsg, I2cMsg.desc, List.append_assoc,
    readLe_append, length_leBytes, Nat.add_sub_cancel_left, Nat.sub_self, Nat.reduceSub,
    readLe_leBytes _ haddr, readLe_leBytes _ hflags, readLe_leBytes _ hlen, readLe_leBytes _ hzero]

theorem isRead_iff (m : I2cMsg) : m.isRead = false ↔ m.flags.toNat &&& 1 = 0 := by
  rw [I2cMsg.isRead, decide_eq_false_iff_not, not_not, ← UInt16.toNat_inj, UInt16.toNat_and]
  rfl

theorem cutMessages_txData (msgs : List I2cMsg) (before : List UInt8) :
    cutMessages (before ++ msgs.flatMap I2cMsg.txData) before.length (msgs.map I2cDesc.ofMsg) =
      msgs.map I2cEntry.ofMsg := by
  induction msgs generalizing before with
  | nil => rfl
  | cons m ms ih =>
    rw [List.map_cons, List.map_cons, List.flatMap_cons, cutMessages]
    cases hread : m.isRead with
    | true =>
      have hflags : ¬ (I2cDesc.ofMsg m).flags &&& 1 = 0 := by
        intro hzero
        rw [(isRead_iff m).mpr hzero] at hread
        cases hread
      have htx : m.txData = [] := if_pos hread
      rw [if_neg hflags, htx, List.nil_append, ih, I2cEntry.ofMsg, if_pos hread]
      rfl
    | false =>
      have hflags : (I2cDesc.ofMsg m).flags &&& 1 = 0 := (isRead_iff m).mp hread
      have htx : m.txData = m.buf := if_neg (by simp [hread])
      have hrest := ih (before ++ m.buf)
      rw [List.length_append, m.buf_length, List.append_assoc] at hrest
      rw [if_pos hflags, htx, List.drop_left, I2cEntry.ofMsg, if_neg (by simp [hread])]
      have htake : (m.buf ++ ms.flatMap I2cMsg.txData).take m.len.toNat = m.buf :=
        List.take_left' m.buf_length
      exact congrArg₂ List.cons (congrArg (I2cEntry.mk _ _ _) htake) hrest

theorem length_i2cData (msgs : List I2cMsg) :
    (msgs.flatMap I2cMsg.txData).length = i2cDataLen msgs := by
  induction msgs with
  | nil => rfl
  | cons m ms ih =>
    rw [List.flatMap_cons, List.length_append, ih, i2cDataLen, I2cMsg.txData]
    split
    · rfl
    · rw [m.buf_length]

/-- What `i2c_exec` has checked before it sends. -/
theorem i2cExecBegin_ok {dev : TransferDevice} {msgs : List I2cMsg} {reqMem replyMem : Bool}
    {payload : List UInt8} (h : i2cExecBegin dev msgs reqMem replyMem = .ok payload) :
    payload = i2cPayload dev msgs ∧ 1 ≤ msgs.length ∧ msgs.length ≤ maxI2cMsgs ∧
      16 + 8 * msgs.length + i2cDataLen msgs ≤ Bridge.maxPayload ∧
      i2cRxLen msgs ≤ Bridge.maxPayload ∧
      ∀ m ∈ msgs, ∀ first ∈ msgs.head?, m.addr = first.addr := by
  cases msgs with
  | nil => cases h
  | cons first ms =>
    unfold i2cExecBegin at h
    dsimp only at h
    split at h
    · cases h
    rename_i hcount
    split at h
    · cases h
    rename_i haddr
    split at h
    · cases h
    rename_i hsize
    split at h
    · cases h
    rename_i hrx
    split at h
    · cases h
    split at h
    · cases h
    cases h
    refine ⟨rfl, Nat.le_add_left 1 _, Nat.le_of_not_lt hcount, Nat.le_of_not_lt hsize,
      Nat.le_of_not_lt hrx, ?_⟩
    intro m hm first' hfirst
    cases hfirst
    by_contra hne
    exact haddr (List.any_eq_true.mpr ⟨m, hm, decide_eq_true hne⟩)

/-- The fixed part of the payload. -/
def i2cPrefix (dev : TransferDevice) (msgs : List I2cMsg) : List UInt8 :=
  leBytes 4 dev.handle.toNat ++ (leBytes 4 dev.busHandle.toNat ++ (leBytes 4 msgs.length ++
    leBytes 4 (i2cDataLen msgs)))

theorem i2cPayload_eq (dev : TransferDevice) (msgs : List I2cMsg) :
    i2cPayload dev msgs =
      i2cPrefix dev msgs ++ (msgs.flatMap I2cMsg.desc ++ msgs.flatMap I2cMsg.txData) := by
  simp only [i2cPayload, i2cPrefix, List.append_assoc]

theorem length_i2cPrefix (dev : TransferDevice) (msgs : List I2cMsg) :
    (i2cPrefix dev msgs).length = 16 := by
  simp only [i2cPrefix, List.length_append, length_leBytes]

theorem length_i2cPayload (dev : TransferDevice) (msgs : List I2cMsg) :
    (i2cPayload dev msgs).length = 16 + 8 * msgs.length + i2cDataLen msgs := by
  rw [i2cPayload_eq, List.length_append, List.length_append, length_i2cPrefix, length_i2cData,
    length_flatMap_pack fun m _ => length_i2cDesc m, Nat.add_assoc]

theorem drop_i2cPayload (dev : TransferDevice) (msgs : List I2cMsg) :
    (i2cPayload dev msgs).drop (16 + 8 * msgs.length) = msgs.flatMap I2cMsg.txData := by
  rw [i2cPayload_eq, ← List.append_assoc]
  apply List.drop_left'
  rw [List.length_append, length_i2cPrefix, length_flatMap_pack fun m _ => length_i2cDesc m]

/-- The numbers in the head of a payload that is not too long. -/
structure I2cHead (dev : TransferDevice) (msgs : List I2cMsg) : Prop where
  handle : readLe (i2cPayload dev msgs) 0 4 = dev.handle.toNat
  count : readLe (i2cPayload dev msgs) 8 4 = msgs.length
  dataLen : readLe (i2cPayload dev msgs) 12 4 = i2cDataLen msgs

theorem i2cHead_of_size (dev : TransferDevice) {msgs : List I2cMsg}
    (hmax : msgs.length ≤ maxI2cMsgs)
    (hsize : 16 + 8 * msgs.length + i2cDataLen msgs ≤ Bridge.maxPayload) : I2cHead dev msgs := by
  unfold Bridge.maxPayload at hsize
  unfold maxI2cMsgs at hmax
  have hhandle : dev.handle.toNat < 256 ^ 4 := dev.handle.toNat_lt
  have hnum : msgs.length < 256 ^ 4 := by omega
  have hdata : i2cDataLen msgs < 256 ^ 4 := by omega
  refine ⟨?_, ?_, ?_⟩
  · rw [i2cPayload, readLe_leBytes _ hhandle]
  · simp (disch := simp) only [i2cPayload, readLe_append, length_leBytes, Nat.reduceSub,
      readLe_leBytes _ hnum]
  · simp (disch := simp) only [i2cPayload, readLe_append, length_leBytes, Nat.reduceSub,
      readLe_leBytes _ hdata]

theorem unpackTable_i2cPayload (dev : TransferDevice) (msgs : List I2cMsg) :
    unpackTable unpackI2cMsg 8 (i2cPayload dev msgs) msgs.length 16 = msgs.map I2cDesc.ofMsg := by
  have hall := unpackTable_flatMap (l := msgs) (fun m _ => length_i2cDesc m)
    (fun m _ => unpackI2cMsg_desc m) (i2cPrefix dev msgs) (msgs.flatMap I2cMsg.txData)
  rwa [length_i2cPrefix, ← i2cPayload_eq] at hall

theorem decodeI2c_payload (dev : TransferDevice) {msgs : List I2cMsg} (hpos : 1 ≤ msgs.length)
    (hmax : msgs.length ≤ maxI2cMsgs)
    (hsize : 16 + 8 * msgs.length + i2cDataLen msgs ≤ Bridge.maxPayload) :
    decodeI2c (i2cPayload dev msgs) = .ok (dev.handle.toNat, msgs.map I2cEntry.ofMsg) := by
  have hhead := i2cHead_of_size dev hmax hsize
  have hcut := cutMessages_txData msgs []
  rw [List.nil_append, List.length_nil] at hcut
  unfold decodeI2c
  simp only [hhead.handle, hhead.count, hhead.dataLen, drop_i2cPayload, length_i2cData,
    unpackTable_i2cPayload, hcut]
  rw [length_i2cPayload, if_neg (by omega), if_neg (by omega), if_neg (by omega),
    if_neg (by omega)]

/-- Every payload that the kernel sends is read back message by message, and the handler goes on
with these messages unless a fault of the device answers. -/
theorem receiveI2c_begin {dev : TransferDevice} {msgs : List I2cMsg} {reqMem replyMem : Bool}
    {payload : List UInt8} (h : i2cExecBegin dev msgs reqMem replyMem = .ok payload) :
    decodeI2c payload = .ok (dev.handle.toNat, msgs.map I2cEntry.ofMsg) ∧
      ∀ (devices : Nat → Option Device) (device : Device),
        devices dev.handle.toNat = some device →
        (∀ m ∈ msgs, deviceAddress device = some m.addr.toNat) →
        receiveI2c devices payload =
          match applyFaultPre device.faults with
          | some status => .error status
          | none => .ok (device, msgs.map I2cEntry.ofMsg) := by
  obtain ⟨rfl, hpos, hmax, hsize, _, _⟩ := i2cExecBegin_ok h
  have hdecode := decodeI2c_payload dev hpos hmax hsize
  refine ⟨hdecode, fun devices device hdevice haddr => ?_⟩
  have hany : ((msgs.map I2cEntry.ofMsg).any
      fun m => decide (some m.addr ≠ deviceAddress device)) = false := by
    rw [List.any_eq_false]
    intro e he
    obtain ⟨m, hm, rfl⟩ := List.mem_map.mp he
    simp [haddr m hm, I2cEntry.ofMsg]
  unfold receiveI2c
  rw [hdecode]
  simp only [bind, Except.bind, hdevice, hany]
  rfl

/-! ## SPI -/

/-- What a transfer of a message on `spi` is to the daemon. -/
def SpiEntry.ofTransfer (spi : SpiDevice) (x : SpiTransfer) : SpiEntry where
  len := x.len.toNat
  speedHz := (x.speed spi).toNat
  delayUsecs := min (spiDelayToUsecs x.delay (x.speed spi)) 65535
  bitsPerWord := (x.bits spi).toNat
  csChange := x.csChange.toNat
  txNbits := if x.txNbits = 0 then 1 else x.txNbits.toNat
  rxNbits := if x.rxNbits = 0 then 1 else x.rxNbits.toNat
  wordDelayUsecs := min (spiDelayToUsecs x.wordDelay (x.speed spi)) 255
  hasTx := x.txBuf.isSome
  hasRx := x.rxBuf.isSome
  tx := toHex (x.txBuf.getD (List.replicate x.len.toNat 0))

def SpiDesc.ofTransfer (spi : SpiDevice) (x : SpiTransfer) : SpiDesc where
  length := x.len.toNat
  speedHz := (x.speed spi).toNat
  delayUsecs := x.delayUsecs spi
  bitsPerWord := (x.bits spi).toNat
  csChange := x.csChange.toNat
  txNbits := (spiLaneWidth x.txNbits).toNat
  rxNbits := (spiLaneWidth x.rxNbits).toNat
  wordDelayUsecs := x.wordDelayUsecs spi
  hasTx := x.txBuf.isSome.toNat
  hasRx := x.rxBuf.isSome.toNat

theorem length_spiDesc (spi : SpiDevice) (x : SpiTransfer) : (x.desc spi).length = 19 := by
  simp only [SpiTransfer.desc, List.length_append, length_leBytes]

theorem boolToNat_lt (b : Bool) : b.toNat < 256 ^ 1 := by
  cases b <;> decide

theorem unpackSpiXfer_desc (spi : SpiDevice) (x : SpiTransfer) (before after : List UInt8) :
    unpackSpiXfer (before ++ (x.desc spi ++ after)) before.length = SpiDesc.ofTransfer spi x := by
  have hlen : x.len.toNat < 256 ^ 4 := x.len.toNat_lt
  have hspeed : (x.speed spi).toNat < 256 ^ 4 := (x.speed spi).toNat_lt
  have hdelay : x.delayUsecs spi < 256 ^ 2 := by
    unfold SpiTransfer.delayUsecs
    omega
  have hbits : (x.bits spi).toNat < 256 ^ 1 := (x.bits spi).toNat_lt
  have htx : (spiLaneWidth x.txNbits).toNat < 256 ^ 1 := (spiLaneWidth x.txNbits).toNat_lt
  have hrx : (spiLaneWidth x.rxNbits).toNat < 256 ^ 1 := (spiLaneWidth x.rxNbits).toNat_lt
  have hword : x.wordDelayUsecs spi < 256 ^ 1 := by
    unfold SpiTransfer.wordDelayUsecs
    omega
  simp (disch := simp) only [unpackSpiXfer, SpiDesc.ofTransfer, SpiTransfer.desc,
    List.append_assoc, readLe_append, length_leBytes, Nat.add_sub_cancel_left, Nat.sub_self,
    Nat.reduceSub, readLe_leBytes _ hlen, readLe_leBytes _ hspeed, readLe_leBytes _ hdelay,
    readLe_leBytes _ hbits, readLe_leBytes _ htx, readLe_leBytes _ hrx, readLe_leBytes _ hword,
    readLe_leBytes _ (boolToNat_lt _)]

theorem length_spiTxData (x : SpiTransfer) : x.txData.length = x.len.toNat := by
  unfold SpiTransfer.txData
  cases hbuf : x.txBuf with
  | none => exact List.length_replicate
  | some b => exact x.tx_length b hbuf

theorem length_spiData (xfers : List SpiTransfer) :
    (xfers.flatMap SpiTransfer.txData).length = spiTotalLen xfers := by
  induction xfers with
  | nil => rfl
  | cons x xs ih =>
    rw [List.flatMap_cons, List.length_append, ih, length_spiTxData, spiTotalLen]

-- A known width passes the daemon's check and is the caller's own, with 1 for 0.
theorem laneWidth_known {nbits : UInt8} (h : spiLaneWidth nbits ≠ 0) :
    normalizeSpiLaneWidth (spiLaneWidth nbits).toNat = (if nbits = 0 then 1 else nbits.toNat) ∧
      normalizeSpiLaneWidth (spiLaneWidth nbits).toNat ∈ spiLaneWidths := by
  unfold spiLaneWidth at h ⊢
  by_cases hone : nbits = 0 ∨ nbits = 1
  · rw [if_pos hone]
    rcases hone with rfl | rfl
    · decide
    · decide
  · rw [if_neg hone] at h ⊢
    by_cases hwide : nbits = 2 ∨ nbits = 4 ∨ nbits = 8
    · rw [if_pos hwide]
      rcases hwide with rfl | rfl | rfl
      · decide
      · decide
      · decide
    · rw [if_neg hwide] at h
      exact absurd rfl h

theorem boolToNat_flag (b : Bool) : ¬ (b.toNat ≠ 0 ∧ b.toNat ≠ 1) := by
  cases b <;> decide

theorem decide_boolToNat (b : Bool) : decide (b.toNat ≠ 0) = b := by
  cases b <;> decide

/-- Bits per word as the SPI core delivers them. -/
def BitsInRange (spi : SpiDevice) (xfers : List SpiTransfer) : Prop :=
  ∀ x ∈ xfers, 1 ≤ (x.bits spi).toNat ∧ (x.bits spi).toNat ≤ 32

theorem cutTransfers_txData (spi : SpiDevice) (bitsSetting : Nat) {xfers : List SpiTransfer}
    (hlanes : xfers.all SpiTransfer.lanesKnown = true) (hbits : BitsInRange spi xfers)
    (before : List UInt8) :
    cutTransfers bitsSetting (before ++ xfers.flatMap SpiTransfer.txData) before.length
      (xfers.map (SpiDesc.ofTransfer spi)) = .ok (xfers.map (SpiEntry.ofTransfer spi)) := by
  induction xfers generalizing before with
  | nil => rfl
  | cons x xs ih =>
    rw [List.all_cons, Bool.and_eq_true] at hlanes
    obtain ⟨htx, hrx⟩ : spiLaneWidth x.txNbits ≠ 0 ∧ spiLaneWidth x.rxNbits ≠ 0 := by
      simpa [SpiTransfer.lanesKnown] using hlanes.1
    obtain ⟨hlow, hhigh⟩ := hbits x List.mem_cons_self
    have hrest := ih hlanes.2 (fun y hy => hbits y (List.mem_cons_of_mem x hy))
      (before ++ x.txData)
    rw [List.length_append, length_spiTxData, List.append_assoc] at hrest
    have hbitsPos : (SpiDesc.ofTransfer spi x).bitsPerWord ≠ 0 := by
      change (x.bits spi).toNat ≠ 0
      omega
    have hbitsOk : ¬ ((SpiDesc.ofTransfer spi x).length ≠ 0 ∧
        ¬ (1 ≤ (SpiDesc.ofTransfer spi x).bitsPerWord ∧
          (SpiDesc.ofTransfer spi x).bitsPerWord < 33)) := by
      change ¬ (_ ∧ ¬ (1 ≤ (x.bits spi).toNat ∧ (x.bits spi).toNat < 33))
      omega
    have hwidths : ¬ (normalizeSpiLaneWidth (SpiDesc.ofTransfer spi x).txNbits ∉ spiLaneWidths ∨
        normalizeSpiLaneWidth (SpiDesc.ofTransfer spi x).rxNbits ∉ spiLaneWidths) := by
      rintro (hnot | hnot)
      · exact hnot (laneWidth_known htx).2
      · exact hnot (laneWidth_known hrx).2
    have hchange : ¬ ((SpiDesc.ofTransfer spi x).csChange ≠ 0 ∧
        (SpiDesc.ofTransfer spi x).csChange ≠ 1) := boolToNat_flag x.csChange
    have hflags : ¬ ((SpiDesc.ofTransfer spi x).hasTx ≠ 0 ∧ (SpiDesc.ofTransfer spi x).hasTx ≠ 1 ∨
        (SpiDesc.ofTransfer spi x).hasRx ≠ 0 ∧ (SpiDesc.ofTransfer spi x).hasRx ≠ 1) := by
      rintro (hbad | hbad)
      · exact boolToNat_flag _ hbad
      · exact boolToNat_flag _ hbad
    have hhasTx : decide ((SpiDesc.ofTransfer spi x).hasTx ≠ 0) = x.txBuf.isSome :=
      decide_boolToNat _
    have hhasRx : decide ((SpiDesc.ofTransfer spi x).hasRx ≠ 0) = x.rxBuf.isSome :=
      decide_boolToNat _
    have htake : (x.txData ++ xs.flatMap SpiTransfer.txData).take x.len.toNat = x.txData :=
      List.take_left' (length_spiTxData x)
    rw [List.map_cons, List.map_cons, List.flatMap_cons, cutTransfers]
    rw [if_pos hbitsPos, if_neg hbitsOk, if_neg hwidths, if_neg hchange,
      if_neg hflags, List.drop_left, hhasTx, hhasRx]
    change (cutTransfers bitsSetting _ (before.length + x.len.toNat) _ >>= _) = _
    rw [hrest]
    simp only [bind, Except.bind, SpiDesc.ofTransfer, htake, (laneWidth_known htx).1,
      (laneWidth_known hrx).1]
    rfl

/-- What `spi_exec_message` has checked before it sends. -/
theorem spiExecBegin_ok {dev : TransferDevice} {spi : SpiDevice} {xfers : List SpiTransfer}
    {reqMem replyMem : Bool} {payload : List UInt8}
    (h : spiExecBegin dev spi xfers reqMem replyMem = .ok payload) :
    payload = spiPayload dev spi xfers ∧ xfers.length ≤ maxSpiXfers ∧
      24 + 19 * xfers.length + spiTotalLen xfers ≤ Bridge.maxPayload ∧
      xfers.all SpiTransfer.lanesKnown = true := by
  unfold spiExecBegin at h
  split at h
  · cases h
  rename_i hcount
  split at h
  · cases h
  rename_i hsize
  split at h
  · cases h
  split at h
  · cases h
  rename_i hlanes
  split at h
  · cases h
  cases h
  exact ⟨rfl, Nat.le_of_not_lt hcount, Nat.le_of_not_lt hsize, by simpa using hlanes⟩

/-- The fixed part of the payload. -/
def spiPrefix (dev : TransferDevice) (spi : SpiDevice) (xfers : List SpiTransfer) : List UInt8 :=
  leBytes 4 dev.handle.toNat ++ (leBytes 4 dev.busHandle.toNat ++ (leBytes 4 spi.mode.toNat ++
    (leBytes 4 xfers.length ++ (leBytes 4 (spiTotalLen xfers) ++
    leBytes 4 spi.chipSelect.toNat))))

section Payload

variable (dev : TransferDevice) (spi : SpiDevice) (xfers : List SpiTransfer)

theorem spiPayload_eq :
    spiPayload dev spi xfers = spiPrefix dev spi xfers ++
      (xfers.flatMap (SpiTransfer.desc spi) ++ xfers.flatMap SpiTransfer.txData) := by
  simp only [spiPayload, spiPrefix, List.append_assoc]

theorem length_spiPrefix : (spiPrefix dev spi xfers).length = 24 := by
  simp only [spiPrefix, List.length_append, length_leBytes]

theorem length_spiPayload :
    (spiPayload dev spi xfers).length = 24 + 19 * xfers.length + spiTotalLen xfers := by
  rw [spiPayload_eq, List.length_append, List.length_append, length_spiPrefix, length_spiData,
    length_flatMap_pack fun x _ => length_spiDesc spi x, Nat.add_assoc]

theorem drop_spiPayload :
    (spiPayload dev spi xfers).drop (24 + 19 * xfers.length) =
      xfers.flatMap SpiTransfer.txData := by
  rw [spiPayload_eq, ← List.append_assoc]
  apply List.drop_left'
  rw [List.length_append, length_spiPrefix, length_flatMap_pack fun x _ => length_spiDesc spi x]

end Payload

/-- The numbers in the head of a payload that is not too long. -/
structure SpiHead (dev : TransferDevice) (spi : SpiDevice) (xfers : List SpiTransfer) : Prop where
  handle : readLe (spiPayload dev spi xfers) 0 4 = dev.handle.toNat
  mode : readLe (spiPayload dev spi xfers) 8 4 = spi.mode.toNat
  count : readLe (spiPayload dev spi xfers) 12 4 = xfers.length
  dataLen : readLe (spiPayload dev spi xfers) 16 4 = spiTotalLen xfers
  chipSelect : readLe (spiPayload dev spi xfers) 20 4 = spi.chipSelect.toNat

theorem spiHead_of_size (dev : TransferDevice) (spi : SpiDevice) {xfers : List SpiTransfer}
    (hmax : xfers.length ≤ maxSpiXfers)
    (hsize : 24 + 19 * xfers.length + spiTotalLen xfers ≤ Bridge.maxPayload) :
    SpiHead dev spi xfers := by
  unfold Bridge.maxPayload at hsize
  unfold maxSpiXfers at hmax
  have hhandle : dev.handle.toNat < 256 ^ 4 := dev.handle.toNat_lt
  have hmode : spi.mode.toNat < 256 ^ 4 := spi.mode.toNat_lt
  have hchip : spi.chipSelect.toNat < 256 ^ 4 :=
    Nat.lt_of_lt_of_le spi.chipSelect.toNat_lt (by decide)
  have hnum : xfers.length < 256 ^ 4 := by omega
  have htotal : spiTotalLen xfers < 256 ^ 4 := by omega
  refine ⟨?_, ?_, ?_, ?_, ?_⟩
  · rw [spiPayload, readLe_leBytes _ hhandle]
  · simp (disch := simp) only [spiPayload, readLe_append, length_leBytes, Nat.reduceSub,
      readLe_leBytes _ hmode]
  · simp (disch := simp) only [spiPayload, readLe_append, length_leBytes, Nat.reduceSub,
      readLe_leBytes _ hnum]
  · simp (disch := simp) only [spiPayload, readLe_append, length_leBytes, Nat.reduceSub,
      readLe_leBytes _ htotal]
  · simp (disch := simp) only [spiPayload, readLe_append, length_leBytes, Nat.reduceSub,
      readLe_leBytes _ hchip]

theorem unpackTable_spiPayload (dev : TransferDevice) (spi : SpiDevice) (xfers : List SpiTransfer) :
    unpackTable unpackSpiXfer 19 (spiPayload dev spi xfers) xfers.length 24 =
      xfers.map (SpiDesc.ofTransfer spi) := by
  have hall := unpackTable_flatMap (l := xfers) (fun x _ => length_spiDesc spi x)
    (fun x _ => unpackSpiXfer_desc spi x) (spiPrefix dev spi xfers)
    (xfers.flatMap SpiTransfer.txData)
  rwa [length_spiPrefix, ← spiPayload_eq] at hall

theorem decodeSpi_payload (dev : TransferDevice) (spi : SpiDevice) {xfers : List SpiTransfer}
    (hpos : 1 ≤ xfers.length) (hmax : xfers.length ≤ maxSpiXfers)
    (hsize : 24 + 19 * xfers.length + spiTotalLen xfers ≤ Bridge.maxPayload) :
    decodeSpi (spiPayload dev spi xfers) =
      .ok ⟨dev.handle.toNat, spi.mode.toNat, spi.chipSelect.toNat,
        xfers.map (SpiDesc.ofTransfer spi), xfers.flatMap SpiTransfer.txData⟩ := by
  have hhead := spiHead_of_size dev spi hmax hsize
  unfold decodeSpi
  simp only [hhead.handle, hhead.mode, hhead.count, hhead.dataLen, hhead.chipSelect,
    drop_spiPayload, length_spiData, unpackTable_spiPayload]
  rw [length_spiPayload, if_neg (by omega), if_neg (by omega), if_neg (by omega),
    if_neg (by omega)]

/-- Every payload with at least one transfer is read back transfer by transfer, and the handler
goes on with them unless a fault of the device answers. -/
theorem receiveSpi_begin {dev : TransferDevice} {spi : SpiDevice} {xfers : List SpiTransfer}
    {reqMem replyMem : Bool} {payload : List UInt8} (hpos : 1 ≤ xfers.length)
    (hbits : BitsInRange spi xfers)
    (h : spiExecBegin dev spi xfers reqMem replyMem = .ok payload)
    (devices : Nat → Option Device) (device : Device)
    (hdevice : devices dev.handle.toNat = some device)
    (hchip : deviceChipSelect device = some spi.chipSelect.toNat) :
    receiveSpi devices payload =
      match applyFaultPre device.faults with
      | some status => .error (.fault status)
      | none => .ok (device, xfers.map (SpiEntry.ofTransfer spi)) := by
  obtain ⟨rfl, hmax, hsize, hlanes⟩ := spiExecBegin_ok h
  have hcut := cutTransfers_txData spi (deviceBits device) hlanes hbits []
  have hsame : ¬ spi.chipSelect.toNat ≠
      (deviceChipSelect device).getD spi.chipSelect.toNat := by
    rw [hchip]
    exact fun hne => hne rfl
  unfold receiveSpi
  rw [decodeSpi_payload dev spi hpos hmax hsize]
  simp only [bind, Except.bind, hdevice]
  rw [if_neg hsame]
  rw [List.nil_append, List.length_nil] at hcut
  cases applyFaultPre device.faults with
  | none => simp only [hcut]
  | some status => simp only [hcut]

/-! ## Both transports -/

/-- The daemon's parsers give back the list that the kernel encoded, and no such payload is rejected
for a device at the address or chip select it was sent to: the handler goes on with the list, or a
fault of the device answers. -/
theorem transfer_codec_round_trip (dev : TransferDevice) (devices : Nat → Option Device)
    (device : Device) (hdevice : devices dev.handle.toNat = some device) :
    (∀ msgs reqMem replyMem payload, i2cExecBegin dev msgs reqMem replyMem = .ok payload →
      decodeI2c payload = .ok (dev.handle.toNat, msgs.map I2cEntry.ofMsg) ∧
      ((∀ m ∈ msgs, deviceAddress device = some m.addr.toNat) →
        receiveI2c devices payload =
          match applyFaultPre device.faults with
          | some status => .error status
          | none => .ok (device, msgs.map I2cEntry.ofMsg))) ∧
    ∀ spi xfers reqMem replyMem payload, 1 ≤ xfers.length → BitsInRange spi xfers →
      spiExecBegin dev spi xfers reqMem replyMem = .ok payload →
      (∃ frame, decodeSpi payload = .ok frame ∧
        cutTransfers (deviceBits device) frame.tx 0 frame.descs =
          .ok (xfers.map (SpiEntry.ofTransfer spi))) ∧
      (deviceChipSelect device = some spi.chipSelect.toNat →
        receiveSpi devices payload =
          match applyFaultPre device.faults with
          | some status => .error (.fault status)
          | none => .ok (device, xfers.map (SpiEntry.ofTransfer spi))) := by
  constructor
  · intro msgs reqMem replyMem payload h
    obtain ⟨hdecode, hreceive⟩ := receiveI2c_begin h
    exact ⟨hdecode, hreceive devices device hdevice⟩
  · intro spi xfers reqMem replyMem payload hpos hbits h
    refine ⟨?_, receiveSpi_begin hpos hbits h devices device hdevice⟩
    obtain ⟨rfl, hmax, hsize, hlanes⟩ := spiExecBegin_ok h
    exact ⟨_, decodeSpi_payload dev spi hpos hmax hsize,
      cutTransfers_txData spi (deviceBits device) hlanes hbits []⟩

/-- A register pointer write and a block read. -/
def pointerThenRead : List I2cMsg :=
  [⟨0x50, 0, 1, [0x10], rfl⟩, ⟨0x50, 1, 2, [0, 0], rfl⟩]

/-- A command byte, then two bytes of which only the answer matters. -/
def commandThenAnswer : List SpiTransfer :=
  [⟨1, some [0x9f], none, 0, 8, false, 1, 0, ⟨5, .usecs⟩, ⟨0, .usecs⟩, by simp, by simp⟩,
    ⟨2, none, some [0, 0], 0, 8, true, 0, 1, ⟨300, .sck⟩, ⟨0, .usecs⟩, by simp, by simp⟩]

def plainFaults : Faults := ⟨.none, 0, none, none⟩

def i2cBox : Device :=
  ⟨text "box", text "bus", .i2c 0x50 (.controller none), [], plainFaults, []⟩

def spiBox : Device :=
  ⟨text "box", text "bus", .spi 1 (text "spidev0.1") (.controller none), [], plainFaults, []⟩

theorem transfer_codec_read_back :
    receiveI2c (fun _ => some i2cBox) (i2cPayload ⟨1024, 1⟩ pointerThenRead) =
      .ok (i2cBox, [⟨0x50, 0, 1, [0x10]⟩, ⟨0x50, 1, 2, []⟩]) ∧
    receiveSpi (fun _ => some spiBox) (spiPayload ⟨1024, 1⟩ ⟨0, 1000000, 8, 1⟩ commandThenAnswer) =
      .ok (spiBox, [⟨1, 1000000, 5, 8, 0, 1, 1, 0, true, false, text "9f"⟩,
        ⟨2, 1000000, 300, 8, 1, 1, 1, 0, false, true, text "0000"⟩]) := by
  constructor
  · exact ((transfer_codec_round_trip ⟨1024, 1⟩ (fun _ => some i2cBox) i2cBox rfl).1 pointerThenRead
      true true _ rfl).2 (by decide)
  · have hbits : BitsInRange ⟨0, 1000000, 8, 1⟩ commandThenAnswer := by
      unfold BitsInRange
      decide
    have hentries : commandThenAnswer.map (SpiEntry.ofTransfer ⟨0, 1000000, 8, 1⟩) =
        [⟨1, 1000000, 5, 8, 0, 1, 1, 0, true, false, text "9f"⟩,
          ⟨2, 1000000, 300, 8, 1, 1, 1, 0, false, true, text "0000"⟩] := by decide +kernel
    rw [← hentries]
    exact ((transfer_codec_round_trip ⟨1024, 1⟩ (fun _ => some spiBox) spiBox rfl).2
      ⟨0, 1000000, 8, 1⟩ commandThenAnswer true true _ (by decide) hbits rfl).2 rfl

end Sensorium.Daemon

import Sensorium.Daemon.Templates
import Sensorium.Daemon.TransferCodec
import Sensorium.Lib.Tables
import Mathlib.Logic.Function.Basic

/-!
# Which requests reach a device

`_handle_i2c_request` and `_handle_spi_request` up to the template or the controller, with the
faults that they consume on the way.  A payload is a table with data: the handlers compare the
length of the data with the head and cut it by the descriptors, but never compare the two.
-/

namespace Sensorium.Daemon

open Lib Model Kernel Function

/-! ## The handlers -/

/-- `_consume_fault` on a device's `faults`. -/
def consumeFault (f : Faults) : Faults :=
  if 0 < f.remaining then
    if f.remaining - 1 = 0 then ⟨.none, 0, none, none⟩ else { f with remaining := f.remaining - 1 }
  else f

/-- A device record; an error number is at least 1, as `normalize_faults` asks. -/
structure Target where
  device : Device
  template : Option Template
  errno_pos : ∀ n, device.faults.errno = some n → 1 ≤ n

/-- The state of the devices, by handle. -/
abbrev Targets := Nat → Option Target

/-- What the normalisation asks of an error number. -/
theorem errno_pos_of_normalizeFaults {v : Value} {label : Label} {f : Faults}
    (h : normalizeFaults v label = .ok f) : ∀ n, f.errno = some n → 1 ≤ n := by
  obtain ⟨-, -, -, herrno, -⟩ := normalizeFaults_eq_ok h
  intro n hn
  obtain ⟨w, l, hw⟩ := herrno n hn
  exact (expectHexInt_eq_ok.mp hw).2.1

theorem errno_consumeFault {f : Faults} (h : ∀ n, f.errno = some n → 1 ≤ n) :
    ∀ n, (consumeFault f).errno = some n → 1 ≤ n := by
  unfold consumeFault
  split
  · split
    · simp
    · exact h
  · exact h

def Target.consume (t : Target) : Target where
  device := { t.device with faults := consumeFault t.device.faults }
  template := t.template
  errno_pos := errno_consumeFault t.errno_pos

/-- What becomes of a request: the handler answers it and leaves the devices so, or it goes to the
template or the controller of a device. -/
inductive Request (μ : Type)
  | answered (s : Targets) (status : Int)
  | passed (target : Target) (messages : List μ)

/-- `_handle_i2c_request` up to `handle_i2c` or `_dispatch_controller`. -/
def requestI2c (s : Targets) (payload : List UInt8) : Request I2cEntry :=
  match decodeI2c payload with
  | .error status => .answered s status
  | .ok (handle, messages) =>
    match s handle with
    | none => .answered s eNoEnt
    | some target =>
      match applyFaultPre target.device.faults with
      | some status => .answered (update s handle (some target.consume)) status
      | none =>
        if messages.any fun m => some m.addr ≠ deviceAddress target.device then
          .answered s eOpNotSupp
        else .passed target messages

/-- `_handle_spi_request` up to `handle_spi_message` or `_dispatch_controller`. -/
def requestSpi (s : Targets) (payload : List UInt8) : Request SpiEntry :=
  match decodeSpi payload with
  | .error reject => .answered s reject.status
  | .ok frame =>
    match s frame.deviceHandle with
    | none => .answered s SpiReject.unknownDevice.status
    | some target =>
      if frame.chipSelect ≠ (deviceChipSelect target.device).getD frame.chipSelect then
        .answered s SpiReject.chipSelectMismatch.status
      else
        match cutTransfers (deviceBits target.device) frame.tx 0 frame.descs with
        | .error reject => .answered s reject.status
        | .ok transfers =>
          match applyFaultPre target.device.faults with
          | some status => .answered (update s frame.deviceHandle (some target.consume)) status
          | none => .passed target transfers

/-- The answer that `receiveI2c` gives for the same devices. -/
theorem receiveI2c_eq (s : Targets) (payload : List UInt8) :
    receiveI2c (fun h => (s h).map Target.device) payload =
      match requestI2c s payload with
      | .answered _ status => .error status
      | .passed target messages => .ok (target.device, messages) := by
  unfold receiveI2c requestI2c
  cases decodeI2c payload with
  | error status => rfl
  | ok received =>
    obtain ⟨handle, messages⟩ := received
    cases hs : s handle with
    | none => simp [bind, Except.bind, hs]
    | some target =>
      simp only [bind, Except.bind, hs, Option.map_some]
      cases applyFaultPre target.device.faults with
      | some status => rfl
      | none =>
        dsimp only
        split <;> rfl

/-! ## The formats -/

def i2cFormat : TableFormat where
  headSize := 16
  countAt := 8
  dataLenAt := 12
  recordSize := 8
  maxCount := maxI2cMsgs
  declared := fun r => if readLe r 2 2 &&& 1 = 0 then readLe r 4 2 else 0
  count_inside := by decide
  dataLen_inside := by decide

def spiFormat : TableFormat where
  headSize := 24
  countAt := 12
  dataLenAt := 16
  recordSize := 19
  maxCount := maxSpiXfers
  declared := fun r => readLe r 0 4
  count_inside := by decide
  dataLen_inside := by decide

/-- The descriptors of a payload. -/
def i2cDescs (payload : List UInt8) : List I2cDesc :=
  unpackTable unpackI2cMsg 8 payload (i2cFormat.count payload) 16

def spiDescs (payload : List UInt8) : List SpiDesc :=
  unpackTable unpackSpiXfer 19 payload (spiFormat.count payload) 24

/-- The data bytes of a message. -/
def I2cDesc.declared (d : I2cDesc) : Nat := if d.flags &&& 1 = 0 then d.length else 0

/-- A table read with fields has the shares of the table of its records. -/
theorem total_records {β : Type} {f : TableFormat} {unpack : List UInt8 → Nat → β} {share : β → Nat}
    (h : ∀ p offset, share (unpack p offset) = f.declared (f.recordAt p offset))
    (p : List UInt8) (n offset : Nat) :
    ((unpackTable unpack f.recordSize p n offset).map share).sum =
      f.total (unpackTable f.recordAt f.recordSize p n offset) := by
  induction n generalizing offset with
  | zero => rfl
  | succ n ih =>
    rw [unpackTable, unpackTable, List.map_cons, List.sum_cons, ih, h]
    rfl

theorem total_i2cDescs (payload : List UInt8) :
    ((i2cDescs payload).map I2cDesc.declared).sum =
      i2cFormat.total (i2cFormat.records payload) := by
  apply total_records (f := i2cFormat) (fun p offset => ?_)
  show (if readLe p (offset + 2) 2 &&& 1 = 0 then readLe p (offset + 4) 2 else 0) =
    if readLe ((p.drop offset).take 8) 2 2 &&& 1 = 0 then readLe ((p.drop offset).take 8) 4 2 else 0
  rw [TableFormat.readLe_slice (by decide), TableFormat.readLe_slice (by decide)]

theorem total_spiDescs (payload : List UInt8) :
    ((spiDescs payload).map SpiDesc.length).sum = spiFormat.total (spiFormat.records payload) := by
  apply total_records (f := spiFormat) (fun p offset => ?_)
  show readLe p offset 4 = readLe ((p.drop offset).take 19) 0 4
  rw [TableFormat.readLe_slice (by decide), Nat.add_zero]

/-! ### I2C -/

theorem decodeI2c_eq (payload : List UInt8) :
    decodeI2c payload =
      if payload.length < 16 then .error eProto
      else if i2cFormat.count payload = 0 ∨ maxI2cMsgs < i2cFormat.count payload then
        .error eOpNotSupp
      else if payload.length < 16 + 8 * i2cFormat.count payload then .error eProto
      else if (i2cFormat.data payload).length ≠ i2cFormat.dataLen payload then .error eProto
      else .ok (readLe payload 0 4, cutMessages (i2cFormat.data payload) 0 (i2cDescs payload)) :=
  rfl

theorem length_i2cFormat_data (payload : List UInt8) :
    (i2cFormat.data payload).length = payload.length - (16 + 8 * i2cFormat.count payload) :=
  List.length_drop

theorem decodeI2c_of_fits {payload : List UInt8} (h : i2cFormat.Fits payload) :
    decodeI2c payload = .ok (readLe payload 0 4,
      cutMessages (i2cFormat.data payload) 0 (i2cDescs payload)) := by
  have hpos := h.count_pos
  have hmax : i2cFormat.count payload ≤ maxI2cMsgs := h.count_le
  have hlength : payload.length = 16 + 8 * i2cFormat.count payload + i2cFormat.dataLen payload :=
    h.length
  have hdata := length_i2cFormat_data payload
  rw [decodeI2c_eq, if_neg (by omega), if_neg (by omega), if_neg (by omega), if_neg (by omega)]

theorem decodeI2c_of_not_fits {payload : List UInt8} (h : ¬ i2cFormat.Fits payload) :
    ∃ status < 0, decodeI2c payload = .error status := by
  have hdata := length_i2cFormat_data payload
  rw [decodeI2c_eq]
  split
  · exact ⟨eProto, by decide, rfl⟩
  split
  · exact ⟨eOpNotSupp, by decide, rfl⟩
  split
  · exact ⟨eProto, by decide, rfl⟩
  split
  · exact ⟨eProto, by decide, rfl⟩
  · rename_i hhead hcount htable hlen
    refine absurd ⟨by omega, ?_, ?_, ?_⟩ h
    · show i2cFormat.count payload ≤ maxI2cMsgs
      omega
    · show payload.length = 16 + 8 * i2cFormat.count payload + i2cFormat.dataLen payload
      omega
    · show 16 ≤ payload.length
      omega

/-- Where the descriptors leave enough data, every write carries what it declares. -/
theorem cutMessages_carries {data : List UInt8} {cursor : Nat} {descs : List I2cDesc}
    (h : cursor + (descs.map I2cDesc.declared).sum ≤ data.length) :
    ∀ m ∈ cutMessages data cursor descs, m.flags &&& 1 = 0 → m.data.length = m.len := by
  induction descs generalizing cursor with
  | nil => exact fun m hm => absurd hm List.not_mem_nil
  | cons d ds ih =>
    rw [List.map_cons, List.sum_cons] at h
    rw [cutMessages]
    split
    · rename_i hwrite
      have hdeclared : d.declared = d.length := if_pos hwrite
      intro m hm _
      rcases List.mem_cons.mp hm with rfl | hm
      · show ((data.drop cursor).take d.length).length = d.length
        rw [List.length_take, List.length_drop]
        omega
      · exact ih (by omega) m hm ‹_›
    · rename_i hread
      intro m hm hwrite
      rcases List.mem_cons.mp hm with rfl | hm
      · exact absurd hwrite hread
      · exact ih (by omega) m hm hwrite

/-- A request that reaches a device is an encoding and carries its data; any other is answered with
an error and changes nothing. -/
structure I2cExact (s : Targets) (payload : List UInt8) : Prop where
  passed : ∀ target messages, requestI2c s payload = .passed target messages →
    i2cFormat.Encodes payload ∧ ∀ m ∈ messages, m.flags &&& 1 = 0 → m.data.length = m.len
  answered : ¬ i2cFormat.Encodes payload →
    ∃ status < 0, requestI2c s payload = .answered s status

/-- A fault that answers, and answers every time. -/
def LastingFault (f : Faults) : Prop := (applyFaultPre f).isSome = true ∧ f.remaining = 0

/-- The head is refused, or nothing is asked of the device, or the device's fault or address
answers. -/
def I2cRefused (s : Targets) (payload : List UInt8) : Prop :=
  ¬ i2cFormat.Fits payload ∨ ∀ target, s (readLe payload 0 4) = some target →
    LastingFault target.device.faults ∨
      applyFaultPre target.device.faults = none ∧
        ∃ d ∈ i2cDescs payload, some d.addr ≠ deviceAddress target.device

theorem applyFaultPre_neg (t : Target) {status : Int}
    (h : applyFaultPre t.device.faults = some status) : status < 0 := by
  unfold applyFaultPre at h
  split at h
  · cases h
    decide
  · cases h
    decide
  · cases h
    have hpos : 1 ≤ t.device.faults.errno.getD 5 := by
      cases herrno : t.device.faults.errno with
      | none => decide
      | some n => exact t.errno_pos n herrno
    omega
  · cases h
  · cases h

/-- A fault stays as it is exactly if it is not counted down. -/
theorem consumeFault_eq_iff (f : Faults) : consumeFault f = f ↔ f.remaining = 0 := by
  unfold consumeFault
  split
  · rename_i hpos
    refine iff_of_false (fun heq => ?_) (by omega)
    have hremaining := congrArg Faults.remaining heq
    split at heq
    · rw [if_pos ‹_›] at hremaining
      dsimp only at hremaining
      omega
    · rw [if_neg ‹_›] at hremaining
      dsimp only at hremaining
      omega
  · exact iff_of_true rfl (by omega)

theorem update_consume_eq_iff {s : Targets} {handle : Nat} {target : Target}
    (hs : s handle = some target) (h : (applyFaultPre target.device.faults).isSome = true) :
    update s handle (some target.consume) = s ↔ LastingFault target.device.faults := by
  have hiff := consumeFault_eq_iff target.device.faults
  constructor
  · intro heq
    have hsome := congrFun heq handle
    rw [update_self, hs, Option.some.injEq] at hsome
    exact ⟨h, hiff.mp (congrArg (fun t : Target => t.device.faults) hsome)⟩
  · rintro ⟨-, hremaining⟩
    have hsame : target.consume = target := by
      have := hiff.mpr hremaining
      cases target
      simp only [Target.consume, this]
    rw [hsame, ← hs, update_eq_self]

/-- What the fault of a device does to a request that would end in `r`. -/
theorem faultAnswered_iff {μ : Type} {s : Targets} {handle : Nat} {target : Target}
    (hs : s handle = some target) (r : Request μ) :
    (∃ status : Int, status < 0 ∧ (match applyFaultPre target.device.faults with
      | some status => Request.answered (update s handle (some target.consume)) status
      | none => r) = .answered s status) ↔
      LastingFault target.device.faults ∨
        applyFaultPre target.device.faults = none ∧
          ∃ status : Int, status < 0 ∧ r = .answered s status := by
  cases hpre : applyFaultPre target.device.faults with
  | some status =>
    have hsame := update_consume_eq_iff hs (by rw [hpre]; rfl)
    constructor
    · rintro ⟨status', -, hanswer⟩
      injection hanswer with hupdate
      exact .inl (hsame.mp hupdate)
    · intro hcases
      rcases hcases with hlasting | ⟨hnone, -⟩
      · exact ⟨status, applyFaultPre_neg target hpre, by rw [hsame.mpr hlasting]⟩
      · cases hnone
  | none =>
    have hno : ¬ LastingFault target.device.faults := by
      rintro ⟨hsome, -⟩
      rw [hpre] at hsome
      cases hsome
    rw [or_iff_right hno, and_iff_right rfl]

theorem requestI2c_of_fits (s : Targets) {payload : List UInt8} (h : i2cFormat.Fits payload) :
    requestI2c s payload =
      match s (readLe payload 0 4) with
      | none => .answered s eNoEnt
      | some target =>
        match applyFaultPre target.device.faults with
        | some status =>
          .answered (update s (readLe payload 0 4) (some target.consume)) status
        | none =>
          if (cutMessages (i2cFormat.data payload) 0 (i2cDescs payload)).any
              fun m => some m.addr ≠ deviceAddress target.device then .answered s eOpNotSupp
          else .passed target (cutMessages (i2cFormat.data payload) 0 (i2cDescs payload)) := by
  unfold requestI2c
  rw [decodeI2c_of_fits h]

/-- The addresses of the messages are those of the descriptors. -/
theorem any_cutMessages (data : List UInt8) (cursor : Nat) (descs : List I2cDesc)
    (address : Option Nat) :
    (cutMessages data cursor descs).any (fun m => some m.addr ≠ address) = true ↔
      ∃ d ∈ descs, some d.addr ≠ address := by
  induction descs generalizing cursor with
  | nil => simp [cutMessages]
  | cons d ds ih =>
    rw [cutMessages]
    split
    · rw [List.any_cons, Bool.or_eq_true, ih, List.exists_mem_cons_iff, decide_eq_true_iff]
    · rw [List.any_cons, Bool.or_eq_true, ih, List.exists_mem_cons_iff, decide_eq_true_iff]

theorem i2cPassed_of_fits {s : Targets} {payload : List UInt8} (h : i2cFormat.Fits payload)
    {target : Target} {messages : List I2cEntry}
    (hpassed : requestI2c s payload = .passed target messages) :
    messages = cutMessages (i2cFormat.data payload) 0 (i2cDescs payload) := by
  rw [requestI2c_of_fits s h] at hpassed
  split at hpassed
  · cases hpassed
  · split at hpassed
    · cases hpassed
    · split at hpassed
      · cases hpassed
      · cases hpassed
        rfl

/-- What fits and is answered without a change. -/
theorem i2cAnswered_iff {s : Targets} {payload : List UInt8} (h : i2cFormat.Fits payload) :
    (∃ status < 0, requestI2c s payload = .answered s status) ↔
      ∀ target, s (readLe payload 0 4) = some target →
        LastingFault target.device.faults ∨
          applyFaultPre target.device.faults = none ∧
            ∃ d ∈ i2cDescs payload, some d.addr ≠ deviceAddress target.device := by
  rw [requestI2c_of_fits s h]
  cases hs : s (readLe payload 0 4) with
  | none => exact iff_of_true ⟨eNoEnt, by decide, rfl⟩ (by simp)
  | some target =>
    simp only [Option.some.injEq, forall_eq']
    rw [← any_cutMessages (i2cFormat.data payload) 0 (i2cDescs payload) (deviceAddress target.device)]
    refine (faultAnswered_iff hs _).trans (or_congr_right (and_congr_right fun _ => ?_))
    split
    · exact iff_of_true ⟨eOpNotSupp, by decide, rfl⟩ ‹_›
    · refine iff_of_false ?_ ‹_›
      rintro ⟨status, -, hanswer⟩
      cases hanswer

theorem i2cExact_iff (s : Targets) (payload : List UInt8) :
    I2cExact s payload ↔ i2cFormat.Encodes payload ∨ I2cRefused s payload := by
  by_cases hfits : i2cFormat.Fits payload
  · by_cases hencodes : i2cFormat.Encodes payload
    · refine iff_of_true ⟨fun target messages hpassed => ⟨hencodes, ?_⟩, fun h => absurd hencodes h⟩
        (.inl hencodes)
      rw [i2cPassed_of_fits hfits hpassed]
      have htotal := ((TableFormat.encodes_iff payload).mp hencodes).total
      have hlength : payload.length =
          16 + 8 * i2cFormat.count payload + i2cFormat.dataLen payload := hfits.length
      have hdata := length_i2cFormat_data payload
      apply cutMessages_carries
      rw [total_i2cDescs, htotal]
      omega
    · rw [I2cRefused, or_iff_right hencodes, or_iff_right (fun h => h hfits), ← i2cAnswered_iff hfits]
      refine ⟨fun h => h.answered hencodes, fun h => ⟨fun target messages hpassed => ?_, fun _ => h⟩⟩
      obtain ⟨status, -, hanswer⟩ := h
      rw [hanswer] at hpassed
      cases hpassed
  · obtain ⟨status, hneg, hdecode⟩ := decodeI2c_of_not_fits hfits
    have hanswer : requestI2c s payload = .answered s status := by
      unfold requestI2c
      rw [hdecode]
    refine iff_of_true ⟨fun target messages hpassed => ?_, fun _ => ⟨status, hneg, hanswer⟩⟩
      (.inr (.inl hfits))
    rw [hanswer] at hpassed
    cases hpassed

/-! ### SPI -/

theorem decodeSpi_eq (payload : List UInt8) :
    decodeSpi payload =
      if payload.length < 24 then .error .shortPayload
      else if spiFormat.count payload = 0 ∨ maxSpiXfers < spiFormat.count payload then
        .error .transferCount
      else if payload.length < 24 + 19 * spiFormat.count payload then .error .shortPayload
      else if (spiFormat.data payload).length ≠ spiFormat.dataLen payload then
        .error .dataLengthMismatch
      else .ok ⟨readLe payload 0 4, readLe payload 8 4, readLe payload 20 4, spiDescs payload,
        spiFormat.data payload⟩ :=
  rfl

theorem length_spiFormat_data (payload : List UInt8) :
    (spiFormat.data payload).length = payload.length - (24 + 19 * spiFormat.count payload) :=
  List.length_drop

theorem decodeSpi_of_fits {payload : List UInt8} (h : spiFormat.Fits payload) :
    decodeSpi payload = .ok ⟨readLe payload 0 4, readLe payload 8 4, readLe payload 20 4,
      spiDescs payload, spiFormat.data payload⟩ := by
  have hpos := h.count_pos
  have hmax : spiFormat.count payload ≤ maxSpiXfers := h.count_le
  have hlength : payload.length = 24 + 19 * spiFormat.count payload + spiFormat.dataLen payload :=
    h.length
  have hdata := length_spiFormat_data payload
  rw [decodeSpi_eq, if_neg (by omega), if_neg (by omega), if_neg (by omega), if_neg (by omega)]

theorem decodeSpi_of_not_fits {payload : List UInt8} (h : ¬ spiFormat.Fits payload) :
    ∃ reject, decodeSpi payload = .error reject ∧ reject.status < 0 := by
  have hdata := length_spiFormat_data payload
  rw [decodeSpi_eq]
  split
  · exact ⟨.shortPayload, rfl, by decide⟩
  split
  · exact ⟨.transferCount, rfl, by decide⟩
  split
  · exact ⟨.shortPayload, rfl, by decide⟩
  split
  · exact ⟨.dataLengthMismatch, rfl, by decide⟩
  · rename_i hhead hcount htable hlen
    refine absurd ⟨by omega, ?_, ?_, ?_⟩ h
    · show spiFormat.count payload ≤ maxSpiXfers
      omega
    · show payload.length = 24 + 19 * spiFormat.count payload + spiFormat.dataLen payload
      omega
    · show 24 ≤ payload.length
      omega

/-- `bits_per_word or device["settings"].get("bits_per_word", 8)`. -/
def SpiDesc.bits (bitsSetting : Nat) (d : SpiDesc) : Nat :=
  if d.bitsPerWord ≠ 0 then d.bitsPerWord else bitsSetting

/-- The checks of one transfer. -/
structure SpiDesc.Accepted (bitsSetting : Nat) (d : SpiDesc) : Prop where
  bits : ¬ (d.length ≠ 0 ∧ ¬ (1 ≤ d.bits bitsSetting ∧ d.bits bitsSetting < 33))
  lanes : ¬ (normalizeSpiLaneWidth d.txNbits ∉ spiLaneWidths ∨
    normalizeSpiLaneWidth d.rxNbits ∉ spiLaneWidths)
  csChange : ¬ (d.csChange ≠ 0 ∧ d.csChange ≠ 1)
  flags : ¬ (d.hasTx ≠ 0 ∧ d.hasTx ≠ 1 ∨ d.hasRx ≠ 0 ∧ d.hasRx ≠ 1)

theorem cutTransfers_cons (bitsSetting : Nat) (tx : List UInt8) (cursor : Nat) (d : SpiDesc)
    (ds : List SpiDesc) :
    cutTransfers bitsSetting tx cursor (d :: ds) =
      if d.length ≠ 0 ∧ ¬ (1 ≤ d.bits bitsSetting ∧ d.bits bitsSetting < 33) then
        .error .invalidBitsPerWord
      else if normalizeSpiLaneWidth d.txNbits ∉ spiLaneWidths ∨
          normalizeSpiLaneWidth d.rxNbits ∉ spiLaneWidths then .error .invalidLaneWidth
      else if d.csChange ≠ 0 ∧ d.csChange ≠ 1 then .error .invalidCsChange
      else if d.hasTx ≠ 0 ∧ d.hasTx ≠ 1 ∨ d.hasRx ≠ 0 ∧ d.hasRx ≠ 1 then .error .invalidTxRxFlags
      else (cutTransfers bitsSetting tx (cursor + d.length) ds).bind fun rest =>
        .ok (⟨d.length, d.speedHz, d.delayUsecs, d.bits bitsSetting, d.csChange,
          normalizeSpiLaneWidth d.txNbits, normalizeSpiLaneWidth d.rxNbits, d.wordDelayUsecs,
          d.hasTx ≠ 0, d.hasRx ≠ 0, toHex ((tx.drop cursor).take d.length)⟩ :: rest) :=
  rfl

theorem cutTransfers_ok {bitsSetting : Nat} {tx : List UInt8} {descs : List SpiDesc}
    (h : ∀ d ∈ descs, d.Accepted bitsSetting) (cursor : Nat) :
    ∃ xs, cutTransfers bitsSetting tx cursor descs = .ok xs := by
  induction descs generalizing cursor with
  | nil => exact ⟨[], rfl⟩
  | cons d ds ih =>
    have hd := h d List.mem_cons_self
    obtain ⟨rest, hrest⟩ := ih (fun e he => h e (List.mem_cons_of_mem d he)) (cursor + d.length)
    rw [cutTransfers_cons, if_neg hd.bits, if_neg hd.lanes, if_neg hd.csChange, if_neg hd.flags, hrest]
    exact ⟨_, rfl⟩

theorem cutTransfers_error {bitsSetting : Nat} {tx : List UInt8} {descs : List SpiDesc}
    (h : ∃ d ∈ descs, ¬ d.Accepted bitsSetting) (cursor : Nat) :
    ∃ reject, cutTransfers bitsSetting tx cursor descs = .error reject ∧ reject.status < 0 := by
  induction descs generalizing cursor with
  | nil => simp at h
  | cons d ds ih =>
    rw [cutTransfers_cons]
    split
    · exact ⟨.invalidBitsPerWord, rfl, by decide⟩
    rename_i hbits
    split
    · exact ⟨.invalidLaneWidth, rfl, by decide⟩
    rename_i hlanes
    split
    · exact ⟨.invalidCsChange, rfl, by decide⟩
    rename_i hcs
    split
    · exact ⟨.invalidTxRxFlags, rfl, by decide⟩
    rename_i hflags
    -- The first descriptor passes, so a later one does not.
    have hrest : ∃ e ∈ ds, ¬ e.Accepted bitsSetting := by
      rcases (List.exists_mem_cons_iff _ _ _).mp h with hd | hds
      · exact absurd ⟨hbits, hlanes, hcs, hflags⟩ hd
      · exact hds
    obtain ⟨reject, hreject, hneg⟩ := ih hrest (cursor + d.length)
    rw [hreject]
    exact ⟨reject, rfl, hneg⟩

/-- Where the descriptors leave enough data, every transfer carries what it declares. -/
theorem cutTransfers_carries {bitsSetting : Nat} {tx : List UInt8} {cursor : Nat}
    {descs : List SpiDesc} {xs : List SpiEntry}
    (h : cursor + (descs.map SpiDesc.length).sum ≤ tx.length)
    (hcut : cutTransfers bitsSetting tx cursor descs = .ok xs) :
    ∀ x ∈ xs, ∃ chunk : List UInt8, x.tx = toHex chunk ∧ chunk.length = x.len := by
  induction descs generalizing cursor xs with
  | nil =>
    cases hcut
    exact fun x hx => absurd hx List.not_mem_nil
  | cons d ds ih =>
    rw [List.map_cons, List.sum_cons] at h
    rw [cutTransfers_cons] at hcut
    split at hcut
    · cases hcut
    split at hcut
    · cases hcut
    split at hcut
    · cases hcut
    split at hcut
    · cases hcut
    obtain ⟨rest, hrest, hcut⟩ := bind_eq_ok.mp hcut
    cases hcut
    intro x hx
    rcases List.mem_cons.mp hx with rfl | hx
    · refine ⟨(tx.drop cursor).take d.length, rfl, ?_⟩
      rw [List.length_take, List.length_drop]
      show min d.length (tx.length - cursor) = d.length
      omega
    · exact ih (by omega) hrest x hx

structure SpiExact (s : Targets) (payload : List UInt8) : Prop where
  passed : ∀ target transfers, requestSpi s payload = .passed target transfers →
    spiFormat.Encodes payload ∧
      ∀ x ∈ transfers, ∃ chunk : List UInt8, x.tx = toHex chunk ∧ chunk.length = x.len
  answered : ¬ spiFormat.Encodes payload →
    ∃ status < 0, requestSpi s payload = .answered s status

def SpiRefused (s : Targets) (payload : List UInt8) : Prop :=
  ¬ spiFormat.Fits payload ∨ ∀ target, s (readLe payload 0 4) = some target →
    readLe payload 20 4 ≠ (deviceChipSelect target.device).getD (readLe payload 20 4) ∨
      (∃ d ∈ spiDescs payload, ¬ d.Accepted (deviceBits target.device)) ∨
        LastingFault target.device.faults

theorem requestSpi_of_fits (s : Targets) {payload : List UInt8} (h : spiFormat.Fits payload) :
    requestSpi s payload =
      match s (readLe payload 0 4) with
      | none => .answered s SpiReject.unknownDevice.status
      | some target =>
        if readLe payload 20 4 ≠ (deviceChipSelect target.device).getD (readLe payload 20 4) then
          .answered s SpiReject.chipSelectMismatch.status
        else
          match cutTransfers (deviceBits target.device) (spiFormat.data payload) 0
              (spiDescs payload) with
          | .error reject => .answered s reject.status
          | .ok transfers =>
            match applyFaultPre target.device.faults with
            | some status =>
              .answered (update s (readLe payload 0 4) (some target.consume)) status
            | none => .passed target transfers := by
  unfold requestSpi
  rw [decodeSpi_of_fits h]

theorem spiPassed_of_fits {s : Targets} {payload : List UInt8} (h : spiFormat.Fits payload)
    {target : Target} {transfers : List SpiEntry}
    (hpassed : requestSpi s payload = .passed target transfers) :
    cutTransfers (deviceBits target.device) (spiFormat.data payload) 0 (spiDescs payload) =
      .ok transfers := by
  rw [requestSpi_of_fits s h] at hpassed
  split at hpassed
  · cases hpassed
  · split at hpassed
    · cases hpassed
    · split at hpassed
      · cases hpassed
      · rename_i hcut
        split at hpassed
        · cases hpassed
        · cases hpassed
          exact hcut

theorem spiAnswered_iff {s : Targets} {payload : List UInt8} (h : spiFormat.Fits payload) :
    (∃ status < 0, requestSpi s payload = .answered s status) ↔
      ∀ target, s (readLe payload 0 4) = some target →
        readLe payload 20 4 ≠ (deviceChipSelect target.device).getD (readLe payload 20 4) ∨
          (∃ d ∈ spiDescs payload, ¬ d.Accepted (deviceBits target.device)) ∨
            LastingFault target.device.faults := by
  rw [requestSpi_of_fits s h]
  cases hs : s (readLe payload 0 4) with
  | none => exact iff_of_true ⟨_, by decide, rfl⟩ (by simp)
  | some target =>
    simp only [Option.some.injEq, forall_eq']
    split
    · exact iff_of_true ⟨_, by decide, rfl⟩ (.inl ‹_›)
    · rename_i hselect
      rw [or_iff_right hselect]
      by_cases hfields : ∃ d ∈ spiDescs payload, ¬ d.Accepted (deviceBits target.device)
      · obtain ⟨reject, hreject, hneg⟩ : ∃ reject,
            cutTransfers (deviceBits target.device) (spiFormat.data payload) 0 (spiDescs payload) =
              .error reject ∧ reject.status < 0 := cutTransfers_error hfields 0
        rw [hreject]
        exact iff_of_true ⟨_, hneg, rfl⟩ (.inl hfields)
      · have hall : ∀ d ∈ spiDescs payload, d.Accepted (deviceBits target.device) := by
          intro d hd
          by_contra hno
          exact hfields ⟨d, hd, hno⟩
        obtain ⟨transfers, hcut⟩ : ∃ transfers,
            cutTransfers (deviceBits target.device) (spiFormat.data payload) 0 (spiDescs payload) =
              .ok transfers := cutTransfers_ok hall 0
        rw [hcut, or_iff_right hfields]
        refine (faultAnswered_iff hs _).trans (or_iff_left ?_)
        rintro ⟨-, status, -, hanswer⟩
        cases hanswer

theorem spiExact_iff (s : Targets) (payload : List UInt8) :
    SpiExact s payload ↔ spiFormat.Encodes payload ∨ SpiRefused s payload := by
  by_cases hfits : spiFormat.Fits payload
  · by_cases hencodes : spiFormat.Encodes payload
    · refine iff_of_true ⟨fun target transfers hpassed => ⟨hencodes, ?_⟩, fun h => absurd hencodes h⟩
        (.inl hencodes)
      have htotal := ((TableFormat.encodes_iff payload).mp hencodes).total
      have hlength : payload.length =
          24 + 19 * spiFormat.count payload + spiFormat.dataLen payload := hfits.length
      have hdata := length_spiFormat_data payload
      apply cutTransfers_carries ?_ (spiPassed_of_fits hfits hpassed)
      rw [total_spiDescs, htotal]
      omega
    · rw [SpiRefused, or_iff_right hencodes, or_iff_right (fun h => h hfits), ← spiAnswered_iff hfits]
      refine ⟨fun h => h.answered hencodes, fun h => ⟨fun target transfers hpassed => ?_, fun _ => h⟩⟩
      obtain ⟨status, -, hanswer⟩ := h
      rw [hanswer] at hpassed
      cases hpassed
  · obtain ⟨reject, hdecode, hneg⟩ := decodeSpi_of_not_fits hfits
    have hanswer : requestSpi s payload = .answered s reject.status := by
      unfold requestSpi
      rw [hdecode]
    refine iff_of_true ⟨fun target transfers hpassed => ?_, fun _ => ⟨_, hneg, hanswer⟩⟩
      (.inr (.inl hfits))
    rw [hanswer] at hpassed
    cases hpassed

/-! ## What the kernel sends -/

theorem sum_declared_ofMsg (msgs : List I2cMsg) :
    ((msgs.map I2cDesc.ofMsg).map I2cDesc.declared).sum = i2cDataLen msgs := by
  induction msgs with
  | nil => rfl
  | cons m ms ih =>
    have hdeclared : (I2cDesc.ofMsg m).declared = if m.isRead then 0 else m.len.toNat := by
      have hflags := isRead_iff m
      unfold I2cDesc.declared
      cases hread : m.isRead with
      | true =>
        refine if_neg fun hzero => ?_
        rw [hflags.mpr hzero] at hread
        cases hread
      | false => exact if_pos (hflags.mp hread)
    rw [List.map_cons, List.map_cons, List.sum_cons, ih, hdeclared, i2cDataLen]

/-- Every payload of `i2c_exec` is an encoding. -/
theorem i2cExecBegin_encodes {dev : TransferDevice} {msgs : List I2cMsg} {reqMem replyMem : Bool}
    {payload : List UInt8} (h : i2cExecBegin dev msgs reqMem replyMem = .ok payload) :
    i2cFormat.Encodes payload := by
  obtain ⟨rfl, hpos, hmax, hsize, -⟩ := i2cExecBegin_ok h
  have hhead := i2cHead_of_size dev hmax hsize
  have hcount : i2cFormat.count (i2cPayload dev msgs) = msgs.length := hhead.count
  have hdata : i2cFormat.dataLen (i2cPayload dev msgs) = i2cDataLen msgs := hhead.dataLen
  have hlength := length_i2cPayload dev msgs
  refine (TableFormat.encodes_iff _).mpr ⟨⟨by omega, ?_, ?_, ?_⟩, ?_⟩
  · rw [hcount]
    exact hmax
  · rw [hcount, hdata]
    exact hlength
  · show 16 ≤ _
    omega
  · rw [← total_i2cDescs, hdata, i2cDescs, hcount, unpackTable_i2cPayload]
    exact sum_declared_ofMsg msgs

theorem sum_length_ofTransfer (spi : SpiDevice) (xfers : List SpiTransfer) :
    ((xfers.map (SpiDesc.ofTransfer spi)).map SpiDesc.length).sum = spiTotalLen xfers := by
  induction xfers with
  | nil => rfl
  | cons x xs ih =>
    rw [List.map_cons, List.map_cons, List.sum_cons, ih]
    rfl

/-- And so is every payload of `spi_exec_message` with a transfer. -/
theorem spiExecBegin_encodes {dev : TransferDevice} {spi : SpiDevice} {xfers : List SpiTransfer}
    {reqMem replyMem : Bool} {payload : List UInt8} (hpos : 1 ≤ xfers.length)
    (h : spiExecBegin dev spi xfers reqMem replyMem = .ok payload) :
    spiFormat.Encodes payload := by
  obtain ⟨rfl, hmax, hsize, -⟩ := spiExecBegin_ok h
  have hhead := spiHead_of_size dev spi hmax hsize
  have hcount : spiFormat.count (spiPayload dev spi xfers) = xfers.length := hhead.count
  have hdata : spiFormat.dataLen (spiPayload dev spi xfers) = spiTotalLen xfers := hhead.dataLen
  have hlength := length_spiPayload dev spi xfers
  refine (TableFormat.encodes_iff _).mpr ⟨⟨by omega, ?_, ?_, ?_⟩, ?_⟩
  · rw [hcount]
    exact hmax
  · rw [hcount, hdata]
    exact hlength
  · show 24 ≤ _
    omega
  · rw [← total_spiDescs, hdata, spiDescs, hcount, unpackTable_spiPayload]
    exact sum_length_ofTransfer spi xfers

/-! ## Both transports -/

/-- A payload is treated as the format asks exactly if it is an encoding or is refused for another
reason: its head, its device, the fields that are checked, or a fault that is not counted. -/
theorem requests_exact_iff (s : Targets) (payload : List UInt8) :
    (I2cExact s payload ↔ i2cFormat.Encodes payload ∨ I2cRefused s payload) ∧
      (SpiExact s payload ↔ spiFormat.Encodes payload ∨ SpiRefused s payload) :=
  ⟨i2cExact_iff s payload, spiExact_iff s payload⟩

/-- Two devices, of which one is a bank and one a flash chip. -/
def twoTargets : Targets
  | 1 => some ⟨i2cBox, none, by simp [i2cBox, plainFaults]⟩
  | 2 => some ⟨spiBox, none, by simp [spiBox, plainFaults]⟩
  | _ => none

/-- A write of 4 bytes that brings 1, and a transfer of 4 bytes that brings 1. -/
def shortWrite : List UInt8 :=
  leBytes 4 1 ++ leBytes 4 1 ++ leBytes 4 1 ++ leBytes 4 1 ++
    (leBytes 2 0x50 ++ leBytes 2 0 ++ leBytes 2 4 ++ leBytes 2 0) ++ [0x10]

def shortTransfer : List UInt8 :=
  leBytes 4 2 ++ leBytes 4 1 ++ leBytes 4 0 ++ leBytes 4 1 ++ leBytes 4 1 ++ leBytes 4 1 ++
    (leBytes 4 4 ++ leBytes 4 500000 ++ leBytes 2 0 ++ [8, 0, 1, 1, 0, 1, 1, 0, 0]) ++ [0x9f]

theorem short_requests_pass :
    ¬ I2cExact twoTargets shortWrite ∧ ¬ SpiExact twoTargets shortTransfer := by
  have hwrite : ¬ i2cFormat.Encodes shortWrite := by
    rw [TableFormat.encodes_iff]
    rintro ⟨-, htotal⟩
    revert htotal
    decide
  have htransfer : ¬ spiFormat.Encodes shortTransfer := by
    rw [TableFormat.encodes_iff]
    rintro ⟨-, htotal⟩
    revert htotal
    decide
  exact ⟨fun h => hwrite (h.passed _ [⟨0x50, 0, 4, [0x10]⟩] rfl).1,
    fun h => htransfer (h.passed _ [⟨4, 500000, 0, 8, 0, 1, 1, 0, true, true, text "9f"⟩] rfl).1⟩

end Sensorium.Daemon

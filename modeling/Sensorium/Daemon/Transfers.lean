import Sensorium.Inventory.State
import Sensorium.Kernel.Inventory
import Sensorium.Kernel.Transfer

/-!
# Transfer requests in the daemon

`_handle_i2c_request` and `_handle_spi_request` up to the point where a template or a controller is
asked: the payload is taken apart, the device is looked up and the fields are checked.  The rejected
requests are counted and traced; that is not part of it.
-/

namespace Sensorium.Daemon

open Lib Model Kernel

/-- `_apply_fault_pre`: the status that a fault answers with. -/
def applyFaultPre (faults : Faults) : Option Int :=
  match faults.mode with
  | .timeout => some eTimedOut
  | .disconnect => some eNoDev
  | .errno => some (-(faults.errno.getD 5 : Int))
  | .none | .shortReply => none

/-! ## I2C -/

/-- An item of `msg_descs`. -/
structure I2cDesc where
  addr : Nat
  flags : Nat
  length : Nat
  reserved : Nat
  deriving DecidableEq, Repr

/-- `I2C_REQ_MSG_STRUCT.unpack_from(payload, offset)`. -/
def unpackI2cMsg (payload : List UInt8) (offset : Nat) : I2cDesc where
  addr := readLe payload offset 2
  flags := readLe payload (offset + 2) 2
  length := readLe payload (offset + 4) 2
  reserved := readLe payload (offset + 6) 2

/-- An item of `messages`. -/
structure I2cEntry where
  addr : Nat
  flags : Nat
  len : Nat
  data : List UInt8
  deriving DecidableEq, Repr

/-- The loop over the messages, with its cursor into the data. -/
def cutMessages (txData : List UInt8) : Nat → List I2cDesc → List I2cEntry
  | _, [] => []
  | cursor, d :: ds =>
    if d.flags &&& 1 = 0 then
      ⟨d.addr, d.flags, d.length, (txData.drop cursor).take d.length⟩ ::
        cutMessages txData (cursor + d.length) ds
    else ⟨d.addr, d.flags, d.length, []⟩ :: cutMessages txData cursor ds

/-- The device handle and the messages of a payload. -/
def decodeI2c (payload : List UInt8) : Except Int (Nat × List I2cEntry) :=
  if payload.length < 16 then .error eProto
  else
    let deviceHandle := readLe payload 0 4
    let numMsgs := readLe payload 8 4
    let dataLen := readLe payload 12 4
    if numMsgs = 0 ∨ maxI2cMsgs < numMsgs then .error eOpNotSupp
    else if payload.length < 16 + 8 * numMsgs then .error eProto
    else
      let txData := payload.drop (16 + 8 * numMsgs)
      if txData.length ≠ dataLen then .error eProto
      else
        .ok (deviceHandle, cutMessages txData 0 (unpackTable unpackI2cMsg 8 payload numMsgs 16))

/-- `device.get("address")`. -/
def deviceAddress (device : Device) : Option Nat :=
  match device.part with
  | .i2c address _ => some address
  | _ => none

/-- `_handle_i2c_request` before the device's template or controller; `devices` is
`_device_by_handle`. -/
def receiveI2c (devices : Nat → Option Device) (payload : List UInt8) :
    Except Int (Device × List I2cEntry) := do
  let (handle, messages) ← decodeI2c payload
  match devices handle with
  | none => .error eNoEnt
  | some device =>
    match applyFaultPre device.faults with
    | some status => .error status
    | none =>
      if messages.any fun m => some m.addr ≠ deviceAddress device then .error eOpNotSupp
      else .ok (device, messages)

/-! ## SPI -/

/-- The ways a request is rejected. -/
inductive SpiReject
  | shortPayload
  | transferCount
  | dataLengthMismatch
  | unknownDevice
  | chipSelectMismatch
  | invalidBitsPerWord
  | invalidLaneWidth
  | invalidCsChange
  | invalidTxRxFlags
  | fault (status : Int)
  deriving DecidableEq, Repr

def SpiReject.status : SpiReject → Int
  | .shortPayload | .dataLengthMismatch | .chipSelectMismatch | .invalidTxRxFlags => eProto
  | .transferCount | .invalidBitsPerWord | .invalidLaneWidth | .invalidCsChange => eOpNotSupp
  | .unknownDevice => eNoEnt
  | .fault status => status

/-- An item of `xfer_descs`. -/
structure SpiDesc where
  length : Nat
  speedHz : Nat
  delayUsecs : Nat
  bitsPerWord : Nat
  csChange : Nat
  txNbits : Nat
  rxNbits : Nat
  wordDelayUsecs : Nat
  hasTx : Nat
  hasRx : Nat
  deriving DecidableEq, Repr

/-- `SPI_REQ_XFER_STRUCT.unpack_from(payload, offset)`. -/
def unpackSpiXfer (payload : List UInt8) (offset : Nat) : SpiDesc where
  length := readLe payload offset 4
  speedHz := readLe payload (offset + 4) 4
  delayUsecs := readLe payload (offset + 8) 2
  bitsPerWord := readLe payload (offset + 10) 1
  csChange := readLe payload (offset + 11) 1
  txNbits := readLe payload (offset + 12) 1
  rxNbits := readLe payload (offset + 13) 1
  wordDelayUsecs := readLe payload (offset + 14) 1
  hasTx := readLe payload (offset + 15) 1
  hasRx := readLe payload (offset + 16) 1

/-- An item of `transfers`; `tx` is hexadecimal. -/
structure SpiEntry where
  len : Nat
  speedHz : Nat
  delayUsecs : Nat
  bitsPerWord : Nat
  csChange : Nat
  txNbits : Nat
  rxNbits : Nat
  wordDelayUsecs : Nat
  hasTx : Bool
  hasRx : Bool
  tx : Text
  deriving DecidableEq, Repr

/-- `_normalize_spi_lane_width`. -/
def normalizeSpiLaneWidth (value : Nat) : Nat := if value = 0 then 1 else value

/-- `SPI_LANE_WIDTHS`. -/
def spiLaneWidths : List Nat := [1, 2, 4, 8]

/-- The loop over the transfers, with its cursor into the data.  `bitsSetting` is
`device["settings"].get("bits_per_word", 8)`. -/
def cutTransfers (bitsSetting : Nat) (tx : List UInt8) :
    Nat → List SpiDesc → Except SpiReject (List SpiEntry)
  | _, [] => .ok []
  | cursor, d :: ds =>
    let bits := if d.bitsPerWord ≠ 0 then d.bitsPerWord else bitsSetting
    let txNbits := normalizeSpiLaneWidth d.txNbits
    let rxNbits := normalizeSpiLaneWidth d.rxNbits
    if d.length ≠ 0 ∧ ¬ (1 ≤ bits ∧ bits < 33) then .error .invalidBitsPerWord
    else if txNbits ∉ spiLaneWidths ∨ rxNbits ∉ spiLaneWidths then .error .invalidLaneWidth
    else if d.csChange ≠ 0 ∧ d.csChange ≠ 1 then .error .invalidCsChange
    else if d.hasTx ≠ 0 ∧ d.hasTx ≠ 1 ∨ d.hasRx ≠ 0 ∧ d.hasRx ≠ 1 then .error .invalidTxRxFlags
    else do
      let rest ← cutTransfers bitsSetting tx (cursor + d.length) ds
      .ok (⟨d.length, d.speedHz, d.delayUsecs, bits, d.csChange, txNbits, rxNbits,
        d.wordDelayUsecs, d.hasTx ≠ 0, d.hasRx ≠ 0,
        toHex ((tx.drop cursor).take d.length)⟩ :: rest)

/-- A payload with its fixed part read and its lengths checked. -/
structure SpiFrame where
  deviceHandle : Nat
  mode : Nat
  chipSelect : Nat
  descs : List SpiDesc
  tx : List UInt8
  deriving DecidableEq, Repr

def decodeSpi (payload : List UInt8) : Except SpiReject SpiFrame :=
  if payload.length < 24 then .error .shortPayload
  else
    let numXfers := readLe payload 12 4
    let dataLen := readLe payload 16 4
    if numXfers = 0 ∨ maxSpiXfers < numXfers then .error .transferCount
    else if payload.length < 24 + 19 * numXfers then .error .shortPayload
    else
      let tx := payload.drop (24 + 19 * numXfers)
      if tx.length ≠ dataLen then .error .dataLengthMismatch
      else
        .ok ⟨readLe payload 0 4, readLe payload 8 4, readLe payload 20 4,
          unpackTable unpackSpiXfer 19 payload numXfers 24, tx⟩

/-- `device.get("chip_select")`. -/
def deviceChipSelect (device : Device) : Option Nat :=
  match device.part with
  | .spi chipSelect _ _ => some chipSelect
  | _ => none

/-- `device["settings"].get("bits_per_word", 8)`; the settings hold an integer there. -/
def deviceBits (device : Device) : Nat :=
  (Inventory.settingInt device.settings "bits_per_word" 8).getD 8

/-- `_handle_spi_request` before the device's template or controller. -/
def receiveSpi (devices : Nat → Option Device) (payload : List UInt8) :
    Except SpiReject (Device × List SpiEntry) := do
  let frame ← decodeSpi payload
  match devices frame.deviceHandle with
  | none => .error .unknownDevice
  | some device =>
    if frame.chipSelect ≠ (deviceChipSelect device).getD frame.chipSelect then
      .error .chipSelectMismatch
    else do
      let transfers ← cutTransfers (deviceBits device) frame.tx 0 frame.descs
      match applyFaultPre device.faults with
      | some status => .error (.fault status)
      | none => .ok (device, transfers)

end Sensorium.Daemon

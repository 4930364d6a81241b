import Mathlib.Data.UInt
import Sensorium.Kernel.Request
import Sensorium.Lib.Bytes

/-!
# I2C and SPI transfers

`sensorium_runtime_i2c_exec` and `sensorium_runtime_spi_exec_message` turn the messages of a caller
into one request payload, send it and spread the reply over the caller's buffers.  The part before
`send_request` is `i2cExecBegin` and `spiExecBegin`, the part after it is `i2cExecEnd` and
`spiExecEnd`; whether the two allocations succeed is an input.
-/

namespace Sensorium.Kernel

open Lib

def eProto : Int := -71
def eMsgSize : Int := -90
def eOpNotSupp : Int := -95

def maxI2cMsgs : Nat := 256
def maxSpiXfers : Nat := 256

/-- What a request says about its device: `dev->handle`, and `dev->bus->handle` or 0. -/
structure TransferDevice where
  handle : UInt32
  busHandle : UInt32
  deriving DecidableEq, Repr

/-! ## I2C -/

/-- `struct i2c_msg`; the buffer of a read is the one that the reply goes to. -/
structure I2cMsg where
  addr : UInt16
  flags : UInt16
  len : UInt16
  buf : List UInt8
  buf_length : buf.length = len.toNat

/-- `flags & I2C_M_RD`. -/
def I2cMsg.isRead (m : I2cMsg) : Bool := m.flags &&& 1 ≠ 0

/-- The bytes that a message adds to the data area of the request. -/
def I2cMsg.txData (m : I2cMsg) : List UInt8 := if m.isRead then [] else m.buf

/-- `sensorium_runtime_i2c_msg_desc`. -/
def I2cMsg.desc (m : I2cMsg) : List UInt8 :=
  leBytes 2 m.addr.toNat ++ (leBytes 2 m.flags.toNat ++ (leBytes 2 m.len.toNat ++ leBytes 2 0))

def i2cRxLen : List I2cMsg → Nat
  | [] => 0
  | m :: ms => (if m.isRead then m.len.toNat else 0) + i2cRxLen ms

def i2cDataLen : List I2cMsg → Nat
  | [] => 0
  | m :: ms => (if m.isRead then 0 else m.len.toNat) + i2cDataLen ms

/-- `sensorium_runtime_i2c_req` with its descriptors and data. -/
def i2cPayload (dev : TransferDevice) (msgs : List I2cMsg) : List UInt8 :=
  leBytes 4 dev.handle.toNat ++ (leBytes 4 dev.busHandle.toNat ++ (leBytes 4 msgs.length ++
    (leBytes 4 (i2cDataLen msgs) ++ (msgs.flatMap I2cMsg.desc ++ msgs.flatMap I2cMsg.txData))))

/-- `i2c_exec` up to `send_request`. -/
def i2cExecBegin (dev : TransferDevice) (msgs : List I2cMsg) (reqMem replyMem : Bool) :
    Except Int (List UInt8) :=
  match msgs with
  | [] => .error eOpNotSupp
  | first :: _ =>
    if maxI2cMsgs < msgs.length then .error eOpNotSupp
    else if msgs.any (·.addr ≠ first.addr) then .error eOpNotSupp
    else if Bridge.maxPayload < 16 + 8 * msgs.length + i2cDataLen msgs then .error eMsgSize
    else if Bridge.maxPayload < i2cRxLen msgs then .error eMsgSize
    else if !reqMem then .error eNoMem
    else if i2cRxLen msgs ≠ 0 && !replyMem then .error eNoMem
    else .ok (i2cPayload dev msgs)

/-- The loop that copies the reply; it keeps the offset into the reply. -/
def i2cScatter (replyBuf : List UInt8) : Nat → List I2cMsg → List (List UInt8)
  | _, [] => []
  | offset, m :: ms =>
    if m.isRead then
      (replyBuf.drop offset).take m.len.toNat :: i2cScatter replyBuf (offset + m.len.toNat) ms
    else m.buf :: i2cScatter replyBuf offset ms

/-- `i2c_exec` after `send_request`: the value returned and the buffers of the messages.  Without
read data, `send_request` is not given the place for the length. -/
def i2cExecEnd (msgs : List I2cMsg) (status : Int) (responseLen : Nat) (replyBuf : List UInt8) :
    Int × List (List UInt8) :=
  let replyLen := if i2cRxLen msgs ≠ 0 then responseLen else 0
  if status ≠ 0 then (status, msgs.map (·.buf))
  else if replyLen ≠ i2cRxLen msgs then (eProto, msgs.map (·.buf))
  else (msgs.length, i2cScatter replyBuf 0 msgs)

/-! ## SPI -/

inductive SpiDelayUnit
  | usecs
  | nsecs
  | sck
  | other
  deriving DecidableEq, Repr

structure SpiDelay where
  value : UInt16
  unit : SpiDelayUnit
  deriving DecidableEq, Repr

/-- The fields of `struct spi_device` that a message is sent with. -/
structure SpiDevice where
  mode : UInt32
  maxSpeedHz : UInt32
  bitsPerWord : UInt8
  chipSelect : UInt8
  deriving DecidableEq, Repr

/-- `struct spi_transfer`. -/
structure SpiTransfer where
  len : UInt32
  txBuf : Option (List UInt8)
  rxBuf : Option (List UInt8)
  speedHz : UInt32
  bitsPerWord : UInt8
  csChange : Bool
  txNbits : UInt8
  rxNbits : UInt8
  delay : SpiDelay
  wordDelay : SpiDelay
  tx_length : ∀ b ∈ txBuf, b.length = len.toNat
  rx_length : ∀ b ∈ rxBuf, b.length = len.toNat

/-- `DIV_ROUND_UP_ULL`. -/
def divRoundUp (n d : Nat) : Nat := (n + d - 1) / d

def u32Max : Nat := 4294967295

/-- `sensorium_runtime_spi_delay_to_usecs`. -/
def spiDelayToUsecs (delay : SpiDelay) (speedHz : UInt32) : Nat :=
  if delay.value = 0 then 0
  else
    match delay.unit with
    | .usecs => min u32Max delay.value.toNat
    | .nsecs => min u32Max (divRoundUp delay.value.toNat 1000)
    | .sck =>
      if speedHz = 0 then 0
      else min u32Max (divRoundUp (delay.value.toNat * 1000000) speedHz.toNat)
    | .other => 0

/-- `sensorium_runtime_spi_lane_width`; 0 is an unknown width. -/
def spiLaneWidth (nbits : UInt8) : UInt8 :=
  if nbits = 0 ∨ nbits = 1 then 1
  else if nbits = 2 ∨ nbits = 4 ∨ nbits = 8 then nbits
  else 0

namespace SpiTransfer

variable (spi : SpiDevice) (x : SpiTransfer)

/-- `xfer->speed_hz ?: msg->spi->max_speed_hz`. -/
def speed : UInt32 := if x.speedHz ≠ 0 then x.speedHz else spi.maxSpeedHz

/-- `xfer->bits_per_word ?: msg->spi->bits_per_word ?: 8`. -/
def bits : UInt8 :=
  if x.bitsPerWord ≠ 0 then x.bitsPerWord
  else if spi.bitsPerWord ≠ 0 then spi.bitsPerWord
  else 8

/-- `min_t(u32, delay_usecs, U16_MAX)`. -/
def delayUsecs : Nat := min (spiDelayToUsecs x.delay (x.speed spi)) 65535

/-- `min_t(u32, word_delay_usecs, U8_MAX)`. -/
def wordDelayUsecs : Nat := min (spiDelayToUsecs x.wordDelay (x.speed spi)) 255

/-- `sensorium_runtime_spi_xfer_desc`. -/
def desc : List UInt8 :=
  leBytes 4 x.len.toNat ++ (leBytes 4 (x.speed spi).toNat ++ (leBytes 2 (x.delayUsecs spi) ++
    (leBytes 1 (x.bits spi).toNat ++ (leBytes 1 x.csChange.toNat ++
    (leBytes 1 (spiLaneWidth x.txNbits).toNat ++ (leBytes 1 (spiLaneWidth x.rxNbits).toNat ++
    (leBytes 1 (x.wordDelayUsecs spi) ++ (leBytes 1 x.txBuf.isSome.toNat ++
    (leBytes 1 x.rxBuf.isSome.toNat ++ leBytes 2 0)))))))))

/-- The bytes that a transfer adds to the data area: zeros if it has none to send. -/
def txData : List UInt8 := x.txBuf.getD (List.replicate x.len.toNat 0)

def lanesKnown : Bool := spiLaneWidth x.txNbits ≠ 0 && spiLaneWidth x.rxNbits ≠ 0

end SpiTransfer

def spiTotalLen : List SpiTransfer → Nat
  | [] => 0
  | x :: xs => x.len.toNat + spiTotalLen xs

/-- `sensorium_runtime_spi_req` with its descriptors and data. -/
def spiPayload (dev : TransferDevice) (spi : SpiDevice) (xfers : List SpiTransfer) : List UInt8 :=
  leBytes 4 dev.handle.toNat ++ (leBytes 4 dev.busHandle.toNat ++ (leBytes 4 spi.mode.toNat ++
    (leBytes 4 xfers.length ++ (leBytes 4 (spiTotalLen xfers) ++
    (leBytes 4 spi.chipSelect.toNat ++
    (xfers.flatMap (SpiTransfer.desc spi) ++ xfers.flatMap SpiTransfer.txData))))))

/-- `spi_exec_message` up to `send_request`. -/
def spiExecBegin (dev : TransferDevice) (spi : SpiDevice) (xfers : List SpiTransfer)
    (reqMem replyMem : Bool) : Except Int (List UInt8) :=
  if maxSpiXfers < xfers.length then .error eOpNotSupp
  else if Bridge.maxPayload < 24 + 19 * xfers.length + spiTotalLen xfers then .error eMsgSize
  else if !reqMem then .error eNoMem
  else if !xfers.all SpiTransfer.lanesKnown then .error eOpNotSupp
  else if spiTotalLen xfers ≠ 0 && !replyMem then .error eNoMem
  else .ok (spiPayload dev spi xfers)

/-- The loop that copies the reply: the offset moves on for every transfer. -/
def spiScatter (replyBuf : List UInt8) : Nat → List SpiTransfer → List (Option (List UInt8))
  | _, [] => []
  | offset, x :: xs =>
    x.rxBuf.map (fun _ => (replyBuf.drop offset).take x.len.toNat) ::
      spiScatter replyBuf (offset + x.len.toNat) xs

/-- `spi_exec_message` after `send_request`. -/
def spiExecEnd (xfers : List SpiTransfer) (status : Int) (responseLen : Nat)
    (replyBuf : List UInt8) : Int × List (Option (List UInt8)) :=
  let replyLen := if spiTotalLen xfers ≠ 0 then responseLen else 0
  if status ≠ 0 then (status, xfers.map (·.rxBuf))
  else if replyLen ≠ spiTotalLen xfers then (eProto, xfers.map (·.rxBuf))
  else (spiTotalLen xfers, spiScatter replyBuf 0 xfers)

/-- What `transfer_one_message` leaves in the message. -/
structure SpiCompletion where
  status : Int
  actualLength : Int
  deriving DecidableEq, Repr

/-- `transfer_one_message` after `spi_exec_message`. -/
def spiCompletion (ret : Int) : SpiCompletion where
  status := if ret < 0 then ret else 0
  actualLength := if ret > 0 then ret else 0

end Sensorium.Kernel

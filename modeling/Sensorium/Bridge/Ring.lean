import Sensorium.Lib.Runs
import Sensorium.Lib.Windows
import Sensorium.Bridge.Reserve

/-!
# The shared rings

The control, transport and reply rings share one layout: four `u32` cursors in the control page, a
table of descriptors and a payload zone.  The daemon produces into the control and reply rings
(`_submit_ring_entry`) and the kernel drains them (`sensorium_runtime_drain_control_ring`,
`sensorium_runtime_drain_reply_ring`); the kernel produces into the transport ring
(`sensorium_runtime_queue_transport_locked`) and the daemon drains it (`_drain_transport_ring`).
Each side has one thread at a time in a ring: producers hold `KernelBridge.lock` or
`runtime->lock`, and a ring has one consumer.  A step is one access to the shared region, so the
two sides interleave between any two of them.
-/

namespace Sensorium.Bridge

open Lib

/-! ## Commands -/

def cmdReset : UInt16 := 1
def cmdBusAdd : UInt16 := 2
def cmdBusRemove : UInt16 := 3
def cmdDeviceAdd : UInt16 := 4
def cmdDeviceRemove : UInt16 := 5
def cmdUartInjectRx : UInt16 := 6
def cmdUartSetModem : UInt16 := 7
def cmdReply : UInt16 := 8
def cmdHello : UInt16 := 9
def cmdHelloAck : UInt16 := 10

/-- What a producer hands over: the consumer's `(opcode, id, generation, payload)`. -/
structure Message where
  opcode : UInt16
  requestId : UInt32
  generation : UInt32
  payload : List UInt8
  deriving DecidableEq, Repr

/-- `FIXED_COMMAND_SIZES`. -/
def fixedCommandSize (opcode : UInt16) : Option Nat :=
  if opcode = cmdReset then some 0
  else if opcode = cmdBusAdd then some 76
  else if opcode = cmdBusRemove then some 4
  else if opcode = cmdDeviceAdd then some 92
  else if opcode = cmdDeviceRemove then some 4
  else if opcode = cmdUartSetModem then some 12
  else none

/-- `validate_command_payload`. -/
def validateCommandPayload (m : Message) : Bool :=
  m.payload.length ≤ maxPayload &&
    match fixedCommandSize m.opcode with
    | some expected => m.payload.length = expected
    | none => true

/-- The submissions that reach a ring: `write_frame` refuses `HELLO` frames and sends `CMD_REPLY`
to the reply ring and every other command to the control ring; the kernel bounds its payloads with
`-EMSGSIZE`. -/
def admits : RingKind → Message → Bool
  | .control, m =>
    m.opcode ≠ cmdHello && m.opcode ≠ cmdHelloAck && m.opcode ≠ cmdReply &&
      validateCommandPayload m
  | .reply, m => m.opcode = cmdReply && validateCommandPayload m
  | .transport, m => m.payload.length ≤ maxPayload

/-! ## Descriptors -/

/-- `sensorium_runtime_v5_desc`. -/
structure Desc where
  sessionId : UInt32
  generation : UInt32
  requestId : UInt32
  queueClass : Nat
  opcode : UInt16
  deviceHandle : Nat
  payloadOffset : Nat
  payloadLen : Nat
  status : Int
  reserved : Nat

def queueClass : RingKind → Nat
  | .control => 1
  | .transport => 2
  | .reply => 3

/-- The descriptor a producer writes for `m`. -/
def descOf (kind : RingKind) (session : UInt32) (m : Message) (offset : Nat) : Desc where
  sessionId := session
  generation := m.generation
  requestId := m.requestId
  queueClass := queueClass kind
  opcode := m.opcode
  deviceHandle := 0
  payloadOffset := offset
  payloadLen := m.payload.length
  status := 0
  reserved := 0

/-! ## State and steps -/

structure RingConfig where
  setup : AcceptedSetup
  kind : RingKind
  session : UInt32

def RingConfig.entries (c : RingConfig) : Nat := c.setup.ringEntries c.kind

def RingConfig.zoneSize (c : RingConfig) : Nat := c.setup.zoneSize c.kind

/-- Where the producer is in its submission; `tail` and `offset` are its local variables. -/
inductive Producer
  | idle
  | checked (m : Message) (tail : Nat)
  | reserved (m : Message) (tail offset : Nat)
  | copied (m : Message) (tail offset : Nat)
  | described (m : Message) (tail offset : Nat)
  | published (m : Message) (tail offset : Nat)

/-- Where the consumer is in its drain loop. -/
inductive Consumer
  | idle
  | fetched (head : Nat) (desc : Desc)
  | consumed (head : Nat) (desc : Desc)
  | advanced (desc : Desc)

/-- One ring of the shared region with its payload zone.  `accepted` and `delivered` record what
the producer has published and what the consumer has taken out. -/
structure Ring where
  head : Nat
  tail : Nat
  payloadHead : Nat
  payloadTail : Nat
  descs : Nat → Desc
  zone : Nat → UInt8
  producer : Producer
  consumer : Consumer
  accepted : List Message
  delivered : List Message

/-- `sensorium_runtime_v5_init_shared_locked` zeroes the cursors; the rest of the region is
whatever it was. -/
def Ring.init (descs : Nat → Desc) (zone : Nat → UInt8) : Ring where
  head := 0
  tail := 0
  payloadHead := 0
  payloadTail := 0
  descs := descs
  zone := zone
  producer := .idle
  consumer := .idle
  accepted := []
  delivered := []

inductive RingStep
  | submit (m : Message)
  | reserve
  | copyPayload
  | writeDesc
  | publishPayloadTail
  | publishTail
  | fetch
  | consume
  | publishHead
  | publishPayloadHead

/-- The ring-full test of the ring's producer. -/
def ringFull : RingKind → Nat → Nat → Nat → Bool
  | .transport => Kernel.ringFull
  | .control | .reply => KernelBridge.ringFull

/-- The payload allocator of the ring's producer. -/
def reservePayload : RingKind → Nat → Nat → Nat → Nat → Option Nat
  | .transport => Kernel.reservePayload
  | .control | .reply => KernelBridge.reservePayload

/-- What the consumer hands on: the reply drain passes `SENSORIUM_RUNTIME_CMD_REPLY` whatever the
descriptor's opcode says. -/
def messageOf (kind : RingKind) (desc : Desc) (payload : List UInt8) : Message where
  opcode := match kind with
    | .reply => cmdReply
    | .control | .transport => desc.opcode
  requestId := desc.requestId
  generation := desc.generation
  payload := payload

def Ring.step (c : RingConfig) (s : Ring) : RingStep → Option Ring
  | .submit m =>
    match s.producer with
    | .idle =>
      if admits c.kind m && !ringFull c.kind s.head s.tail c.entries then
        some { s with producer := .checked m s.tail }
      else some s
    | _ => none
  | .reserve =>
    match s.producer with
    | .checked m tail =>
      match reservePayload c.kind s.payloadHead s.payloadTail c.zoneSize m.payload.length with
      | some offset => some { s with producer := .reserved m tail offset }
      | none => some { s with producer := .idle }
    | _ => none
  | .copyPayload =>
    match s.producer with
    | .reserved m tail offset =>
      some { s with
        zone := writeWindow s.zone c.zoneSize offset m.payload
        producer := .copied m tail offset }
    | _ => none
  | .writeDesc =>
    match s.producer with
    | .copied m tail offset =>
      -- `V5_DESC_STRUCT.pack_into` raises on an offset above 32 bits; a `u32` offset never is.
      if offset < 2 ^ 32 then
        some { s with
          descs := Function.update s.descs (tail % c.entries) (descOf c.kind c.session m offset)
          producer := .described m tail offset }
      else some { s with producer := .idle }
    | _ => none
  | .publishPayloadTail =>
    match s.producer with
    | .described m tail offset =>
      some { s with
        payloadTail := u32 (offset + m.payload.length)
        producer := .published m tail offset }
    | _ => none
  | .publishTail =>
    match s.producer with
    | .published m tail _ =>
      some { s with
        tail := u32 (tail + 1)
        producer := .idle
        accepted := s.accepted ++ [m] }
    | _ => none
  | .fetch =>
    match s.consumer with
    | .idle =>
      if s.head = s.tail then none
      else
        -- A foreign session raises in the daemon and sets `desynced` in the kernel.
        let desc := s.descs (s.head % c.entries)
        if desc.sessionId = c.session then some { s with consumer := .fetched s.head desc }
        else none
    | _ => none
  | .consume =>
    match s.consumer with
    | .fetched head desc =>
      some { s with
        consumer := .consumed head desc
        delivered := s.delivered ++
          [messageOf c.kind desc
            (readWindow s.zone c.zoneSize desc.payloadOffset desc.payloadLen)] }
    | _ => none
  | .publishHead =>
    match s.consumer with
    | .consumed head desc => some { s with head := u32 (head + 1), consumer := .advanced desc }
    | _ => none
  | .publishPayloadHead =>
    match s.consumer with
    | .advanced desc =>
      some { s with
        payloadHead := u32 (desc.payloadOffset + desc.payloadLen)
        consumer := .idle }
    | _ => none

/-- The absolute cursors stay below `2 ^ 32`: neither the end of a reserved window nor the new tail
passes it. -/
def Ring.BelowWrap (c : RingConfig) (s : Ring) : RingStep → Prop
  | .reserve =>
    match s.producer with
    | .checked m _ =>
      reservePayload c.kind s.payloadHead s.payloadTail c.zoneSize m.payload.length ≠ none →
        windowStart s.payloadTail c.zoneSize m.payload.length + m.payload.length < 2 ^ 32
    | _ => True
  | .publishTail => s.tail + 1 < 2 ^ 32
  | _ => True

instance (c : RingConfig) (s : Ring) (label : RingStep) : Decidable (s.BelowWrap c label) := by
  unfold Ring.BelowWrap
  split
  · split <;> infer_instance
  · infer_instance
  · infer_instance

end Sensorium.Bridge

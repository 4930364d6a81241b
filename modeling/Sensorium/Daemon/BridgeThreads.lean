import Sensorium.Bridge.Ring

/-!
# The threads of the bridge

`_bridge_loop` reads frames and queues them, or answers `-EBUSY` itself when the queue is full;
`_bridge_worker_loop` takes them off the queue, runs the handler and writes the reply.  An exception
that no `except` clause takes ends the thread it is raised in.

The outcome of a handler and the words of the control page that a submission finds are inputs.
`frames`, `replies` and `desynced` record what was read, what was published on the reply ring, and
for which frame the runtime was moved to `desynced` (`none` for a read that failed).
-/

namespace Sensorium.Daemon

open Lib Bridge

/-! ## Submitting a reply -/

structure BridgeConfig where
  setup : AcceptedSetup
  pageSize : Nat
  workerCount : Nat
  maxPendingRequests : Nat
  pageSize_pos : 1 ≤ pageSize
  workers_pos : 1 ≤ workerCount
  pending_le : workerCount ≤ maxPendingRequests

namespace BridgeConfig

variable (c : BridgeConfig)

/-- The control page, the three descriptor tables and the two zones before it. -/
def replyPayloadOffset : Nat :=
  156 + 36 * c.setup.controlRingEntries + 36 * c.setup.transportRingEntries +
    36 * c.setup.replyRingEntries + c.setup.controlPayloadSize + c.setup.transportPayloadSize

/-- `PAGE_ALIGN` of the end of the reply zone: the length of the mapping. -/
def regionSize : Nat :=
  let size := c.replyPayloadOffset + c.setup.replyPayloadSize
  (size + c.pageSize - 1) / c.pageSize * c.pageSize

end BridgeConfig

/-- What a submission finds: four words of the control page, and whether the `ioctl` fails. -/
structure ReplyRing where
  head : UInt32
  tail : UInt32
  payloadHead : UInt32
  payloadTail : UInt32
  ioctlFails : Bool
  deriving DecidableEq, Repr

/-- Where the payload goes; `none` is `BlockingIOError`. -/
def ReplyRing.offset (c : BridgeConfig) (r : ReplyRing) (len : Nat) : Option Nat :=
  if KernelBridge.ringFull r.head.toNat r.tail.toNat c.setup.replyRingEntries then none
  else
    KernelBridge.reservePayload r.payloadHead.toNat r.payloadTail.toNat c.setup.replyPayloadSize len

/-- The window lies in the mapping, and its offset in the descriptor's `I` field. -/
def BridgeConfig.Places (c : BridgeConfig) (len offset : Nat) : Prop :=
  c.replyPayloadOffset + offset % c.setup.replyPayloadSize + len ≤ c.regionSize ∧ offset < 2 ^ 32

instance (c : BridgeConfig) (len offset : Nat) : Decidable (c.Places len offset) :=
  inferInstanceAs (Decidable (_ ∧ _))

inductive WriteOutcome
  | submitted
  | busy
  | osError
  | raised
  deriving DecidableEq, Repr

/-- `bridge.write_frame` of a `CMD_REPLY` whose payload is not empty.  `raised` is a `ValueError` of
`validate_command_payload` or of the assignment to a shorter view, or the `struct.error` of the
descriptor.  The `ioctl` comes after the entry is published. -/
def writeFrame (c : BridgeConfig) (r : ReplyRing) (payload : List UInt8) : WriteOutcome :=
  if maxPayload < payload.length then .raised
  else
    match r.offset c payload.length with
    | none => .busy
    | some offset =>
      if c.Places payload.length offset then if r.ioctlFails then .osError else .submitted
      else .raised

/-! ## Packing -/

def le32 (n : Nat) : List UInt8 :=
  [UInt8.ofNat n, UInt8.ofNat (n / 256), UInt8.ofNat (n / 65536), UInt8.ofNat (n / 16777216)]

/-- `REPLY_PREFIX_STRUCT.pack(status, len(data)) + data`; `none` is `struct.error`. -/
def packReply (status : Int) (data : List UInt8) : Option (List UInt8) :=
  if -2 ^ 31 ≤ status ∧ status < 2 ^ 31 ∧ data.length < 2 ^ 32 then
    some (le32 (status % 2 ^ 32).toNat ++ le32 data.length ++ data)
  else none

def errnoEio : Int := 5

/-- `REPLY_PREFIX_STRUCT.pack(-errno.EBUSY, 0)`. -/
def overloadedReply : List UInt8 := le32 (2 ^ 32 - 16) ++ le32 0

inductive HandlerOutcome
  | returned (status : Int) (data : List UInt8)
  | raised
  deriving DecidableEq, Repr

/-- What the worker packs. -/
def HandlerOutcome.reply : HandlerOutcome → Int × List UInt8
  | .returned status data => (status, data)
  | .raised => (-errnoEio, [])

/-! ## Threads -/

/-- A frame, numbered in the order of reading. -/
structure Ticket where
  number : Nat
  frame : Message
  deriving DecidableEq, Repr

inductive ReaderPc
  | reading
  | holding (t : Ticket)
  | overloaded (t : Ticket)
  | gone
  deriving DecidableEq, Repr

inductive ServerPc
  | waiting
  | handling (t : Ticket)
  | replying (t : Ticket) (payload : List UInt8)
  | gone
  deriving DecidableEq, Repr

structure Threads where
  stopped : Bool
  reader : ReaderPc
  queue : List Ticket
  workers : Nat → ServerPc
  frames : List Message
  replies : List (Nat × Message)
  desynced : List (Option Nat)

def Threads.start : Threads where
  stopped := false
  reader := .reading
  queue := []
  workers := fun _ => .waiting
  frames := []
  replies := []
  desynced := []

inductive ThreadAct
  | read (frame : Message)
  | readError (eof : Bool)
  | put
  | overload (r : ReplyRing)
  | take (w : Nat)
  | handle (w : Nat) (outcome : HandlerOutcome)
  | write (w : Nat) (r : ReplyRing) (expired : Bool)
  | stop
  | leaveReader
  | leave (w : Nat)

namespace Threads

variable (c : BridgeConfig) (s : Threads)

def setWorker (w : Nat) (pc : ServerPc) : Threads :=
  { s with workers := Function.update s.workers w pc }

/-- The entry is on the reply ring. -/
def publish (t : Ticket) (payload : List UInt8) : Threads :=
  { s with
    replies := s.replies ++
      [(t.number, ⟨cmdReply, t.frame.requestId, t.frame.generation, payload⟩)] }

/-- `_set_desynced_from_bridge_failure`, for the reply to `t`. -/
def desync (t : Ticket) : Threads := { s with desynced := s.desynced ++ [some t.number] }

def read (frame : Message) : Option Threads :=
  match s.reader with
  | .reading =>
    some { s with
      frames := s.frames ++ [frame]
      reader := .holding ⟨s.frames.length, frame⟩ }
  | _ => none

/-- Any exception ends the loop; an `EOFError` does so without a word. -/
def readError (eof : Bool) : Option Threads :=
  match s.reader with
  | .reading =>
    if eof || s.stopped then some { s with reader := .gone }
    else some { s with reader := .gone, desynced := s.desynced ++ [none] }
  | _ => none

/-- `request_queue.put_nowait`. -/
def put : Option Threads :=
  match s.reader with
  | .holding t =>
    if s.queue.length < c.maxPendingRequests then
      some { s with queue := s.queue ++ [t], reader := .reading }
    else some { s with reader := .overloaded t }
  | _ => none

/-- `_bridge_reply_overloaded`; the loop drops any exception. -/
def overload (r : ReplyRing) : Option Threads :=
  match s.reader with
  | .overloaded t =>
    let reader : ReaderPc := if s.stopped then .gone else .reading
    match writeFrame c r overloadedReply with
    | .submitted => some ({ s with reader := .reading }.publish t overloadedReply)
    | .osError => some ({ s with reader := reader }.publish t overloadedReply)
    | .busy | .raised => some { s with reader := reader }
  | _ => none

def take (w : Nat) : Option Threads :=
  match s.workers w, s.queue with
  | .waiting, t :: queue => some ({ s with queue := queue }.setWorker w (.handling t))
  | _, _ => none

/-- The handler returns or raises, and the reply is packed outside its `try`. -/
def handle (w : Nat) (outcome : HandlerOutcome) : Option Threads :=
  match s.workers w with
  | .handling t =>
    match packReply outcome.reply.1 outcome.reply.2 with
    | some payload => some (s.setWorker w (.replying t payload))
    | none => some (s.setWorker w .gone)
  | _ => none

/-- One round of `_write_bridge_reply`.  A full ring is tried again until the deadline has
`expired`. -/
def write (w : Nat) (r : ReplyRing) (expired : Bool) : Option Threads :=
  match s.workers w with
  | .replying t payload =>
    match writeFrame c r payload with
    | .submitted => some ((s.publish t payload).setWorker w .waiting)
    | .busy =>
      if s.stopped then some (s.setWorker w .gone)
      else if expired then some ((s.desync t).setWorker w .waiting)
      else some s
    | .osError =>
      if s.stopped then some ((s.publish t payload).setWorker w .gone)
      else some (((s.publish t payload).desync t).setWorker w .waiting)
    | .raised => some (s.setWorker w .gone)
  | _ => none

def leaveReader : Option Threads :=
  match s.reader with
  | .reading => if s.stopped then some { s with reader := .gone } else none
  | _ => none

/-- The queue was empty, or gave `None`, after `stop_event` was set. -/
def leave (w : Nat) : Option Threads :=
  match s.workers w with
  | .waiting => if s.stopped then some (s.setWorker w .gone) else none
  | _ => none

def step : ThreadAct → Option Threads
  | .read frame => s.read frame
  | .readError eof => s.readError eof
  | .put => s.put c
  | .overload r => s.overload c r
  | .take w => if w < c.workerCount then s.take w else none
  | .handle w outcome => s.handle w outcome
  | .write w r expired => s.write c w r expired
  | .stop => some { s with stopped := true }
  | .leaveReader => s.leaveReader
  | .leave w => if w < c.workerCount then s.leave w else none

end Threads

end Sensorium.Daemon

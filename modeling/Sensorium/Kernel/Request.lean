import Mathlib.Logic.Function.Basic
import Sensorium.Lib.Runs
import Sensorium.Lib.Words
import Sensorium.Bridge.Setup

/-!
# Kernel requests

`sensorium_runtime_send_request` allocates a request, publishes it under `runtime->lock`, waits on
its completion and frees it.  `sensorium_runtime_cmd_reply` fills a request under the lock and
completes it after the lock is dropped; `sensorium_runtime_fail_all_locked` runs inside a reset or a
release.  A step below is one lock section or one access outside the lock, and any number of
callers and repliers interleave.

A request is named by its allocation, so a step on a freed request stays visible as such.
-/

namespace Sensorium.Kernel

open Lib

def eNoMem : Int := -12
def eBusy : Int := -16
def ePipe : Int := -32
def eTimedOut : Int := -110

/-- What `send_request` hands back: the status, and for status 0 the response bytes. -/
structure Outcome where
  status : Int
  data : List UInt8
  deriving DecidableEq, Repr

/-- Where a call of `send_request` is. -/
inductive SendPc
  | unallocated
  | allocated
  | waiting
  | timedOut
  | woken
  | outcomeRead (status : Int) (responseLen : Nat)
  | unlinked (status : Int) (responseLen : Nat)
  | returned (status : Int) (responseLen : Nat)
  | refusing (status : Int)
  | refused (status : Int)
  deriving DecidableEq, Repr

/-- `sensorium_runtime_request`, with the caller's `response_buf` of `response_capacity` bytes.
`first` records the first completion. -/
structure Request where
  id : Nat
  generation : Nat
  responseBuf : List UInt8
  status : Int
  actualResponseLen : Nat
  replied : Bool
  listed : Bool
  done : Bool
  pc : SendPc
  first : Option Outcome

def outcomeOf (status : Int) (responseLen : Nat) (buf : List UInt8) : Outcome :=
  ⟨status, if status = 0 then buf.take responseLen else []⟩

def Request.outcome (q : Request) : Outcome :=
  outcomeOf q.status q.actualResponseLen q.responseBuf

def Request.freed (q : Request) : Bool :=
  match q.pc with
  | .returned _ _ | .refused _ => true
  | _ => false

/-- The request memory before `send_request` has it. -/
def Request.blank : Request where
  id := 0
  generation := 0
  responseBuf := []
  status := 0
  actualResponseLen := 0
  replied := false
  listed := false
  done := false
  pc := .unallocated
  first := none

/-- How many response bytes a reply copies. -/
def Request.copyLen (q : Request) (status : Int) (data : List UInt8) : Nat :=
  if status = 0 ∧ q.responseBuf.length ≠ 0 then min q.responseBuf.length data.length else 0

/-- The outcome that a reply carries for this request. -/
def Request.replyOutcome (q : Request) (status : Int) (data : List UInt8) : Outcome :=
  ⟨status, if status = 0 then data.take q.responseBuf.length else []⟩

/-- `cmd_reply` fills the request. -/
def Request.accept (q : Request) (status : Int) (data : List UInt8) : Request :=
  let n := q.copyLen status data
  { q with
    status := status
    responseBuf := data.take n ++ q.responseBuf.drop n
    actualResponseLen := n
    replied := true
    first := q.first.or (some (q.replyOutcome status data)) }

/-- `fail_all_locked` fills the request. -/
def Request.fail (q : Request) (status : Int) : Request :=
  { q with
    status := status
    actualResponseLen := 0
    replied := true
    first := q.first.or (some ⟨status, []⟩) }

inductive FailCause
  | reset
  | release
  deriving DecidableEq, Repr

/-- A thread inside `fail_all_locked`: the rest of the list, and the request that is filled and not
yet completed. -/
structure FailAll where
  cause : FailCause
  pending : List Nat
  filled : Option Nat

/-- The part of `sensorium_runtime_state` that requests use.  `controlPage` holds
`inflight_in_use`.  `lock` is the thread that keeps `runtime->lock` across several steps;
`completing` are the repliers between `mutex_unlock` and `complete_all`. -/
structure Runtime where
  nextRequestId : Nat
  generation : Nat
  daemonOpen : Bool
  v5Started : Bool
  inflightCreditLimit : Nat
  controlPage : Option Nat
  requestIndex : Nat → Option Nat
  requests : List Nat
  heap : Nat → Request
  allocated : Nat
  lock : Option FailAll
  completing : List Nat
  touchedFreed : Bool

def Runtime.init : Runtime where
  nextRequestId := 0
  generation := 0
  daemonOpen := false
  v5Started := false
  inflightCreditLimit := 128
  controlPage := none
  requestIndex := fun _ => none
  requests := []
  heap := fun _ => .blank
  allocated := 0
  lock := none
  completing := []
  touchedFreed := false

namespace Runtime

def put (s : Runtime) (r : Nat) (q : Request) : Runtime :=
  { s with heap := Function.update s.heap r q }

/-- Any access to a request outside its own waiter. -/
def touch (s : Runtime) (r : Nat) : Runtime :=
  { s with touchedFreed := s.touchedFreed || (s.heap r).freed }

/-! ## `send_request` -/

/-- `alloc_request` and the fields set before the lock is taken. -/
def allocRequest (s : Runtime) (buf : List UInt8) : Option Runtime :=
  some { s.put s.allocated
      { Request.blank with generation := s.generation, responseBuf := buf, pc := .allocated } with
    allocated := s.allocated + 1 }

/-- `queue_transport_locked`; `transportFull` is the outcome of the ring and arena tests. -/
def queueTransportLocked (s : Runtime) (transportFull : Bool) : Except Int Runtime :=
  match s.daemonOpen, s.v5Started, s.controlPage with
  | true, true, some inflight =>
    if inflight ≥ s.inflightCreditLimit then .error eBusy
    else if transportFull then .error eBusy
    else .ok { s with controlPage := some (inflight + 1) }
  | _, _, _ => .error eTimedOut

/-- The first lock section.  The failure paths take the request off the list again before the lock
is dropped. -/
def publish (s : Runtime) (r : Nat) (stored transportFull : Bool) : Option Runtime :=
  match s.lock, (s.heap r).pc with
  | none, .allocated =>
    let id := u32 (s.nextRequestId + 1)
    if stored then
      match s.queueTransportLocked transportFull with
      | .ok t =>
        some { t.put r { s.heap r with id := id, listed := true, pc := .waiting } with
          nextRequestId := id
          requestIndex := Function.update s.requestIndex id (some r)
          requests := s.requests ++ [r] }
      | .error status =>
        some { s.put r { s.heap r with id := id, pc := .refusing status } with
          nextRequestId := id
          requestIndex := Function.update s.requestIndex id none }
    else
      some { s.put r { s.heap r with id := id, pc := .refusing eNoMem } with nextRequestId := id }
  | _, _ => none

/-- `wait_for_completion_timeout` returns 0; it never does once the completion is done. -/
def expire (s : Runtime) (r : Nat) : Option Runtime :=
  match (s.heap r).pc with
  | .waiting =>
    if (s.heap r).done then none
    else some (s.put r { s.heap r with
      pc := .timedOut, first := (s.heap r).first.or (some ⟨eTimedOut, []⟩) })
  | _ => none

/-- `wait_for_completion_timeout` returns the time left. -/
def wake (s : Runtime) (r : Nat) : Option Runtime :=
  match (s.heap r).pc with
  | .waiting => if (s.heap r).done then some (s.put r { s.heap r with pc := .woken }) else none
  | _ => none

/-- `status` and `*response_len` are read without the lock. -/
def readOutcome (s : Runtime) (r : Nat) : Option Runtime :=
  match (s.heap r).pc with
  | .woken =>
    let q := s.heap r
    some (s.put r { q with pc := .outcomeRead q.status q.actualResponseLen })
  | _ => none

def releaseCredit (page : Option Nat) : Option Nat := page.map (· - 1)

/-- `xa_erase`, `list_del` and `listed = false`, if the request is still listed. -/
def delist (s : Runtime) (r : Nat) (pc : SendPc) : Runtime :=
  if (s.heap r).listed then
    { s.put r { s.heap r with listed := false, pc := pc } with
      requestIndex := Function.update s.requestIndex (s.heap r).id none
      requests := s.requests.erase r }
  else s.put r { s.heap r with pc := pc }

/-- The second lock section of `send_request`, on its timeout path and on its completion path. -/
def unlink (s : Runtime) (r : Nat) : Option Runtime :=
  match s.lock, (s.heap r).pc with
  | none, .timedOut =>
    some { s.delist r (.unlinked eTimedOut 0) with
      controlPage := if (s.heap r).listed then releaseCredit s.controlPage else s.controlPage }
  | none, .outcomeRead status len => some (s.delist r (.unlinked status len))
  | _, _ => none

/-- `free_request` and the return. -/
def freeRequest (s : Runtime) (r : Nat) : Option Runtime :=
  match (s.heap r).pc with
  | .unlinked status len => some (s.put r { s.heap r with pc := .returned status len })
  | .refusing status => some (s.put r { s.heap r with pc := .refused status })
  | _ => none

/-! ## `cmd_reply` -/

/-- The lock section of `cmd_reply`: look up, check the generation, fill. -/
def cmdReply (s : Runtime) (id generation : Nat) (status : Int) (data : List UInt8) :
    Option Runtime :=
  if data.length > Bridge.maxPayload then some s
  else
    match s.lock with
    | some _ => none
    | none =>
      match s.requestIndex id with
      | none => some s
      | some r =>
        if (s.heap r).generation = generation then
          some { (s.touch r).put r ((s.heap r).accept status data) with
            controlPage := releaseCredit s.controlPage
            completing := r :: s.completing }
        else some (s.touch r)

/-- `complete_all` after the lock is dropped. -/
def completeReply (s : Runtime) (r : Nat) : Option Runtime :=
  if r ∈ s.completing then
    some { (s.touch r).put r { s.heap r with done := true } with
      completing := s.completing.erase r }
  else none

/-! ## `fail_all_locked` -/

/-- A reset or a release takes the lock and enters `fail_all_locked`. -/
def failBegin (s : Runtime) (cause : FailCause) : Option Runtime :=
  match s.lock with
  | some _ => none
  | none =>
    let lock := some ⟨cause, s.requests, none⟩
    match cause with
    | .reset => some { s with lock := lock }
    | .release => some { s with lock := lock, daemonOpen := false, v5Started := false }

/-- The loop body up to `complete_all`. -/
def failFill (s : Runtime) : Option Runtime :=
  match s.lock with
  | some ⟨cause, r :: pending, none⟩ =>
    if (s.heap r).replied then some { s.touch r with lock := some ⟨cause, pending, none⟩ }
    else some { (s.touch r).put r ((s.heap r).fail ePipe) with
      lock := some ⟨cause, pending, some r⟩ }
  | _ => none

def failComplete (s : Runtime) : Option Runtime :=
  match s.lock with
  | some ⟨cause, pending, some r⟩ =>
    some { (s.touch r).put r { s.heap r with done := true } with
      lock := some ⟨cause, pending, none⟩ }
  | _ => none

/-- `runtime->generation++`, skipping 0. -/
def nextGeneration (generation : Nat) : Nat :=
  if u32 (generation + 1) = 0 then 1 else u32 (generation + 1)

/-- The end of the loop: the counter is cleared, then the reset moves the generation on and the
release tears the shared area down. -/
def failEnd (s : Runtime) : Option Runtime :=
  match s.lock with
  | some ⟨.reset, [], none⟩ =>
    some { s with
      lock := none
      controlPage := s.controlPage.map fun _ => 0
      generation := nextGeneration s.generation }
  | some ⟨.release, [], none⟩ => some { s with lock := none, controlPage := none }
  | _ => none

/-! ## Opening the bridge again -/

def bridgeOpen (s : Runtime) : Option Runtime :=
  match s.lock with
  | some _ => none
  | none => if s.daemonOpen then some s else some { s with daemonOpen := true, v5Started := false }

/-- `SETUP_V5` to `START_V5`.  `KernelBridge` runs them once, right after the open. -/
def bridgeStart (s : Runtime) (inflightCreditLimit : Nat) : Option Runtime :=
  match s.lock with
  | some _ => none
  | none =>
    if s.daemonOpen && !s.v5Started then
      some { s with
        v5Started := true
        inflightCreditLimit := max 1 inflightCreditLimit
        controlPage := some 0 }
    else none

end Runtime

inductive RequestStep
  | allocRequest (buf : List UInt8)
  | publish (r : Nat) (stored transportFull : Bool)
  | expire (r : Nat)
  | wake (r : Nat)
  | readOutcome (r : Nat)
  | unlink (r : Nat)
  | freeRequest (r : Nat)
  | cmdReply (id generation : Nat) (status : Int) (data : List UInt8)
  | completeReply (r : Nat)
  | failBegin (cause : FailCause)
  | failFill
  | failComplete
  | failEnd
  | bridgeOpen
  | bridgeStart (inflightCreditLimit : Nat)

def Runtime.step (s : Runtime) : RequestStep → Option Runtime
  | .allocRequest buf => s.allocRequest buf
  | .publish r stored transportFull => s.publish r stored transportFull
  | .expire r => s.expire r
  | .wake r => s.wake r
  | .readOutcome r => s.readOutcome r
  | .unlink r => s.unlink r
  | .freeRequest r => s.freeRequest r
  | .cmdReply id generation status data => s.cmdReply id generation status data
  | .completeReply r => s.completeReply r
  | .failBegin cause => s.failBegin cause
  | .failFill => s.failFill
  | .failComplete => s.failComplete
  | .failEnd => s.failEnd
  | .bridgeOpen => s.bridgeOpen
  | .bridgeStart limit => s.bridgeStart limit

end Sensorium.Kernel

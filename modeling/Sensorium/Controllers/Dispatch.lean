import Sensorium.Inventory.State
import Sensorium.Lib.Runs

/-!
# Requests that a controller answers

`_dispatch_controller` and `_dispatch_managed_controller`, the two ways a reply comes in, the
failure of a managed worker and the polling of events, over one table of pending requests.
Threads are interleaved between sections under the manager's lock and between accesses of a
pending record's fields: the records are filled under the lock of their condition and read without
any.
-/

namespace Sensorium.Controllers

open Lib Function
open Sensorium.Inventory (BackendId)

def ePipe : Int := -32
def eTimedOut : Int := -110
def eNoDev : Int := -19

/-! ## Pending records -/

/-- The fields of an event that the bookkeeping reads. -/
structure Event where
  requestId : Nat
  deviceId : Text
  deriving DecidableEq, Repr

/-- Where an event goes: the queue of an external backend, or the managed worker of a device. -/
inductive Route
  | backend (id : BackendId)
  | worker (deviceId : Text)
  deriving DecidableEq, Repr

abbrev Pair := Int × List UInt8

/-- `ControllerPending`; `held` is the lock of `cond`.  `route` and `replies` are history: where
the event went, and the replies that were accepted for it, each with the backend or worker it is
from. -/
structure Pending where
  event : Event
  status : Int
  data : List UInt8
  done : Bool
  held : Bool
  route : Route
  replies : List (Route × Pair)

/-- `ControllerPending(event)`. -/
def Pending.fresh (event : Event) (route : Route) : Pending :=
  ⟨event, eTimedOut, [], false, false, route, []⟩

/-! ## Threads -/

structure Reply where
  requestId : Nat
  status : Int
  data : List UInt8
  deriving DecidableEq, Repr

/-- A value that is being written, field by field, under the lock of `cond`. -/
inductive Stage
  | status
  | data
  | done
  deriving DecidableEq, Repr

def Stage.next : Stage → Option Stage
  | .status => some .data
  | .data => some .done
  | .done => none

/-- The first store waits for the lock of `cond`. -/
def Stage.blocked (p : Pending) : Stage → Bool
  | .status => p.held
  | .data | .done => false

/-- One store of a record's field; the last one releases the lock of `cond`. -/
def Pending.store (p : Pending) (pair : Pair) : Stage → Pending
  | .status => { p with status := pair.1, held := true }
  | .data => { p with data := pair.2 }
  | .done => { p with done := true, held := false }

/-- Where a thread is.  A dispatch has made the record `own` and waits on `o`, which is the record
that it found under its request id.  `fails` is inside `_fail_managed_pending_locked` with the ids
that are left, for a dispatch whose send failed or for a monitor; `failsOne` is at one record. -/
inductive Pc
  | idle
  | enter (event : Event) (route : Route)
  | lookup (own : Nat)
  | send (own o : Nat)
  | wait (own o : Nat)
  | pop (own o : Nat)
  | readDone (own o : Nat)
  | readStatus (own o : Nat)
  | readData (own o : Nat) (status : Int)
  | completing (source : Route) (reply : Reply)
  | writes (source : Route) (o : Nat) (pair : Pair) (stage : Stage)
  | fails (caller : Option Nat) (targets : List Nat)
  | failsOne (caller : Option Nat) (o : Nat) (stage : Stage) (targets : List Nat)
  deriving DecidableEq, Repr

/-- After its first section a dispatch goes on to the worker of its device, or waits. -/
def Pc.entered (o : Nat) : Route → Pc
  | .worker _ => lookup o
  | .backend _ => wait o o

/-- The record of the dispatch that is running, and the one of a dispatch that has not given up. -/
def Pc.own : Pc → Option Nat
  | lookup own | send own _ | wait own _ | pop own _ | readDone own _ | readStatus own _
  | readData own _ _ => some own
  | fails caller _ | failsOne caller _ _ _ => caller
  | _ => none

def Pc.awaits : Pc → Option Nat
  | lookup own | send own _ | wait own _ => some own
  | fails caller _ | failsOne caller _ _ _ => caller
  | _ => none

/-- The manager's lock is held between the steps of `_fail_managed_pending_locked`. -/
def Pc.locks : Pc → Bool
  | fails _ _ | failsOne _ _ _ _ => true
  | _ => false

/-! ## The system -/

/-- `heard` and `returns` are history.  `heard` has for every reply the record that it was
accepted for, with whether that record had been answered or given up before, and `none` for a
reply that was counted as late.  `returns` has the pairs that dispatches have returned, by the
record they waited on, and `none` for a dispatch that had nowhere to go. -/
structure System where
  objects : Nat → Pending
  made : Nat
  table : List (Nat × Nat)
  queues : BackendId → List Nat
  workers : Text → Bool
  late : Nat
  threads : List Pc
  heard : List (Option (Nat × Bool))
  returns : List (Option Nat × Pair)

namespace System

variable (s : System)

def locked : Bool := s.threads.any Pc.locks

def goto (t : Nat) (p : Pc) : System := { s with threads := s.threads.set t p }

def setObject (o : Nat) (p : Pending) : System := { s with objects := update s.objects o p }

def event (o : Nat) : Event := (s.objects o).event

/-- `pending_controller.pop(request_id, None)`. -/
def popEntry (requestId : Nat) : System :=
  { s with table := s.table.filter fun e => e.1 ≠ requestId }

/-- A dispatch returns. -/
def returned (t o : Nat) (pair : Pair) : System :=
  { s.goto t .idle with returns := s.returns ++ [(some o, pair)] }

/-- The event goes to the queue of its backend; for a managed worker there is none. -/
def enqueue (o : Nat) : Route → BackendId → List Nat
  | .worker _ => s.queues
  | .backend b => update s.queues b (s.queues b ++ [o])

/-- The first section: a new record in the table, and the event in the queue of the backend. -/
def register (t : Nat) (event : Event) (route : Route) : System :=
  let o := s.made
  { s with
    objects := update s.objects o (.fresh event route)
    made := o + 1
    table := dictSet s.table event.requestId o
    queues := s.enqueue o route
    threads := s.threads.set t (.entered o route) }

/-- The request ids of a device in the table. -/
def targets (deviceId : Text) : List Nat :=
  (s.table.filter fun e => (s.event e.2).deviceId = deviceId).map Prod.fst

/-- The dispatch that made a record has not given up. -/
def awaited (o : Nat) : Bool := s.threads.any fun p => p.awaits = some o

/-- `_late_reply`. -/
def lateReply : System := { s with late := s.late + 1, heard := s.heard ++ [none] }

/-- A reply has found the record `o` in the table. -/
def accept (source : Route) (o : Nat) (pair : Pair) : System :=
  let p := s.objects o
  { s.setObject o { p with replies := p.replies ++ [(source, pair)] } with
    heard := s.heard ++ [some (o, !p.replies.isEmpty || !s.awaited o)] }

def store (o : Nat) (pair : Pair) (stage : Stage) : System :=
  s.setObject o ((s.objects o).store pair stage)

/-- What follows `_fail_managed_pending_locked`: a dispatch whose send failed returns. -/
def afterFailure (t : Nat) : Option Nat → System
  | some own => s.returned t own (ePipe, [])
  | none => s.goto t .idle

end System

/-- The next step of thread `t`.  `choice` is whether a send raises, and whether the deadline of a
wait has passed. -/
def advance (s : System) (t : Nat) (choice : Bool) : Pc → Option System
  | .idle => none
  | .enter event route => if s.locked then none else some (s.register t event route)
  | .lookup own =>
    if s.locked then none
    else if !s.workers (s.event own).deviceId then some (s.returned t own (ePipe, []))
    else
      match dictGet s.table (s.event own).requestId with
      | none => some (s.goto t .idle)
      | some o => some (s.goto t (.send own o))
  | .send own o =>
    if !choice then some (s.goto t (.wait own o))
    else if s.locked then none
    else some (s.goto t (.fails (some own) (s.targets (s.event own).deviceId)))
  | .wait own o =>
    if !(s.objects o).held && ((s.objects o).done || choice) then some (s.goto t (.pop own o))
    else none
  | .pop own o =>
    if s.locked then none
    else some ((s.popEntry (s.event own).requestId).goto t (.readDone own o))
  | .readDone own o =>
    if (s.objects o).done then some (s.goto t (.readStatus own o))
    else some (s.returned t o (eTimedOut, []))
  | .readStatus own o => some (s.goto t (.readData own o (s.objects o).status))
  | .readData _ o status => some (s.returned t o (status, (s.objects o).data))
  | .completing source reply =>
    if s.locked then none
    else
      match dictGet s.table reply.requestId with
      | none => some (s.lateReply.goto t .idle)
      | some o =>
        let pair := (reply.status, reply.data)
        some ((s.accept source o pair).goto t (.writes source o pair .status))
  | .writes source o pair stage =>
    if stage.blocked (s.objects o) then none
    else
      match stage.next with
      | some next => some ((s.store o pair stage).goto t (.writes source o pair next))
      | none => some ((s.store o pair stage).goto t .idle)
  | .fails caller [] => some (s.afterFailure t caller)
  | .fails caller (id :: ids) =>
    match dictGet s.table id with
    | none => some (s.goto t (.fails caller ids))
    | some o => some ((s.popEntry id).goto t (.failsOne caller o .status ids))
  | .failsOne caller o stage ids =>
    if stage.blocked (s.objects o) then none
    else
      match stage.next with
      | some next => some ((s.store o (ePipe, []) stage).goto t (.failsOne caller o next ids))
      | none => some ((s.store o (ePipe, []) stage).goto t (.fails caller ids))

inductive Act
  | dispatch (t : Nat) (event : Event) (managed : Bool) (attached : Option BackendId)
  | reply (t : Nat) (source : Route) (reply : Reply)
  | workerExit (t : Nat) (deviceId : Text)
  | go (t : Nat) (choice : Bool)
  | poll (backend : BackendId)
  | launch (deviceId : Text)
  | stop (deviceIds : List Text)
  | clear

/-- The route that `_dispatch_controller` takes, from the fields of the device it reads. -/
def routeOf (event : Event) (managed : Bool) (attached : Option BackendId) : Option Route :=
  if managed then some (.worker event.deviceId)
  else (attached.filter BackendId.truthy).map .backend

def step (s : System) : Act → Option System
  | .dispatch t event managed attached =>
    match s.threads[t]? with
    | some .idle =>
      match routeOf event managed attached with
      | some route => some (s.goto t (.enter event route))
      | none => some { s with returns := s.returns ++ [(none, eNoDev, [])] }
    | _ => none
  | .reply t source reply =>
    match s.threads[t]? with
    | some .idle =>
      match source with
      | .worker _ => some (s.goto t (.completing source reply))
      | .backend _ =>
        if s.locked then none
        else if (dictGet s.table reply.requestId).isNone then some s.lateReply
        else some (s.goto t (.completing source reply))
    | _ => none
  | .workerExit t deviceId =>
    match s.threads[t]? with
    | some .idle =>
      if s.locked || !s.workers deviceId then none
      else some ({ s with workers := update s.workers deviceId false }.goto t
        (.fails none (s.targets deviceId)))
    | _ => none
  | .go t choice => (s.threads[t]?).bind (advance s t choice)
  | .poll backend => some { s with queues := update s.queues backend (s.queues backend).tail }
  | .launch deviceId =>
    if s.locked then none else some { s with workers := update s.workers deviceId true }
  -- one device when its worker is stopped; the workers a `_clear_state` got to before it raised
  | .stop deviceIds =>
    if s.locked then none
    else some { s with workers := fun d => s.workers d && !deviceIds.contains d }
  | .clear =>
    if s.locked then none
    else some { s with table := [], queues := fun _ => [], workers := fun _ => false }

/-- A daemon with `n` threads and nothing pending. -/
def start (n : Nat) : System where
  objects := fun _ => .fresh ⟨0, []⟩ (.worker [])
  made := 0
  table := []
  queues := fun _ => []
  workers := fun _ => false
  late := 0
  threads := List.replicate n .idle
  heard := []
  returns := []

end Sensorium.Controllers

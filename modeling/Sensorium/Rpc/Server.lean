import Sensorium.Lib.Lines
import Sensorium.Lib.Runs
import Sensorium.Rpc.Responses

/-!
# The RPC server

One thread runs the event loop: it accepts clients, reads and writes their sockets, and hands their
requests to a pool of workers, one request of a client at a time.  A worker dispatches its request,
gives up its slot, and puts the response into the completion queue.  `backend.next_event` is served
by the loop itself, at once where an event is there and later by a waiter.  Calls that outside code
answers (sockets, the selector, the dispatch function, the event source, the clock) take the answer
from the label of the step.  Each client also keeps a history of what it sent and got.
-/

namespace Sensorium.Rpc

open Lib
open Sensorium.Model (Value Entries)

/-! ## Configuration -/

/-- The arguments of the server, and the standard library functions it applies to client data:
`json.loads(line.decode("utf-8"))` with the text of what it raises, `float` of a string as a float
literal, and the length of a literal's duration, `none` for infinity. -/
structure Config where
  workers : Int := 8
  clients : Int := 32
  requestBytes : Int := 1024 * 1024
  pendingRequests : Int := 32
  pollsEvents : Bool
  loads : List UInt8 → Except Text Value
  strToFloat : Text → Option Text
  nanoseconds : Text → Option Nat

namespace Config

variable (cfg : Config)

def maxWorkers : Nat := max 1 cfg.workers.toNat
def maxClients : Nat := max 1 cfg.clients.toNat
def maxRequestBytes : Nat := max 256 cfg.requestBytes.toNat
def maxPendingRequests : Nat := max 1 cfg.pendingRequests.toNat

/-- `max(0.0, float(value))` in nanoseconds, with `none` inside for infinity; `none` where the
conversion raises. -/
def timeout : Value → Option (Option Nat)
  | .bool b => some (some (b.toNat * 10 ^ 9))
  | .int n => if 2 ^ 1024 - 2 ^ 970 ≤ n.natAbs then none else some (some (n.toNat * 10 ^ 9))
  | .float literal => some (cfg.nanoseconds literal)
  | .str s => (cfg.strToFloat s).map cfg.nanoseconds
  | .bytes bs => (cfg.strToFloat (bs.map UInt8.toNat)).map cfg.nanoseconds
  | .null | .list _ | .dict _ => none

/-- The entries of a `backend.next_event` request that the loop serves itself. -/
def nextEvent? : Value → Option Entries
  | .dict es =>
    match Model.get es "method" with
    | .str m => if m = text "backend.next_event" && cfg.pollsEvents then some es else none
    | _ => none
  | _ => none

end Config

/-! ## Clients -/

/-- `waiting_for_event`; the backend has been polled before. -/
structure Waiter where
  request : Entries
  backendId : Value
  polled : backendId.hashable = true
  deadline : Option Nat

def Waiter.expired (w : Waiter) (now : Nat) : Bool := w.deadline.any (· ≤ now)

/-- Why a client was closed. -/
inductive Reason
  | peer
  | size
  | pending
  | shutdown
deriving DecidableEq

structure Client where
  inbuf : List UInt8 := []
  outbuf : List UInt8 := []
  pendingRequests : List Value := []
  activeRequest : Bool := false
  waitingForEvent : Option Waiter := none
  closed : Bool := false
  -- the history
  received : List UInt8 := []
  accepted : List Value := []
  running : Option Value := none
  responses : List Response := []
  sent : List UInt8 := []
  closedFor : Option Reason := none

namespace Client

variable (client : Client)

def receive (chunk : List UInt8) : Client :=
  { client with inbuf := client.inbuf ++ chunk, received := client.received ++ chunk }

def close (reason : Reason) : Client :=
  { client with closed := true, closedFor := some reason }

/-- `_queue_response`; `none` where the encoder raises. -/
def queueResponse (r : Response) : Option Client :=
  if client.closed then some client
  else r.encode.map fun bytes =>
    { client with outbuf := client.outbuf ++ bytes, responses := client.responses ++ [r] }

def push (request : Value) : Client :=
  { client with
    pendingRequests := client.pendingRequests ++ [request]
    accepted := client.accepted ++ [request] }

end Client

/-- `line.strip()` is empty. -/
def isBlank (line : List UInt8) : Bool := line.all fun b => isAsciiSpace b.toNat

/-- How the loop over the lines of the input buffer ends. -/
inductive Taken
  | all (client : Client)
  | closing (client : Client) (reason : Reason)
  | raises

/-- The loop over the lines of `inbuf`, with the number of its newlines as fuel. -/
def takeLines (cfg : Config) : Nat → Client → Taken
  | 0, client => .all client
  | fuel + 1, client =>
    if newline ∈ client.inbuf then
      let line := firstLine newline client.inbuf
      let client := { client with inbuf := remainder newline client.inbuf }
      if isBlank line then takeLines cfg fuel client
      else if cfg.maxRequestBytes < line.length then .closing client .size
      else
        match cfg.loads line with
        | .error message =>
          match client.queueResponse (.parseError message) with
          | none => .raises
          | some client => takeLines cfg fuel client
        | .ok request =>
          if cfg.maxPendingRequests ≤ client.pendingRequests.length then .closing client .pending
          else takeLines cfg fuel (client.push request)
    else .all client

/-- `_begin_next_event_wait`: a response, or a waiter; `none` where it raises. -/
def beginNextEventWait (cfg : Config) (request : Entries) (event : Option Value) (now : Nat) :
    Option (Response ⊕ Waiter) :=
  match Model.getD request "params" (.dict []) with
  | .dict params =>
    let backendId := Model.get params "backend_id"
    match cfg.timeout (Model.getD params "timeout" (.float (text "30.0"))) with
    | none => none
    | some timeout =>
      if polled : backendId.hashable = true then
        match event with
        | some _ => some (.inl (.event request event))
        | none => some (.inr ⟨request, backendId, polled, timeout.map (now + ·)⟩)
      else none
  | _ => none

/-! ## The server -/

/-- A request in the executor, with the response once its slot is given up. -/
structure Job where
  client : Nat
  request : Value
  response : Option Response := none

/-- What the selector reports ready. -/
inductive Key
  | server
  | wake
  | client (c : Nat) (read write : Bool)
deriving DecidableEq

def Key.clientId? : Key → Option Nat
  | .client c _ _ => some c
  | .server | .wake => none

/-- Where the loop is: at its test, at a reported key, at the flush of a client, in
`_drain_completions`, at a client in `_service_event_waiters`, or left. -/
inductive Pc
  | top
  | events (key : Key) (keys : List Key)
  | flush (c : Nat) (keys : List Key)
  | drain
  | waiters (now c : Nat) (cs : List Nat)
  | raised
  | returned
deriving DecidableEq

namespace Pc

/-- The clients of the reported keys that are still to be serviced. -/
def unserved : Pc → List Nat
  | .events key keys => (key :: keys).filterMap Key.clientId?
  | .flush _ keys => keys.filterMap Key.clientId?
  | .top | .drain | .waiters _ _ _ | .raised | .returned => []

def ofKeys : List Key → Pc
  | [] => .drain
  | key :: keys => .events key keys

def ofWaiters (now : Nat) : List Nat → Pc
  | [] => .top
  | c :: cs => .waiters now c cs

def hasRaised : Pc → Bool
  | .raised => true
  | _ => false

def ended : Pc → Bool
  | .raised | .returned => true
  | _ => false

end Pc

/-- `dispatching` is the client whose queue `_dispatch_pending` works on before the loop goes on. -/
structure Server where
  clients : List Client := []
  activeClients : Nat := 0
  freeSlots : Nat
  jobs : List Job := []
  completions : List (Nat × Response) := []
  stop : Bool := false
  pc : Pc := .top
  dispatching : Option Nat := none

def Config.initial (cfg : Config) : Server := { freeSlots := cfg.maxWorkers }

inductive Accepted
  | failed
  | connected (sendFails : Bool)

/-- The outcome of `recv`; an empty chunk is the end of the stream. -/
inductive Received
  | blocking
  | failed
  | chunk (bytes : List UInt8)

inductive Sent
  | blocking
  | failed
  | wrote (n : Nat)

inductive Act
  | leave
  | select (keys : List Key)
  | accept (outcome : Accepted)
  | drainWake
  | recv (outcome : Received)
  | send (outcome : Sent)
  | dispatch (event : Option Value) (now : Nat)
  | drain (now : Nat)
  | poll (event : Option Value)
  | finish (job : Nat) (outcome : Except Text Value)
  | complete (job : Nat)
  | modifyFails (c : Nat)
  | shutdown
  | serverClose

namespace Server

variable (cfg : Config) (s : Server)

def setClient (c : Nat) (client : Client) : Server := { s with clients := s.clients.set c client }

/-- An exception leaves `serve_forever`. -/
def raise : Server := { s with pc := .raised, dispatching := none }

def isOpen (c : Nat) : Bool := s.clients[c]?.any fun client => !client.closed

/-- The registered clients. -/
def openClients : List Nat := (List.range s.clients.length).filter s.isOpen

/-- `_close_client`. -/
def closeClient (c : Nat) (client : Client) (reason : Reason) : Server :=
  if client.closed then s
  else { s.setClient c (client.close reason) with activeClients := s.activeClients - 1 }

/-- The selector reports registered sockets, each at most once. -/
def ready (keys : List Key) : Bool :=
  (keys.filterMap Key.clientId?).all s.isOpen && decide (keys.filterMap Key.clientId?).Nodup

def acceptClient (outcome : Accepted) (next : Pc) : Server :=
  match outcome with
  | .failed => { s with pc := next }
  | .connected sendFails =>
    if cfg.maxClients ≤ s.activeClients then
      if sendFails then s.raise else { s with pc := next }
    else { s with clients := s.clients ++ [{}], activeClients := s.activeClients + 1, pc := next }

/-- The reading half of `_service_client`. -/
def readClient (c : Nat) (client : Client) (outcome : Received) (next after : Pc) : Server :=
  match outcome with
  | .blocking => { s with pc := after }
  | .failed | .chunk [] => { s.closeClient c client .peer with pc := next }
  | .chunk bytes =>
    let client := client.receive bytes
    if newline ∉ client.inbuf ∧ cfg.maxRequestBytes < client.inbuf.length then
      { s.closeClient c client .size with pc := next }
    else
      match takeLines cfg (client.inbuf.count newline) client with
      | .all client => { s.setClient c client with pc := after, dispatching := some c }
      | .closing client reason => { s.closeClient c client reason with pc := next }
      | .raises => s.raise

def serviceClient (c : Nat) (read write : Bool) (client : Client) (outcome : Received)
    (keys : List Key) : Server :=
  let after := if write then Pc.flush c keys else Pc.ofKeys keys
  if client.closed then s.raise -- `get_key` of a closed socket
  else if read then readClient cfg s c client outcome (Pc.ofKeys keys) after
  else { s with pc := after }

def flushWrites (c : Nat) (client : Client) (outcome : Sent) (next : Pc) : Server :=
  if client.closed || client.outbuf.isEmpty then { s with pc := next }
  else
    match outcome with
    | .blocking => { s with pc := next }
    | .failed => { s.closeClient c client .peer with pc := next }
    | .wrote n =>
      { s.setClient c { client with
          outbuf := client.outbuf.drop n
          sent := client.sent ++ client.outbuf.take n } with pc := next }

/-- One round of the loop of `_dispatch_pending`, or its end. -/
def dispatchPending (c : Nat) (client : Client) (event : Option Value) (now : Nat) : Server :=
  if client.closed || client.activeRequest || client.waitingForEvent.isSome then
    { s with dispatching := none }
  else
    match client.pendingRequests with
    | [] => { s with dispatching := none }
    | request :: rest =>
      let client := { client with pendingRequests := rest }
      match cfg.nextEvent? request with
      | some es =>
        match beginNextEventWait cfg es event now with
        | none => (s.setClient c client).raise
        | some (.inl r) =>
          match client.queueResponse r with
          | none => (s.setClient c client).raise
          | some client => { s.setClient c client with dispatching := none }
        | some (.inr w) =>
          { s.setClient c { client with waitingForEvent := some w } with dispatching := none }
      | none =>
        if s.freeSlots = 0 then
          match client.queueResponse .busy with
          | none => (s.setClient c client).raise
          | some client => s.setClient c client
        else
          { s.setClient c { client with activeRequest := true, running := some request } with
            freeSlots := s.freeSlots - 1
            jobs := s.jobs ++ [⟨c, request, none⟩] }

/-- One round of `_drain_completions`. -/
def drainCompletions (now : Nat) : Server :=
  match s.completions with
  | [] => { s with pc := Pc.ofWaiters now s.openClients }
  | (c, r) :: rest =>
    let s := { s with completions := rest }
    match s.clients[c]? with
    | none => s
    | some client =>
      if client.closed then s
      else
        let client := { client with activeRequest := false, running := none }
        match client.queueResponse r with
        | none => (s.setClient c client).raise
        | some client => { s.setClient c client with dispatching := some c }

/-- One round of `_service_event_waiters`. -/
def serviceWaiter (now c : Nat) (client : Client) (event : Option Value) (next : Pc) : Server :=
  if client.closed then { s with pc := next }
  else
    match client.waitingForEvent with
    | none => { s with pc := next }
    | some w =>
      if event.isSome || w.expired now then
        let client := { client with waitingForEvent := none }
        match client.queueResponse (.event w.request event) with
        | none => (s.setClient c client).raise
        | some client => { s.setClient c client with pc := next, dispatching := some c }
      else { s with pc := next }

/-- A worker: the dispatch of its request has returned or raised, and the slot is free again. -/
def finishJob (j : Nat) (outcome : Except Text Value) : Option Server :=
  match s.jobs[j]? with
  | some ⟨c, request, none⟩ =>
    some { s with
      jobs := s.jobs.set j ⟨c, request, some (.ran request outcome)⟩
      freeSlots := s.freeSlots + 1 }
  | _ => none

/-- The end of `_run_request`. -/
def completeJob (j : Nat) : Option Server :=
  match s.jobs[j]? with
  | some ⟨c, _, some r⟩ =>
    some { s with jobs := s.jobs.eraseIdx j, completions := s.completions ++ [(c, r)] }
  | _ => none

/-- In `_update_interest` of a client the selector raises, and the client is closed.  The loop is at
the client then, so that its key is not among those to come. -/
def modifyFails (c : Nat) : Option Server :=
  match s.clients[c]? with
  | none => none
  | some client =>
    if !s.pc.ended && !client.closed && decide (c ∉ s.pc.unserved) then
      some (s.closeClient c client .peer)
    else none

def closeAll : Server :=
  s.openClients.foldl
    (fun s c =>
      match s.clients[c]? with
      | none => s
      | some client => s.closeClient c client .shutdown)
    s

/-- The next statement of `serve_forever`. -/
def loop : Pc → Act → Option Server
  | .top, .leave => if s.stop then some { s with pc := .returned } else none
  | .top, .select keys =>
    if !s.stop && s.ready keys then some { s with pc := Pc.ofKeys keys } else none
  | .events .server keys, .accept outcome => some (acceptClient cfg s outcome (Pc.ofKeys keys))
  | .events .wake keys, .drainWake => some { s with pc := Pc.ofKeys keys }
  | .events (.client c read write) keys, .recv outcome =>
    s.clients[c]?.map fun client => serviceClient cfg s c read write client outcome keys
  | .flush c keys, .send outcome =>
    s.clients[c]?.map fun client => s.flushWrites c client outcome (Pc.ofKeys keys)
  | .drain, .drain now => some (s.drainCompletions now)
  | .waiters now c cs, .poll event =>
    s.clients[c]?.map fun client => s.serviceWaiter now c client event (Pc.ofWaiters now cs)
  | _, _ => none

end Server

def step (cfg : Config) (s : Server) : Act → Option Server
  | .finish j outcome => s.finishJob j outcome
  | .complete j => s.completeJob j
  | .modifyFails c => s.modifyFails c
  | .shutdown => some { s with stop := true }
  | .serverClose => if s.pc.ended then some { s.closeAll with stop := true } else none
  | act =>
    match s.dispatching, act with
    | some c, .dispatch event now =>
      s.clients[c]?.map fun client => Server.dispatchPending cfg s c client event now
    | none, act => Server.loop cfg s s.pc act
    | some _, _ => none

/-! ## A small server -/

def ascii (s : String) : List UInt8 := (text s).map UInt8.ofNat

/-- The text of a request without parameters. -/
def call (method : String) : List UInt8 :=
  ascii "\x7b\"method\": \"" ++ ascii method ++ ascii "\"\x7d"

def statusRequest : Value := .dict [(.lit "method", .lit "status")]

def stopRequest : Value := .dict [(.lit "method", .lit "daemon.stop")]

def nextEventRequest : Value := .dict [(.lit "method", .lit "backend.next_event")]

def badEventRequest : Value :=
  .dict [(.lit "method", .lit "backend.next_event"), (.lit "params", .list [])]

/-- One worker and two clients that send these requests or lines that are no JSON. -/
def Config.small : Config where
  workers := 1
  clients := 2
  pollsEvents := true
  loads := fun line =>
    if line = call "status" then .ok statusRequest
    else if line = call "daemon.stop" then .ok stopRequest
    else if line = call "backend.next_event" then .ok nextEventRequest
    else if line = ascii "\x7b\"method\": \"backend.next_event\", \"params\": []\x7d" then
      .ok badEventRequest
    else .error (text "Expecting value: line 1 column 1 (char 0)")
  strToFloat := fun _ => none
  nanoseconds := fun _ => some (30 * 10 ^ 9)

/-- A client connects. -/
def connecting : List Act :=
  [.select [.server], .accept (.connected false), .drain 0, .poll none]

/-- A client sends a chunk, and the loop reads it. -/
def sending (c : Nat) (chunk : List UInt8) : List Act :=
  [.select [.client c true false], .recv (.chunk chunk)]

end Sensorium.Rpc

import Sensorium.Lib.Loops
import Sensorium.Rpc.Responses
import Sensorium.Workers.WorkerProtocol

/-!
# The two controller sessions

A controller asks its session for the next event.  `ControllerSession` asks the daemon with
`backend.next_event`, which waits for the queue of the backend and answers `null` at the deadline.
`ManagedControllerSession` reads the socket of its worker.  A history of events and a shutdown gives
each of them its state; a program of calls, with the time between them, gives a run.
-/

namespace Sensorium.Workers

open Lib
open Sensorium.Model (Value Entries lookup)

/-! ## Events -/

structure RuntimeEvent where
  requestId : Int
  transport : Value
  deviceId : Value
  busId : Value
  backendId : Value
  op : Value
  payload : Entries

def remove (es : Entries) (key : String) : Entries :=
  es.filter fun e => match e.1 with
    | .str s => s ≠ text key
    | _ => true

/-- `payload.pop(key)`. -/
def popKey (es : Entries) (key : String) : Except Raised (Value × Entries) :=
  match lookup es (text key) with
  | some v => .ok (v, remove es key)
  | none => .error (.keyError key)

/-- `payload.pop(key, None)`. -/
def popOptional (es : Entries) (key : String) : Value × Entries :=
  (Model.get es key, remove es key)

/-- `RuntimeEvent.from_dict`. -/
def fromDict (lib : Library) (event : Value) : Except Raised (Option RuntimeEvent) :=
  if event.truthy = false then .ok none
  else
    match event with
    | .dict payload => do
      let (id, payload) ← popKey payload "request_id"
      let requestId ← (lib.int id).elim (.error .valueError) .ok
      let (transport, payload) ← popKey payload "transport"
      let (deviceId, payload) ← popKey payload "device_id"
      let (busId, payload) ← popKey payload "bus_id"
      let (backendId, payload) := popOptional payload "backend_id"
      let (op, payload) := popOptional payload "op"
      .ok (some ⟨requestId, transport, deviceId, busId, backendId, op, payload⟩)
    | _ => .error .typeError

/-- An event of the daemon: `from_dict` reads it. -/
structure Event (lib : Library) where
  value : Value
  runtime : RuntimeEvent
  decoded : fromDict lib value = .ok (some runtime)

abbrev Result := Except Raised (Option RuntimeEvent)

/-! ## `ManagedControllerSession` -/

def eventMessage (event : Value) : Value :=
  .dict [(.lit "type", .lit "event"), (.lit "event", event)]

def shutdownMessage : Value := .dict [(.lit "type", .lit "shutdown")]

def isType (message : Entries) (type : String) : Bool :=
  match Model.get message "type" with
  | .str s => s = text type
  | _ => false

/-- A pass of the loop of `next_event`; messages of other types are passed over. -/
def managedPass (lib : Library) (timeout : Nat) (sock : Sock) : Sock ⊕ (Result × Sock) :=
  match recvWorkerMessage lib timeout sock with
  | (.error raised, sock) => .inr (.error raised, sock)
  | (.ok none, sock) => .inr (.ok none, sock)
  | (.ok (some (.dict message)), sock) =>
    if isType message "event" then .inr (fromDict lib (Model.get message "event"), sock)
    else if isType message "shutdown" then .inr (.ok none, sock)
    else .inl sock
  | (.ok (some _), sock) => .inr (.error .attributeError, sock)

/-- `ManagedControllerSession.next_event`. -/
def managedNextEvent (lib : Library) (timeout : Nat) (sock : Sock) : Option (Result × Sock) :=
  loop (managedPass lib timeout) ((bytesOf sock.segments).length + 1) sock

/-! ## `ControllerSession` -/

/-- The queue of a backend in the daemon: the events that have come and will come. -/
structure Queue where
  now : Nat
  events : List (Nat × Value)

/-- `poll_next_event`. -/
def Queue.poll (queue : Queue) : Option (Value × Queue) :=
  match queue.events with
  | (arrival, event) :: events =>
    if arrival ≤ queue.now then some (event, { queue with events := events }) else none
  | [] => none

/-- `_service_event_waiters` for one waiter, at every instant up to its deadline. -/
def serviceWaiter : Nat → Queue → Option Value × Queue
  | 0, queue => queue.poll.elim (none, queue) fun found => (some found.1, found.2)
  | left + 1, queue =>
    queue.poll.elim (serviceWaiter left { queue with now := queue.now + 1 }) fun found =>
      (some found.1, found.2)

/-- `_begin_next_event_wait` and what follows it. -/
def nextEventWait (timeout : Nat) (queue : Queue) : Option Value × Queue :=
  queue.poll.elim (serviceWaiter timeout queue) fun found => (some found.1, found.2)

/-- `rpc_call` on the response. -/
def callResult : Value → Except Raised Value
  | .dict message =>
    if Model.has message "error" then .error .runtimeError else .ok (Model.get message "result")
  | _ => .error .typeError

/-- `SensoriumRuntimeClient.next_event` on the response. -/
def readEvent (lib : Library) (response : Value) : Result := do
  match ← callResult response with
  | .dict result => fromDict lib (Model.get result "event")
  | _ => .error .attributeError

def nextEventRequest (backendId : Value) (timeout : Nat) : Entries :=
  [(.lit "jsonrpc", .lit "2.0"), (.lit "id", .int 1), (.lit "method", .lit "backend.next_event"),
    (.lit "params", .dict [(.lit "backend_id", backendId), (.lit "timeout", .int timeout)])]

/-- `ControllerSession.next_event`. -/
def controllerNextEvent (lib : Library) (backendId : Value) (timeout : Nat) (queue : Queue) :
    Result × Queue :=
  let (found, queue) := nextEventWait timeout queue
  (readEvent lib (Rpc.eventResponse (nextEventRequest backendId timeout) found), queue)

/-! ## Histories and runs -/

/-- A message on its way to the worker, in the pieces in which its bytes become readable. -/
structure Delivery (lib : Library) (message : Value) where
  arrival : Nat
  pieces : List (List UInt8)
  pieces_ne : ∀ piece ∈ pieces, piece ≠ []
  sent : sendWorkerMessage lib message = some pieces.flatten

def Delivery.segments {lib : Library} {message : Value} (d : Delivery lib message) :
    List Segment :=
  d.pieces.attach.map fun piece => ⟨d.arrival, piece.1, d.pieces_ne piece.1 piece.2⟩

structure EventDelivery (lib : Library) where
  event : Event lib
  delivery : Delivery lib (eventMessage event.value)

/-- Events, and at last the shutdown of the worker, after which the daemon closes the socket. -/
structure History (lib : Library) where
  events : List (EventDelivery lib)
  shutdown : Option (Delivery lib shutdownMessage)

namespace History

variable {lib : Library} (history : History lib)

def sockAt (now : Nat) : Sock where
  now := now
  segments := history.events.flatMap (fun e => e.delivery.segments) ++
    history.shutdown.elim [] Delivery.segments
  closedAt := history.shutdown.map Delivery.arrival

def queueAt (now : Nat) : Queue where
  now := now
  events := history.events.map fun e => (e.delivery.arrival, e.event.value)

/-- What the worker is sent. -/
def messages : List Value :=
  history.events.map (fun e => eventMessage e.event.value) ++ [shutdownMessage]

end History

/-- A call of `next_event` after a pause. -/
structure Call where
  pause : Nat
  timeout : Nat

def managedRun (lib : Library) : List Call → Sock → Option (List Result)
  | [], _ => some []
  | call :: calls, sock =>
    (managedNextEvent lib call.timeout { sock with now := sock.now + call.pause }).bind fun r =>
      (managedRun lib calls r.2).map fun results => r.1 :: results

def controllerRun (lib : Library) (backendId : Value) : List Call → Queue → List Result
  | [], _ => []
  | call :: calls, queue =>
    let r := controllerNextEvent lib backendId call.timeout
      { queue with now := queue.now + call.pause }
    r.1 :: controllerRun lib backendId calls r.2

/-- No call waits longer than its timeout for the next event, or for the shutdown after them. -/
def Timely {lib : Library} : History lib → Nat → List Call → Prop
  | _, _, [] => True
  | ⟨[], shutdown⟩, now, call :: _ =>
    ∃ d ∈ shutdown, d.arrival ≤ now + call.pause + call.timeout
  | ⟨e :: events, shutdown⟩, now, call :: calls =>
    e.delivery.arrival ≤ now + call.pause + call.timeout ∧
      Timely ⟨events, shutdown⟩ (max (now + call.pause) e.delivery.arrival) calls

/-- The same results, and none of them an exception. -/
def Interchangeable (managed : Option (List Result)) (controller : List Result) : Prop :=
  managed = some controller ∧ ∀ result ∈ controller, ∃ event, result = .ok event

/-! ## One call of `ControllerSession` -/

variable {lib : Library} {timeout now : Nat}

theorem readEvent_eventResponse (request : Entries) (found : Option Value) :
    readEvent lib (Rpc.eventResponse request found) = fromDict lib (found.getD .null) := by
  rfl

theorem poll_here {arrival : Nat} {event : Value} {events : List (Nat × Value)}
    (h : arrival ≤ now) :
    Queue.poll ⟨now, (arrival, event) :: events⟩ = some (event, ⟨now, events⟩) :=
  if_pos h

theorem poll_later {arrival : Nat} {event : Value} {events : List (Nat × Value)}
    (h : now < arrival) : Queue.poll ⟨now, (arrival, event) :: events⟩ = none :=
  if_neg (Nat.not_le_of_lt h)

theorem serviceWaiter_event {left arrival : Nat} {event : Value} {events : List (Nat × Value)}
    (htime : arrival ≤ now + left) :
    serviceWaiter left ⟨now, (arrival, event) :: events⟩ =
      (some event, ⟨max now arrival, events⟩) := by
  induction left generalizing now with
  | zero =>
    have hhere : arrival ≤ now := htime
    rw [serviceWaiter, poll_here hhere, Option.elim_some, Nat.max_eq_left hhere]
  | succ left ih =>
    rcases Nat.lt_or_ge now arrival with hlater | hhere
    · have hmax : max (now + 1) arrival = max now arrival := by omega
      rw [serviceWaiter, poll_later hlater, Option.elim_none]
      show serviceWaiter left ⟨now + 1, (arrival, event) :: events⟩ = _
      rw [ih (by omega), hmax]
    · rw [serviceWaiter, poll_here hhere, Option.elim_some, Nat.max_eq_left hhere]

/-- Nothing comes within the timeout. -/
def Queue.Idle (queue : Queue) (timeout : Nat) : Prop :=
  ∀ e ∈ queue.events.head?, queue.now + timeout < e.1

theorem Queue.Idle.poll {queue : Queue} (h : queue.Idle timeout) : queue.poll = none := by
  obtain ⟨now, events⟩ := queue
  cases events with
  | nil => rfl
  | cons e events =>
    have hlater : now + timeout < e.1 := h e rfl
    exact poll_later (by omega)

theorem serviceWaiter_idle {left : Nat} {queue : Queue} (h : queue.Idle left) :
    serviceWaiter left queue = (none, { queue with now := queue.now + left }) := by
  induction left generalizing queue with
  | zero =>
    rw [serviceWaiter, h.poll]
    rfl
  | succ left ih =>
    have hlater : Queue.Idle { queue with now := queue.now + 1 } left := by
      intro e he
      have hcomes := h e he
      show queue.now + 1 + left < e.1
      omega
    have hnow : queue.now + 1 + left = queue.now + (left + 1) := by omega
    rw [serviceWaiter, h.poll, Option.elim_none, ih hlater, hnow]

/-- The next event, if it comes in time. -/
theorem controllerNextEvent_event {arrival : Nat} {event : Value} {events : List (Nat × Value)}
    (backendId : Value) (htime : arrival ≤ now + timeout) :
    controllerNextEvent lib backendId timeout ⟨now, (arrival, event) :: events⟩ =
      (fromDict lib event, ⟨max now arrival, events⟩) := by
  have hwait : nextEventWait timeout ⟨now, (arrival, event) :: events⟩ =
      (some event, ⟨max now arrival, events⟩) := by
    rcases Nat.lt_or_ge now arrival with hlater | hhere
    · rw [nextEventWait, poll_later hlater]
      exact serviceWaiter_event htime
    · rw [nextEventWait, poll_here hhere, Option.elim_some, Nat.max_eq_left hhere]
  rw [controllerNextEvent, hwait]
  rfl

/-- `None` if none comes. -/
theorem controllerNextEvent_idle {queue : Queue} (backendId : Value) (h : queue.Idle timeout) :
    controllerNextEvent lib backendId timeout queue =
      (.ok none, { queue with now := queue.now + timeout }) := by
  have hwait : nextEventWait timeout queue = (none, { queue with now := queue.now + timeout }) := by
    rw [nextEventWait, h.poll]
    exact serviceWaiter_idle h
  rw [controllerNextEvent, hwait]
  rfl

/-! ## One call of `ManagedControllerSession` -/

theorem of_managedPass_inl {before after : Sock}
    (h : managedPass lib timeout before = .inl after) :
    ∃ message, recvWorkerMessage lib timeout before = (.ok (some message), after) := by
  unfold managedPass at h
  split at h
  · cases h
  · cases h
  · rename_i message sock hmessage
    split_ifs at h
    cases h
    exact ⟨_, hmessage⟩
  · cases h

/-- The loop ends: every message that it passes over has been taken from the socket. -/
theorem managedNextEvent_total (lib : Library) (timeout : Nat) (sock : Sock) :
    ∃ r, managedNextEvent lib timeout sock = some r := by
  have htotal : ∃ r, managedNextEvent lib timeout sock = some r ∧ True := by
    refine loop_spec (fun _ => True) (fun sock => (bytesOf sock.segments).length) trivial ?_
      (fun _ _ _ _ => trivial) (Nat.lt_add_one _)
    intro before after _ hpass
    obtain ⟨message, hmessage⟩ := of_managedPass_inl hpass
    have hbytes := recvWorkerMessage_bytes hmessage
    exact ⟨trivial, by omega⟩
  obtain ⟨r, hr, -⟩ := htotal
  exact ⟨r, hr⟩

theorem managedNextEvent_of_pass {sock : Sock} {r : Result × Sock}
    (h : managedPass lib timeout sock = .inr r) : managedNextEvent lib timeout sock = some r := by
  rw [managedNextEvent, loop, h]
  rfl

theorem bytesOf_segments {message : Value} (d : Delivery lib message) :
    bytesOf d.segments = d.pieces.flatten := by
  rw [bytesOf, Delivery.segments, List.flatMap_map]
  show d.pieces.attach.flatMap (fun piece => piece.1) = _
  rw [← List.flatMap_id, ← List.attach_map_subtype_val d.pieces, List.flatMap_map]
  simp

theorem arrived_segments {message : Value} (d : Delivery lib message) :
    Arrived d.arrival d.segments := by
  intro seg hseg
  obtain ⟨piece, -, rfl⟩ := List.mem_map.mp hseg
  rfl

variable {rest : List Segment} {closedAt : Option Nat}

/-- A message that comes in time is received whole. -/
theorem recvWorkerMessage_delivery {message : Value} (hlib : lib.RoundTrips message)
    (d : Delivery lib message) (htime : d.arrival ≤ now + timeout) :
    recvWorkerMessage lib timeout ⟨now, d.segments ++ rest, closedAt⟩ =
      (.ok (some message), ⟨max now d.arrival, rest, closedAt⟩) :=
  recvWorkerMessage_frame hlib d.sent (bytesOf_segments d) (arrived_segments d) htime

theorem managedNextEvent_event (e : EventDelivery lib)
    (hlib : lib.RoundTrips (eventMessage e.event.value))
    (htime : e.delivery.arrival ≤ now + timeout) :
    managedNextEvent lib timeout ⟨now, e.delivery.segments ++ rest, closedAt⟩ =
      some (.ok (some e.event.runtime), ⟨max now e.delivery.arrival, rest, closedAt⟩) := by
  apply managedNextEvent_of_pass
  rw [managedPass, recvWorkerMessage_delivery hlib e.delivery htime]
  show (Sum.inr (fromDict lib e.event.value, _) : Sock ⊕ (Result × Sock)) = _
  rw [e.event.decoded]

theorem managedNextEvent_shutdown (d : Delivery lib shutdownMessage)
    (hlib : lib.RoundTrips shutdownMessage) (htime : d.arrival ≤ now + timeout) :
    managedNextEvent lib timeout ⟨now, d.segments ++ rest, closedAt⟩ =
      some (.ok none, ⟨max now d.arrival, rest, closedAt⟩) := by
  apply managedNextEvent_of_pass
  rw [managedPass, recvWorkerMessage_delivery hlib d htime]
  rfl

/-- After the shutdown the socket is closed. -/
theorem managedNextEvent_closed {closed : Nat} (h : closed ≤ now) :
    managedNextEvent lib timeout ⟨now, [], some closed⟩ =
      some (.ok none, ⟨now, [], some closed⟩) := by
  have hrecv : Sock.recv ⟨now, [], some closed⟩ timeout 4 = (.ok [], ⟨now, [], some closed⟩) := by
    show (if closed ≤ now + timeout then _ else _) = _
    rw [if_pos (by omega), Nat.max_eq_left h]
  apply managedNextEvent_of_pass
  rw [managedPass, recvWorkerMessage_closed hrecv]

/-- Nothing is readable within the timeout. -/
theorem managedNextEvent_silent {sock sock' : Sock}
    (h : sock.recv timeout 4 = (.error (silence timeout), sock')) :
    managedNextEvent lib timeout sock = some (.error (silence timeout), sock') := by
  apply managedNextEvent_of_pass
  rw [managedPass, recvWorkerMessage_silent h]

theorem segments_ne_nil {message : Value} (d : Delivery lib message) : d.segments ≠ [] := by
  intro hnil
  have hbytes := bytesOf_segments d
  obtain ⟨encoded, -, hframe⟩ := Option.bind_eq_some_iff.mp d.sent
  split at hframe
  · cases hframe
  · rw [hnil, ← Option.some_inj.mp hframe] at hbytes
    have hlength := congrArg List.length hbytes
    rw [List.length_append, length_leBytes, bytesOf, List.flatMap_nil, List.length_nil] at hlength
    omega

/-- The gap before a message is longer than the timeout. -/
theorem recv_late {message : Value} (d : Delivery lib message) {size : Nat}
    (hlate : now + timeout < d.arrival) :
    Sock.recv ⟨now, d.segments ++ rest, closedAt⟩ timeout size =
      (.error (silence timeout), ⟨now + timeout, d.segments ++ rest, closedAt⟩) := by
  obtain ⟨seg, segments, hsegments⟩ := List.exists_cons_of_ne_nil (segments_ne_nil d)
  have harrival : seg.arrival = d.arrival :=
    arrived_segments d seg (hsegments ▸ List.mem_cons_self)
  rw [hsegments]
  exact if_neg (by rw [harrival]; exact Nat.not_le_of_lt hlate)

/-! ## Runs -/

theorem interchangeable_cons {managed : Option (List Result)} {results : List Result}
    {result : Result} {event : Option RuntimeEvent} (hresult : result = .ok event) :
    Interchangeable (managed.map fun results => result :: results) (result :: results) ↔
      Interchangeable managed results := by
  unfold Interchangeable
  rw [List.forall_mem_cons, Option.map_eq_some_iff]
  constructor
  · rintro ⟨⟨results', hmanaged, heq⟩, -, hok⟩
    rw [hmanaged, (List.cons.inj heq).2]
    exact ⟨rfl, hok⟩
  · rintro ⟨hmanaged, hok⟩
    exact ⟨⟨results, hmanaged, rfl⟩, ⟨event, hresult⟩, hok⟩

theorem not_interchangeable_of_raised {managed : Option (List Result)} {results : List Result}
    {result : Result} {raised : Raised} :
    ¬ Interchangeable (managed.map fun results => .error raised :: results)
      (result :: results) := by
  rintro ⟨hsame, hok⟩
  obtain ⟨results', -, heq⟩ := Option.map_eq_some_iff.mp hsame
  obtain ⟨event, hevent⟩ := hok result List.mem_cons_self
  rw [← (List.cons.inj heq).1] at hevent
  cases hevent

theorem managedRun_cons {call : Call} (calls : List Call) {sock sock' : Sock} {result : Result}
    (h : managedNextEvent lib call.timeout { sock with now := sock.now + call.pause } =
      some (result, sock')) :
    managedRun lib (call :: calls) sock =
      (managedRun lib calls sock').map fun results => result :: results := by
  rw [managedRun, h, Option.bind_some]

theorem controllerRun_cons {call : Call} (calls : List Call) {queue queue' : Queue}
    {backendId : Value} {result : Result}
    (h : controllerNextEvent lib backendId call.timeout
      { queue with now := queue.now + call.pause } = (result, queue')) :
    controllerRun lib backendId (call :: calls) queue =
      result :: controllerRun lib backendId calls queue' := by
  rw [controllerRun, h]

/-- Both sessions return `None` for ever after a shutdown. -/
theorem interchangeable_closed (backendId : Value) {closed now' : Nat} (calls : List Call)
    (h : closed ≤ now) :
    Interchangeable (managedRun lib calls ⟨now, [], some closed⟩)
      (controllerRun lib backendId calls ⟨now', []⟩) := by
  induction calls generalizing now now' with
  | nil => exact ⟨rfl, fun result hmem => absurd hmem List.not_mem_nil⟩
  | cons call calls ih =>
    have hidle : Queue.Idle ⟨now' + call.pause, []⟩ call.timeout := fun e he => by cases he
    have hlater : closed ≤ now + call.pause := by omega
    rw [managedRun_cons calls (managedNextEvent_closed hlater),
      controllerRun_cons calls (controllerNextEvent_idle backendId hidle)]
    exact (interchangeable_cons rfl).mpr (ih hlater)

theorem sockAt_cons (e : EventDelivery lib) (events : List (EventDelivery lib))
    (shutdown : Option (Delivery lib shutdownMessage)) (now : Nat) :
    History.sockAt ⟨e :: events, shutdown⟩ now =
      ⟨now, e.delivery.segments ++ (History.sockAt ⟨events, shutdown⟩ now).segments,
        shutdown.map Delivery.arrival⟩ := by
  unfold History.sockAt
  rw [List.flatMap_cons, List.append_assoc]

theorem sockAt_shutdown (d : Delivery lib shutdownMessage) (now : Nat) :
    History.sockAt ⟨[], some d⟩ now = ⟨now, d.segments ++ [], some d.arrival⟩ := by
  unfold History.sockAt
  rw [List.flatMap_nil, List.nil_append, List.append_nil]
  rfl

section Histories

variable {call : Call} {events : List (EventDelivery lib)}
  {shutdown : Option (Delivery lib shutdownMessage)} (calls : List Call)

theorem managedRun_event {e : EventDelivery lib}
    (hlib : lib.RoundTrips (eventMessage e.event.value))
    (htime : e.delivery.arrival ≤ now + call.pause + call.timeout) :
    managedRun lib (call :: calls) (History.sockAt ⟨e :: events, shutdown⟩ now) =
      (managedRun lib calls (History.sockAt ⟨events, shutdown⟩
        (max (now + call.pause) e.delivery.arrival))).map
          fun results => .ok (some e.event.runtime) :: results := by
  rw [sockAt_cons]
  exact managedRun_cons calls (managedNextEvent_event e hlib htime)

theorem controllerRun_event (backendId : Value) {e : EventDelivery lib}
    (htime : e.delivery.arrival ≤ now + call.pause + call.timeout) :
    controllerRun lib backendId (call :: calls) (History.queueAt ⟨e :: events, shutdown⟩ now) =
      .ok (some e.event.runtime) :: controllerRun lib backendId calls
        (History.queueAt ⟨events, shutdown⟩ (max (now + call.pause) e.delivery.arrival)) :=
  controllerRun_cons calls (e.event.decoded ▸ controllerNextEvent_event backendId htime)

theorem controllerRun_over (backendId : Value) :
    controllerRun lib backendId (call :: calls) (History.queueAt ⟨[], shutdown⟩ now) =
      .ok none :: controllerRun lib backendId calls ⟨now + call.pause + call.timeout, []⟩ := by
  have hidle : Queue.Idle ⟨now + call.pause, []⟩ call.timeout := fun e he => by cases he
  exact controllerRun_cons calls (controllerNextEvent_idle backendId hidle)

theorem managedRun_shutdown {d : Delivery lib shutdownMessage}
    (hlib : lib.RoundTrips shutdownMessage)
    (htime : d.arrival ≤ now + call.pause + call.timeout) :
    managedRun lib (call :: calls) (History.sockAt ⟨[], some d⟩ now) =
      (managedRun lib calls ⟨max (now + call.pause) d.arrival, [], some d.arrival⟩).map
        fun results => .ok none :: results := by
  rw [sockAt_shutdown]
  exact managedRun_cons calls (managedNextEvent_shutdown d hlib htime)

/-- A gap longer than the timeout: the managed session raises where the other returns `None`. -/
theorem not_interchangeable_of_silent {sock sock' : Sock} {controller : List Result}
    {result : Result}
    (hrecv : Sock.recv { sock with now := sock.now + call.pause } call.timeout 4 =
      (.error (silence call.timeout), sock')) :
    ¬ Interchangeable (managedRun lib (call :: calls) sock) (result :: controller) := by
  rw [managedRun_cons calls (managedNextEvent_silent hrecv)]
  exact not_interchangeable_of_raised

end Histories

/-- With the event histories the same, the results are the same and without an exception exactly as
long as no call waits longer than its timeout. -/
theorem sessions_interchangeable_iff (history : History lib)
    (hlib : ∀ message ∈ history.messages, lib.RoundTrips message) (backendId : Value)
    (calls : List Call) :
    Interchangeable (managedRun lib calls (history.sockAt now))
      (controllerRun lib backendId calls (history.queueAt now)) ↔ Timely history now calls := by
  induction calls generalizing history now with
  | nil =>
    rw [Timely]
    exact iff_true_intro ⟨rfl, fun result hmem => absurd hmem List.not_mem_nil⟩
  | cons call calls ih =>
    obtain ⟨events, shutdown⟩ := history
    rw [Timely.eq_def]
    cases events with
    | cons e events =>
      rcases Nat.lt_or_ge (now + call.pause + call.timeout) e.delivery.arrival with hlate | htime
      · rw [sockAt_cons]
        exact iff_of_false (not_interchangeable_of_silent calls (recv_late e.delivery hlate))
          fun h => Nat.not_le_of_lt hlate h.1
      · have hrest : ∀ message ∈ History.messages ⟨events, shutdown⟩, lib.RoundTrips message :=
          fun message hmem => hlib message (List.mem_cons_of_mem _ hmem)
        rw [managedRun_event calls (hlib _ List.mem_cons_self) htime,
          controllerRun_event calls backendId htime, interchangeable_cons rfl]
        -- the rest of the history, from the return of the call on
        exact (ih ⟨events, shutdown⟩ hrest).trans (and_iff_right htime).symm
    | nil =>
      rw [controllerRun_over]
      cases shutdown with
      | none =>
        have hrecv : Sock.recv ⟨now + call.pause, [], none⟩ call.timeout 4 =
            (.error (silence call.timeout), ⟨now + call.pause + call.timeout, [], none⟩) := rfl
        refine iff_of_false (not_interchangeable_of_silent calls hrecv) fun h => ?_
        obtain ⟨d, hd, -⟩ := h
        cases hd
      | some d =>
        rcases Nat.lt_or_ge (now + call.pause + call.timeout) d.arrival with hlate | htime
        · rw [sockAt_shutdown]
          refine iff_of_false (not_interchangeable_of_silent calls (recv_late d hlate)) fun h => ?_
          obtain ⟨d', hd, htime⟩ := h
          cases hd
          exact Nat.not_le_of_lt hlate htime
        · have hshutdown : lib.RoundTrips shutdownMessage := hlib _ List.mem_cons_self
          rw [managedRun_shutdown calls hshutdown htime]
          exact iff_of_true
            ((interchangeable_cons rfl).mpr (interchangeable_closed backendId calls (by omega)))
            ⟨d, rfl, htime⟩

/-! ## An event, a shutdown, and an idle worker -/

def ascii (s : String) : List UInt8 := (text s).map UInt8.ofNat

def shutdownText : List UInt8 := ascii "\x7b\"type\":\"shutdown\"\x7d"

def readEventText : List UInt8 :=
  ascii "\x7b\"type\":\"event\",\"event\":\x7b\"request_id\":7,\"transport\":\"i2c\"," ++
    ascii "\"device_id\":\"eeprom0\",\"bus_id\":\"bus0\"\x7d\x7d"

def readEventValue : Value :=
  .dict [(.lit "request_id", .int 7), (.lit "transport", .lit "i2c"),
    (.lit "device_id", .lit "eeprom0"), (.lit "bus_id", .lit "bus0")]

-- The standard library on the two messages below.
def twoMessages : Library where
  dumps
    | .dict message =>
      if isType message "shutdown" then some shutdownText
      else if isType message "event" then some readEventText
      else none
    | _ => none
  loads encoded :=
    if encoded = shutdownText then some shutdownMessage
    else if encoded = readEventText then some (eventMessage readEventValue)
    else none
  int
    | .int n => some n
    | _ => none

theorem roundTrips_shutdown : twoMessages.RoundTrips shutdownMessage := by
  intro encoded h
  obtain rfl : shutdownText = encoded := Option.some_inj.mp h
  exact ⟨by decide, rfl⟩

theorem roundTrips_readEvent : twoMessages.RoundTrips (eventMessage readEventValue) := by
  intro encoded h
  obtain rfl : readEventText = encoded := Option.some_inj.mp h
  exact ⟨by decide, rfl⟩

-- The event comes at 10 in two pieces, and the shutdown at 25.
def oneEvent : History twoMessages where
  events := [{
    event := ⟨readEventValue, ⟨7, .lit "i2c", .lit "eeprom0", .lit "bus0", .null, .null, []⟩, rfl⟩
    delivery := {
      arrival := 10
      pieces := [leBytes 4 readEventText.length, readEventText]
      pieces_ne := by decide
      sent := by decide +kernel } }]
  shutdown := some {
    arrival := 25
    pieces := [leBytes 4 shutdownText.length ++ shutdownText]
    pieces_ne := by decide
    sent := by decide +kernel }

theorem sessions_interchangeable_one_event :
    Interchangeable (managedRun twoMessages [⟨0, 30⟩, ⟨1, 30⟩, ⟨1, 30⟩] (oneEvent.sockAt 0))
      (controllerRun twoMessages .null [⟨0, 30⟩, ⟨1, 30⟩, ⟨1, 30⟩] (oneEvent.queueAt 0)) := by
  have hlib : ∀ message ∈ oneEvent.messages, twoMessages.RoundTrips message := by
    intro message hmem
    rcases List.mem_cons.mp hmem with rfl | hmem
    · exact roundTrips_readEvent
    · rw [List.mem_singleton.mp hmem]
      exact roundTrips_shutdown
  refine (sessions_interchangeable_iff oneEvent hlib .null _).mpr ⟨?_, ?_⟩
  · show 10 ≤ 0 + 0 + 30
    decide
  · exact ⟨_, rfl, show 25 ≤ max (0 + 0) 10 + 1 + 30 by decide⟩

/-- A managed worker that hears nothing for 30 seconds gets an exception. -/
theorem idle_worker_raises :
    ¬ ∀ (lib : Library) (history : History lib),
      (∀ message ∈ history.messages, lib.RoundTrips message) → ∀ backendId calls,
        Interchangeable (managedRun lib calls (history.sockAt 0))
          (controllerRun lib backendId calls (history.queueAt 0)) := by
  intro h
  have hidle := h twoMessages ⟨[], none⟩
    (fun message hmem => by rw [List.mem_singleton.mp hmem]; exact roundTrips_shutdown) .null
    [⟨0, 30⟩]
  rw [controllerRun_over] at hidle
  exact not_interchangeable_of_silent [] rfl hidle

end Sensorium.Workers

import Mathlib.Data.List.Infix
import Sensorium.Lib.Dict
import Sensorium.Lib.Runs
import Sensorium.Workers.Sessions

/-!
# The reader of a managed worker

`_managed_worker_reader_loop` takes messages off the socket of a worker and completes the pending
requests that they name.  Only the receive is guarded: what a conversion raises ends the thread, the
process runs on, and the monitor waits for the process.
-/

namespace Sensorium.Workers

open Lib Function
open Sensorium.Model (Value Entries)

/-! ## Messages -/

/-- `recv_worker_message` without a timeout, on the bytes that have come and are not read; `none`
waits for more. -/
def recvBlocking (lib : Library) (closed : Bool) (stream : List UInt8) :
    Option (Except Raised (Option Value) × List UInt8) :=
  if stream.length < 4 then
    if closed = false then none
    else if stream = [] then some (.ok none, [])
    else some (.error .eofError, [])
  else
    let length := leNat (stream.take 4)
    let behind := stream.drop 4
    if length = 0 ∨ workerMessageLimit < length then some (.error .runtimeError, behind)
    else if behind.length < length then
      if closed = false then none else some (.error .eofError, [])
    else
      match lib.loads (behind.take length) with
      | some message => some (.ok (some message), behind.drop length)
      | none => some (.error .valueError, behind.drop length)

structure WorkerReply where
  requestId : Int
  status : Int
  data : List UInt8
  deriving DecidableEq

def eIo : Int := -5

/-- `bytes.fromhex(data_hex) if data_hex else b""`. -/
def replyData (dataHex : Value) : Except Raised (List UInt8) :=
  if dataHex.truthy = false then .ok []
  else
    match dataHex with
    | .str s => (fromHex? s).elim (.error .valueError) .ok
    | _ => .error .typeError

/-- What the reader makes of a reply before it completes a request. -/
def readReply (lib : Library) (message : Entries) : Except Raised WorkerReply := do
  let requestId ← (lib.int (Model.getD message "request_id" (.int 0))).elim (.error .valueError) .ok
  let status ← (lib.int (Model.getD message "status" (.int eIo))).elim (.error .valueError) .ok
  let data ← replyData (Model.getD message "data" (.lit ""))
  .ok ⟨requestId, status, data⟩

/-! ## The daemon around the reader -/

/-- `ControllerPending`.  `answers` is history: what was accepted for the request, with the place of
the message among those of the worker, or `none` where it came from elsewhere. -/
structure PendingRequest where
  deviceId : Text
  status : Int
  data : List UInt8
  done : Bool
  answers : List (Option Nat × Int × List UInt8)

def PendingRequest.fresh (deviceId : Text) : PendingRequest := ⟨deviceId, -110, [], false, []⟩

/-- What is stored while the lock of `cond` is held. -/
def PendingRequest.complete (p : PendingRequest) (origin : Option Nat) (status : Int)
    (data : List UInt8) : PendingRequest :=
  { p with status, data, done := true, answers := p.answers ++ [(origin, status, data)] }

inductive WorkerStatus
  | running
  | restarting
  deriving DecidableEq

/-- `completes` has found the record `o` for the message number `n`; `ended` has left the loop. -/
inductive LinkReader
  | receives
  | completes (o n : Nat) (reply : WorkerReply)
  | ended
  deriving DecidableEq

/-- A worker that is running, as the daemon sees it: `stream` has come from it and is not read,
`current` is that `managed_workers` has it, `status` is what the device shows.  `taken` is history:
how many messages the reader has received. -/
structure Link where
  deviceId : Text
  stream : List UInt8
  alive : Bool
  current : Bool
  status : WorkerStatus
  reader : LinkReader
  taken : Nat
  objects : Nat → PendingRequest
  made : Nat
  table : List (Int × Nat)
  late : Nat

namespace Link

variable (k : Link)

/-- The first section of `_complete_pending_controller`. -/
def accept (n : Nat) (reply : WorkerReply) : Link :=
  match dictGet k.table reply.requestId with
  | none => { k with late := k.late + 1, reader := .receives }
  | some o => { k with reader := .completes o n reply }

/-- `_update_managed_worker_status_locked` for a heartbeat. -/
def heartbeat : Link := if k.current then { k with status := .running } else k

/-- The body of the loop for the message number `n`; only a dictionary has `get`. -/
def handle (lib : Library) (n : Nat) : Value → Link
  | .dict message =>
    if isType message "reply" then
      match readReply lib message with
      | .ok reply => k.accept n reply
      | .error _ => { k with reader := .ended }
    else if isType message "heartbeat" then k.heartbeat
    else k
  | _ => { k with reader := .ended }

/-- The next step of the reader. -/
def read (lib : Library) : Option Link :=
  match k.reader with
  | .ended => none
  | .completes o n reply =>
    some { k with
      objects := update k.objects o ((k.objects o).complete (some n) reply.status reply.data)
      reader := .receives }
  | .receives =>
    (recvBlocking lib (!k.alive) k.stream).map fun received =>
      match received with
      | (.ok (some message), stream) =>
        { k with stream, taken := k.taken + 1 }.handle lib k.taken message
      | (_, stream) => { k with stream, reader := .ended }

/-- `_fail_managed_pending_locked`. -/
def failPending (deviceId : Text) : Link :=
  let targets := k.table.filter fun e => (k.objects e.2).deviceId = deviceId
  { k with
    objects := fun o =>
      if targets.any fun e => e.2 = o then (k.objects o).complete none (-32) [] else k.objects o
    table := k.table.filter fun e => !((k.objects e.2).deviceId = deviceId) }

/-- What happens to the worker and in the other threads of the daemon. -/
inductive Act
  | bytes (bs : List UInt8)
  | read
  | dispatch (requestId : Int) (deviceId : Text)
  | pop (requestId : Int)
  | answer (requestId status : Int) (data : List UInt8)
  | failPending (deviceId : Text)
  | exit
  | monitor

def step (lib : Library) (k : Link) : Act → Option Link
  | .bytes bs => if k.alive then some { k with stream := k.stream ++ bs } else none
  | .read => k.read lib
  | .dispatch requestId deviceId =>
    some { k with
      objects := update k.objects k.made (.fresh deviceId)
      made := k.made + 1
      table := dictSet k.table requestId k.made }
  | .pop requestId => some { k with table := k.table.filter fun e => e.1 ≠ requestId }
  | .answer requestId status data =>
    match dictGet k.table requestId with
    | none => some { k with late := k.late + 1 }
    | some o =>
      some { k with objects := update k.objects o ((k.objects o).complete none status data) }
  | .failPending deviceId => some (k.failPending deviceId)
  | .exit => some { k with alive := false }
  -- `proc.wait()` has returned
  | .monitor =>
    if k.alive then none
    else if k.current then
      some ({ k with current := false, status := .restarting }.failPending k.deviceId)
    else none

/-- What the worker sends. -/
def Act.sent : Act → List UInt8
  | .bytes bs => bs
  | _ => []

/-- The worker has been launched, and its reader has not yet received. -/
structure Launched : Prop where
  stream : k.stream = []
  taken : k.taken = 0
  reader : k.reader = .receives
  alive : k.alive = true
  status : k.status = .running
  made : ∀ e ∈ k.table, e.2 < k.made
  answers : ∀ o, ∀ answer ∈ (k.objects o).answers, answer.1 = none

/-- The process runs, and the device shows it. -/
def Running : Prop := k.alive = true ∧ k.status = .running

/-- The request that the record `o` is for has been completed with the message number `n`. -/
def CompletedBy (o n : Nat) (reply : WorkerReply) : Prop :=
  (k.objects o).done = true ∧ (some n, reply.status, reply.data) ∈ (k.objects o).answers

end Link

/-! ## What the reader survives -/

/-- The message is an object, and if it is a reply then `int` takes its numbers and
`bytes.fromhex` its data. -/
def Survivable (lib : Library) : Value → Prop
  | .dict message =>
    isType message "reply" = true →
      (lib.int (Model.getD message "request_id" (.int 0))).isSome ∧
      (lib.int (Model.getD message "status" (.int eIo))).isSome ∧
      ((Model.getD message "data" (.lit "")).truthy = true →
        ∃ s, Model.getD message "data" (.lit "") = .str s ∧ (fromHex? s).isSome)
  | _ => False

/-- A frame of JSON text. -/
def WellFramed (lib : Library) (message : Value) (frame : List UInt8) : Prop :=
  ∃ encoded, frame = leBytes 4 encoded.length ++ encoded ∧ encoded ≠ [] ∧
    encoded.length ≤ workerMessageLimit ∧ lib.loads encoded = some message

variable {lib : Library} {message : Entries} {k k' : Link} {n o : Nat}

theorem replyData_ok_iff (dataHex : Value) :
    (∃ data, replyData dataHex = .ok data) ↔
      (dataHex.truthy = true → ∃ s, dataHex = .str s ∧ (fromHex? s).isSome) := by
  unfold replyData
  split
  · rename_i hfalsy
    refine iff_of_true ⟨[], rfl⟩ fun htruthy => ?_
    rw [hfalsy] at htruthy
    cases htruthy
  · rename_i htruthy
    rw [Bool.not_eq_false] at htruthy
    rw [htruthy]
    split
    · rename_i s
      cases hhex : fromHex? s with
      | none =>
        constructor
        · rintro ⟨data, hdata⟩
          cases hdata
        · intro h
          obtain ⟨s', hs, hsome⟩ := h rfl
          rw [← Value.str.inj hs, hhex] at hsome
          cases hsome
      | some data => exact ⟨fun _ _ => ⟨s, rfl, by rw [hhex]; rfl⟩, fun _ => ⟨data, rfl⟩⟩
    · rename_i hstr
      constructor
      · rintro ⟨data, hdata⟩
        cases hdata
      · intro h
        obtain ⟨s, hs, -⟩ := h rfl
        exact absurd hs (hstr s)

theorem readReply_ok_iff :
    (∃ reply, readReply lib message = .ok reply) ↔
      (lib.int (Model.getD message "request_id" (.int 0))).isSome ∧
      (lib.int (Model.getD message "status" (.int eIo))).isSome ∧
      ((Model.getD message "data" (.lit "")).truthy = true →
        ∃ s, Model.getD message "data" (.lit "") = .str s ∧ (fromHex? s).isSome) := by
  rw [← replyData_ok_iff]
  unfold readReply
  cases lib.int (Model.getD message "request_id" (.int 0)) with
  | none =>
    refine iff_of_false ?_ fun h => Bool.false_ne_true h.1
    rintro ⟨reply, hreply⟩
    cases hreply
  | some requestId =>
    cases lib.int (Model.getD message "status" (.int eIo)) with
    | none =>
      refine iff_of_false ?_ fun h => Bool.false_ne_true h.2.1
      rintro ⟨reply, hreply⟩
      cases hreply
    | some status =>
      cases replyData (Model.getD message "data" (.lit "")) with
      | error raised =>
        refine iff_of_false ?_ ?_
        · rintro ⟨reply, hreply⟩
          cases hreply
        · rintro ⟨-, -, data, hdata⟩
          cases hdata
      | ok data => exact ⟨fun _ => ⟨rfl, rfl, data, rfl⟩, fun _ => ⟨_, rfl⟩⟩

/-- A frame is received when all of it has come. -/
theorem recvBlocking_frame {value : Value} {frame stream rest behind : List UInt8}
    (hframe : WellFramed lib value frame) (hbytes : stream ++ rest = frame ++ behind) :
    recvBlocking lib false stream =
      if frame.length ≤ stream.length then some (.ok (some value), stream.drop frame.length)
      else none := by
  obtain ⟨encoded, rfl, hne, hlimit, hloads⟩ := hframe
  have hhead : (leBytes 4 encoded.length).length = 4 := length_leBytes 4 _
  have hpos : 0 < encoded.length := List.length_pos_iff.mpr hne
  unfold recvBlocking
  by_cases hshort : stream.length < 4
  · rw [if_pos hshort, if_pos rfl, if_neg]
    rw [List.length_append]
    omega
  · have hlength : leNat (stream.take 4) = encoded.length := by
      have htake : stream.take 4 = leBytes 4 encoded.length := by
        have hfront : (stream ++ rest).take 4 = stream.take 4 :=
          List.take_append_of_le_length (Nat.le_of_not_lt hshort)
        rw [← hfront, hbytes, List.append_assoc, List.take_left' hhead]
      rw [htake]
      apply leNat_leBytes
      unfold workerMessageLimit at hlimit
      omega
    have hvalid : ¬ (encoded.length = 0 ∨ workerMessageLimit < encoded.length) := by omega
    have hbehind : stream.drop 4 ++ rest = encoded ++ behind := by
      rw [← List.drop_append_of_le_length (Nat.le_of_not_lt hshort), hbytes, List.append_assoc,
        List.drop_left' hhead]
    rw [if_neg hshort]
    dsimp only
    rw [hlength, if_neg hvalid, List.length_drop, List.length_append, hhead]
    by_cases hpart : stream.length - 4 < encoded.length
    · rw [if_pos hpart, if_pos rfl, if_neg]
      omega
    · have htake : (stream.drop 4).take encoded.length = encoded := by
        have hle : encoded.length ≤ (stream.drop 4).length := by
          rw [List.length_drop]
          omega
        have hfront : (stream.drop 4 ++ rest).take encoded.length =
            (stream.drop 4).take encoded.length := List.take_append_of_le_length hle
        rw [← hfront, hbehind, List.take_left]
      have hwhole : 4 + encoded.length ≤ stream.length := by omega
      rw [if_neg hpart, htake, hloads, if_pos hwhole, List.drop_drop]

namespace Link

/-! ## One step -/

/-- What other threads and the worker leave as it is. -/
structure Beside (k k' : Link) (bs : List UInt8) : Prop where
  alive : k.alive = true
  status : k'.status = k.status
  reader : k'.reader = k.reader
  taken : k'.taken = k.taken
  stream : k'.stream = k.stream ++ bs
  made : k.made ≤ k'.made
  table : (∀ e ∈ k.table, e.2 < k.made) → ∀ e ∈ k'.table, e.2 < k'.made
  done : ∀ o < k.made, (k.objects o).done = true → (k'.objects o).done = true
  answers : ∀ o < k.made, ∀ answer ∈ (k.objects o).answers, answer ∈ (k'.objects o).answers
  numbered : ∀ o n pair, (some n, pair) ∈ (k'.objects o).answers →
    (some n, pair) ∈ (k.objects o).answers

/-- Records that are completed from elsewhere, each of `which`. -/
theorem Beside.of_completed (which : Nat → Prop) [DecidablePred which] (status : Int)
    (data : List UInt8) {table : List (Int × Nat)} (halive : k.alive = true)
    (htable : ∀ e ∈ table, e ∈ k.table) :
    Beside k { k with
      objects := fun o =>
        if which o then (k.objects o).complete none status data else k.objects o
      table := table } [] where
  alive := halive
  status := rfl
  reader := rfl
  taken := rfl
  stream := (List.append_nil _).symm
  made := Nat.le_refl _
  table h e he := h e (htable e he)
  done o _ hdone := by
    dsimp only
    split
    · rfl
    · exact hdone
  answers o _ answer hanswer := by
    dsimp only
    split
    · exact List.mem_append_left _ hanswer
    · exact hanswer
  numbered o n pair hpair := by
    dsimp only at hpair
    split at hpair
    · rcases List.mem_append.mp hpair with hpair | hpair
      · exact hpair
      · cases List.mem_singleton.mp hpair
    · exact hpair

theorem handle_cases (lib : Library) (k : Link) (n : Nat) (value : Value)
    (hreader : k.reader = .receives) (hstatus : k.status = .running) :
    (Survivable lib value ∧ ∃ late reader, k.handle lib n value = { k with late, reader } ∧
      (reader = .receives ∨ ∃ o reply, reader = .completes o n reply)) ∨
    (¬ Survivable lib value ∧ k.handle lib n value = { k with reader := .ended }) := by
  cases value with
  | dict message =>
    have hreply : (∃ reply, readReply lib message = .ok reply) ↔ _ := readReply_ok_iff
    rw [handle]
    split
    · rename_i htype
      cases hread : readReply lib message with
      | error raised =>
        refine .inr ⟨fun hsurvives => ?_, rfl⟩
        obtain ⟨reply, hok⟩ := hreply.mpr (hsurvives htype)
        rw [hread] at hok
        cases hok
      | ok reply =>
        refine .inl ⟨fun _ => hreply.mp ⟨reply, hread⟩, ?_⟩
        dsimp only
        rw [accept]
        split
        · exact ⟨_, _, rfl, .inl rfl⟩
        · exact ⟨_, _, rfl, .inr ⟨_, _, rfl⟩⟩
    · rename_i htype
      refine .inl ⟨fun h => absurd h htype, k.late, k.reader, ?_, .inl hreader⟩
      split
      · rw [heartbeat]
        split
        · rw [← hstatus]
        · rfl
      · rfl
  | _ => exact .inr ⟨id, rfl⟩

/-- A reply for a request that is pending. -/
theorem handle_reply {reply : WorkerReply} (k : Link) (n : Nat)
    (htype : isType message "reply" = true) (hread : readReply lib message = .ok reply)
    (hpending : dictGet k.table reply.requestId = some o) :
    k.handle lib n (.dict message) = { k with reader := .completes o n reply } := by
  rw [handle, if_pos htype, hread]
  dsimp only
  rw [accept, hpending]

theorem alive_handle (k : Link) (n : Nat) (value : Value) :
    (k.handle lib n value).alive = k.alive := by
  unfold handle
  split
  · split
    · split
      · unfold accept
        split
        · rfl
        · rfl
      · rfl
    · split
      · unfold heartbeat
        split
        · rfl
        · rfl
      · rfl
  · rfl

theorem alive_read (hread : k.read lib = some k') : k'.alive = k.alive := by
  unfold read at hread
  split at hread
  · cases hread
  · cases hread
    rfl
  · obtain ⟨received, -, rfl⟩ := Option.map_eq_some_iff.mp hread
    split
    · exact alive_handle _ _ _
    · rfl

/-- A request is registered under a new record. -/
theorem beside_dispatch {requestId : Int} {deviceId : Text}
    (hstep : step lib k (.dispatch requestId deviceId) = some k') (halive : k'.alive = true) :
    Beside k k' [] := by
  cases hstep
  refine ⟨halive, rfl, rfl, rfl, (List.append_nil _).symm, Nat.le_succ _, ?_, ?_, ?_, ?_⟩
  · intro h e he
    rcases mem_of_mem_dictSet he with rfl | he
    · exact Nat.lt_succ_self _
    · exact Nat.lt_succ_of_lt (h e he)
  · intro o ho hdone
    dsimp only
    rw [update_of_ne (Nat.ne_of_lt ho)]
    exact hdone
  · intro o ho answer hanswer
    dsimp only
    rw [update_of_ne (Nat.ne_of_lt ho)]
    exact hanswer
  · intro o n pair hpair
    dsimp only at hpair
    by_cases ho : o = k.made
    · rw [ho, update_self] at hpair
      cases hpair
    · rw [update_of_ne ho] at hpair
      exact hpair

/-- Another thread completes a request, if it is still pending. -/
theorem beside_answer {requestId : Int} {status : Int} {data : List UInt8}
    (hstep : step lib k (.answer requestId status data) = some k') (halive : k'.alive = true) :
    Beside k k' [] := by
  rw [step] at hstep
  split at hstep
  · cases hstep
    exact ⟨halive, rfl, rfl, rfl, (List.append_nil _).symm, Nat.le_refl _, fun h => h,
      fun _ _ h => h, fun _ _ _ h => h, fun _ _ _ h => h⟩
  · rename_i o _
    cases hstep
    have h := Beside.of_completed (k := k) (· = o) status data halive fun e he => he
    have hobjects : update k.objects o ((k.objects o).complete none status data) =
        fun o' => if o' = o then (k.objects o').complete none status data else k.objects o' := by
      funext o'
      by_cases ho : o' = o
      · rw [ho, update_self, if_pos rfl]
      · rw [update_of_ne ho, if_neg ho]
    rw [hobjects]
    exact h

/-- While the process runs, a step is one of the reader or beside it. -/
theorem step_cases {a : Act} (hstep : step lib k a = some k') (halive : k'.alive = true) :
    a.sent = [] ∧ k.alive = true ∧ k.read lib = some k' ∨ Beside k k' a.sent := by
  cases a with
  | bytes bs =>
    rw [step] at hstep
    split at hstep
    · rename_i h
      cases hstep
      exact .inr ⟨h, rfl, rfl, rfl, rfl, Nat.le_refl _, fun h => h, fun _ _ h => h,
        fun _ _ _ h => h, fun _ _ _ h => h⟩
    · cases hstep
  | read => exact .inl ⟨rfl, (alive_read hstep).symm.trans halive, hstep⟩
  | dispatch requestId deviceId =>
    exact .inr (beside_dispatch hstep halive)
  | pop requestId =>
    cases hstep
    exact .inr ⟨halive, rfl, rfl, rfl, (List.append_nil _).symm, Nat.le_refl _,
      fun h e he => h e (List.mem_of_mem_filter he), fun _ _ h => h, fun _ _ _ h => h,
      fun _ _ _ h => h⟩
  | answer requestId status data =>
    exact .inr (beside_answer hstep halive)
  | failPending deviceId =>
    cases hstep
    exact .inr (Beside.of_completed _ _ _ halive fun e he => List.mem_of_mem_filter he)
  | exit =>
    cases hstep
    cases halive
  | monitor =>
    rw [step] at hstep
    split at hstep
    · cases hstep
    · rename_i hdead
      split at hstep
      · cases hstep
        exact absurd halive hdead
      · cases hstep

/-! ## Runs -/

/-- What the worker sends is `messages` in `frames`, with `rest` to come: the reader has survived
what it has taken, or the last of it has ended the loop. -/
structure Follows (lib : Library) (messages : List Value) (frames : List (List UInt8))
    (rest : List UInt8) (k : Link) : Prop where
  alive : k.alive = true
  status : k.status = .running
  table : ∀ e ∈ k.table, e.2 < k.made
  numbered : ∀ o n pair, (some n, pair) ∈ (k.objects o).answers → n < k.taken
  completes : ∀ o n reply, k.reader = .completes o n reply → n < k.taken
  reads : k.reader ≠ .ended → k.stream ++ rest = (frames.drop k.taken).flatten ∧
    ∀ value ∈ messages.take k.taken, Survivable lib value
  stopped : k.reader = .ended → ∃ i value, k.taken = i + 1 ∧ messages[i]? = some value ∧
    ¬ Survivable lib value ∧ ∀ value ∈ messages.take i, Survivable lib value

variable {messages : List Value} {frames : List (List UInt8)} {rest bs : List UInt8}

theorem Launched.follows (h : Launched k) (hbytes : rest = frames.flatten) :
    Follows lib messages frames rest k where
  alive := h.alive
  status := h.status
  table := h.made
  numbered o n pair hpair := by
    cases h.answers o _ hpair
  completes o n reply hreader := by
    rw [h.reader] at hreader
    cases hreader
  reads _ := by
    rw [h.stream, h.taken, hbytes]
    exact ⟨rfl, fun _ hmem => by cases hmem⟩
  stopped hover := by
    rw [h.reader] at hover
    cases hover

theorem Follows.beside (h : Follows lib messages frames (bs ++ rest) k) (hbeside : Beside k k' bs)
    (halive : k'.alive = true) : Follows lib messages frames rest k' where
  alive := halive
  status := hbeside.status.trans h.status
  table := hbeside.table h.table
  numbered o n pair hpair := by
    rw [hbeside.taken]
    exact h.numbered o n pair (hbeside.numbered o n pair hpair)
  completes := by
    rw [hbeside.taken, hbeside.reader]
    exact h.completes
  reads := by
    rw [hbeside.taken, hbeside.reader, hbeside.stream, List.append_assoc]
    exact h.reads
  stopped := by
    rw [hbeside.taken, hbeside.reader]
    exact h.stopped

/-- The reader takes the next message when its frame has come, and not before. -/
theorem Follows.receives (h : Follows lib messages frames rest k)
    (hframes : List.Forall₂ (WellFramed lib) messages frames) (hreader : k.reader = .receives) :
    k.read lib = none ∧ (rest = [] → frames.length ≤ k.taken) ∨
      ∃ value stream, messages[k.taken]? = some value ∧
        stream ++ rest = (frames.drop (k.taken + 1)).flatten ∧
        k.read lib = some ({ k with stream, taken := k.taken + 1 }.handle lib k.taken value) := by
  have hbytes := (h.reads (by rw [hreader]; exact LinkReader.noConfusion)).1
  have hdrop := List.forall₂_drop k.taken hframes
  have hopen : (!k.alive) = false := by rw [h.alive, Bool.not_true]
  rw [read, hreader, hopen]
  cases hnext : frames.drop k.taken with
  | nil =>
    rw [hnext, List.flatten_nil, List.append_eq_nil_iff] at hbytes
    rw [hbytes.1]
    exact .inl ⟨rfl, fun _ => List.drop_eq_nil_iff.mp hnext⟩
  | cons frame behind =>
    rw [hnext] at hdrop hbytes
    have hbehind : frames.drop (k.taken + 1) = behind := by
      rw [← List.tail_drop, hnext, List.tail_cons]
    cases hvalue : messages.drop k.taken with
    | nil =>
      rw [hvalue] at hdrop
      cases hdrop
    | cons value values =>
      rw [hvalue] at hdrop
      have hget : messages[k.taken]? = some value := by
        rw [← List.head?_drop, hvalue, List.head?_cons]
      rw [List.flatten_cons] at hbytes
      rw [recvBlocking_frame (List.forall₂_cons.mp hdrop).1 hbytes]
      by_cases hwhole : frame.length ≤ k.stream.length
      · rw [if_pos hwhole]
        refine .inr ⟨value, k.stream.drop frame.length, hget, ?_, rfl⟩
        rw [hbehind, ← List.drop_append_of_le_length hwhole, hbytes, List.drop_left]
      · rw [if_neg hwhole]
        refine .inl ⟨rfl, fun hrest => absurd ?_ hwhole⟩
        rw [hrest, List.append_nil] at hbytes
        rw [hbytes, List.length_append]
        exact Nat.le_add_right _ _

/-- The reader stores the reply that it has read. -/
theorem Follows.complete (h : Follows lib messages frames rest k) {reply : WorkerReply}
    (hreader : k.reader = .completes o n reply) (hread : k.read lib = some k') :
    Follows lib messages frames rest k' := by
  have halive : k'.alive = true := (alive_read hread).trans h.alive
  have hn := h.completes o n reply hreader
  have hreads := h.reads (by rw [hreader]; exact LinkReader.noConfusion)
  rw [Link.read, hreader] at hread
  cases hread
  refine ⟨halive, h.status, h.table, ?_, ?_, fun _ => hreads, ?_⟩
  · intro o' n' pair hpair
    dsimp only at hpair ⊢
    by_cases ho : o' = o
    · rw [ho, update_self] at hpair
      rcases List.mem_append.mp hpair with hpair | hpair
      · exact h.numbered o n' pair hpair
      · cases List.mem_singleton.mp hpair
        exact hn
    · rw [update_of_ne ho] at hpair
      exact h.numbered o' n' pair hpair
  · intro _ _ _ hnone
    cases hnone
  · intro hnone
    cases hnone

/-- The reader handles the next message, and survives it or ends. -/
theorem Follows.receive (h : Follows lib messages frames rest k) {value : Value}
    {stream : List UInt8} (hreader : k.reader = .receives) (hvalue : messages[k.taken]? = some value)
    (hbytes : stream ++ rest = (frames.drop (k.taken + 1)).flatten) :
    Follows lib messages frames rest
      ({ k with stream, taken := k.taken + 1 }.handle lib k.taken value) := by
  have hsurvived := (h.reads (by rw [hreader]; exact LinkReader.noConfusion)).2
  rcases handle_cases lib { k with stream, taken := k.taken + 1 } k.taken value hreader
      h.status with ⟨hsurvives, late, reader, hhandle, hkind⟩ | ⟨hends, hhandle⟩
  · rw [hhandle]
    have htake : ∀ value' ∈ messages.take (k.taken + 1), Survivable lib value' := by
      intro value' hmem
      rw [List.take_add_one, hvalue] at hmem
      rcases List.mem_append.mp hmem with hmem | hmem
      · exact hsurvived value' hmem
      · rw [Option.toList_some, List.mem_singleton] at hmem
        rw [hmem]
        exact hsurvives
    refine ⟨h.alive, h.status, h.table, ?_, ?_, fun _ => ⟨hbytes, htake⟩, ?_⟩
    · exact fun o n pair hpair => Nat.lt_succ_of_lt (h.numbered o n pair hpair)
    · intro o n reply hcompletes
      rcases hkind with rfl | ⟨_, _, rfl⟩
      · cases hcompletes
      · cases hcompletes
        exact Nat.lt_succ_self _
    · intro hover
      rcases hkind with rfl | ⟨o, reply, rfl⟩
      · cases hover
      · cases hover
  · -- the message is the first that the reader does not survive
    rw [hhandle]
    refine ⟨h.alive, h.status, h.table, ?_, ?_, ?_, ?_⟩
    · exact fun o n pair hpair => Nat.lt_succ_of_lt (h.numbered o n pair hpair)
    · intro _ _ _ hnone
      cases hnone
    · exact fun hnone => absurd rfl hnone
    · exact fun _ => ⟨k.taken, value, rfl, hvalue, hends, hsurvived⟩

theorem Follows.read (h : Follows lib messages frames rest k)
    (hframes : List.Forall₂ (WellFramed lib) messages frames) (hread : k.read lib = some k') :
    Follows lib messages frames rest k' := by
  cases hreader : k.reader with
  | ended =>
    rw [Link.read, hreader] at hread
    cases hread
  | completes o n reply => exact h.complete hreader hread
  | receives =>
    rcases h.receives hframes hreader with ⟨hnone, -⟩ | ⟨value, stream, hvalue, hbytes, hsome⟩
    · rw [hnone] at hread
      cases hread
    · rw [hsome, Option.some_inj] at hread
      exact hread ▸ h.receive hreader hvalue hbytes

theorem alive_of_step {a : Act} (hstep : step lib k a = some k') (halive : k'.alive = true) :
    k.alive = true := by
  rcases step_cases hstep halive with ⟨-, hk, -⟩ | hbeside
  · exact hk
  · exact hbeside.alive

theorem alive_of_exec {acts : List Act} (hrun : exec (step lib) k acts = some k')
    (halive : k'.alive = true) : k.alive = true := by
  induction acts generalizing k with
  | nil =>
    cases hrun
    exact halive
  | cons a acts ih =>
    obtain ⟨next, hstep, hrun⟩ := Option.bind_eq_some_iff.mp hrun
    exact alive_of_step hstep (ih hrun)

theorem Follows.step {a : Act} (h : Follows lib messages frames (a.sent ++ rest) k)
    (hframes : List.Forall₂ (WellFramed lib) messages frames) (hstep : Link.step lib k a = some k')
    (halive : k'.alive = true) : Follows lib messages frames rest k' := by
  rcases step_cases hstep halive with ⟨hsent, -, hread⟩ | hbeside
  · rw [hsent, List.nil_append] at h
    exact h.read hframes hread
  · exact h.beside hbeside halive

theorem Follows.exec {acts : List Act}
    (h : Follows lib messages frames (acts.flatMap Act.sent ++ rest) k)
    (hframes : List.Forall₂ (WellFramed lib) messages frames)
    (hrun : Lib.exec (Link.step lib) k acts = some k') (halive : k'.alive = true) :
    Follows lib messages frames rest k' := by
  induction acts generalizing k with
  | nil =>
    cases hrun
    exact h
  | cons a acts ih =>
    obtain ⟨next, hstep, hrun⟩ := Option.bind_eq_some_iff.mp hrun
    rw [List.flatMap_cons, List.append_assoc] at h
    exact ih (h.step hframes hstep (alive_of_exec hrun halive)) hrun

/-! ## One reply -/

/-- The message number `n` is not yet read, or it is being stored for the record `o`, or it has
been. -/
def Answers (o n : Nat) (reply : WorkerReply) (k : Link) : Prop :=
  k.taken ≤ n ∨ k.reader = .completes o n reply ∨ k.CompletedBy o n reply

variable {reply : WorkerReply}

theorem CompletedBy.mono (h : k.CompletedBy o n reply)
    (hdone : (k.objects o).done = true → (k'.objects o).done = true)
    (hanswers : ∀ answer ∈ (k.objects o).answers, answer ∈ (k'.objects o).answers) :
    k'.CompletedBy o n reply :=
  ⟨hdone h.1, hanswers _ h.2⟩

theorem Answers.beside (h : Answers o n reply k) (hbeside : Beside k k' bs) (ho : o < k.made) :
    Answers o n reply k' := by
  unfold Answers
  rw [hbeside.taken, hbeside.reader]
  exact h.imp id (Or.imp id fun hcompleted =>
    hcompleted.mono (hbeside.done o ho) (hbeside.answers o ho))

/-- A reply is stored, perhaps another one. -/
theorem Answers.complete (h : Answers o n reply k) {o' n' : Nat} {reply' : WorkerReply}
    (hreader : k.reader = .completes o' n' reply') (hread : k.read lib = some k') :
    Answers o n reply k' ∧ k'.made = k.made := by
  rw [Link.read, hreader] at hread
  cases hread
  refine ⟨?_, rfl⟩
  rcases h with hunread | hcompletes | hcompleted
  · exact .inl hunread
  · rw [hreader] at hcompletes
    cases hcompletes
    refine .inr (.inr ⟨?_, ?_⟩)
    · dsimp only
      rw [update_self]
      rfl
    · dsimp only
      rw [update_self]
      exact List.mem_append_right _ List.mem_cons_self
  · refine .inr (.inr (hcompleted.mono (fun hdone => ?_) fun answer hanswer => ?_))
    · dsimp only
      by_cases ho : o = o'
      · rw [ho, update_self]
        rfl
      · rw [update_of_ne ho]
        exact hdone
    · dsimp only
      by_cases ho : o = o'
      · rw [ho, update_self]
        exact List.mem_append_left _ (ho ▸ hanswer)
      · rw [update_of_ne ho]
        exact hanswer

/-- Whatever a message is, its handling leaves the records to the next step. -/
theorem keeps_handle (lib : Library) (value : Value) (stream : List UInt8)
    (hreader : k.reader = .receives) (hstatus : k.status = .running) :
    let next := { k with stream, taken := k.taken + 1 }.handle lib k.taken value
    next.taken = k.taken + 1 ∧ next.objects = k.objects ∧ next.made = k.made := by
  dsimp only
  rcases handle_cases lib { k with stream, taken := k.taken + 1 } k.taken value hreader
      hstatus with ⟨-, late, reader, hhandle, -⟩ | ⟨-, hhandle⟩
  · rw [hhandle]
    exact ⟨rfl, rfl, rfl⟩
  · rw [hhandle]
    exact ⟨rfl, rfl, rfl⟩

theorem Answers.read (h : Answers o n reply k) (hfollows : Follows lib messages frames rest k)
    (hframes : List.Forall₂ (WellFramed lib) messages frames)
    (hn : messages[n]? = some (.dict message)) (htype : isType message "reply" = true)
    (hok : readReply lib message = .ok reply)
    (hpending : k.taken ≤ n → dictGet k.table reply.requestId = some o)
    (hread : k.read lib = some k') : Answers o n reply k' ∧ k'.made = k.made := by
  cases hreader : k.reader with
  | ended =>
    rw [Link.read, hreader] at hread
    cases hread
  | completes o' n' reply' => exact h.complete hreader hread
  | receives =>
    rcases hfollows.receives hframes hreader with ⟨hnone, -⟩ | ⟨value, stream, hvalue, -, hsome⟩
    · rw [hnone] at hread
      cases hread
    rw [hsome, Option.some_inj] at hread
    obtain ⟨htaken, hobjects, hmade⟩ := keeps_handle lib value stream hreader
      hfollows.status
    rw [hread] at htaken hobjects hmade
    refine ⟨?_, hmade⟩
    rcases h with hunread | hcompletes | hcompleted
    · rcases Nat.lt_or_eq_of_le hunread with hbefore | hnow
      · refine .inl ?_
        rw [htaken]
        exact hbefore
      · -- the message is this one
        rw [hnow, hn, Option.some_inj] at hvalue
        have hhandle := handle_reply { k with stream, taken := k.taken + 1 } k.taken htype hok
          (hpending hunread)
        rw [← hvalue, hhandle, hnow] at hread
        rw [← hread]
        exact .inr (.inl rfl)
    · rw [hreader] at hcompletes
      cases hcompletes
    · refine .inr (.inr (hcompleted.mono ?_ ?_))
      · rw [hobjects]
        exact id
      · rw [hobjects]
        exact fun _ hanswer => hanswer

theorem Answers.exec {acts : List Act} (h : Answers o n reply k) (ho : o < k.made)
    (hfollows : Follows lib messages frames (acts.flatMap Act.sent ++ rest) k)
    (hframes : List.Forall₂ (WellFramed lib) messages frames)
    (hn : messages[n]? = some (.dict message)) (htype : isType message "reply" = true)
    (hok : readReply lib message = .ok reply)
    (hpending : ∀ done between, done <+: acts → Lib.exec (Link.step lib) k done = some between →
      between.taken ≤ n → dictGet between.table reply.requestId = some o)
    (hrun : Lib.exec (Link.step lib) k acts = some k') (halive : k'.alive = true) :
    Answers o n reply k' := by
  induction acts generalizing k with
  | nil =>
    cases hrun
    exact h
  | cons a acts ih =>
    obtain ⟨next, hstep, hrun⟩ := Option.bind_eq_some_iff.mp hrun
    have hlive := alive_of_exec hrun halive
    rw [List.flatMap_cons, List.append_assoc] at hfollows
    have hnext : Answers o n reply next ∧ o < next.made := by
      -- the reader's own step, or one of another thread
      rcases step_cases hstep hlive with ⟨-, -, hread⟩ | hbeside
      · obtain ⟨hnext, hmade⟩ := h.read hfollows hframes hn htype hok
          (hpending [] k (List.nil_prefix) rfl) hread
        exact ⟨hnext, hmade ▸ ho⟩
      · exact ⟨h.beside hbeside ho, Nat.lt_of_lt_of_le ho hbeside.made⟩
    refine ih hnext.1 hnext.2 (hfollows.step hframes hstep hlive)
      (fun done between hdone hexec => ?_) hrun
    -- the states that follow are those of the run behind the first step
    refine hpending (a :: done) between (List.cons_prefix_cons.mpr ⟨rfl, hdone⟩) ?_
    rw [Lib.exec, hstep]
    exact hexec

end Link

open Link in
/-- A worker has sent messages, and its reader has done all that it can.  A well-formed reply among
them, for a request that is pending until the reply is read, has completed the request exactly if
the reader has survived all messages before it. -/
theorem reply_completes_iff {k m t : Link} {acts acts' : List Link.Act} {messages : List Value}
    {frames : List (List UInt8)} {reply : WorkerReply} (hlaunched : k.Launched)
    (hm : exec (Link.step lib) k acts = some m) (ht : exec (Link.step lib) m acts' = some t)
    (hrunning : t.Running) (hrest : t.read lib = none)
    (hframes : List.Forall₂ (WellFramed lib) messages frames)
    (hsent : (acts ++ acts').flatMap Act.sent = frames.flatten)
    (hn : messages[n]? = some (.dict message)) (htype : isType message "reply" = true)
    (hok : readReply lib message = .ok reply) (hunread : m.taken ≤ n)
    (hpending : ∀ done between, done <+: acts' → exec (Link.step lib) m done = some between →
      between.taken ≤ n → dictGet between.table reply.requestId = some o) :
    t.CompletedBy o n reply ↔ ∀ value ∈ messages.take n, Survivable lib value := by
  have halive : m.alive = true := alive_of_exec ht hrunning.1
  rw [List.flatMap_append] at hsent
  have hfollowsm : Follows lib messages frames (acts'.flatMap Act.sent ++ []) m := by
    rw [List.append_nil]
    exact (hlaunched.follows hsent).exec hframes hm halive
  have hfollows := hfollowsm.exec hframes ht hrunning.1
  have htake : ∀ {i}, n ≤ i → (∀ value ∈ messages.take i, Survivable lib value) →
      ∀ value ∈ messages.take n, Survivable lib value := by
    intro i hi hall value hmem
    exact hall value (List.take_subset_take_left messages hi hmem)
  constructor
  · intro hcompleted
    have hread := hfollows.numbered o n _ hcompleted.2
    -- a reader that ended later had survived the messages before
    by_cases hover : t.reader = .ended
    · obtain ⟨i, value, htaken, -, -, hsurvived⟩ := hfollows.stopped hover
      exact htake (by omega) hsurvived
    · exact htake (Nat.le_of_lt hread) (hfollows.reads hover).2
  · intro hsurvivable
    have hlength : n < frames.length := by
      rw [← hframes.length_eq]
      exact (List.getElem?_eq_some_iff.mp hn).1
    have hpendingm := hpending [] m List.nil_prefix rfl hunread
    have hanswers := Answers.exec (.inl hunread) (hfollowsm.table _ (mem_of_dictGet hpendingm))
      hfollowsm hframes hn htype hok hpending ht hrunning.1
    rcases hanswers with hlate | hcompletes | hcompleted
    -- the reader has done all that it can, so it has read the message or has ended before it
    · exfalso
      cases hreader : t.reader with
      | ended =>
        obtain ⟨i, value, htaken, hvalue, hends, -⟩ := hfollows.stopped hreader
        refine hends (hsurvivable value (List.mem_of_getElem? (i := i) ?_))
        rw [List.getElem?_take_of_lt (by omega), hvalue]
      | completes o' n' reply' =>
        rw [Link.read, hreader] at hrest
        cases hrest
      | receives =>
        rcases hfollows.receives hframes hreader with ⟨-, hall⟩ | ⟨_, _, -, -, hsome⟩
        · have hread := hall rfl
          omega
        · rw [hrest] at hsome
          cases hsome
    · rw [Link.read, hcompletes] at hrest
      cases hrest
    · exact hcompleted

/-! ## A reply after another message -/

def heartbeatText : List UInt8 := ascii "\x7b\"type\":\"heartbeat\"\x7d"

/-- A reply to the request 7, up to its data. -/
def replyTextHead : List UInt8 :=
  ascii "\x7b\"type\":\"reply\",\"request_id\":7,\"status\":0,\"data\":"

def replyText : List UInt8 := replyTextHead ++ ascii "\"0a\"\x7d"

def garbledText : List UInt8 := replyTextHead ++ ascii "\"zz\"\x7d"

def heartbeatMessage : Entries := [(.lit "type", .lit "heartbeat")]

def replyMessage (dataHex : String) : Entries :=
  [(.lit "type", .lit "reply"), (.lit "request_id", .int 7), (.lit "status", .int 0),
    (.lit "data", .lit dataHex)]

-- The standard library on these texts.
def workerTexts : Library where
  dumps
    | .dict message =>
      if isType message "heartbeat" then some heartbeatText
      else
        match Model.get message "data" with
        | .str s => if s = text "0a" then some replyText else some garbledText
        | _ => none
    | _ => none
  loads encoded :=
    if encoded = heartbeatText then some (.dict heartbeatMessage)
    else if encoded = replyText then some (.dict (replyMessage "0a"))
    else if encoded = garbledText then some (.dict (replyMessage "zz"))
    else none
  int
    | .int n => some n
    | _ => none

def frameOf (encoded : List UInt8) : List UInt8 := leBytes 4 encoded.length ++ encoded

theorem wellFramed_heartbeat :
    WellFramed workerTexts (.dict heartbeatMessage) (frameOf heartbeatText) :=
  ⟨heartbeatText, rfl, by decide, by decide, rfl⟩

theorem wellFramed_reply : WellFramed workerTexts (.dict (replyMessage "0a")) (frameOf replyText) :=
  ⟨replyText, rfl, by decide, by decide, rfl⟩

theorem wellFramed_garbled :
    WellFramed workerTexts (.dict (replyMessage "zz")) (frameOf garbledText) :=
  ⟨garbledText, rfl, by decide, by decide, rfl⟩

/-- A worker of the device `eeprom0`, just launched. -/
def launchedLink : Link where
  deviceId := text "eeprom0"
  stream := []
  alive := true
  current := true
  status := .running
  reader := .receives
  taken := 0
  objects := fun _ => .fresh []
  made := 0
  table := []
  late := 0

theorem launched_launchedLink : launchedLink.Launched where
  stream := rfl
  taken := rfl
  reader := rfl
  alive := rfl
  status := rfl
  made _ he := by cases he
  answers _ _ hanswer := by cases hanswer

/-- The worker has the request 7. -/
def dispatchedLink : Link :=
  { launchedLink with
    objects := update launchedLink.objects 0 (.fresh (text "eeprom0"))
    made := 1
    table := [(7, 0)] }

theorem exec_dispatched (lib : Library) :
    exec (Link.step lib) launchedLink [.dispatch 7 (text "eeprom0")] = some dispatchedLink :=
  rfl

/-- What is asked of the states before the reply is read. -/
def pendingUntil (acts : List Link.Act) (n : Nat) : Bool :=
  acts.inits.all fun done =>
    match exec (Link.step workerTexts) dispatchedLink done with
    | some between => !decide (between.taken ≤ n) || dictGet between.table 7 == some 0
    | none => true

theorem pending_of_pendingUntil {acts : List Link.Act} (h : pendingUntil acts n = true) :
    ∀ done between, done <+: acts →
      exec (Link.step workerTexts) dispatchedLink done = some between →
      between.taken ≤ n → dictGet between.table 7 = some 0 := by
  intro done between hdone hexec hunread
  have hstate := List.all_eq_true.mp h done ((List.mem_inits done acts).mpr hdone)
  rw [hexec] at hstate
  dsimp only at hstate
  rw [decide_eq_true hunread] at hstate
  exact eq_of_beq hstate

theorem reply_completes_after_heartbeat :
    ∃ t, exec (Link.step workerTexts) dispatchedLink
        [.bytes (frameOf heartbeatText ++ frameOf replyText), .read, .read, .read] = some t ∧
      t.CompletedBy 0 1 ⟨7, 0, [10]⟩ := by
  have hview : (exec (Link.step workerTexts) dispatchedLink
      [.bytes (frameOf heartbeatText ++ frameOf replyText), .read, .read, .read]).map
        (fun t => (t.alive, t.status, (t.read workerTexts).isNone)) =
      some (true, .running, true) := by decide +kernel
  obtain ⟨t, ht, hview⟩ := Option.map_eq_some_iff.mp hview
  obtain ⟨halive, hview⟩ := Prod.mk.inj hview
  obtain ⟨hstatus, hrest⟩ := Prod.mk.inj hview
  refine ⟨t, ht, (reply_completes_iff launched_launchedLink (exec_dispatched _) ht ⟨halive, hstatus⟩
    (Option.isNone_iff_eq_none.mp hrest)
    (.cons wellFramed_heartbeat (.cons wellFramed_reply .nil)) (by decide +kernel) rfl
    (by decide) (by decide +kernel) (Nat.zero_le 1)
    (pending_of_pendingUntil (by decide +kernel))).mpr ?_⟩
  intro value hmem
  rw [List.mem_singleton.mp hmem]
  intro htype
  exact absurd htype (by decide)

/-- A reply whose data is no hexadecimal text ends the reader; the worker runs on. -/
theorem garbled_reply_silences_reader :
    ¬ ∀ (lib : Library) (message : Entries) (k m t : Link) (n o : Nat) (acts acts' : List Link.Act)
      (messages : List Value) (frames : List (List UInt8)) (reply : WorkerReply), k.Launched →
      exec (Link.step lib) k acts = some m → exec (Link.step lib) m acts' = some t →
      t.Running → t.read lib = none → List.Forall₂ (WellFramed lib) messages frames →
      (acts ++ acts').flatMap Link.Act.sent = frames.flatten →
      messages[n]? = some (.dict message) → isType message "reply" = true →
      readReply lib message = .ok reply → m.taken ≤ n →
      (∀ done between, done <+: acts' → exec (Link.step lib) m done = some between →
        between.taken ≤ n → dictGet between.table reply.requestId = some o) →
      t.CompletedBy o n reply := by
  intro h
  have hview : (exec (Link.step workerTexts) dispatchedLink
      [.bytes (frameOf garbledText ++ frameOf replyText), .read]).map
        (fun t => (t.alive, t.status, (t.read workerTexts).isNone, (t.objects 0).done)) =
      some (true, .running, true, false) := by decide +kernel
  obtain ⟨t, ht, hview⟩ := Option.map_eq_some_iff.mp hview
  obtain ⟨halive, hview⟩ := Prod.mk.inj hview
  obtain ⟨hstatus, hview⟩ := Prod.mk.inj hview
  obtain ⟨hrest, hdone⟩ := Prod.mk.inj hview
  have hcompleted := h workerTexts (replyMessage "0a") launchedLink dispatchedLink t 1 0 _ _ _ _
    ⟨7, 0, [10]⟩ launched_launchedLink (exec_dispatched _) ht ⟨halive, hstatus⟩
    (Option.isNone_iff_eq_none.mp hrest) (.cons wellFramed_garbled (.cons wellFramed_reply .nil))
    (by decide +kernel) rfl (by decide) (by decide +kernel) (Nat.zero_le 1)
    (pending_of_pendingUntil (by decide +kernel))
  exact absurd hcompleted.1 (by rw [hdone]; exact Bool.false_ne_true)

end Sensorium.Workers

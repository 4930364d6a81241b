import Sensorium.Rpc.Server

/-!
# What a step of the RPC server can do

One constructor for each branch of the loop and of the workers, with what the branch has tested.
-/

namespace Sensorium.Rpc

open Lib
open Sensorium.Model (Value Entries)

/-! ## Lines -/

namespace Client

/-- The first line of the input buffer. -/
def line (client : Client) : List UInt8 := firstLine newline client.inbuf

/-- The client without its first line. -/
def dropLine (client : Client) : Client :=
  { client with inbuf := remainder newline client.inbuf }

/-- A response queued with its encoding. -/
def respond (client : Client) (r : Response) (bytes : List UInt8) : Client :=
  { client with outbuf := client.outbuf ++ bytes, responses := client.responses ++ [r] }

theorem queueResponse_of_open (client : Client) (r : Response) (h : client.closed = false) :
    client.queueResponse r = r.encode.map fun bytes => client.respond r bytes := by
  rw [queueResponse, if_neg (by simp [h])]
  rfl

/-- The complete lines of the input buffer are taken one by one. -/
inductive Takes (cfg : Config) : Client → Taken → Prop
  | done {client : Client} (h : newline ∉ client.inbuf) : Takes cfg client (.all client)
  | blank {client : Client} {result : Taken} (hmem : newline ∈ client.inbuf)
    (hblank : isBlank client.line = true) (h : Takes cfg client.dropLine result) :
    Takes cfg client result
  | tooLong {client : Client} (hmem : newline ∈ client.inbuf) (hblank : isBlank client.line = false)
    (hlong : cfg.maxRequestBytes < client.line.length) :
    Takes cfg client (.closing client.dropLine .size)
  | malformed {client : Client} {result : Taken} {message : Text} {bytes : List UInt8}
    (hmem : newline ∈ client.inbuf) (hblank : isBlank client.line = false)
    (hfits : client.line.length ≤ cfg.maxRequestBytes)
    (hloads : cfg.loads client.line = .error message)
    (henc : (Response.parseError message).encode = some bytes)
    (h : Takes cfg (client.dropLine.respond (.parseError message) bytes) result) :
    Takes cfg client result
  | overfull {client : Client} {request : Value} (hmem : newline ∈ client.inbuf)
    (hblank : isBlank client.line = false) (hfits : client.line.length ≤ cfg.maxRequestBytes)
    (hloads : cfg.loads client.line = .ok request)
    (hfull : cfg.maxPendingRequests ≤ client.pendingRequests.length) :
    Takes cfg client (.closing client.dropLine .pending)
  | pushed {client : Client} {result : Taken} {request : Value} (hmem : newline ∈ client.inbuf)
    (hblank : isBlank client.line = false) (hfits : client.line.length ≤ cfg.maxRequestBytes)
    (hloads : cfg.loads client.line = .ok request)
    (hfree : client.pendingRequests.length < cfg.maxPendingRequests)
    (h : Takes cfg (client.dropLine.push request) result) : Takes cfg client result

theorem takes_takeLines (cfg : Config) {fuel : Nat} {client : Client}
    (hfuel : client.inbuf.count newline = fuel) (hopen : client.closed = false) :
    Takes cfg client (takeLines cfg fuel client) := by
  induction fuel generalizing client with
  | zero => exact .done (List.count_eq_zero.mp hfuel)
  | succ fuel ih =>
    have hmem : newline ∈ client.inbuf := List.count_pos_iff.mp (by omega)
    have hcount : (remainder newline client.inbuf).count newline = fuel := by
      have hc := count_remainder hmem
      omega
    rw [takeLines, if_pos hmem]
    dsimp only
    split
    · rename_i hblank
      exact .blank hmem hblank (ih hcount hopen)
    · rename_i hblank
      have hblank : isBlank client.line = false := Bool.eq_false_iff.mpr hblank
      split
      · rename_i hlong
        exact .tooLong hmem hblank hlong
      · rename_i hfits
        have hfits : client.line.length ≤ cfg.maxRequestBytes := Nat.le_of_not_lt hfits
        split
        · -- an error response can always be encoded
          rename_i message hloads
          obtain ⟨bytes, henc⟩ :=
            Option.isSome_iff_exists.mp (Response.isSome_encode_parseError message)
          rw [queueResponse_of_open { client with inbuf := remainder newline client.inbuf } _ hopen,
            henc]
          exact .malformed hmem hblank hfits hloads henc (ih hcount hopen)
        · rename_i request hloads
          split
          · rename_i hfull
            exact .overfull hmem hblank hfits hloads hfull
          · rename_i hfree
            exact .pushed hmem hblank hfits hloads (Nat.lt_of_not_le hfree) (ih hcount hopen)

/-- What the three updates of a client keep, the loop over its lines keeps. -/
theorem Takes.invariant {cfg : Config} {I : Client → Prop} {client client' : Client}
    {result : Taken} (h : client.Takes cfg result) (h0 : I client)
    (hdrop : ∀ client : Client, I client → I client.dropLine)
    (hrespond : ∀ (client : Client) (message : Text) (bytes : List UInt8), I client →
      (Response.parseError message).encode = some bytes →
      I (client.respond (.parseError message) bytes))
    (hpush : ∀ (client : Client) (request : Value), I client → I (client.push request))
    (hresult : result = .all client' ∨ ∃ reason, result = .closing client' reason) : I client' := by
  induction h with
  | done =>
    obtain heq | ⟨_, heq⟩ := hresult <;> cases heq
    exact h0
  | blank _ _ _ ih => exact ih (hdrop _ h0) hresult
  | malformed _ _ _ _ henc _ ih => exact ih (hrespond _ _ _ (hdrop _ h0) henc) hresult
  | pushed _ _ _ _ _ _ ih => exact ih (hpush _ _ (hdrop _ h0)) hresult
  | tooLong | overfull =>
    obtain heq | ⟨_, heq⟩ := hresult <;> cases heq
    exact hdrop _ h0

theorem Takes.ne_raises {cfg : Config} {client : Client} {result : Taken}
    (h : Takes cfg client result) : result ≠ .raises := by
  induction h with
  | done | tooLong | overfull => exact fun h => by cases h
  | blank _ _ _ ih => exact ih
  | malformed _ _ _ _ _ _ ih => exact ih
  | pushed _ _ _ _ _ _ ih => exact ih

end Client

/-! ## Branches of the loop -/

/-- The loop is at the key of a client that is still there. -/
structure Server.AtClient (s : Server) (c : Nat) (read write : Bool) (keys : List Key)
    (client : Client) : Prop where
  idle : s.dispatching = none
  pc : s.pc = .events (.client c read write) keys
  here : s.clients[c]? = some client

/-- `_dispatch_pending` has taken a request off the queue of a client. -/
structure Server.Pops (s : Server) (c : Nat) (client : Client) (request : Value)
    (rest : List Value) : Prop where
  dispatching : s.dispatching = some c
  here : s.clients[c]? = some client
  closed : client.closed = false
  inactive : client.activeRequest = false
  unblocked : client.waitingForEvent = none
  pending : client.pendingRequests = request :: rest

/-- `_service_event_waiters` is at a client that waits. -/
structure Server.AtWaiter (s : Server) (now c : Nat) (cs : List Nat) (client : Client)
    (w : Waiter) : Prop where
  idle : s.dispatching = none
  pc : s.pc = .waiters now c cs
  here : s.clients[c]? = some client
  closed : client.closed = false
  waiting : client.waitingForEvent = some w

/-- `_drain_completions` has taken a completion of an open client. -/
structure Server.Drains (s : Server) (c : Nat) (client : Client) (r : Response)
    (rest : List (Nat × Response)) : Prop where
  idle : s.dispatching = none
  pc : s.pc = .drain
  completions : s.completions = (c, r) :: rest
  here : s.clients[c]? = some client
  closed : client.closed = false

def Pc.afterRead (c : Nat) (write : Bool) (keys : List Key) : Pc :=
  if write then .flush c keys else .ofKeys keys

inductive Moves (cfg : Config) (s : Server) : Act → Server → Prop
  | left (hd : s.dispatching = none) (hpc : s.pc = .top) (hstop : s.stop = true) :
    Moves cfg s .leave { s with pc := .returned }
  | selected {keys : List Key} (hd : s.dispatching = none) (hpc : s.pc = .top)
    (hstop : s.stop = false) (hready : s.ready keys = true) :
    Moves cfg s (.select keys) { s with pc := .ofKeys keys }
  | passed {a : Act} {key : Key} {keys : List Key} (hd : s.dispatching = none)
    (hpc : s.pc = .events key keys) : Moves cfg s a { s with pc := .ofKeys keys }
  | toFlush {a : Act} {c : Nat} {read write : Bool} {keys : List Key} {client : Client}
    (hat : s.AtClient c read write keys client) : Moves cfg s a { s with pc := .flush c keys }
  | rejected {keys : List Key} (hd : s.dispatching = none) (hpc : s.pc = .events .server keys)
    (hfull : cfg.maxClients ≤ s.activeClients) : Moves cfg s (.accept (.connected true)) s.raise
  | connected {sendFails : Bool} {keys : List Key} (hd : s.dispatching = none)
    (hpc : s.pc = .events .server keys) (hfree : s.activeClients < cfg.maxClients) :
    Moves cfg s (.accept (.connected sendFails))
      { s with
        clients := s.clients ++ [{}], activeClients := s.activeClients + 1, pc := .ofKeys keys }
  | gone {outcome : Received} {c : Nat} {read write : Bool} {keys : List Key} {client : Client}
    (hat : s.AtClient c read write keys client) (hclosed : client.closed = true) :
    Moves cfg s (.recv outcome) s.raise
  | hungUp {outcome : Received} {c : Nat} {write : Bool} {keys : List Key} {client : Client}
    (hat : s.AtClient c true write keys client) (hopen : client.closed = false) :
    Moves cfg s (.recv outcome) { s.closeClient c client .peer with pc := .ofKeys keys }
  | tooLong {bytes : List UInt8} {c : Nat} {write : Bool} {keys : List Key} {client : Client}
    (hat : s.AtClient c true write keys client) (hopen : client.closed = false)
    (hline : newline ∉ (client.receive bytes).inbuf)
    (hlong : cfg.maxRequestBytes < (client.receive bytes).inbuf.length) :
    Moves cfg s (.recv (.chunk bytes))
      { s.closeClient c (client.receive bytes) .size with pc := .ofKeys keys }
  | refused {bytes : List UInt8} {c : Nat} {write : Bool} {keys : List Key}
    {client client' : Client} {reason : Reason} (hat : s.AtClient c true write keys client)
    (hopen : client.closed = false)
    (htake : (client.receive bytes).Takes cfg (.closing client' reason)) :
    Moves cfg s (.recv (.chunk bytes))
      { s.closeClient c client' reason with pc := .ofKeys keys }
  | took {bytes : List UInt8} {c : Nat} {write : Bool} {keys : List Key}
    {client client' : Client} (hat : s.AtClient c true write keys client)
    (hopen : client.closed = false)
    (hfits : newline ∉ (client.receive bytes).inbuf →
      (client.receive bytes).inbuf.length ≤ cfg.maxRequestBytes)
    (htake : (client.receive bytes).Takes cfg (.all client')) :
    Moves cfg s (.recv (.chunk bytes))
      { s.setClient c client' with pc := .afterRead c write keys, dispatching := some c }
  | unflushed {outcome : Sent} {c : Nat} {keys : List Key} (hd : s.dispatching = none)
    (hpc : s.pc = .flush c keys) : Moves cfg s (.send outcome) { s with pc := .ofKeys keys }
  | unwritable {c : Nat} {keys : List Key} {client : Client} (hd : s.dispatching = none)
    (hpc : s.pc = .flush c keys) (hclient : s.clients[c]? = some client)
    (hopen : client.closed = false) :
    Moves cfg s (.send .failed) { s.closeClient c client .peer with pc := .ofKeys keys }
  | flushed {n c : Nat} {keys : List Key} {client : Client} (hd : s.dispatching = none)
    (hpc : s.pc = .flush c keys) (hclient : s.clients[c]? = some client)
    (hopen : client.closed = false) :
    Moves cfg s (.send (.wrote n))
      { s.setClient c { client with
          outbuf := client.outbuf.drop n
          sent := client.sent ++ client.outbuf.take n } with pc := .ofKeys keys }
  | dispatched {event : Option Value} {now c : Nat} {client : Client}
    (hd : s.dispatching = some c) (hclient : s.clients[c]? = some client)
    (hdone : client.closed = true ∨ client.activeRequest = true ∨
      client.waitingForEvent.isSome = true ∨ client.pendingRequests = []) :
    Moves cfg s (.dispatch event now) { s with dispatching := none }
  | waitRaised {event : Option Value} {now c : Nat} {client : Client} {request : Value}
    {rest : List Value} {es : Entries} (hpop : s.Pops c client request rest)
    (hnext : cfg.nextEvent? request = some es)
    (hbegin : beginNextEventWait cfg es event now = none) :
    Moves cfg s (.dispatch event now)
      (s.setClient c { client with pendingRequests := rest }).raise
  | foundRaised {event : Option Value} {now c : Nat} {client : Client} {request : Value}
    {rest : List Value} {es : Entries} {r : Response} (hpop : s.Pops c client request rest)
    (hnext : cfg.nextEvent? request = some es)
    (hbegin : beginNextEventWait cfg es event now = some (.inl r)) (henc : r.encode = none) :
    Moves cfg s (.dispatch event now)
      (s.setClient c { client with pendingRequests := rest }).raise
  | found {event : Option Value} {now c : Nat} {client : Client} {request : Value}
    {rest : List Value} {es : Entries} {r : Response} {bytes : List UInt8}
    (hpop : s.Pops c client request rest) (hnext : cfg.nextEvent? request = some es)
    (hbegin : beginNextEventWait cfg es event now = some (.inl r)) (henc : r.encode = some bytes) :
    Moves cfg s (.dispatch event now)
      { s.setClient c (({ client with pendingRequests := rest } : Client).respond r bytes) with
        dispatching := none }
  | waits {event : Option Value} {now c : Nat} {client : Client} {request : Value}
    {rest : List Value} {es : Entries} {w : Waiter} (hpop : s.Pops c client request rest)
    (hnext : cfg.nextEvent? request = some es)
    (hbegin : beginNextEventWait cfg es event now = some (.inr w)) :
    Moves cfg s (.dispatch event now)
      { s.setClient c { client with pendingRequests := rest, waitingForEvent := some w } with
        dispatching := none }
  | full {event : Option Value} {now c : Nat} {client : Client} {request : Value}
    {rest : List Value} {bytes : List UInt8} (hpop : s.Pops c client request rest)
    (hnext : cfg.nextEvent? request = none) (hslots : s.freeSlots = 0)
    (henc : Response.busy.encode = some bytes) :
    Moves cfg s (.dispatch event now)
      (s.setClient c (({ client with pendingRequests := rest } : Client).respond .busy bytes))
  | submitted {event : Option Value} {now c : Nat} {client : Client} {request : Value}
    {rest : List Value} (hpop : s.Pops c client request rest)
    (hnext : cfg.nextEvent? request = none) (hslots : s.freeSlots ≠ 0) :
    Moves cfg s (.dispatch event now)
      { s.setClient c { client with
          pendingRequests := rest, activeRequest := true, running := some request } with
        freeSlots := s.freeSlots - 1
        jobs := s.jobs ++ [⟨c, request, none⟩] }
  | drained {now : Nat} (hd : s.dispatching = none) (hpc : s.pc = .drain)
    (hempty : s.completions = []) :
    Moves cfg s (.drain now) { s with pc := .ofWaiters now s.openClients }
  | discarded {now c : Nat} {r : Response} {rest : List (Nat × Response)}
    (hd : s.dispatching = none) (hpc : s.pc = .drain) (hcomp : s.completions = (c, r) :: rest)
    (hclosed : ∀ client, s.clients[c]? = some client → client.closed = true) :
    Moves cfg s (.drain now) { s with completions := rest }
  | drainRaised {now c : Nat} {client : Client} {r : Response} {rest : List (Nat × Response)}
    (hdrain : s.Drains c client r rest) (henc : r.encode = none) :
    Moves cfg s (.drain now)
      { s.setClient c { client with activeRequest := false, running := none } with
        completions := rest, pc := .raised, dispatching := none }
  | answered {now c : Nat} {client : Client} {r : Response} {rest : List (Nat × Response)}
    {bytes : List UInt8} (hdrain : s.Drains c client r rest) (henc : r.encode = some bytes) :
    Moves cfg s (.drain now)
      { s.setClient c
          (({ client with activeRequest := false, running := none } : Client).respond r bytes) with
        completions := rest, dispatching := some c }
  | skipped {event : Option Value} {now c : Nat} {cs : List Nat} (hd : s.dispatching = none)
    (hpc : s.pc = .waiters now c cs) :
    Moves cfg s (.poll event) { s with pc := .ofWaiters now cs }
  | pollRaised {event : Option Value} {now c : Nat} {cs : List Nat} {client : Client} {w : Waiter}
    (hat : s.AtWaiter now c cs client w) (hdue : (event.isSome || w.expired now) = true)
    (henc : (Response.event w.request event).encode = none) :
    Moves cfg s (.poll event) (s.setClient c { client with waitingForEvent := none }).raise
  | polled {event : Option Value} {now c : Nat} {cs : List Nat} {client : Client} {w : Waiter}
    {bytes : List UInt8} (hat : s.AtWaiter now c cs client w)
    (hdue : (event.isSome || w.expired now) = true)
    (henc : (Response.event w.request event).encode = some bytes) :
    Moves cfg s (.poll event)
      { s.setClient c
          (({ client with waitingForEvent := none } : Client).respond (.event w.request event) bytes)
        with pc := .ofWaiters now cs, dispatching := some c }
  | finished {j c : Nat} {request : Value} {outcome : Except Text Value}
    (hjob : s.jobs[j]? = some ⟨c, request, none⟩) :
    Moves cfg s (.finish j outcome)
      { s with
        jobs := s.jobs.set j ⟨c, request, some (.ran request outcome)⟩
        freeSlots := s.freeSlots + 1 }
  | completed {j c : Nat} {request : Value} {r : Response}
    (hjob : s.jobs[j]? = some ⟨c, request, some r⟩) :
    Moves cfg s (.complete j)
      { s with jobs := s.jobs.eraseIdx j, completions := s.completions ++ [(c, r)] }
  | unmodified {c : Nat} {client : Client} (hrun : s.pc.ended = false)
    (hserved : c ∉ s.pc.unserved) (hclient : s.clients[c]? = some client)
    (hopen : client.closed = false) :
    Moves cfg s (.modifyFails c) (s.closeClient c client .peer)
  | shutDown : Moves cfg s .shutdown { s with stop := true }
  | serverClosed (hpc : s.pc.ended = true) :
    Moves cfg s .serverClose { s.closeAll with stop := true }

/-! ## Inversion -/

variable {cfg : Config} {s t : Server}

namespace Server

theorem moves_accept {outcome : Accepted} {keys : List Key} (hd : s.dispatching = none)
    (hpc : s.pc = .events .server keys) :
    Moves cfg s (.accept outcome) (acceptClient cfg s outcome (.ofKeys keys)) := by
  unfold acceptClient
  cases outcome with
  | failed => exact .passed hd hpc
  | connected sendFails =>
    dsimp only
    split
    · rename_i hfull
      cases sendFails with
      | true => exact .rejected hd hpc hfull
      | false => exact .passed hd hpc
    · rename_i hfull
      exact .connected hd hpc (Nat.lt_of_not_le hfull)

theorem moves_after {a : Act} {c : Nat} {read write : Bool} {keys : List Key} {client : Client}
    (hat : s.AtClient c read write keys client) :
    Moves cfg s a { s with pc := .afterRead c write keys } := by
  unfold Pc.afterRead
  cases write with
  | true => exact .toFlush hat
  | false => exact .passed hat.idle hat.pc

theorem moves_read {outcome : Received} {c : Nat} {write : Bool} {keys : List Key}
    {client : Client} (hat : s.AtClient c true write keys client) (hopen : client.closed = false) :
    Moves cfg s (.recv outcome)
      (readClient cfg s c client outcome (.ofKeys keys) (.afterRead c write keys)) := by
  unfold readClient
  split
  · exact moves_after hat
  · exact .hungUp hat hopen
  · exact .hungUp hat hopen
  · rename_i bytes _
    dsimp only
    split
    · rename_i hlong
      exact .tooLong hat hopen hlong.1 hlong.2
    · rename_i hfits
      have htake : (client.receive bytes).Takes cfg _ := Client.takes_takeLines cfg rfl hopen
      split
      · rename_i client' hall
        exact .took hat hopen (fun hline => Nat.le_of_not_lt fun hlong => hfits ⟨hline, hlong⟩)
          (hall ▸ htake)
      · rename_i client' reason hclosing
        exact .refused hat hopen (hclosing ▸ htake)
      · rename_i hraises
        exact absurd hraises htake.ne_raises

theorem moves_service {outcome : Received} {c : Nat} {read write : Bool} {keys : List Key}
    {client : Client} (hat : s.AtClient c read write keys client) :
    Moves cfg s (.recv outcome) (serviceClient cfg s c read write client outcome keys) := by
  unfold serviceClient
  dsimp only
  split
  · rename_i hclosed
    exact .gone hat hclosed
  · rename_i hopen
    cases read with
    | true => exact moves_read hat (by simpa using hopen)
    | false => exact moves_after hat

theorem moves_flush {outcome : Sent} {c : Nat} {keys : List Key} {client : Client}
    (hd : s.dispatching = none) (hpc : s.pc = .flush c keys)
    (hclient : s.clients[c]? = some client) :
    Moves cfg s (.send outcome) (s.flushWrites c client outcome (.ofKeys keys)) := by
  unfold flushWrites
  split
  · exact .unflushed hd hpc
  · rename_i hbusy
    have hopen : client.closed = false := by
      simp only [Bool.or_eq_true, not_or, Bool.not_eq_true] at hbusy
      exact hbusy.1
    cases outcome with
    | blocking => exact .unflushed hd hpc
    | failed => exact .unwritable hd hpc hclient hopen
    | wrote n => exact .flushed hd hpc hclient hopen

theorem moves_dispatch {event : Option Value} {now c : Nat} {client : Client}
    (hd : s.dispatching = some c) (hclient : s.clients[c]? = some client) :
    Moves cfg s (.dispatch event now) (dispatchPending cfg s c client event now) := by
  unfold dispatchPending
  split
  · rename_i hbusy
    refine .dispatched hd hclient ?_
    simp only [Bool.or_eq_true] at hbusy
    rcases hbusy with (hclosed | hactive) | hwaiting
    · exact .inl hclosed
    · exact .inr (.inl hactive)
    · exact .inr (.inr (.inl hwaiting))
  · rename_i hidle
    simp only [Bool.or_eq_true, not_or, Bool.not_eq_true, Option.isSome_eq_false_iff,
      Option.isNone_iff_eq_none] at hidle
    obtain ⟨⟨hclosed, hinactive⟩, hunblocked⟩ := hidle
    cases hpending : client.pendingRequests with
    | nil => exact .dispatched hd hclient (by simp [hpending])
    | cons request rest =>
      have hpop : s.Pops c client request rest :=
        ⟨hd, hclient, hclosed, hinactive, hunblocked, hpending⟩
      dsimp only
      cases hnext : cfg.nextEvent? request with
      | some es =>
        dsimp only
        cases hbegin : beginNextEventWait cfg es event now with
        | none => exact .waitRaised hpop hnext hbegin
        | some result =>
          cases result with
          | inl r =>
            dsimp only
            rw [Client.queueResponse_of_open { client with pendingRequests := rest } _ hclosed]
            cases henc : r.encode with
            | none => exact .foundRaised hpop hnext hbegin henc
            | some bytes => exact (Moves.found hpop hnext hbegin henc :)
          | inr w => exact .waits hpop hnext hbegin
      | none =>
        dsimp only
        split
        · rename_i hslots
          rw [Client.queueResponse_of_open { client with pendingRequests := rest } _ hclosed]
          obtain ⟨bytes, henc⟩ := Option.isSome_iff_exists.mp Response.isSome_encode_busy
          rw [henc]
          exact (Moves.full hpop hnext hslots henc :)
        · rename_i hslots
          exact .submitted hpop hnext hslots

theorem moves_drain {now : Nat} (hd : s.dispatching = none) (hpc : s.pc = .drain) :
    Moves cfg s (.drain now) (s.drainCompletions now) := by
  unfold drainCompletions
  split
  · rename_i hcomp
    exact .drained hd hpc hcomp
  · rename_i c r rest hcomp
    dsimp only
    cases hclient : s.clients[c]? with
    | none => exact .discarded hd hpc hcomp (fun client h => by rw [hclient] at h; cases h)
    | some client =>
      dsimp only
      split
      · rename_i hclosed
        refine .discarded hd hpc hcomp fun other h => ?_
        rw [hclient] at h
        exact Option.some.inj h ▸ hclosed
      · rename_i hopen
        have hclosed : client.closed = false := by simpa using hopen
        have hdrain : s.Drains c client r rest := ⟨hd, hpc, hcomp, hclient, hclosed⟩
        rw [Client.queueResponse_of_open
          { client with activeRequest := false, running := none } _ hclosed]
        cases henc : r.encode with
        | none => exact .drainRaised hdrain henc
        | some bytes => exact (Moves.answered hdrain henc :)

theorem moves_poll {event : Option Value} {now c : Nat} {cs : List Nat} {client : Client}
    (hd : s.dispatching = none) (hpc : s.pc = .waiters now c cs)
    (hclient : s.clients[c]? = some client) :
    Moves cfg s (.poll event) (s.serviceWaiter now c client event (.ofWaiters now cs)) := by
  unfold serviceWaiter
  split
  · exact .skipped hd hpc
  · rename_i hopen
    have hclosed : client.closed = false := by simpa using hopen
    cases hwait : client.waitingForEvent with
    | none => exact .skipped hd hpc
    | some w =>
      dsimp only
      split
      · rename_i hdue
        have hat : s.AtWaiter now c cs client w := ⟨hd, hpc, hclient, hclosed, hwait⟩
        rw [Client.queueResponse_of_open { client with waitingForEvent := none } _ hclosed]
        cases henc : (Response.event w.request event).encode with
        | none => exact .pollRaised hat hdue henc
        | some bytes => exact (Moves.polled hat hdue henc :)
      · exact .skipped hd hpc

theorem moves_loop {a : Act} (hd : s.dispatching = none) (h : loop cfg s s.pc a = some t) :
    Moves cfg s a t := by
  generalize hpc : s.pc = pc at h
  unfold loop at h
  split at h
  · rw [Option.ite_none_right_eq_some] at h
    obtain ⟨hstop, h⟩ := h
    cases h
    exact .left hd hpc hstop
  · rw [Option.ite_none_right_eq_some, Bool.and_eq_true, Bool.not_eq_true'] at h
    obtain ⟨⟨hstop, hready⟩, h⟩ := h
    cases h
    exact .selected hd hpc hstop hready
  · cases h
    exact moves_accept hd hpc
  · cases h
    exact .passed hd hpc
  · obtain ⟨client, hclient, h⟩ := Option.map_eq_some_iff.mp h
    cases h
    exact moves_service ⟨hd, hpc, hclient⟩
  · obtain ⟨client, hclient, h⟩ := Option.map_eq_some_iff.mp h
    cases h
    exact moves_flush hd hpc hclient
  · cases h
    exact moves_drain hd hpc
  · obtain ⟨client, hclient, h⟩ := Option.map_eq_some_iff.mp h
    cases h
    exact moves_poll hd hpc hclient
  · cases h

end Server

theorem moves_of_step {a : Act} (h : step cfg s a = some t) : Moves cfg s a t := by
  unfold step at h
  split at h
  · rename_i j outcome
    unfold Server.finishJob at h
    split at h
    · rename_i c request hjob
      cases h
      exact .finished hjob
    · cases h
  · rename_i j
    unfold Server.completeJob at h
    split at h
    · rename_i c request r hjob
      cases h
      exact .completed hjob
    · cases h
  · rename_i c
    unfold Server.modifyFails at h
    split at h
    · cases h
    · rename_i client hclient
      rw [Option.ite_none_right_eq_some] at h
      simp only [Bool.and_eq_true, Bool.not_eq_true', decide_eq_true_eq] at h
      obtain ⟨⟨⟨hrun, hopen⟩, hserved⟩, h⟩ := h
      cases h
      exact .unmodified hrun hserved hclient hopen
  · cases h
    exact .shutDown
  · rw [Option.ite_none_right_eq_some] at h
    obtain ⟨hpc, h⟩ := h
    cases h
    exact .serverClosed hpc
  · split at h
    · rename_i c event now hd _ _ _ _ _
      obtain ⟨client, hclient, h⟩ := Option.map_eq_some_iff.mp h
      cases h
      exact Server.moves_dispatch hd hclient
    · rename_i hd _ _ _ _ _
      exact Server.moves_loop hd h
    · cases h

/-! ## New and closed clients -/

theorem getElem?_concat_cases {α : Type*} {xs : List α} {x y : α} {i : Nat}
    (h : (xs ++ [x])[i]? = some y) : xs[i]? = some y ∨ i = xs.length ∧ y = x := by
  rw [List.getElem?_append] at h
  split at h
  · exact .inl h
  · rename_i hge
    obtain ⟨hi, rfl⟩ := List.getElem?_eq_some_iff.mp h
    rw [List.length_singleton] at hi
    exact .inr ⟨by omega, List.mem_singleton.mp (List.getElem_mem hi)⟩

theorem getElem?_closeClient {c d : Nat} {client client' other : Client} {reason : Reason}
    (hclient : s.clients[c]? = some client)
    (h : (s.closeClient c client' reason).clients[d]? = some other) :
    s.clients[d]? = some other ∨
      d = c ∧ client'.closed = false ∧ other = client'.close reason := by
  unfold Server.closeClient at h
  split at h
  · exact .inl h
  · rename_i hopen
    rcases getElem?_set_cases h with ⟨rfl, rfl⟩ | ⟨_, h⟩
    · exact .inr ⟨rfl, by simpa using hopen, rfl⟩
    · exact .inl h

theorem getElem?_closeAll {d : Nat} {other : Client} (h : s.closeAll.clients[d]? = some other) :
    s.clients[d]? = some other ∨
      ∃ client, s.clients[d]? = some client ∧ client.closed = false ∧
        other = client.close .shutdown := by
  refine List.foldlRecOn s.openClients _
    (motive := fun t : Server => ∀ d other, t.clients[d]? = some other →
      s.clients[d]? = some other ∨ ∃ client, s.clients[d]? = some client ∧
        client.closed = false ∧ other = client.close .shutdown)
    (fun _ _ h => .inl h) (fun t ht c _ => ?_) d other h
  intro d other h
  split at h
  · exact ht d other h
  · rename_i client hclient
    rcases getElem?_closeClient hclient h with h | ⟨rfl, hopen, rfl⟩
    · exact ht d other h
    · rcases ht d client hclient with hold | ⟨older, hold, _, rfl⟩
      · exact .inr ⟨client, hold, hopen, rfl⟩
      · cases hopen

theorem pc_closeClient (s : Server) (c : Nat) (client : Client) (reason : Reason) :
    (s.closeClient c client reason).pc = s.pc := by
  unfold Server.closeClient
  split <;> rfl

theorem dispatching_closeClient (s : Server) (c : Nat) (client : Client) (reason : Reason) :
    (s.closeClient c client reason).dispatching = s.dispatching := by
  unfold Server.closeClient
  split <;> rfl

theorem closeAll_eq (s : Server) : ∃ clients n,
    s.closeAll = { s with clients := clients, activeClients := n } := by
  refine List.foldlRecOn s.openClients _
    (motive := fun t : Server => ∃ clients n, t = { s with clients := clients, activeClients := n })
    ⟨_, _, rfl⟩ fun t ht c _ => ?_
  obtain ⟨clients, n, rfl⟩ := ht
  split
  · exact ⟨_, _, rfl⟩
  · unfold Server.closeClient
    split <;> exact ⟨_, _, rfl⟩

theorem pc_closeAll (s : Server) : s.closeAll.pc = s.pc := by
  obtain ⟨clients, n, heq⟩ := closeAll_eq s
  rw [heq]

theorem dispatching_closeAll (s : Server) : s.closeAll.dispatching = s.dispatching := by
  obtain ⟨clients, n, heq⟩ := closeAll_eq s
  rw [heq]

end Sensorium.Rpc

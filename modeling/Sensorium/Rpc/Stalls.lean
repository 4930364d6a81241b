import Sensorium.Rpc.Survival

/-!
# Queues that nobody works on

`_dispatch_pending` returns after a `backend.next_event` request, also where the event was there and
the request is answered.  Requests behind it then stay in the queue, and neither a completion nor a
waiter of the client is left to start them.
-/

namespace Sensorium.Rpc

open Lib
open Sensorium.Model (Value Entries)

namespace Server

variable (s : Server)

/-- The queue behind the request that `_dispatch_pending` takes. -/
def behind : List Value :=
  match s.dispatching.bind fun c => s.clients[c]? with
  | none => []
  | some client => client.pendingRequests.tail

/-- An open client with queued requests executes one, waits for an event, or is being dispatched. -/
def AttendedAt (c : Nat) (client : Client) : Prop :=
  client.closed = true ∨ client.pendingRequests = [] ∨ client.activeRequest = true ∨
    client.waitingForEvent.isSome = true ∨ s.dispatching = some c

def Attended : Prop :=
  s.pc.hasRaised = false → ∀ c client, s.clients[c]? = some client → s.AttendedAt c client

/-- The loop is at its test, with nothing left to dispatch. -/
def betweenIterations : Prop := s.pc = .top ∧ s.dispatching = none

instance : Decidable s.betweenIterations := inferInstanceAs (Decidable (_ ∧ _))

end Server

/-- A `backend.next_event` request whose event is there is the last one of its queue. -/
def unhurried (cfg : Config) (s : Server) : Act → Prop
  | .dispatch event _ =>
    ∀ e ∈ event, ∀ request ∈ s.nextRequest, ∀ es ∈ cfg.nextEvent? request,
      cfg.acceptsWait es = true → (Response.event es (some e)).encode.isSome = true → s.behind = []
  | _ => True

instance (cfg : Config) (s : Server) : (a : Act) → Decidable (unhurried cfg s a)
  | .dispatch event _ =>
    inferInstanceAs (Decidable (∀ e ∈ event, ∀ request ∈ s.nextRequest,
      ∀ es ∈ cfg.nextEvent? request, cfg.acceptsWait es = true →
        (Response.event es (some e)).encode.isSome = true → s.behind = []))
  | .leave | .select _ | .accept _ | .drainWake | .recv _ | .send _ | .drain _ | .poll _
  | .finish _ _ | .complete _ | .modifyFails _ | .shutdown | .serverClose => .isTrue trivial

namespace Server

variable {cfg : Config} {s t : Server} {c : Nat} {client client' : Client}

theorem Pops.behind_eq {request : Value} {rest : List Value} (h : s.Pops c client request rest) :
    s.behind = rest := by
  rw [behind, h.dispatching, Option.bind_some, h.here]
  dsimp only
  rw [h.pending, List.tail_cons]

/-! ## Steps -/

theorem set_of_getElem? (h : s.clients[c]? = some client) : s.clients.set c client = s.clients := by
  obtain ⟨hc, rfl⟩ := List.getElem?_eq_some_iff.mp h
  exact List.set_getElem_self hc

theorem AttendedAt.congr {d : Nat} (h : s.AttendedAt d client)
    (hd : s.dispatching = some d → t.dispatching = some d) : t.AttendedAt d client := by
  rcases h with h | h | h | h | h
  · exact .inl h
  · exact .inr (.inl h)
  · exact .inr (.inr (.inl h))
  · exact .inr (.inr (.inr (.inl h)))
  · exact .inr (.inr (.inr (.inr (hd h))))

namespace Attended

theorem of_clients (h : s.Attended) (hc : t.clients = s.clients) (hrun : s.pc.hasRaised = false)
    (hd : t.dispatching = s.dispatching) : t.Attended := by
  intro _ d other hother
  rw [hc] at hother
  exact (h hrun d other hother).congr (fun heq => hd.trans heq)

theorem set (h : s.Attended) (hc : t.clients = s.clients.set c client')
    (hrun : s.pc.hasRaised = false) (hself : t.AttendedAt c client')
    (hd : s.dispatching = none ∨ s.dispatching = some c) : t.Attended := by
  intro _ d other hother
  rw [hc] at hother
  rcases getElem?_set_cases hother with ⟨rfl, rfl⟩ | ⟨hne, hother⟩
  · exact hself
  · refine (h hrun d other hother).congr fun heq => ?_
    -- no client other than the one that changes is being dispatched
    rcases hd with hd | hd <;> rw [hd] at heq <;> cases heq
    exact absurd rfl hne

theorem of_raised (hraised : t.pc.hasRaised = true) : t.Attended := by
  intro hrun
  rw [hrun] at hraised
  cases hraised

/-- A client is closed, and what is dispatched stays so. -/
theorem close (h : s.Attended) (hclient : s.clients[c]? = some client) {reason : Reason}
    (hc : t.clients = (s.closeClient c client' reason).clients) (hrun : s.pc.hasRaised = false)
    (hd : s.dispatching = none ∨ t.dispatching = s.dispatching) : t.Attended := by
  intro _ d other hother
  rw [hc] at hother
  rcases getElem?_closeClient hclient hother with hold | ⟨_, _, rfl⟩
  · refine (h hrun d other hold).congr fun heq => ?_
    rcases hd with hidle | hsame
    · rw [hidle] at heq
      cases heq
    · exact hsame.trans heq
  · exact .inl rfl

theorem moves {a : Act} (h : s.Attended) (hhalts : s.Halts) (hok : unhurried cfg s a)
    (hmove : Moves cfg s a t) : t.Attended := by
  cases hmove with
  | left _ hpc | selected _ hpc | passed _ hpc | unflushed _ hpc | drained _ hpc
  | discarded _ hpc | skipped _ hpc =>
    exact h.of_clients rfl (hasRaised_eq hpc rfl) rfl
  | toFlush hat => exact h.of_clients rfl (hasRaised_eq hat.pc rfl) rfl
  | rejected | gone | waitRaised | foundRaised | drainRaised | pollRaised => exact of_raised rfl
  | connected _ hpc =>
    intro _ d other hother
    rcases getElem?_concat_cases hother with hold | ⟨_, rfl⟩
    · exact h (hasRaised_eq hpc rfl) d other hold
    · exact .inr (.inl rfl)
  | hungUp hat | tooLong hat | refused hat =>
    exact h.close hat.here rfl (hasRaised_eq hat.pc rfl) (.inl hat.idle)
  | took hat =>
    exact h.set rfl (hasRaised_eq hat.pc rfl) (.inr (.inr (.inr (.inr rfl)))) (.inl hat.idle)
  | unwritable hd hpc hclient => exact h.close hclient rfl (hasRaised_eq hpc rfl) (.inl hd)
  | unmodified hrun _ hclient =>
    exact h.close hclient rfl (hasRaised_of_not_ended hrun)
      (.inr (dispatching_closeClient _ _ _ _))
  | flushed hd hpc hclient =>
    refine h.set rfl (hasRaised_eq hpc rfl) ?_ (.inl hd)
    have hold := h (hasRaised_eq hpc rfl) _ _ hclient
    exact hold
  | dispatched hd hclient hdone =>
    refine h.set (set_of_getElem? hclient).symm (hhalts.running hd) ?_ (.inr hd)
    rcases hdone with hclosed | hactive | hwaiting | hempty
    · exact .inl hclosed
    · exact .inr (.inr (.inl hactive))
    · exact .inr (.inr (.inr (.inl hwaiting)))
    · exact .inr (.inl hempty)
  | found hpop hnext hbegin henc =>
    refine h.set rfl (hhalts.running hpop.dispatching) (.inr (.inl ?_)) (.inr hpop.dispatching)
    -- the request was the last one of its queue
    rcases beginNextEventWait_eq_some hbegin with ⟨e, rfl, hr⟩ | ⟨_, _, hr, _⟩
    · cases hr
      have haccepts := isSome_beginNextEventWait cfg _ _ _ ▸ congrArg Option.isSome hbegin
      have hlast := hok e rfl _ hpop.nextRequest _ hnext haccepts (henc ▸ rfl)
      rwa [hpop.behind_eq] at hlast
    · cases hr
  | waits hpop =>
    exact h.set rfl (hhalts.running hpop.dispatching) (.inr (.inr (.inr (.inl rfl))))
      (.inr hpop.dispatching)
  | full hpop =>
    exact h.set rfl (hhalts.running hpop.dispatching)
      (.inr (.inr (.inr (.inr hpop.dispatching)))) (.inr hpop.dispatching)
  | submitted hpop =>
    exact h.set rfl (hhalts.running hpop.dispatching) (.inr (.inr (.inl rfl)))
      (.inr hpop.dispatching)
  | answered hdrain =>
    exact h.set rfl (hasRaised_eq hdrain.pc rfl) (.inr (.inr (.inr (.inr rfl)))) (.inl hdrain.idle)
  | polled hat =>
    exact h.set rfl (hasRaised_eq hat.pc rfl) (.inr (.inr (.inr (.inr rfl)))) (.inl hat.idle)
  | finished | completed | shutDown => exact h
  | serverClosed hpc =>
    intro hrun d other hother
    rcases getElem?_closeAll hother with hold | ⟨_, _, _, rfl⟩
    · rw [pc_closeAll] at hrun
      refine (h hrun d other hold).congr fun hd => ?_
      rw [← hd]
      exact dispatching_closeAll s
    · exact .inl rfl

theorem reach (hr : Reach (step cfg) (unhurried cfg) cfg.initial s) : s.Attended := by
  refine Reach.invariant_of_reach (I := Attended) (fun _ _ _ h => by cases h) ?_ hr
  intro s a t hr h hok hs
  exact h.moves (Halts.reach hr) hok (moves_of_step hs)

end Attended

/-! ## Steps that stall a client -/

theorem dispatchPending_found {event : Option Value} {now : Nat} {request : Value}
    {rest : List Value} {es : Entries} {r : Response} {bytes : List UInt8}
    (hpop : s.Pops c client request rest) (hnext : cfg.nextEvent? request = some es)
    (hbegin : beginNextEventWait cfg es event now = some (.inl r)) (henc : r.encode = some bytes) :
    dispatchPending cfg s c client event now =
      { s.setClient c (({ client with pendingRequests := rest } : Client).respond r bytes) with
        dispatching := none } := by
  rw [dispatchPending, if_neg (by simp [hpop.closed, hpop.inactive, hpop.unblocked])]
  simp only [hpop.pending, hnext, hbegin]
  rw [Client.queueResponse_of_open { client with pendingRequests := rest } _ hpop.closed, henc]
  rfl

/-- An event answered before the end of the queue leaves the rest of the queue to nobody. -/
theorem not_attended_of_hurried (h : s.Halts) {a : Act} (hn : ¬unhurried cfg s a)
    (hs : step cfg s a = some t) : ¬t.Attended := by
  cases a with
  | dispatch event now =>
    simp only [unhurried, not_forall] at hn
    obtain ⟨e, he, request, hrequest, es, hnext, haccepts, henc, hbehind⟩ := hn
    cases he
    obtain ⟨c, client, rest, hpop⟩ := nextRequest_eq_some hrequest
    obtain ⟨bytes, henc⟩ := Option.isSome_iff_exists.mp henc
    rw [hpop.behind_eq] at hbehind
    have hbegin : beginNextEventWait cfg es (some e) now = some (.inl (.event es (some e))) := by
      rw [← isSome_beginNextEventWait cfg es (some e) now] at haccepts
      obtain ⟨result, hresult⟩ := Option.isSome_iff_exists.mp haccepts
      rcases beginNextEventWait_eq_some hresult with ⟨_, he, rfl⟩ | ⟨he, _⟩
      · cases he
        exact hresult
      · cases he
    rw [eq_of_step_dispatch hs hpop, dispatchPending_found hpop hnext hbegin henc]
    intro hattended
    have hself := hattended (h.running hpop.dispatching) c _ (getElem?_set_of_eq hpop.here _)
    simp [AttendedAt, Client.respond, hpop.closed, hpop.inactive, hpop.unblocked, hbehind] at hself
  | leave | select | accept | drainWake | recv | send | drain | poll | finish | complete
  | modifyFails | shutdown | serverClose => exact absurd trivial hn

end Server

/-- In a run in which an event is found only for the last request of a queue, after every iteration
each open client with queued requests executes one or waits for an event, and in each state the next
step leaves every queue attended if and only if it keeps to this. -/
theorem no_client_stalls {cfg : Config} {s : Server}
    (hr : Reach (step cfg) (unhurried cfg) cfg.initial s) :
    (s.betweenIterations → ∀ client ∈ s.clients, client.closed = false →
      client.pendingRequests ≠ [] →
        client.activeRequest = true ∨ client.waitingForEvent.isSome = true) ∧
    ∀ a t, step cfg s a = some t → (t.Attended ↔ unhurried cfg s a) := by
  have h := Server.Attended.reach hr
  refine ⟨?_, fun a t hs => ⟨fun hattended => ?_, fun hok => ?_⟩⟩
  · rintro ⟨hpc, hd⟩ client hmem hopen hqueued
    obtain ⟨c, hclient⟩ := List.getElem?_of_mem hmem
    rcases h (Server.hasRaised_eq hpc rfl) c client hclient with h | h | h | h | h
    · rw [hopen] at h
      cases h
    · exact absurd h hqueued
    · exact .inl h
    · exact .inr h
    · rw [hd] at h
      cases h
  · by_contra hn
    exact Server.not_attended_of_hurried (Server.Halts.reach hr) hn hs hattended
  · exact h.moves (Server.Halts.reach hr) hok (moves_of_step hs)

/-- Of two pipelined requests the first is executed while the second waits in the queue. -/
theorem no_client_stalls_pipelined : ∃ s : Server, ∃ client ∈ s.clients,
    client.pendingRequests ≠ [] ∧
    (client.activeRequest = true ∨ client.waitingForEvent.isSome = true) := by
  have hrun : (exec (guarded (step .small) (unhurried .small)) Config.small.initial
      (connecting ++ sending 0 (call "status" ++ [newline] ++ call "status" ++ [newline]) ++
        [.dispatch none 0, .dispatch none 0, .drain 0, .poll none])).map
      (fun s => decide s.betweenIterations &&
        s.clients.any fun client => !client.closed && !client.pendingRequests.isEmpty) =
      some true := by
    decide +kernel
  obtain ⟨s, hs, hview⟩ := Option.map_eq_some_iff.mp hrun
  rw [Bool.and_eq_true, decide_eq_true_eq, List.any_eq_true] at hview
  obtain ⟨hbetween, client, hmem, hclient⟩ := hview
  have hopen : client.closed = false ∧ client.pendingRequests ≠ [] := by simpa using hclient
  exact ⟨s, client, hmem, hopen.2,
    (no_client_stalls (reach_of_exec hs)).1 hbetween client hmem hopen.1 hopen.2⟩

/-- A `backend.next_event` request whose event is there, and one more request behind it: the loop
is at its next iteration and nothing is left to start the second request. -/
theorem client_stalls : ∃ s : Server, Reach (step .small) anyStep Config.small.initial s ∧
    s.betweenIterations ∧ ∃ client ∈ s.clients, client.closed = false ∧
      client.pendingRequests.length = 1 ∧ client.activeRequest = false ∧
      client.waitingForEvent = none := by
  have hrun : (exec (guarded (step .small) anyStep) Config.small.initial
      (connecting ++ sending 0
        (call "backend.next_event" ++ [newline] ++ call "status" ++ [newline]) ++
        [.dispatch (some .null) 0, .drain 0, .poll none])).map
      (fun s => decide s.betweenIterations &&
        s.clients.any fun client => !client.closed && decide (client.pendingRequests.length = 1) &&
          !client.activeRequest && client.waitingForEvent.isNone) = some true := by
    decide +kernel
  obtain ⟨s, hs, hview⟩ := Option.map_eq_some_iff.mp hrun
  rw [Bool.and_eq_true, decide_eq_true_eq, List.any_eq_true] at hview
  obtain ⟨hbetween, client, hmem, hclient⟩ := hview
  refine ⟨s, reach_of_exec hs, hbetween, client, hmem, ?_⟩
  simpa [and_assoc] using hclient

end Sensorium.Rpc

import Sensorium.Rpc.Clients

/-!
# What ends the event loop

The requests of the workers raise in the workers, but the loop itself rejects clients, reads the
parameters of `backend.next_event` and encodes responses.  An exception there leaves `serve_forever`
and takes every client with it.  The loop survives exactly the steps in which none of these raises.
-/

namespace Sensorium.Rpc

open Lib
open Sensorium.Model (Value Entries)

/-- The parameters are a mapping with a hashable backend id and a timeout that `float` takes. -/
def Config.acceptsWait (cfg : Config) (request : Entries) : Bool :=
  match Model.getD request "params" (.dict []) with
  | .dict params =>
    (cfg.timeout (Model.getD params "timeout" (.float (text "30.0")))).isSome &&
      (Model.get params "backend_id").hashable
  | _ => false

namespace Server

variable (s : Server)

/-- The request that `_dispatch_pending` takes off its queue. -/
def nextRequest : Option Value :=
  (s.dispatching.bind fun c => s.clients[c]?).bind fun client =>
    if client.closed || client.activeRequest || client.waitingForEvent.isSome then none
    else client.pendingRequests.head?

/-- The response of an open client that `_drain_completions` takes off the queue. -/
def nextCompletion : Option Response :=
  s.completions.head?.bind fun p => if s.isOpen p.1 then some p.2 else none

/-- The waiter that `_service_event_waiters` looks at, with the time it has read. -/
def nextWaiter : Option (Nat × Waiter) :=
  match s.pc with
  | .waiters now c _ =>
    (s.clients[c]?.bind fun client =>
      if client.closed then none else client.waitingForEvent).map fun w => (now, w)
  | _ => none

end Server

/-- Nothing that the loop does itself raises: a client that is turned away still reads, a
`backend.next_event` request has parameters that the loop can use, and the responses are JSON. -/
def harmless (cfg : Config) (s : Server) : Act → Prop
  | .accept (.connected sendFails) => sendFails = true → s.activeClients < cfg.maxClients
  | .dispatch event _ =>
    ∀ request ∈ s.nextRequest, ∀ es ∈ cfg.nextEvent? request,
      cfg.acceptsWait es = true ∧ ∀ e ∈ event, (Response.event es (some e)).encode.isSome = true
  | .drain _ => ∀ r ∈ s.nextCompletion, r.encode.isSome = true
  | .poll event =>
    ∀ p ∈ s.nextWaiter, (event.isSome || p.2.expired p.1) = true →
      (Response.event p.2.request event).encode.isSome = true
  | _ => True

instance (cfg : Config) (s : Server) : (a : Act) → Decidable (harmless cfg s a)
  | .accept .failed => .isTrue trivial
  | .accept (.connected sendFails) =>
    inferInstanceAs (Decidable (sendFails = true → s.activeClients < cfg.maxClients))
  | .dispatch event _ =>
    inferInstanceAs (Decidable (∀ request ∈ s.nextRequest, ∀ es ∈ cfg.nextEvent? request,
      cfg.acceptsWait es = true ∧ ∀ e ∈ event, (Response.event es (some e)).encode.isSome = true))
  | .drain _ => inferInstanceAs (Decidable (∀ r ∈ s.nextCompletion, r.encode.isSome = true))
  | .poll event =>
    inferInstanceAs (Decidable (∀ p ∈ s.nextWaiter, (event.isSome || p.2.expired p.1) = true →
      (Response.event p.2.request event).encode.isSome = true))
  | .leave | .select _ | .drainWake | .recv _ | .send _ | .finish _ _ | .complete _ | .modifyFails _
  | .shutdown | .serverClose => .isTrue trivial

/-! ## Waits -/

theorem isSome_beginNextEventWait (cfg : Config) (es : Entries) (event : Option Value) (now : Nat) :
    (beginNextEventWait cfg es event now).isSome = cfg.acceptsWait es := by
  unfold beginNextEventWait Config.acceptsWait
  cases Model.getD es "params" (.dict []) with
  | dict params =>
    dsimp only
    cases cfg.timeout (Model.getD params "timeout" (.float (text "30.0"))) with
    | none => rfl
    | some timeout =>
      dsimp only
      rw [Option.isSome_some, Bool.true_and]
      split
      · rename_i hpolled
        rw [hpolled]
        cases event <;> rfl
      · rename_i hpolled
        exact (Bool.eq_false_iff.mpr hpolled).symm
  | _ => rfl

/-- An event that is there is answered at once, and otherwise the request waits. -/
theorem beginNextEventWait_eq_some {cfg : Config} {es : Entries} {event : Option Value} {now : Nat}
    {result : Response ⊕ Waiter} (h : beginNextEventWait cfg es event now = some result) :
    (∃ e, event = some e ∧ result = .inl (.event es (some e))) ∨
    (event = none ∧ ∃ w, result = .inr w ∧ w.request = es) := by
  unfold beginNextEventWait at h
  split at h
  · dsimp only at h
    split at h
    · cases h
    · split at h
      · cases event with
        | none =>
          cases h
          exact .inr ⟨rfl, _, rfl, rfl⟩
        | some e =>
          cases h
          exact .inl ⟨e, rfl, rfl⟩
      · cases h
  · cases h

namespace Server

variable {cfg : Config} {s t : Server} {c : Nat} {client client' : Client}

theorem Pops.nextRequest {request : Value} {rest : List Value} (h : s.Pops c client request rest) :
    s.nextRequest = some request := by
  rw [Server.nextRequest, h.dispatching, Option.bind_some, h.here, Option.bind_some, h.closed,
    h.inactive, h.unblocked, h.pending]
  rfl

theorem isOpen_of_getElem? (h : s.clients[c]? = some client) : s.isOpen c = !client.closed := by
  rw [isOpen, h, Option.any_some]

theorem Drains.nextCompletion {r : Response} {rest : List (Nat × Response)}
    (h : s.Drains c client r rest) : s.nextCompletion = some r := by
  rw [Server.nextCompletion, h.completions, List.head?_cons, Option.bind_some,
    isOpen_of_getElem? h.here, h.closed]
  rfl

theorem AtWaiter.nextWaiter {now : Nat} {cs : List Nat} {w : Waiter}
    (h : s.AtWaiter now c cs client w) : s.nextWaiter = some (now, w) := by
  rw [Server.nextWaiter, h.pc]
  dsimp only
  rw [h.here, Option.bind_some, h.closed, h.waiting]
  rfl

/-! ## The end of the loop -/

theorem hasRaised_ofKeys (keys : List Key) : (Pc.ofKeys keys).hasRaised = false := by
  cases keys <;> rfl

theorem hasRaised_afterRead (c : Nat) (write : Bool) (keys : List Key) :
    (Pc.afterRead c write keys).hasRaised = false := by
  cases write with
  | true => rfl
  | false => exact hasRaised_ofKeys keys

theorem hasRaised_ofWaiters (now : Nat) (cs : List Nat) :
    (Pc.ofWaiters now cs).hasRaised = false := by
  cases cs <;> rfl

theorem hasRaised_eq {pc : Pc} (hpc : s.pc = pc) (hrun : pc.hasRaised = false) :
    s.pc.hasRaised = false := by
  rw [hpc, hrun]

theorem hasRaised_of_not_ended (hrun : s.pc.ended = false) : s.pc.hasRaised = false := by
  cases hpc : s.pc with
  | raised =>
    rw [hpc] at hrun
    cases hrun
  | top | events | flush | drain | waiters | returned => rfl

/-- A loop that has raised dispatches nothing. -/
def Halts (s : Server) : Prop := s.pc.hasRaised = true → s.dispatching = none

namespace Halts

theorem running (h : s.Halts) (hd : s.dispatching = some c) : s.pc.hasRaised = false := by
  cases hraised : s.pc.hasRaised with
  | false => rfl
  | true =>
    rw [h hraised] at hd
    cases hd

theorem of_running (hrun : s.pc.hasRaised = false) : s.Halts := by
  intro hraised
  rw [hrun] at hraised
  cases hraised

theorem moves {a : Act} (h : s.Halts) (hmove : Moves cfg s a t) : t.Halts := by
  cases hmove with
  | left | toFlush => exact of_running rfl
  | selected | passed | connected | hungUp | tooLong | refused | unflushed | unwritable | flushed =>
    exact of_running (hasRaised_ofKeys _)
  | took => exact of_running (hasRaised_afterRead _ _ _)
  | rejected | gone | waitRaised | foundRaised | drainRaised | pollRaised => exact fun _ => rfl
  | dispatched | found | waits => exact fun _ => rfl
  | full hpop | submitted hpop => exact of_running (h.running hpop.dispatching)
  | drained | skipped | polled => exact of_running (hasRaised_ofWaiters _ _)
  | discarded | finished | completed | shutDown => exact h
  | unmodified hrun =>
    exact of_running ((congrArg Pc.hasRaised (pc_closeClient _ _ _ _)).trans
      (hasRaised_of_not_ended hrun))
  | answered hdrain => exact of_running (hasRaised_eq hdrain.pc rfl)
  | serverClosed =>
    intro hraised
    rw [pc_closeAll] at hraised
    exact (dispatching_closeAll s).trans (h hraised)

theorem reach {ok : Server → Act → Prop} (hr : Reach (step cfg) ok cfg.initial s) : s.Halts :=
  Reach.invariant (I := Halts) (fun _ => rfl) (fun _ _ _ h _ hs => h.moves (moves_of_step hs)) hr

end Halts

/-! ## Open sockets -/

/-- The client that the loop is at, and those of the keys that are still to be serviced. -/
def keyClients : Pc → List Nat
  | .events key keys => (key :: keys).filterMap Key.clientId?
  | .flush c keys => c :: keys.filterMap Key.clientId?
  | .top | .drain | .waiters _ _ _ | .raised | .returned => []

theorem keyClients_ofKeys (keys : List Key) :
    keyClients (.ofKeys keys) = keys.filterMap Key.clientId? := by
  cases keys <;> rfl

theorem keyClients_ofWaiters (now : Nat) (cs : List Nat) : keyClients (.ofWaiters now cs) = [] := by
  cases cs <;> rfl

theorem unserved_ofKeys (keys : List Key) :
    (Pc.ofKeys keys).unserved = keys.filterMap Key.clientId? := by
  cases keys <;> rfl

theorem unserved_subset (pc : Pc) : pc.unserved ⊆ keyClients pc := by
  cases pc with
  | flush c keys => exact List.subset_cons_self _ _
  | top | events | drain | waiters | raised | returned => exact List.Subset.refl _

/-- Past the client that the loop is at. -/
theorem subset_unserved {pc : Pc} {cs : List Nat} (hpc : keyClients pc = c :: cs) :
    cs ⊆ pc.unserved := by
  cases pc with
  | events key keys =>
    have hkeys : (Pc.events key keys).unserved = c :: cs := hpc
    rw [hkeys]
    exact List.subset_cons_self _ _
  | flush c' keys =>
    cases hpc
    exact List.Subset.refl _
  | top | drain | waiters | raised | returned => cases hpc

theorem isOpen_set_of_ne {d : Nat} (hd : d ≠ c) (hc : t.clients = s.clients.set c client') :
    t.isOpen d = s.isOpen d := by
  rw [isOpen, isOpen, hc, List.getElem?_set_ne (Ne.symm hd)]

theorem isOpen_set (hc : t.clients = s.clients.set c client') (hclient : s.clients[c]? = some client)
    (hclosed : client'.closed = client.closed) (d : Nat) : t.isOpen d = s.isOpen d := by
  by_cases hd : d = c
  · subst hd
    have hget : t.clients[d]? = some client' := by rw [hc, getElem?_set_of_eq hclient]
    rw [isOpen_of_getElem? hget, isOpen_of_getElem? hclient, hclosed]
  · exact isOpen_set_of_ne hd hc

theorem isOpen_closeClient_of_ne {d : Nat} {reason : Reason} (hd : d ≠ c) :
    (s.closeClient c client reason).isOpen d = s.isOpen d := by
  unfold closeClient
  split
  · rfl
  · exact isOpen_set_of_ne hd rfl

/-- The loop has not raised, and the keys still to be serviced are those of different clients that
are open. -/
structure Live (s : Server) : Prop where
  running : s.pc.hasRaised = false
  nodup : (keyClients s.pc).Nodup
  opened : ∀ c ∈ s.pc.unserved, s.isOpen c = true

namespace Live

theorem congr (h : s.Live) (hpc : t.pc = s.pc) (hopen : ∀ d, t.isOpen d = s.isOpen d) :
    t.Live where
  running := hpc ▸ h.running
  nodup := hpc ▸ h.nodup
  opened := by
    intro d hd
    rw [hpc] at hd
    rw [hopen]
    exact h.opened d hd

/-- The loop goes on with the rest of the keys, and other clients may be closed. -/
theorem next (h : s.Live) (hrun : t.pc.hasRaised = false)
    (hsub : (keyClients t.pc).Sublist (keyClients s.pc)) (hkeys : t.pc.unserved ⊆ s.pc.unserved)
    (hopen : ∀ d ∈ t.pc.unserved, t.isOpen d = s.isOpen d) : t.Live where
  running := hrun
  nodup := h.nodup.sublist hsub
  opened := fun d hd => (hopen d hd).trans (h.opened d (hkeys hd))

theorem passKey (h : s.Live) {key : Key} {keys : List Key} (hpc : s.pc = .events key keys)
    (hpc' : t.pc = .ofKeys keys) (hopen : ∀ d, t.isOpen d = s.isOpen d) : t.Live := by
  have hsub : (keys.filterMap Key.clientId?).Sublist ((key :: keys).filterMap Key.clientId?) :=
    (List.sublist_cons_self key keys).filterMap _
  refine h.next (hpc' ▸ hasRaised_ofKeys keys) ?_ ?_ fun d _ => hopen d
  · rw [hpc, hpc', keyClients_ofKeys]
    exact hsub
  · rw [hpc, hpc', unserved_ofKeys]
    exact hsub.subset

/-- The client at the key may be closed: it is none of those that follow. -/
theorem passClient (h : s.Live) {keys : List Key}
    (hpc : keyClients s.pc = c :: keys.filterMap Key.clientId?) (hpc' : t.pc = .ofKeys keys)
    (hopen : ∀ d, d ≠ c → t.isOpen d = s.isOpen d) : t.Live := by
  have hnodup := h.nodup
  rw [hpc] at hnodup
  have hnot : c ∉ keys.filterMap Key.clientId? := (List.nodup_cons.mp hnodup).1
  refine h.next (hpc' ▸ hasRaised_ofKeys keys) ?_ ?_ fun d hd => hopen d ?_
  · rw [hpc, hpc', keyClients_ofKeys]
    exact List.sublist_cons_self _ _
  · rw [hpc', unserved_ofKeys]
    exact subset_unserved hpc
  · rintro rfl
    rw [hpc', unserved_ofKeys] at hd
    exact hnot hd

theorem toFlush (h : s.Live) {read write flushes : Bool} {keys : List Key}
    (hat : s.AtClient c read write keys client) (hpc' : t.pc = .afterRead c flushes keys)
    (hopen : ∀ d, t.isOpen d = s.isOpen d) : t.Live := by
  have hkeys : keyClients s.pc = c :: keys.filterMap Key.clientId? := by
    rw [hat.pc]
    rfl
  cases flushes with
  | true =>
    refine h.next (hpc' ▸ rfl) ?_ ?_ fun d _ => hopen d
    · rw [hkeys, hpc']
      exact List.Sublist.refl _
    · rw [hpc']
      exact subset_unserved hkeys
  | false => exact h.passClient hkeys hpc' fun d _ => hopen d

theorem away (hrun : t.pc.hasRaised = false) (hkeys : keyClients t.pc = []) : t.Live where
  running := hrun
  nodup := hkeys ▸ List.nodup_nil
  opened := by
    intro d hd
    have hmem := unserved_subset t.pc hd
    rw [hkeys] at hmem
    exact (List.not_mem_nil hmem).elim

theorem select {keys : List Key} (hready : s.ready keys = true) :
    ({ s with pc := .ofKeys keys } : Server).Live := by
  rw [ready, Bool.and_eq_true, List.all_eq_true, decide_eq_true_eq] at hready
  refine ⟨hasRaised_ofKeys keys, ?_, ?_⟩
  · rw [keyClients_ofKeys]
    exact hready.2
  · rw [unserved_ofKeys]
    exact hready.1

theorem connect (h : s.Live) {keys : List Key} (hpc : s.pc = .events .server keys) (n : Nat) :
    ({ s with clients := s.clients ++ [{}], activeClients := n, pc := .ofKeys keys } :
      Server).Live := by
  have hkeys : keyClients s.pc = keys.filterMap Key.clientId? := by
    rw [hpc]
    rfl
  refine ⟨hasRaised_ofKeys keys, ?_, ?_⟩
  · rw [keyClients_ofKeys, ← hkeys]
    exact h.nodup
  · intro d hd
    rw [unserved_ofKeys] at hd
    have hold := h.opened d (hpc ▸ hd)
    have hlt : d < s.clients.length := by
      by_contra hge
      rw [isOpen, List.getElem?_eq_none (Nat.le_of_not_lt hge)] at hold
      cases hold
    show ((s.clients ++ _)[d]?.any _) = true
    rw [List.getElem?_append_left hlt]
    exact hold

theorem closed_eq_false (h : s.Live) {read write : Bool} {keys : List Key}
    (hat : s.AtClient c read write keys client) : client.closed = false := by
  have hopen := h.opened c (by rw [hat.pc]; exact List.mem_cons_self)
  rw [isOpen_of_getElem? hat.here] at hopen
  simpa using hopen

/-! ## Steps -/

theorem moves {a : Act} (h : s.Live) (hok : harmless cfg s a) (hmove : Moves cfg s a t) :
    t.Live := by
  cases hmove with
  | left => exact away rfl rfl
  | selected _ _ _ hready => exact select hready
  | passed _ hpc => exact h.passKey hpc rfl fun _ => rfl
  | toFlush hat => exact h.toFlush hat (show _ = Pc.afterRead _ true _ from rfl) fun _ => rfl
  | rejected _ _ hfull => exact absurd (hok rfl) (Nat.not_lt_of_le hfull)
  | connected _ hpc => exact h.connect hpc _
  | gone hat hclosed =>
    rw [h.closed_eq_false hat] at hclosed
    cases hclosed
  | hungUp hat | tooLong hat | refused hat =>
    refine h.passClient ?_ rfl fun d hd => isOpen_closeClient_of_ne hd
    rw [hat.pc]
    rfl
  | took hat hopen _ htake =>
    have hclosed : _ = false := (htake.invariant (I := fun other => other.closed = false) hopen
      (fun _ h => h) (fun _ _ _ h _ => h) (fun _ _ h => h) (.inl rfl))
    exact h.toFlush hat rfl (isOpen_set rfl hat.here (hclosed.trans hopen.symm))
  | unflushed _ hpc => exact h.passClient (congrArg keyClients hpc) rfl fun _ _ => rfl
  | unwritable _ hpc =>
    exact h.passClient (congrArg keyClients hpc) rfl fun d hd => isOpen_closeClient_of_ne hd
  | flushed _ hpc hclient =>
    refine h.passClient (congrArg keyClients hpc) rfl fun d _ => ?_
    exact isOpen_set rfl hclient (by rfl) d
  | dispatched => exact h.congr rfl fun _ => rfl
  | waitRaised hpop hnext hbegin =>
    have haccepts := (hok _ hpop.nextRequest _ hnext).1
    rw [← isSome_beginNextEventWait cfg _ _ _, hbegin] at haccepts
    cases haccepts
  | foundRaised hpop hnext hbegin henc =>
    rcases beginNextEventWait_eq_some hbegin with ⟨e, rfl, hr⟩ | ⟨_, w, hr, _⟩
    · cases hr
      have hencodes := (hok _ hpop.nextRequest _ hnext).2 e rfl
      rw [henc] at hencodes
      cases hencodes
    · cases hr
  | found hpop | waits hpop | full hpop | submitted hpop =>
    exact h.congr rfl (isOpen_set rfl hpop.here rfl)
  | drained => exact away (hasRaised_ofWaiters _ _) (keyClients_ofWaiters _ _)
  | discarded => exact h.congr rfl fun _ => rfl
  | drainRaised hdrain henc =>
    have hencodes := hok _ hdrain.nextCompletion
    rw [henc] at hencodes
    cases hencodes
  | answered hdrain => exact h.congr rfl (isOpen_set rfl hdrain.here rfl)
  | skipped => exact away (hasRaised_ofWaiters _ _) (keyClients_ofWaiters _ _)
  | pollRaised hat hdue henc =>
    have hencodes := hok _ hat.nextWaiter hdue
    rw [henc] at hencodes
    cases hencodes
  | polled => exact away (hasRaised_ofWaiters _ _) (keyClients_ofWaiters _ _)
  | finished | completed | shutDown => exact h.congr rfl fun _ => rfl
  | @unmodified c client _ hserved =>
    have hpc : (s.closeClient c client .peer).pc = s.pc := pc_closeClient _ _ _ _
    refine h.next (hpc ▸ h.running) (hpc ▸ List.Sublist.refl _) (hpc ▸ List.Subset.refl _)
      fun d hd => isOpen_closeClient_of_ne ?_
    rintro rfl
    exact hserved (hpc ▸ hd)
  | serverClosed hpc =>
    have hreturned : s.closeAll.pc = .returned := by
      rw [pc_closeAll]
      have hrun := h.running
      cases heq : s.pc with
      | returned => rfl
      | raised =>
        rw [heq] at hrun
        cases hrun
      | top | events | flush | drain | waiters =>
        rw [heq] at hpc
        cases hpc
    exact away (congrArg Pc.hasRaised hreturned) (congrArg keyClients hreturned)

theorem initial (cfg : Config) : cfg.initial.Live := away rfl rfl

theorem reach (hr : Reach (step cfg) (harmless cfg) cfg.initial s) : s.Live :=
  Reach.invariant (I := Live) (initial cfg)
    (fun _ _ _ h hok hs => h.moves hok (moves_of_step hs)) hr

end Live

/-! ## Steps that are not harmless -/

theorem nextRequest_eq_some {request : Value} (h : s.nextRequest = some request) :
    ∃ c client rest, s.Pops c client request rest := by
  obtain ⟨client, hclient, h⟩ := Option.bind_eq_some_iff.mp h
  obtain ⟨c, hd, hclient⟩ := Option.bind_eq_some_iff.mp hclient
  rw [Option.ite_none_left_eq_some] at h
  obtain ⟨hidle, h⟩ := h
  simp only [Bool.or_eq_true, not_or, Bool.not_eq_true, Option.isSome_eq_false_iff,
    Option.isNone_iff_eq_none] at hidle
  obtain ⟨rest, hpending⟩ := List.head?_eq_some_iff.mp h
  exact ⟨c, client, rest, hd, hclient, hidle.1.1, hidle.1.2, hidle.2, hpending⟩

theorem eq_of_step_accept {outcome : Accepted} (h : step cfg s (.accept outcome) = some t) :
    ∃ keys, t = acceptClient cfg s outcome (.ofKeys keys) := by
  cases hd : s.dispatching with
  | some c => simp [step, hd] at h
  | none =>
    simp only [step, hd] at h
    cases hpc : s.pc with
    | events key keys =>
      cases key with
      | server =>
        simp only [hpc, loop, Option.some.injEq] at h
        exact ⟨keys, h.symm⟩
      | wake | client => simp [hpc, loop] at h
    | top | flush | drain | waiters | raised | returned => simp [hpc, loop] at h

theorem eq_of_step_drain {now : Nat} (h : step cfg s (.drain now) = some t) :
    t = s.drainCompletions now := by
  cases hd : s.dispatching with
  | some c => simp [step, hd] at h
  | none =>
    simp only [step, hd] at h
    cases hpc : s.pc with
    | drain =>
      simp only [hpc, loop, Option.some.injEq] at h
      exact h.symm
    | top | flush | events | waiters | raised | returned => simp [hpc, loop] at h

theorem eq_of_step_poll {event : Option Value} (h : step cfg s (.poll event) = some t) :
    ∃ now c cs client, s.pc = .waiters now c cs ∧ s.clients[c]? = some client ∧
      t = s.serviceWaiter now c client event (.ofWaiters now cs) := by
  cases hd : s.dispatching with
  | some c => simp [step, hd] at h
  | none =>
    simp only [step, hd] at h
    cases hpc : s.pc with
    | waiters now c cs =>
      simp only [hpc, loop, Option.map_eq_some_iff] at h
      obtain ⟨client, hclient, h⟩ := h
      exact ⟨now, c, cs, client, rfl, hclient, h.symm⟩
    | top | flush | events | drain | raised | returned => simp [hpc, loop] at h

theorem eq_of_step_dispatch {event : Option Value} {now : Nat}
    (h : step cfg s (.dispatch event now) = some t) {request : Value} {rest : List Value}
    (hpop : s.Pops c client request rest) : t = dispatchPending cfg s c client event now := by
  simp only [step, hpop.dispatching, hpop.here, Option.map_some, Option.some.injEq] at h
  exact h.symm

/-- A wait with bad parameters, or an event that is no JSON, raises. -/
theorem raises_dispatch {event : Option Value} {now : Nat} {request : Value} {rest : List Value}
    {es : Entries} (hpop : s.Pops c client request rest) (hnext : cfg.nextEvent? request = some es)
    (hbad : ¬(cfg.acceptsWait es = true ∧
      ∀ e ∈ event, (Response.event es (some e)).encode.isSome = true)) :
    (dispatchPending cfg s c client event now).pc.hasRaised = true := by
  rw [dispatchPending, if_neg (by simp [hpop.closed, hpop.inactive, hpop.unblocked])]
  simp only [hpop.pending, hnext]
  have haccepts := isSome_beginNextEventWait cfg es event now
  cases hbegin : beginNextEventWait cfg es event now with
  | none => rfl
  | some result =>
    rw [hbegin, Option.isSome_some] at haccepts
    have hencode : ¬∀ e ∈ event, (Response.event es (some e)).encode.isSome = true :=
      fun h => hbad ⟨haccepts.symm, h⟩
    rcases beginNextEventWait_eq_some hbegin with ⟨e, rfl, rfl⟩ | ⟨rfl, _⟩
    · have henc : (Response.event es (some e)).encode = none := by
        by_contra hne
        refine hencode fun e' he' => ?_
        cases he'
        exact Option.isSome_iff_ne_none.mpr hne
      dsimp only
      rw [Client.queueResponse_of_open { client with pendingRequests := rest } _ hpop.closed, henc]
      rfl
    · exact absurd (fun e he => by cases he) hencode

theorem raises_drain {now : Nat} {r : Response} (hr : s.nextCompletion = some r)
    (hbad : r.encode = none) : (s.drainCompletions now).pc.hasRaised = true := by
  obtain ⟨⟨c, r'⟩, hcomp, hr⟩ := Option.bind_eq_some_iff.mp hr
  rw [Option.ite_none_right_eq_some] at hr
  obtain ⟨hopen, hr⟩ := hr
  cases hr
  obtain ⟨rest, hcomp⟩ := List.head?_eq_some_iff.mp hcomp
  rw [isOpen] at hopen
  cases hclient : s.clients[c]? with
  | none =>
    rw [hclient] at hopen
    cases hopen
  | some client =>
    have hclosed : client.closed = false := by simpa [hclient] using hopen
    simp only [drainCompletions, hcomp, hclient]
    rw [if_neg (by simp [hclosed]),
      Client.queueResponse_of_open { client with activeRequest := false, running := none } _ hclosed,
      hbad]
    rfl

theorem raises_poll {event : Option Value} {now : Nat} {next : Pc} {w : Waiter}
    (hclosed : client.closed = false) (hwait : client.waitingForEvent = some w)
    (hdue : (event.isSome || w.expired now) = true)
    (hbad : (Response.event w.request event).encode = none) :
    (s.serviceWaiter now c client event next).pc.hasRaised = true := by
  simp only [serviceWaiter, hwait]
  rw [if_neg (by simp [hclosed]), if_pos hdue,
    Client.queueResponse_of_open { client with waitingForEvent := none } _ hclosed, hbad]
  rfl

/-- The loop raises in every step that is not harmless. -/
theorem raises_of_not_harmless {a : Act} (hn : ¬harmless cfg s a) (h : step cfg s a = some t) :
    t.pc.hasRaised = true := by
  cases a with
  | accept outcome =>
    cases outcome with
    | failed => exact absurd trivial hn
    | connected sendFails =>
      obtain ⟨hfails, hfull⟩ := Classical.not_imp.mp hn
      obtain ⟨keys, rfl⟩ := eq_of_step_accept h
      rw [acceptClient, hfails]
      rw [if_pos (Nat.le_of_not_lt hfull), if_pos rfl]
      rfl
  | dispatch event now =>
    simp only [harmless, not_forall] at hn
    obtain ⟨request, hrequest, es, hnext, hbad⟩ := hn
    obtain ⟨c, client, rest, hpop⟩ := nextRequest_eq_some hrequest
    rw [eq_of_step_dispatch h hpop]
    exact raises_dispatch hpop hnext hbad
  | drain now =>
    simp only [harmless, not_forall] at hn
    obtain ⟨r, hr, hbad⟩ := hn
    rw [eq_of_step_drain h]
    exact raises_drain hr (by simpa using hbad)
  | poll event =>
    simp only [harmless, not_forall] at hn
    obtain ⟨⟨now', w⟩, hp, hdue, hbad⟩ := hn
    obtain ⟨now, c, cs, client, hpc, hclient, rfl⟩ := eq_of_step_poll h
    rw [nextWaiter, hpc] at hp
    dsimp only at hp
    rw [hclient, Option.bind_some] at hp
    obtain ⟨w', hw, hp⟩ := Option.map_eq_some_iff.mp hp
    cases hp
    rw [Option.ite_none_left_eq_some] at hw
    exact raises_poll (by simpa using hw.1) hw.2 hdue (by simpa using hbad)
  | leave | select | drainWake | recv | send | finish | complete | modifyFails | shutdown
  | serverClose => exact absurd trivial hn

end Server

/-- In a run whose steps are all harmless the loop never raises, and in each of its states the next
step raises if and only if it is not harmless. -/
theorem loop_survives {cfg : Config} {s : Server}
    (hr : Reach (step cfg) (harmless cfg) cfg.initial s) :
    s.pc.hasRaised = false ∧
    ∀ a t, step cfg s a = some t → (t.pc.hasRaised = false ↔ harmless cfg s a) := by
  refine ⟨(Server.Live.reach hr).running, fun a t hs => ⟨fun hrun => ?_, fun hok => ?_⟩⟩
  · by_contra hn
    rw [Server.raises_of_not_harmless hn hs] at hrun
    cases hrun
  · exact (Server.Live.reach (hr.next hok hs)).running

/-- A `backend.next_event` request that finds no event waits. -/
theorem loop_survives_wait : ∃ s : Server,
    (∃ client ∈ s.clients, client.waitingForEvent.isSome = true) ∧ s.pc.hasRaised = false := by
  have hrun : (exec (guarded (step .small) (harmless .small)) Config.small.initial
      (connecting ++ sending 0 (call "backend.next_event" ++ [newline]) ++
        [.dispatch none 0])).map
      (fun s => s.clients.any fun client => client.waitingForEvent.isSome) = some true := by
    decide +kernel
  obtain ⟨s, hs, hview⟩ := Option.map_eq_some_iff.mp hrun
  exact ⟨s, List.any_eq_true.mp hview, (loop_survives (reach_of_exec hs)).1⟩

/-- The second of two clients asks for an event with a list for parameters: the loop raises, and the
first client is not served any more. -/
theorem loop_raises : ∃ s : Server, Reach (step .small) anyStep Config.small.initial s ∧
    s.pc.hasRaised = true ∧ s.isOpen 0 = true ∧ s.isOpen 1 = true := by
  have hrun : (exec (guarded (step .small) anyStep) Config.small.initial
      (connecting ++
        [.select [.server], .accept (.connected false), .drain 0, .poll none, .poll none] ++
        sending 1 (ascii "\x7b\"method\": \"backend.next_event\", \"params\": []\x7d\n") ++
        [.dispatch none 0])).map
      (fun s => s.pc.hasRaised && s.isOpen 0 && s.isOpen 1) = some true := by
    decide +kernel
  obtain ⟨s, hs, hview⟩ := Option.map_eq_some_iff.mp hrun
  simp only [Bool.and_eq_true] at hview
  exact ⟨s, reach_of_exec hs, hview.1.1, hview.1.2, hview.2⟩

end Sensorium.Rpc

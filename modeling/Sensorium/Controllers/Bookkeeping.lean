import Sensorium.Controllers.DispatchSteps

/-!
# Entries and queued events of dispatches that have returned

An entry of the table is removed by the dispatch that made it, by the failure of a worker and by
`_clear_state`; a queued event only by polling and by `_clear_state`.  The return for a device
whose worker is gone removes no entry, and a return before the event was polled leaves it in the
queue.  In runs without these two, the table and the queues hold only work of dispatches that are
running.
-/

namespace Sensorium.Controllers

open Lib Function
open Sensorium.Inventory (BackendId)

namespace System

/-- The dispatch that made a record has not returned. -/
def Running (s : System) (o : Nat) : Prop := ∃ p ∈ s.threads, p.own = some o

/-- Every entry is that of a running dispatch with its request id, and every queued event is that of
a running dispatch. -/
def OnlyLive (s : System) : Prop :=
  (∀ e ∈ s.table, (s.event e.2).requestId = e.1 ∧ s.Running e.2) ∧
  ∀ backend, ∀ o ∈ s.queues backend, s.Running o

/-- The event of a record is still in the queue of its backend. -/
def queued (s : System) (o : Nat) : Bool :=
  match (s.objects o).route with
  | .backend b => o ∈ s.queues b
  | .worker _ => false

end System

/-- A dispatch to a managed worker finds the worker. -/
def Pc.Manned (s : System) : Pc → Prop
  | .lookup own => s.workers (s.event own).deviceId = true
  | _ => True

/-- A dispatch that returns has had its event polled. -/
def Pc.Polled (s : System) : Pc → Prop
  | .readDone own o => (s.objects o).done = true ∨ s.queued own = false
  | .readData own _ _ => s.queued own = false
  | _ => True

def orderly (s : System) : Act → Prop
  | .go t _ => ∀ p ∈ s.threads[t]?, p.Manned s ∧ p.Polled s
  | _ => True

/-! ## Entries -/

/-- The thread removes the entry before it returns. -/
def Pc.Keeps (e : Nat × Nat) : Pc → Prop
  | .lookup own | .send own _ | .wait own _ | .pop own _ => own = e.2
  | .fails caller ids | .failsOne caller _ _ ids => caller = some e.2 ∧ e.1 ∈ ids
  | _ => False

theorem Pc.Keeps.own {p : Pc} {e : Nat × Nat} (h : p.Keeps e) : p.own = some e.2 := by
  cases p with
  | lookup | send | wait | pop => exact congrArg some h
  | fails | failsOne => exact h.1
  | _ => exact h.elim

namespace System

variable {s s' : System} {t o : Nat} {p q : Pc}

theorem locked_of_mem (h : s.locked = false) (hp : p ∈ s.threads) : p.locks = false := by
  simp only [locked, List.any_eq_false, Bool.not_eq_true] at h
  exact h p hp

theorem mem_targets {deviceId : Text} {e : Nat × Nat} (he : e ∈ s.table)
    (hd : (s.event e.2).deviceId = deviceId) : e.1 ∈ s.targets deviceId :=
  List.mem_map_of_mem (List.mem_filter.mpr ⟨he, decide_eq_true hd⟩)

/-- Every entry has a thread that removes it. -/
def Kept (s : System) : Prop := ∀ e ∈ s.table, ∃ p ∈ s.threads, p.Keeps e

namespace Kept

theorem start (n : Nat) : (Controllers.start n).Kept := fun _ he => (List.not_mem_nil he).elim

theorem goto (h : s.Kept) (ht : s.threads[t]? = some p)
    (hq : ∀ e ∈ s.table, p.Keeps e → q.Keeps e) : (s.goto t q).Kept := by
  intro e he
  obtain ⟨r, hr, hkeeps⟩ := h e he
  rcases mem_set_or_eq ht hr q with hr | rfl
  · exact ⟨r, hr, hkeeps⟩
  · exact ⟨q, List.mem_of_getElem? (getElem?_set_of_eq ht q), hq e he hkeeps⟩

theorem popEntry (h : s.Kept) (id : Nat) : (s.popEntry id).Kept :=
  fun e he => h e (mem_popEntry.mp he).1

theorem register (h : s.Kept) {event : Event} {route : Route}
    (ht : s.threads[t]? = some (.enter event route)) : (s.register t event route).Kept := by
  intro e he
  rcases mem_of_mem_dictSet he with rfl | he
  · refine ⟨_, List.mem_of_getElem? (getElem?_set_of_eq ht _), ?_⟩
    cases route <;> rfl
  · obtain ⟨r, hr, hkeeps⟩ := h e he
    rcases mem_set_or_eq ht hr (.entered s.made route) with hr | rfl
    · exact ⟨r, hr, hkeeps⟩
    · exact hkeeps.elim

theorem advances (h : s.Kept) (hf : s.Filed) (ht : s.threads[t]? = some p) (hok : p.Manned s)
    (ha : Advances s t p s') : s'.Kept := by
  cases ha with
  | entered => exact h.register ht
  | unmanned _ hw => exact absurd (hw.symm.trans hok) (by decide)
  | missing _ hget =>
    -- The entry of this dispatch would be found under its request id.
    apply h.goto ht
    rintro e he rfl
    apply absurd _ (notMem_of_dictGet hget e.2)
    rw [(hf.entry e he).2]
    exact he
  | found | sent | woken => exact h.goto ht fun _ _ hk => hk
  | @unsent own o _ =>
    apply h.goto ht
    rintro e he rfl
    exact ⟨rfl, mem_targets he rfl⟩
  | popped =>
    apply (h.popEntry _).goto ht
    rintro e he rfl
    obtain ⟨he, hne⟩ := mem_popEntry.mp he
    exact absurd (hf.entry e he).2.symm hne
  | answered | timedOut | readStatus | readData | late | accepted | stored | completed =>
    exact h.goto ht fun _ _ hk => hk.elim
  | monitored => exact h.goto ht fun _ _ hk => by cases hk.1
  | pushed => exact h.goto ht fun _ _ hk => absurd hk.2 List.not_mem_nil
  | gone hget =>
    apply h.goto ht
    intro e he hk
    refine ⟨hk.1, (List.mem_cons.mp hk.2).resolve_left ?_⟩
    rintro rfl
    exact notMem_of_dictGet hget _ he
  | taken =>
    apply (h.popEntry _).goto ht
    intro e he hk
    exact ⟨hk.1, (List.mem_cons.mp hk.2).resolve_left (mem_popEntry.mp he).2⟩
  | failing | failed => exact h.goto ht fun _ _ hk => hk

theorem steps {a : Act} (h : s.Kept) (hf : s.Filed)
    (hok : ∀ t choice p, a = .go t choice → s.threads[t]? = some p → p.Manned s)
    (hs : Steps s a s') : s'.Kept := by
  cases hs with
  | dispatch ht | replies ht | exits ht => exact h.goto ht fun _ _ hk => hk.elim
  | undeliverable | unknown | polls | launches | stops => exact h
  | goes ht ha => exact h.advances hf ht (hok _ _ _ rfl ht) ha
  | clears => exact fun _ he => (List.not_mem_nil he).elim

end Kept

/-! ## Queued events -/

end System

/-- The dispatch goes to a managed worker. -/
def Pc.managed : Pc → Option Nat
  | .lookup own | .send own _ => some own
  | .fails caller _ | .failsOne caller _ _ _ => caller
  | _ => none

theorem Pc.mem_refs_of_managed {p : Pc} {own : Nat} (h : p.managed = some own) : own ∈ p.refs := by
  cases p with
  | lookup | send =>
    cases h
    exact .head _
  | fails caller ids =>
    cases caller with
    | none => cases h
    | some o =>
      cases h
      exact .head _
  | failsOne caller o stage ids =>
    cases caller with
    | none => cases h
    | some own =>
      cases h
      exact .tail _ (.head _)
  | _ => cases h

namespace System

variable {s s' : System} {t o : Nat} {p q : Pc}

/-- A queued event went to the backend of the queue and its dispatch is running; no event of a
dispatch to a managed worker is queued. -/
structure Awaited (s : System) : Prop where
  routed : ∀ b, ∀ o ∈ s.queues b, o < s.made ∧ (s.objects o).route = .backend b
  running : ∀ b, ∀ o ∈ s.queues b, s.Running o
  managed : ∀ p ∈ s.threads, ∀ own, p.managed = some own →
    ∃ deviceId, (s.objects own).route = .worker deviceId

namespace Awaited

theorem start (n : Nat) : (Controllers.start n).Awaited where
  routed := fun _ _ ho => (List.not_mem_nil ho).elim
  running := fun _ _ ho => (List.not_mem_nil ho).elim
  managed := by
    intro p hp own ho
    rw [List.eq_of_mem_replicate hp] at ho
    cases ho

theorem not_mem_of_managed (h : s.Awaited) (hp : p ∈ s.threads) (ho : p.managed = some o)
    (b : BackendId) : o ∉ s.queues b := by
  intro hmem
  obtain ⟨deviceId, hroute⟩ := h.managed p hp o ho
  cases hroute.symm.trans (h.routed b o hmem).2

theorem not_mem_of_queued (h : s.Awaited) (ho : s.queued o = false) (b : BackendId) :
    o ∉ s.queues b := by
  intro hmem
  rw [queued, (h.routed b o hmem).2] at ho
  exact absurd (decide_eq_true hmem) (by simpa using ho)

theorem goto (h : s.Awaited) (ht : s.threads[t]? = some p)
    (hown : ∀ o, p.own = some o → q.own = some o ∨ ∀ b, o ∉ s.queues b)
    (hmanaged : q.managed = none ∨ q.managed = p.managed) : (s.goto t q).Awaited where
  routed := h.routed
  running := by
    intro b o ho
    obtain ⟨r, hr, hrun⟩ := h.running b o ho
    rcases mem_set_or_eq ht hr q with hr | rfl
    · exact ⟨r, hr, hrun⟩
    · rcases hown o hrun with hq | hnot
      · exact ⟨q, List.mem_of_getElem? (getElem?_set_of_eq ht q), hq⟩
      · exact absurd ho (hnot b)
  managed := by
    intro r hr own ho
    rcases List.mem_or_eq_of_mem_set hr with hr | rfl
    · exact h.managed r hr own ho
    · rcases hmanaged with hnone | heq
      · rw [hnone] at ho
        cases ho
      · exact h.managed p (List.mem_of_getElem? ht) own (heq ▸ ho)

/-- A thread that is not a dispatch, or goes on with the same one. -/
theorem go_on (h : s.Awaited) (ht : s.threads[t]? = some p) (hown : q.own = p.own ∨ p.own = none)
    (hmanaged : q.managed = none ∨ q.managed = p.managed) : (s.goto t q).Awaited := by
  apply h.goto ht _ hmanaged
  intro o ho
  rcases hown with heq | hnone
  · exact .inl (heq.trans ho)
  · rw [hnone] at ho
    cases ho

/-- A dispatch that is over has its event in no queue. -/
theorem leave (h : s.Awaited) (ht : s.threads[t]? = some p) (hown : p.own = some o)
    (hnot : ∀ b, o ∉ s.queues b) : (s.goto t .idle).Awaited := by
  apply h.goto ht _ (.inl rfl)
  intro o' ho'
  cases hown.symm.trans ho'
  exact .inr hnot

theorem setObject (h : s.Awaited) {r : Pending} (hr : r.route = (s.objects o).route) :
    (s.setObject o r).Awaited := by
  have hroute (o' : Nat) : ((s.setObject o r).objects o').route = (s.objects o').route := by
    by_cases ho : o' = o
    · rw [ho, objects_setObject_self, hr]
    · rw [objects_setObject_of_ne ho]
  refine ⟨?_, h.running, ?_⟩
  · intro b o' ho'
    rw [hroute]
    exact h.routed b o' ho'
  · intro p hp own ho
    rw [hroute]
    exact h.managed p hp own ho

theorem store (h : s.Awaited) (pair : Pair) (stage : Stage) : (s.store o pair stage).Awaited :=
  h.setObject (Pending.store_route _ pair stage)

theorem mem_enqueue {route : Route} {b : BackendId} {o' : Nat} (h : o' ∈ s.enqueue o route b) :
    o' ∈ s.queues b ∨ o' = o ∧ route = .backend b := by
  cases route with
  | worker _ => exact .inl h
  | backend b' =>
    by_cases hb : b = b'
    · subst hb
      rw [enqueue, update_self] at h
      exact (List.mem_append.mp h).imp_right fun ho => ⟨List.mem_singleton.mp ho, rfl⟩
    · rw [enqueue, update_of_ne hb] at h
      exact .inl h

theorem register (h : s.Awaited) (hf : s.Filed) {event : Event} {route : Route}
    (ht : s.threads[t]? = some (.enter event route)) : (s.register t event route).Awaited where
  routed := by
    intro b o ho
    rcases mem_enqueue ho with ho | ⟨rfl, hroute⟩
    · obtain ⟨hlt, hroute⟩ := h.routed b o ho
      rw [objects_register_of_lt hlt]
      exact ⟨Nat.lt_succ_of_lt hlt, hroute⟩
    · refine ⟨Nat.lt_succ_self _, ?_⟩
      show (update s.objects s.made (.fresh event route) s.made).route = _
      rw [update_self]
      exact hroute
  running := by
    intro b o ho
    rcases mem_enqueue ho with ho | ⟨rfl, hroute⟩
    · obtain ⟨r, hr, hrun⟩ := h.running b o ho
      rcases mem_set_or_eq ht hr (.entered s.made route) with hr | rfl
      · exact ⟨r, hr, hrun⟩
      · cases hrun
    · refine ⟨_, List.mem_of_getElem? (getElem?_set_of_eq ht _), ?_⟩
      cases route <;> rfl
  managed := by
    intro r hr own ho
    rcases List.mem_or_eq_of_mem_set hr with hr | rfl
    · rw [objects_register_of_lt (hf.refs r hr own (Pc.mem_refs_of_managed ho))]
      exact h.managed r hr own ho
    · cases route with
      | backend _ => cases ho
      | worker deviceId =>
        cases ho
        refine ⟨deviceId, ?_⟩
        show (update s.objects s.made (.fresh event (.worker deviceId)) s.made).route = _
        rw [update_self]
        rfl

theorem advances (h : s.Awaited) (hf : s.Filed) (ht : s.threads[t]? = some p) (hm : p.Manned s)
    (hpoll : p.Polled s) (ha : Advances s t p s') : s'.Awaited := by
  have hp := List.mem_of_getElem? ht
  have hpop (id : Nat) : (s.popEntry id).Awaited := ⟨h.routed, h.running, h.managed⟩
  have hreturn {o o' : Nat} (pair : Pair) (hown : p.own = some o) (hnot : ∀ b, o ∉ s.queues b) :
      (s.returned t o' pair).Awaited :=
    have hidle := h.leave ht hown hnot
    ⟨hidle.routed, hidle.running, hidle.managed⟩
  cases ha with
  | entered => exact h.register hf ht
  | unmanned _ hw => exact absurd (hw.symm.trans hm) (by decide)
  | missing => exact h.leave ht rfl (h.not_mem_of_managed hp rfl)
  | found => exact h.go_on ht (.inl rfl) (.inr rfl)
  | sent => exact h.go_on ht (.inl rfl) (.inl rfl)
  | unsent => exact h.go_on ht (.inl rfl) (.inr rfl)
  | woken => exact h.go_on ht (.inl rfl) (.inl rfl)
  | popped => exact (hpop _).go_on ht (.inl rfl) (.inl rfl)
  | answered => exact h.go_on ht (.inl rfl) (.inl rfl)
  | timedOut hd =>
    apply hreturn _ rfl
    exact h.not_mem_of_queued (hpoll.resolve_left fun hdone => by rw [hd] at hdone; cases hdone)
  | readStatus => exact h.go_on ht (.inl rfl) (.inl rfl)
  | readData => exact hreturn _ rfl (h.not_mem_of_queued hpoll)
  | late =>
    have hlate : s.lateReply.Awaited := ⟨h.routed, h.running, h.managed⟩
    exact hlate.go_on ht (.inr rfl) (.inl rfl)
  | @accepted source reply o _ hget =>
    have hset := h.setObject (o := o)
      (r := { s.objects o with
        replies := (s.objects o).replies ++ [(source, reply.status, reply.data)] }) rfl
    exact go_on ⟨hset.routed, hset.running, hset.managed⟩ ht (.inr rfl) (.inl rfl)
  | stored => exact (h.store _ _).go_on ht (.inr rfl) (.inl rfl)
  | completed => exact (h.store _ _).go_on ht (.inr rfl) (.inl rfl)
  | pushed => exact hreturn _ rfl (h.not_mem_of_managed hp rfl)
  | monitored => exact h.go_on ht (.inr rfl) (.inl rfl)
  | gone => exact h.go_on ht (.inl rfl) (.inr rfl)
  | taken => exact (hpop _).go_on ht (.inl rfl) (.inr rfl)
  | failing | failed => exact (h.store _ _).go_on ht (.inl rfl) (.inr rfl)

theorem steps {a : Act} (h : s.Awaited) (hf : s.Filed) (hok : orderly s a) (hs : Steps s a s') :
    s'.Awaited := by
  cases hs with
  | dispatch ht | replies ht => exact h.go_on ht (.inr rfl) (.inl rfl)
  | undeliverable | unknown | launches | stops => exact ⟨h.routed, h.running, h.managed⟩
  | exits ht => exact go_on ⟨h.routed, h.running, h.managed⟩ ht (.inr rfl) (.inl rfl)
  | goes ht ha => exact h.advances hf ht (hok _ ht).1 (hok _ ht).2 ha
  | @polls backend =>
    have hsub (b : BackendId) (o : Nat)
        (ho : o ∈ update s.queues backend (s.queues backend).tail b) : o ∈ s.queues b := by
      by_cases hb : b = backend
      · rw [hb, update_self] at ho
        exact hb ▸ List.mem_of_mem_tail ho
      · rwa [update_of_ne hb] at ho
    exact ⟨fun b o ho => h.routed b o (hsub b o ho), fun b o ho => h.running b o (hsub b o ho),
      h.managed⟩
  | clears =>
    exact ⟨fun _ _ ho => (List.not_mem_nil ho).elim, fun _ _ ho => (List.not_mem_nil ho).elim,
      h.managed⟩

end Awaited

end System

/-- In every run in which a dispatch to a managed worker finds the worker and a dispatch returns
only after its event was polled, the table and the queues hold only work of running dispatches. -/
theorem bookkeeping_live {n : Nat} {s : System} (h : Reach step orderly (start n) s) :
    s.OnlyLive := by
  have hinv : s.Filed ∧ s.Kept ∧ s.Awaited := by
    refine h.invariant (I := fun s => s.Filed ∧ s.Kept ∧ s.Awaited)
      ⟨.start n, .start n, .start n⟩ ?_
    rintro s a s' ⟨hfiled, hkept, hawaited⟩ hok hstep
    have hs := steps_of_step hstep
    refine ⟨hfiled.steps hs, hkept.steps hfiled ?_ hs, hawaited.steps hfiled hok hs⟩
    rintro t choice p rfl ht
    exact (hok p ht).1
  obtain ⟨hfiled, hkept, hawaited⟩ := hinv
  refine ⟨fun e he => ⟨(hfiled.entry e he).2, ?_⟩, hawaited.running⟩
  obtain ⟨p, hp, hkeeps⟩ := hkept e he
  exact ⟨p, hp, hkeeps.own⟩

/-! ## Schedules -/

instance (s : System) (p : Pc) : Decidable (p.Manned s) :=
  match p with
  | .lookup own => inferInstanceAs (Decidable (s.workers (s.event own).deviceId = true))
  | .idle | .enter _ _ | .send _ _ | .wait _ _ | .pop _ _ | .readDone _ _ | .readStatus _ _
  | .readData _ _ _ | .completing _ _ | .writes _ _ _ _ | .fails _ _ | .failsOne _ _ _ _ =>
    .isTrue trivial

instance (s : System) (p : Pc) : Decidable (p.Polled s) :=
  match p with
  | .readDone own o => inferInstanceAs (Decidable ((s.objects o).done = true ∨ s.queued own = false))
  | .readData own _ _ => inferInstanceAs (Decidable (s.queued own = false))
  | .idle | .enter _ _ | .lookup _ | .send _ _ | .wait _ _ | .pop _ _ | .readStatus _ _
  | .completing _ _ | .writes _ _ _ _ | .fails _ _ | .failsOne _ _ _ _ => .isTrue trivial

instance (s : System) (a : Act) : Decidable (orderly s a) :=
  match a with
  | .go t _ => inferInstanceAs (Decidable (∀ p ∈ s.threads[t]?, p.Manned s ∧ p.Polled s))
  | .dispatch _ _ _ _ | .reply _ _ _ | .workerExit _ _ | .poll _ | .launch _ | .stop _ | .clear =>
    .isTrue trivial

def flashEvent : Event := ⟨9, text "flash0"⟩

def flashBackend : BackendId := .str (text "flash")

/-- An event that is polled and not answered in time, and one for a managed worker whose exit takes
it; the second dispatch is at its removal. -/
theorem bookkeeping_live_timeout :
    ∃ s : System, s.returns = [(some 0, eTimedOut, [])] ∧ s.OnlyLive := by
  have hrun : (exec (guarded step orderly) (start 3)
      [.dispatch 0 flashEvent false (some flashBackend), .go 0 false, .poll flashBackend,
        .launch flashEvent.deviceId, .dispatch 1 ⟨10, flashEvent.deviceId⟩ true none, .go 1 false,
        .go 1 false, .go 1 false, .go 0 true, .go 0 false, .go 0 false,
        .workerExit 2 flashEvent.deviceId, .go 2 false, .go 2 false, .go 2 false, .go 2 false,
        .go 2 false, .go 1 false]).map System.returns = some [(some 0, eTimedOut, [])] := by
    decide +kernel
  obtain ⟨s, hexec, hview⟩ := Option.map_eq_some_iff.mp hrun
  exact ⟨s, hview, bookkeeping_live (reach_of_exec hexec)⟩

theorem not_running {s : System} {o : Nat} (h : s.threads = [.idle]) : ¬ s.Running o := by
  rintro ⟨p, hp, hown⟩
  rw [h, List.mem_singleton] at hp
  rw [hp] at hown
  cases hown

/-- A dispatch that timed out leaves its event queued for the backend, and a dispatch that finds no
worker leaves its entry. -/
theorem returned_work_stays :
    (∃ s : System, Reach step anyStep (start 1) s ∧ s.queues flashBackend = [0] ∧
      s.returns = [(some 0, eTimedOut, [])] ∧ ¬ s.OnlyLive) ∧
    ∃ s : System, Reach step anyStep (start 1) s ∧ s.table = [(9, 0)] ∧
      s.returns = [(some 0, ePipe, [])] ∧ ¬ s.OnlyLive := by
  have hqueued : (exec (guarded step anyStep) (start 1)
      [.dispatch 0 flashEvent false (some flashBackend), .go 0 false, .go 0 true, .go 0 false,
        .go 0 false]).map (fun s => decide (s.queues flashBackend = [0]) &&
          decide (s.returns = [(some 0, eTimedOut, [])]) && decide (s.threads = [.idle])) =
      some true := by
    decide +kernel
  have htable : (exec (guarded step anyStep) (start 1)
      [.dispatch 0 flashEvent true none, .go 0 false, .go 0 false]).map
        (fun s => decide (s.table = [(9, 0)]) &&
          decide (s.returns = [(some 0, ePipe, [])]) && decide (s.threads = [.idle])) =
      some true := by
    decide +kernel
  constructor
  · obtain ⟨s, hexec, hview⟩ := Option.map_eq_some_iff.mp hqueued
    simp only [Bool.and_eq_true, decide_eq_true_eq] at hview
    obtain ⟨⟨hq, hreturns⟩, hthreads⟩ := hview
    refine ⟨s, reach_of_exec hexec, hq, hreturns, fun hlive => ?_⟩
    exact not_running hthreads (hlive.2 flashBackend 0 (hq ▸ .head _))
  · obtain ⟨s, hexec, hview⟩ := Option.map_eq_some_iff.mp htable
    simp only [Bool.and_eq_true, decide_eq_true_eq] at hview
    obtain ⟨⟨ht, hreturns⟩, hthreads⟩ := hview
    refine ⟨s, reach_of_exec hexec, ht, hreturns, fun hlive => ?_⟩
    exact not_running hthreads (hlive.1 (9, 0) (ht ▸ .head _)).2

end Sensorium.Controllers

import Sensorium.Controllers.Dispatch

/-!
# What a step of the request table can do

One constructor for each branch of `advance` and of `step`, and the references that hold in every
state: an entry of the table is a record that was made for its request id, and a thread holds only
records that were made.
-/

namespace Sensorium.Controllers

open Lib Function
open Sensorium.Inventory (BackendId)

/-! ## Branches -/

inductive Advances (s : System) (t : Nat) : Pc → System → Prop
  | entered {event : Event} {route : Route} (hl : s.locked = false) :
    Advances s t (.enter event route) (s.register t event route)
  | unmanned {own : Nat} (hl : s.locked = false) (hw : s.workers (s.event own).deviceId = false) :
    Advances s t (.lookup own) (s.returned t own (ePipe, []))
  | missing {own : Nat} (hl : s.locked = false)
    (hget : dictGet s.table (s.event own).requestId = none) :
    Advances s t (.lookup own) (s.goto t .idle)
  | found {own o : Nat} (hl : s.locked = false)
    (hget : dictGet s.table (s.event own).requestId = some o) :
    Advances s t (.lookup own) (s.goto t (.send own o))
  | sent {own o : Nat} : Advances s t (.send own o) (s.goto t (.wait own o))
  | unsent {own o : Nat} (hl : s.locked = false) :
    Advances s t (.send own o)
      (s.goto t (.fails (some own) (s.targets (s.event own).deviceId)))
  | woken {own o : Nat} : Advances s t (.wait own o) (s.goto t (.pop own o))
  | popped {own o : Nat} (hl : s.locked = false) :
    Advances s t (.pop own o)
      ((s.popEntry (s.event own).requestId).goto t (.readDone own o))
  | answered {own o : Nat} (hd : (s.objects o).done = true) :
    Advances s t (.readDone own o) (s.goto t (.readStatus own o))
  | timedOut {own o : Nat} (hd : (s.objects o).done = false) :
    Advances s t (.readDone own o) (s.returned t o (eTimedOut, []))
  | readStatus {own o : Nat} :
    Advances s t (.readStatus own o) (s.goto t (.readData own o (s.objects o).status))
  | readData {own o : Nat} {status : Int} :
    Advances s t (.readData own o status) (s.returned t o (status, (s.objects o).data))
  | late {source : Route} {reply : Reply} (hget : dictGet s.table reply.requestId = none) :
    Advances s t (.completing source reply) (s.lateReply.goto t .idle)
  | accepted {source : Route} {reply : Reply} {o : Nat} (hl : s.locked = false)
    (hget : dictGet s.table reply.requestId = some o) :
    Advances s t (.completing source reply)
      ((s.accept source o (reply.status, reply.data)).goto t
        (.writes source o (reply.status, reply.data) .status))
  | stored {source : Route} {o : Nat} {pair : Pair} {stage next : Stage}
    (hb : stage.blocked (s.objects o) = false) (hn : stage.next = some next) :
    Advances s t (.writes source o pair stage)
      ((s.store o pair stage).goto t (.writes source o pair next))
  | completed {source : Route} {o : Nat} {pair : Pair} :
    Advances s t (.writes source o pair .done) ((s.store o pair .done).goto t .idle)
  | pushed {own : Nat} : Advances s t (.fails (some own) []) (s.returned t own (ePipe, []))
  | monitored : Advances s t (.fails none []) (s.goto t .idle)
  | gone {caller : Option Nat} {id : Nat} {ids : List Nat} (hget : dictGet s.table id = none) :
    Advances s t (.fails caller (id :: ids)) (s.goto t (.fails caller ids))
  | taken {caller : Option Nat} {id : Nat} {ids : List Nat} {o : Nat}
    (hget : dictGet s.table id = some o) :
    Advances s t (.fails caller (id :: ids))
      ((s.popEntry id).goto t (.failsOne caller o .status ids))
  | failing {caller : Option Nat} {o : Nat} {stage next : Stage} {ids : List Nat}
    (hb : stage.blocked (s.objects o) = false) (hn : stage.next = some next) :
    Advances s t (.failsOne caller o stage ids)
      ((s.store o (ePipe, []) stage).goto t (.failsOne caller o next ids))
  | failed {caller : Option Nat} {o : Nat} {ids : List Nat} :
    Advances s t (.failsOne caller o .done ids)
      ((s.store o (ePipe, []) .done).goto t (.fails caller ids))

theorem Stage.next_eq_none {stage : Stage} (h : stage.next = none) : stage = .done := by
  cases stage with
  | status => cases h
  | data => cases h
  | done => rfl

theorem advances_of_advance {s s' : System} {t : Nat} {choice : Bool} {p : Pc}
    (h : advance s t choice p = some s') : Advances s t p s' := by
  cases p with
  | idle => cases h
  | enter event route =>
    simp only [advance, Option.ite_none_left_eq_some, Option.some.injEq, Bool.not_eq_true] at h
    exact h.2 ▸ .entered h.1
  | lookup own =>
    simp only [advance, Option.ite_none_left_eq_some, Bool.not_eq_true] at h
    obtain ⟨hl, h⟩ := h
    split at h
    · rename_i hw
      cases h
      exact .unmanned hl (by simpa using hw)
    · split at h
      · rename_i hget
        cases h
        exact .missing hl hget
      · rename_i o hget
        cases h
        exact .found hl hget
  | send own o =>
    simp only [advance] at h
    split at h
    · cases h
      exact .sent
    · simp only [Option.ite_none_left_eq_some, Option.some.injEq, Bool.not_eq_true] at h
      exact h.2 ▸ .unsent h.1
  | wait own o =>
    simp only [advance, Option.ite_none_right_eq_some, Option.some.injEq] at h
    exact h.2 ▸ .woken
  | pop own o =>
    simp only [advance, Option.ite_none_left_eq_some, Option.some.injEq, Bool.not_eq_true] at h
    exact h.2 ▸ .popped h.1
  | readDone own o =>
    simp only [advance] at h
    split at h
    · rename_i hd
      cases h
      exact .answered hd
    · rename_i hd
      cases h
      exact .timedOut (by simpa using hd)
  | readStatus own o =>
    cases h
    exact .readStatus
  | readData own o status =>
    cases h
    exact .readData
  | completing source reply =>
    simp only [advance, Option.ite_none_left_eq_some, Bool.not_eq_true] at h
    obtain ⟨hl, h⟩ := h
    split at h
    · rename_i hget
      cases h
      exact .late hget
    · rename_i o hget
      cases h
      exact .accepted hl hget
  | writes source o pair stage =>
    simp only [advance, Option.ite_none_left_eq_some, Bool.not_eq_true] at h
    obtain ⟨hb, h⟩ := h
    split at h
    · rename_i next hn
      cases h
      exact .stored hb hn
    · rename_i hn
      cases h
      rw [Stage.next_eq_none hn]
      exact .completed
  | fails caller targets =>
    cases targets with
    | nil =>
      cases h
      cases caller with
      | none => exact .monitored
      | some own => exact .pushed
    | cons id ids =>
      simp only [advance] at h
      split at h
      · rename_i hget
        cases h
        exact .gone hget
      · rename_i o hget
        cases h
        exact .taken hget
  | failsOne caller o stage ids =>
    simp only [advance, Option.ite_none_left_eq_some, Bool.not_eq_true] at h
    obtain ⟨hb, h⟩ := h
    split at h
    · rename_i next hn
      cases h
      exact .failing hb hn
    · rename_i hn
      cases h
      rw [Stage.next_eq_none hn]
      exact .failed

inductive Steps (s : System) : Act → System → Prop
  | dispatch {t : Nat} {event : Event} {managed : Bool} {attached : Option BackendId} {route : Route}
    (ht : s.threads[t]? = some .idle) (hr : routeOf event managed attached = some route) :
    Steps s (.dispatch t event managed attached) (s.goto t (.enter event route))
  | undeliverable {t : Nat} {event : Event} {managed : Bool} {attached : Option BackendId}
    (hr : routeOf event managed attached = none) :
    Steps s (.dispatch t event managed attached)
      { s with returns := s.returns ++ [(none, eNoDev, [])] }
  | replies {t : Nat} {source : Route} {reply : Reply} (ht : s.threads[t]? = some .idle) :
    Steps s (.reply t source reply) (s.goto t (.completing source reply))
  | unknown {t : Nat} {source : Route} {reply : Reply} : Steps s (.reply t source reply) s.lateReply
  | exits {t : Nat} {deviceId : Text} (ht : s.threads[t]? = some .idle) (hl : s.locked = false) :
    Steps s (.workerExit t deviceId)
      ({ s with workers := update s.workers deviceId false }.goto t (.fails none (s.targets deviceId)))
  | goes {t : Nat} {choice : Bool} {p : Pc} {s' : System} (ht : s.threads[t]? = some p)
    (h : Advances s t p s') : Steps s (.go t choice) s'
  | polls {backend : BackendId} :
    Steps s (.poll backend) { s with queues := update s.queues backend (s.queues backend).tail }
  | launches {deviceId : Text} :
    Steps s (.launch deviceId) { s with workers := update s.workers deviceId true }
  | stops {deviceIds : List Text} :
    Steps s (.stop deviceIds) { s with workers := fun d => s.workers d && !deviceIds.contains d }
  | clears (hl : s.locked = false) :
    Steps s .clear { s with table := [], queues := fun _ => [], workers := fun _ => false }

theorem steps_of_step {s s' : System} {a : Act} (h : step s a = some s') : Steps s a s' := by
  cases a with
  | dispatch t event managed attached =>
    simp only [step] at h
    split at h
    · rename_i ht
      split at h
      · rename_i route hr
        cases h
        exact .dispatch ht hr
      · rename_i hr
        cases h
        exact .undeliverable hr
    · cases h
  | reply t source reply =>
    simp only [step] at h
    split at h
    · rename_i ht
      split at h
      · cases h
        exact .replies ht
      · simp only [Option.ite_none_left_eq_some] at h
        obtain ⟨_, h⟩ := h
        split at h
        · cases h
          exact .unknown
        · cases h
          exact .replies ht
    · cases h
  | workerExit t deviceId =>
    simp only [step] at h
    split at h
    · rename_i ht
      simp only [Option.ite_none_left_eq_some, Option.some.injEq, Bool.or_eq_true, not_or,
        Bool.not_eq_true] at h
      exact h.2 ▸ .exits ht h.1.1
    · cases h
  | go t choice =>
    obtain ⟨p, ht, h⟩ := Option.bind_eq_some_iff.mp h
    exact .goes ht (advances_of_advance h)
  | poll backend =>
    cases h
    exact .polls
  | launch deviceId =>
    simp only [step, Option.ite_none_left_eq_some, Option.some.injEq] at h
    exact h.2 ▸ .launches
  | stop deviceIds =>
    simp only [step, Option.ite_none_left_eq_some, Option.some.injEq] at h
    exact h.2 ▸ .stops
  | clear =>
    simp only [step, Option.ite_none_left_eq_some, Option.some.injEq, Bool.not_eq_true] at h
    exact h.2 ▸ .clears h.1

/-! ## Records -/

theorem Pending.store_event (p : Pending) (pair : Pair) (stage : Stage) :
    (p.store pair stage).event = p.event := by
  cases stage <;> rfl

theorem Pending.store_route (p : Pending) (pair : Pair) (stage : Stage) :
    (p.store pair stage).route = p.route := by
  cases stage <;> rfl

theorem Pending.store_replies (p : Pending) (pair : Pair) (stage : Stage) :
    (p.store pair stage).replies = p.replies := by
  cases stage <;> rfl

/-- The records that a thread refers to. -/
def Pc.refs : Pc → List Nat
  | .idle | .enter _ _ | .completing _ _ => []
  | .lookup own => [own]
  | .send own o | .wait own o | .pop own o | .readDone own o | .readStatus own o
  | .readData own o _ => [own, o]
  | .writes _ o _ _ => [o]
  | .fails caller _ => caller.toList
  | .failsOne caller o _ _ => o :: caller.toList

/-- A dispatch and the record that it found under its request id. -/
def Pc.pair : Pc → Option (Nat × Nat)
  | .send own o | .wait own o | .pop own o => some (own, o)
  | _ => none

namespace System

variable {s : System} {t o : Nat} {p q : Pc}

theorem objects_setObject_self (r : Pending) : (s.setObject o r).objects o = r :=
  update_self ..

theorem objects_setObject_of_ne {o' : Nat} (h : o' ≠ o) (r : Pending) :
    (s.setObject o r).objects o' = s.objects o' :=
  update_of_ne h ..

theorem objects_store_self (pair : Pair) (stage : Stage) :
    (s.store o pair stage).objects o = (s.objects o).store pair stage :=
  objects_setObject_self _

theorem objects_store_of_ne {o' : Nat} (h : o' ≠ o) (pair : Pair) (stage : Stage) :
    (s.store o pair stage).objects o' = s.objects o' :=
  objects_setObject_of_ne h _

theorem objects_accept_self (source : Route) (pair : Pair) : (s.accept source o pair).objects o =
    { s.objects o with replies := (s.objects o).replies ++ [(source, pair)] } :=
  objects_setObject_self _

theorem objects_accept_of_ne {o' : Nat} (h : o' ≠ o) (source : Route) (pair : Pair) :
    (s.accept source o pair).objects o' = s.objects o' :=
  objects_setObject_of_ne h _

theorem event_setObject {r : Pending} (h : r.event = (s.objects o).event) (o' : Nat) :
    (s.setObject o r).event o' = s.event o' := by
  by_cases ho : o' = o
  · subst ho
    rw [event, objects_setObject_self, h, event]
  · rw [event, objects_setObject_of_ne ho, event]

theorem objects_register_of_lt {event : Event} {route : Route} (h : o < s.made) :
    (s.register t event route).objects o = s.objects o :=
  update_of_ne (Nat.ne_of_lt h) ..

theorem event_register_of_lt {event : Event} {route : Route} (h : o < s.made) :
    (s.register t event route).event o = s.event o := by
  rw [System.event, objects_register_of_lt h, System.event]

theorem event_register_made {event : Event} {route : Route} :
    (s.register t event route).event s.made = event := by
  show (update s.objects s.made (.fresh event route) s.made).event = event
  rw [update_self]
  rfl

theorem mem_popEntry {id : Nat} {e : Nat × Nat} :
    e ∈ (s.popEntry id).table ↔ e ∈ s.table ∧ e.1 ≠ id := by
  show e ∈ s.table.filter _ ↔ _
  rw [List.mem_filter, decide_eq_true_eq]

/-- Entries are records made for their request id, and threads and returned pairs refer to records
that were made. -/
structure Filed (s : System) : Prop where
  entry : ∀ e ∈ s.table, e.2 < s.made ∧ (s.event e.2).requestId = e.1
  refs : ∀ p ∈ s.threads, ∀ o ∈ p.refs, o < s.made
  pair : ∀ p ∈ s.threads, ∀ own o, p.pair = some (own, o) →
    (s.event own).requestId = (s.event o).requestId
  returned : ∀ r ∈ s.returns, ∀ o ∈ r.1, o < s.made

namespace Filed

theorem start (n : Nat) : (Controllers.start n).Filed := by
  refine ⟨fun _ he => (List.not_mem_nil he).elim, ?_, ?_, fun _ hr => (List.not_mem_nil hr).elim⟩
  · intro p hp o ho
    rw [List.eq_of_mem_replicate hp] at ho
    cases ho
  · intro p hp own o ho
    rw [List.eq_of_mem_replicate hp] at ho
    cases ho

theorem goto (h : s.Filed) (hrefs : ∀ o ∈ q.refs, o < s.made)
    (hpair : ∀ own o, q.pair = some (own, o) →
      (s.event own).requestId = (s.event o).requestId) : (s.goto t q).Filed where
  entry := h.entry
  returned := h.returned
  refs := by
    intro r hr
    rcases List.mem_or_eq_of_mem_set hr with hr | rfl
    · exact h.refs r hr
    · exact hrefs
  pair := by
    intro r hr
    rcases List.mem_or_eq_of_mem_set hr with hr | rfl
    · exact h.pair r hr
    · exact hpair

/-- A thread that takes up no new record. -/
theorem goto_of_subset (h : s.Filed) (hp : p ∈ s.threads) (hrefs : ∀ o ∈ q.refs, o ∈ p.refs)
    (hpair : q.pair = none ∨ q.pair = p.pair) : (s.goto t q).Filed := by
  apply h.goto fun o ho => h.refs p hp o (hrefs o ho)
  intro own o ho
  rcases hpair with hnone | heq
  · rw [hnone] at ho
    cases ho
  · exact h.pair p hp own o (heq ▸ ho)

theorem return_ (h : s.Filed) (ho : o < s.made) (pair : Pair) : (s.returned t o pair).Filed := by
  have hidle := h.goto (t := t) (q := .idle) (fun _ ho => by cases ho) (fun _ _ ho => by cases ho)
  refine ⟨hidle.entry, hidle.refs, hidle.pair, ?_⟩
  intro r hr o' ho'
  rcases List.mem_append.mp hr with hr | hr
  · exact h.returned r hr o' ho'
  · rw [List.mem_singleton.mp hr] at ho'
    cases ho'
    exact ho

theorem popEntry (h : s.Filed) (id : Nat) : (s.popEntry id).Filed :=
  ⟨fun e he => h.entry e (mem_popEntry.mp he).1, h.refs, h.pair, h.returned⟩

theorem setObject (h : s.Filed) {r : Pending} (hr : r.event = (s.objects o).event) :
    (s.setObject o r).Filed where
  refs := h.refs
  returned := h.returned
  entry := by
    intro e he
    rw [event_setObject hr]
    exact h.entry e he
  pair := by
    intro p hp own o' ho
    rw [event_setObject hr, event_setObject hr]
    exact h.pair p hp own o' ho

theorem store (h : s.Filed) (pair : Pair) (stage : Stage) : (s.store o pair stage).Filed :=
  h.setObject (Pending.store_event _ pair stage)

theorem accept (h : s.Filed) (source : Route) (pair : Pair) : (s.accept source o pair).Filed :=
  have hset := h.setObject (o := o)
    (r := { s.objects o with replies := (s.objects o).replies ++ [(source, pair)] }) rfl
  ⟨hset.entry, hset.refs, hset.pair, hset.returned⟩

theorem register (h : s.Filed) (event : Event) (route : Route) :
    (s.register t event route).Filed where
  returned := fun r hr o ho => Nat.lt_succ_of_lt (h.returned r hr o ho)
  entry := by
    intro e he
    rcases mem_of_mem_dictSet he with rfl | he
    · rw [event_register_made]
      exact ⟨Nat.lt_succ_self _, rfl⟩
    · obtain ⟨hlt, hid⟩ := h.entry e he
      rw [event_register_of_lt hlt]
      exact ⟨Nat.lt_succ_of_lt hlt, hid⟩
  refs := by
    intro p hp o ho
    rcases List.mem_or_eq_of_mem_set hp with hp | rfl
    · exact Nat.lt_succ_of_lt (h.refs p hp o ho)
    · have hmade : o = s.made := by cases route <;> simpa [Pc.entered, Pc.refs] using ho
      rw [hmade]
      exact Nat.lt_succ_self _
  pair := by
    intro p hp own o ho
    rcases List.mem_or_eq_of_mem_set hp with hp | rfl
    · -- An old thread refers to old records, whose events stay.
      have hrefs : own ∈ p.refs ∧ o ∈ p.refs := by
        cases p <;> simp [Pc.pair, Pc.refs] at ho ⊢ <;> simp [ho]
      rw [event_register_of_lt (h.refs p hp own hrefs.1), event_register_of_lt (h.refs p hp o hrefs.2)]
      exact h.pair p hp own o ho
    · cases route with
      | worker _ => cases ho
      | backend _ =>
        cases ho
        rfl

theorem advances {s' : System} (h : s.Filed) (ht : s.threads[t]? = some p)
    (ha : Advances s t p s') : s'.Filed := by
  have hp := List.mem_of_getElem? ht
  have hrefs := h.refs p hp
  cases ha with
  | entered => exact h.register _ _
  | unmanned => exact h.return_ (hrefs _ (.head _)) _
  | missing => exact h.goto_of_subset hp (fun _ ho => by cases ho) (.inl rfl)
  | found _ hget =>
    obtain ⟨hlt, hid⟩ := h.entry _ (mem_of_dictGet hget)
    apply h.goto
    · intro o ho
      simp only [Pc.refs, List.mem_cons, List.not_mem_nil, or_false] at ho
      rcases ho with rfl | rfl
      · exact hrefs _ (.head _)
      · exact hlt
    · intro own o ho
      cases ho
      exact hid.symm
  | sent => exact h.goto_of_subset hp (fun _ ho => ho) (.inr rfl)
  | unsent =>
    refine h.goto_of_subset hp ?_ (.inl rfl)
    intro o ho
    simp only [Pc.refs, Option.toList, List.mem_singleton] at ho
    exact ho ▸ .head _
  | woken => exact h.goto_of_subset hp (fun _ ho => ho) (.inr rfl)
  | popped => exact (h.popEntry _).goto_of_subset hp (fun _ ho => ho) (.inl rfl)
  | answered => exact h.goto_of_subset hp (fun _ ho => ho) (.inl rfl)
  | timedOut => exact h.return_ (hrefs _ (.tail _ (.head _))) _
  | readStatus => exact h.goto_of_subset hp (fun _ ho => ho) (.inl rfl)
  | readData => exact h.return_ (hrefs _ (.tail _ (.head _))) _
  | late =>
    have hlate : s.lateReply.Filed := ⟨h.entry, h.refs, h.pair, h.returned⟩
    exact hlate.goto_of_subset hp (fun _ ho => by cases ho) (.inl rfl)
  | accepted _ hget =>
    apply (h.accept _ _).goto
    · intro o ho
      rw [List.mem_singleton.mp ho]
      exact (h.entry _ (mem_of_dictGet hget)).1
    · exact fun _ _ ho => by cases ho
  | stored => exact (h.store _ _).goto_of_subset hp (fun _ ho => ho) (.inl rfl)
  | completed => exact (h.store _ _).goto_of_subset hp (fun _ ho => by cases ho) (.inl rfl)
  | pushed => exact h.return_ (hrefs _ (.head _)) _
  | monitored => exact h.goto_of_subset hp (fun _ ho => by cases ho) (.inl rfl)
  | gone => exact h.goto_of_subset hp (fun _ ho => ho) (.inl rfl)
  | taken hget =>
    apply (h.popEntry _).goto
    · intro o ho
      rcases List.mem_cons.mp ho with rfl | ho
      · exact (h.entry _ (mem_of_dictGet hget)).1
      · exact hrefs o ho
    · exact fun _ _ ho => by cases ho
  | failing => exact (h.store _ _).goto_of_subset hp (fun _ ho => ho) (.inl rfl)
  | failed => exact (h.store _ _).goto_of_subset hp (fun _ ho => .tail _ ho) (.inl rfl)

theorem steps {s' : System} {a : Act} (h : s.Filed) (hs : Steps s a s') : s'.Filed := by
  cases hs with
  | dispatch => exact h.goto (fun _ ho => by cases ho) (fun _ _ ho => by cases ho)
  | undeliverable =>
    refine ⟨h.entry, h.refs, h.pair, fun r hr o ho => ?_⟩
    rcases List.mem_append.mp hr with hr | hr
    · exact h.returned r hr o ho
    · rw [List.mem_singleton.mp hr] at ho
      cases ho
  | replies => exact h.goto (fun _ ho => by cases ho) (fun _ _ ho => by cases ho)
  | unknown => exact ⟨h.entry, h.refs, h.pair, h.returned⟩
  | exits =>
    have hexit (workers : Text → Bool) : Filed { s with workers := workers } :=
      ⟨h.entry, h.refs, h.pair, h.returned⟩
    exact (hexit _).goto (fun _ ho => by cases ho) (fun _ _ ho => by cases ho)
  | goes ht ha => exact h.advances ht ha
  | polls | launches | stops => exact ⟨h.entry, h.refs, h.pair, h.returned⟩
  | clears => exact ⟨fun _ he => (List.not_mem_nil he).elim, h.refs, h.pair, h.returned⟩

end Filed

end System

end Sensorium.Controllers

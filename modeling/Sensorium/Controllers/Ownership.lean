import Sensorium.Controllers.DispatchSteps

/-!
# Who answers a request

`reply_event` and a worker's reader look a reply up by its request id alone: the backend or the
device that it comes from is not compared with the one that the event went to.  In runs whose
replies find only records of events that went to the replier, every request is completed by its own
controller.
-/

namespace Sensorium.Controllers

open Lib Function
open Sensorium.Inventory (BackendId)

/-- The value of a new record, the value of a failure, or one that a reply of the record's own
backend or worker carried. -/
def Pending.StatusFrom (p : Pending) (status : Int) : Prop :=
  status = eTimedOut ∨ status = ePipe ∨ ∃ r ∈ p.replies, r.1 = p.route ∧ r.2.1 = status

def Pending.DataFrom (p : Pending) (data : List UInt8) : Prop :=
  data = [] ∨ ∃ r ∈ p.replies, r.1 = p.route ∧ r.2.2 = data

def Pending.Sent (p : Pending) (pair : Pair) : Prop := p.StatusFrom pair.1 ∧ p.DataFrom pair.2

/-- A record is completed only by replies of the backend or worker that its event went to, and what
its dispatch returns is from there. -/
def System.OwnReplies (s : System) : Prop :=
  (∀ o < s.made, ∀ r ∈ (s.objects o).replies, r.1 = (s.objects o).route) ∧
  ∀ o pair, (some o, pair) ∈ s.returns → (s.objects o).Sent pair

/-- The record that a reply's request id finds, if any, is of an event that went to the replier. -/
def Pc.Honest (s : System) : Pc → Prop
  | .completing source reply =>
    ∀ o ∈ dictGet s.table reply.requestId, (s.objects o).route = source
  | _ => True

def honest (s : System) : Act → Prop
  | .go t _ => ∀ p ∈ s.threads[t]?, p.Honest s
  | _ => True

/-! ## Records -/

namespace Pending

variable {p q : Pending} {pair : Pair}

theorem StatusFrom.mono {status : Int} (h : p.StatusFrom status)
    (hr : ∀ r ∈ p.replies, r ∈ q.replies) (hroute : q.route = p.route) : q.StatusFrom status := by
  rcases h with h | h | ⟨r, hmem, hown, hst⟩
  · exact .inl h
  · exact .inr (.inl h)
  · exact .inr (.inr ⟨r, hr r hmem, hown.trans hroute.symm, hst⟩)

theorem DataFrom.mono {data : List UInt8} (h : p.DataFrom data)
    (hr : ∀ r ∈ p.replies, r ∈ q.replies) (hroute : q.route = p.route) : q.DataFrom data := by
  rcases h with h | ⟨r, hmem, hown, hdata⟩
  · exact .inl h
  · exact .inr ⟨r, hr r hmem, hown.trans hroute.symm, hdata⟩

theorem Sent.mono (h : p.Sent pair) (hr : ∀ r ∈ p.replies, r ∈ q.replies)
    (hroute : q.route = p.route) : q.Sent pair :=
  ⟨h.1.mono hr hroute, h.2.mono hr hroute⟩

theorem sent_ePipe (p : Pending) : p.Sent (ePipe, []) := ⟨.inr (.inl rfl), .inl rfl⟩

theorem sent_eTimedOut (p : Pending) : p.Sent (eTimedOut, []) := ⟨.inl rfl, .inl rfl⟩

/-- What a record holds, and what was accepted for it, is from its own controller. -/
structure Owned (p : Pending) : Prop where
  replies : ∀ r ∈ p.replies, r.1 = p.route
  status : p.StatusFrom p.status
  data : p.DataFrom p.data

theorem owned_fresh (event : Event) (route : Route) : (fresh event route).Owned :=
  ⟨fun _ hr => (List.not_mem_nil hr).elim, .inl rfl, .inl rfl⟩

theorem Owned.sent_of_mem (h : p.Owned) {source : Route} (hr : (source, pair) ∈ p.replies) :
    p.Sent pair :=
  ⟨.inr (.inr ⟨_, hr, h.replies _ hr, rfl⟩), .inr ⟨_, hr, h.replies _ hr, rfl⟩⟩

theorem Owned.store (h : p.Owned) (hp : p.Sent pair) (stage : Stage) :
    (p.store pair stage).Owned := by
  cases stage with
  | status => exact ⟨h.replies, hp.1, h.data⟩
  | data => exact ⟨h.replies, h.status, hp.2⟩
  | done => exact ⟨h.replies, h.status, h.data⟩

end Pending

/-! ## Steps -/

/-- A thread that stores a reply has had it accepted, and a status that was read was stored. -/
def Pc.Sourced (s : System) : Pc → Prop
  | .writes source o pair _ => (source, pair) ∈ (s.objects o).replies
  | .readData _ o status => (s.objects o).StatusFrom status
  | _ => True

namespace System

variable {s s' : System} {t o : Nat} {p q : Pc}

structure Sourced (s : System) : Prop where
  owned : ∀ o, (s.objects o).Owned
  threads : ∀ p ∈ s.threads, p.Sourced s
  returned : ∀ o pair, (some o, pair) ∈ s.returns → (s.objects o).Sent pair

namespace Sourced

theorem start (n : Nat) : (Controllers.start n).Sourced where
  owned := fun _ => Pending.owned_fresh _ _
  threads := by
    intro p hp
    rw [List.eq_of_mem_replicate hp]
    trivial
  returned := fun _ _ hr => (List.not_mem_nil hr).elim

theorem goto (h : s.Sourced) (hq : q.Sourced s) : (s.goto t q).Sourced where
  owned := h.owned
  returned := h.returned
  threads := by
    intro r hr
    rcases List.mem_or_eq_of_mem_set hr with hr | rfl
    · exact h.threads r hr
    · exact hq

theorem return_ (h : s.Sourced) {pair : Pair} (hp : (s.objects o).Sent pair) :
    (s.returned t o pair).Sourced where
  owned := h.owned
  threads := (h.goto (t := t) (q := .idle) trivial).threads
  returned := by
    intro o' pair' hr
    rcases List.mem_append.mp hr with hr | hr
    · exact h.returned o' pair' hr
    · cases List.mem_singleton.mp hr
      exact hp

/-- A record may change if it keeps its replies and its route. -/
theorem setObject (h : s.Sourced) {r : Pending} (hr : r.Owned)
    (hreplies : ∀ x ∈ (s.objects o).replies, x ∈ r.replies)
    (hroute : r.route = (s.objects o).route) : (s.setObject o r).Sourced := by
  have hgrow (o' : Nat) : (∀ x ∈ (s.objects o').replies, x ∈ ((s.setObject o r).objects o').replies) ∧
      ((s.setObject o r).objects o').route = (s.objects o').route := by
    by_cases ho : o' = o
    · subst ho
      rw [objects_setObject_self]
      exact ⟨hreplies, hroute⟩
    · rw [objects_setObject_of_ne ho]
      exact ⟨fun _ hx => hx, rfl⟩
  refine ⟨?_, ?_, fun o' pair hp => (h.returned o' pair hp).mono (hgrow o').1 (hgrow o').2⟩
  · intro o'
    by_cases ho : o' = o
    · rw [ho, objects_setObject_self]
      exact hr
    · rw [objects_setObject_of_ne ho]
      exact h.owned o'
  · intro p hp
    have hsourced := h.threads p hp
    cases p with
    | writes source o' pair stage => exact (hgrow o').1 _ hsourced
    | readData own o' status => exact Pending.StatusFrom.mono hsourced (hgrow o').1 (hgrow o').2
    | _ => trivial

theorem store (h : s.Sourced) {pair : Pair} (hp : (s.objects o).Sent pair) (stage : Stage) :
    (s.store o pair stage).Sourced := by
  apply h.setObject ((h.owned o).store hp stage)
  · rw [Pending.store_replies]
    exact fun _ hx => hx
  · exact Pending.store_route _ pair stage

theorem accept (h : s.Sourced) {source : Route} (hown : (s.objects o).route = source)
    (pair : Pair) : (s.accept source o pair).Sourced := by
  have hgrow : ∀ x ∈ (s.objects o).replies, x ∈ (s.objects o).replies ++ [(source, pair)] :=
    fun _ hx => List.mem_append_left _ hx
  have howned := h.owned o
  have hset : (s.setObject o
      { s.objects o with replies := (s.objects o).replies ++ [(source, pair)] }).Sourced := by
    refine h.setObject ⟨?_, howned.status.mono hgrow rfl, howned.data.mono hgrow rfl⟩ hgrow rfl
    intro x hx
    rcases List.mem_append.mp hx with hx | hx
    · exact howned.replies x hx
    · rw [List.mem_singleton.mp hx]
      exact hown.symm
  exact ⟨hset.owned, hset.threads, hset.returned⟩

-- The new record overwrites no record that something refers to.
theorem register (h : s.Sourced) (hf : s.Filed) (event : Event) (route : Route) :
    (s.register t event route).Sourced where
  owned := by
    intro o
    by_cases ho : o = s.made
    · show (update s.objects s.made _ o).Owned
      rw [ho, update_self]
      exact Pending.owned_fresh event route
    · show (update s.objects s.made _ o).Owned
      rw [update_of_ne ho]
      exact h.owned o
  threads := by
    intro p hp
    rcases List.mem_or_eq_of_mem_set hp with hp | rfl
    · have hsourced := h.threads p hp
      have hrefs := hf.refs p hp
      cases p with
      | writes source o pair stage =>
        show _ ∈ ((s.register t event route).objects o).replies
        rw [objects_register_of_lt (hrefs o (.head _))]
        exact hsourced
      | readData own o status =>
        show ((s.register t event route).objects o).StatusFrom status
        rw [objects_register_of_lt (hrefs o (.tail _ (.head _)))]
        exact hsourced
      | _ => trivial
    · cases route <;> trivial
  returned := by
    intro o pair hr
    rw [objects_register_of_lt (hf.returned _ hr o rfl)]
    exact h.returned o pair hr

theorem advances (h : s.Sourced) (hf : s.Filed) (ht : s.threads[t]? = some p)
    (hok : p.Honest s) (ha : Advances s t p s') : s'.Sourced := by
  have hsourced := h.threads p (List.mem_of_getElem? ht)
  cases ha with
  | entered => exact h.register hf _ _
  | unmanned => exact h.return_ (Pending.sent_ePipe _)
  | missing | found | sent | unsent | woken | answered | monitored | gone => exact h.goto trivial
  | popped => exact goto ⟨h.owned, h.threads, h.returned⟩ trivial
  | timedOut => exact h.return_ (Pending.sent_eTimedOut _)
  | readStatus => exact h.goto (h.owned _).status
  | readData => exact h.return_ ⟨hsourced, (h.owned _).data⟩
  | late => exact goto ⟨h.owned, h.threads, h.returned⟩ trivial
  | @accepted source reply o _ hget =>
    apply (h.accept (hok o hget) _).goto
    show _ ∈ ((s.accept source o _).objects o).replies
    rw [objects_accept_self]
    exact List.mem_append_right _ (List.mem_singleton_self _)
  | @stored source o pair stage next =>
    apply (h.store ((h.owned o).sent_of_mem hsourced) stage).goto
    show _ ∈ ((s.store o pair stage).objects o).replies
    rw [objects_store_self, Pending.store_replies]
    exact hsourced
  | completed => exact (h.store ((h.owned _).sent_of_mem hsourced) _).goto trivial
  | pushed => exact h.return_ (Pending.sent_ePipe _)
  | taken => exact goto ⟨h.owned, h.threads, h.returned⟩ trivial
  | failing | failed => exact (h.store (Pending.sent_ePipe _) _).goto trivial

theorem steps {a : Act} (h : s.Sourced) (hf : s.Filed) (hok : honest s a) (hs : Steps s a s') :
    s'.Sourced := by
  cases hs with
  | dispatch | replies => exact h.goto trivial
  | undeliverable =>
    refine ⟨h.owned, h.threads, fun o pair hr => ?_⟩
    rcases List.mem_append.mp hr with hr | hr
    · exact h.returned o pair hr
    · cases List.mem_singleton.mp hr
  | exits => exact goto ⟨h.owned, h.threads, h.returned⟩ trivial
  | goes ht ha => exact h.advances hf ht (hok _ ht) ha
  | unknown | polls | launches | stops | clears => exact ⟨h.owned, h.threads, h.returned⟩

end Sourced

end System

/-- In every run whose replies find only records of events that went to the replier, every request is
completed by its own backend or worker only, and returns what came from there. -/
theorem replies_owned {n : Nat} {s : System} (h : Reach step honest (start n) s) :
    s.OwnReplies := by
  have hinv : s.Filed ∧ s.Sourced := by
    refine h.invariant (I := fun s => s.Filed ∧ s.Sourced) ⟨.start n, .start n⟩ ?_
    intro s a s' hs hok hstep
    exact ⟨hs.1.steps (steps_of_step hstep), hs.2.steps hs.1 hok (steps_of_step hstep)⟩
  exact ⟨fun o _ => (hinv.2.owned o).replies, hinv.2.returned⟩

/-! ## Schedules -/

instance (s : System) (p : Pc) : Decidable (p.Honest s) :=
  match p with
  | .completing source reply => inferInstanceAs (Decidable
      (∀ o ∈ dictGet s.table reply.requestId, (s.objects o).route = source))
  | .idle | .enter _ _ | .lookup _ | .send _ _ | .wait _ _ | .pop _ _ | .readDone _ _
  | .readStatus _ _ | .readData _ _ _ | .writes _ _ _ _ | .fails _ _ | .failsOne _ _ _ _ =>
    .isTrue trivial

instance (s : System) (a : Act) : Decidable (honest s a) :=
  match a with
  | .go t _ => inferInstanceAs (Decidable (∀ p ∈ s.threads[t]?, p.Honest s))
  | .dispatch _ _ _ _ | .reply _ _ _ | .workerExit _ _ | .poll _ | .launch _ | .stop _ | .clear =>
    .isTrue trivial

def eepromEvent : Event := ⟨7, text "eeprom0"⟩

def backendA : BackendId := .str (text "a")
def backendB : BackendId := .str (text "b")

/-- One reply with status 0 and one byte. -/
def oneByte : Reply := ⟨7, 0, [0x42]⟩

/-- A dispatch to backend a on thread 0, and a reply from `source` on thread 1. -/
def answeredBy (source : Route) : List Act :=
  [.dispatch 0 eepromEvent false (some backendA), .go 0 false, .poll backendA,
    .reply 1 source oneByte, .go 1 false, .go 1 false, .go 1 false, .go 1 false,
    .go 0 false, .go 0 false, .go 0 false, .go 0 false, .go 0 false]

/-- The backend that polled the event answers it. -/
theorem replies_owned_one_byte :
    ∃ s : System, s.returns = [(some 0, 0, [0x42])] ∧ s.OwnReplies := by
  have hrun : (exec (guarded step honest) (start 2) (answeredBy (.backend backendA))).map
      System.returns = some [(some 0, 0, [0x42])] := by
    decide +kernel
  obtain ⟨s, hexec, hview⟩ := Option.map_eq_some_iff.mp hrun
  exact ⟨s, hview, replies_owned (reach_of_exec hexec)⟩

/-- Backend b answers a request that went to backend a, which returns b's bytes. -/
theorem reply_of_another_backend :
    ∃ s : System, Reach step anyStep (start 2) s ∧ s.returns = [(some 0, 0, [0x42])] ∧
      ¬ s.OwnReplies := by
  have hrun : (exec (guarded step anyStep) (start 2) (answeredBy (.backend backendB))).map
      (fun s => decide (s.returns = [(some 0, 0, [0x42])]) && decide (s.made = 1) &&
        decide ((s.objects 0).replies.map (fun r => (r.1, (s.objects 0).route)) =
          [(.backend backendB, .backend backendA)])) = some true := by
    decide +kernel
  obtain ⟨s, hexec, hview⟩ := Option.map_eq_some_iff.mp hrun
  simp only [Bool.and_eq_true, decide_eq_true_eq] at hview
  obtain ⟨⟨hreturns, hmade⟩, hreplies⟩ := hview
  refine ⟨s, reach_of_exec hexec, hreturns, fun hown => ?_⟩
  obtain ⟨r, hr, hpair⟩ := List.mem_map.mp (hreplies ▸ List.mem_singleton_self _)
  obtain ⟨hfrom, hroute⟩ := Prod.mk.inj hpair
  have hsame := hown.1 0 (by omega) r hr
  rw [hfrom, hroute] at hsame
  exact absurd hsame (by decide)

end Sensorium.Controllers

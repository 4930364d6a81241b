import Sensorium.Controllers.DispatchSteps

/-!
# The events that backends are given

A dispatch puts its event at the end of the queue of a backend, and a poll takes the first event of
a queue.  The records that polls have taken are kept here beside the system, with the number of
records that were made before the last reset, which empties all queues.
-/

namespace Sensorium.Controllers

open Lib Function
open Sensorium.Inventory (BackendId)

structure Delivery where
  sys : System
  given : BackendId → List Nat
  cleared : Nat

namespace Delivery

/-- What polls have taken after a step. -/
def givenAfter (d : Delivery) : Act → BackendId → List Nat
  | .poll b => update d.given b (d.given b ++ (d.sys.queues b).head?.toList)
  | _ => d.given

def clearedAfter (d : Delivery) : Act → Nat
  | .clear => d.sys.made
  | _ => d.cleared

def step (d : Delivery) (a : Act) : Option Delivery :=
  (Controllers.step d.sys a).map fun s =>
    { sys := s, given := d.givenAfter a, cleared := d.clearedAfter a }

def start (n : Nat) : Delivery where
  sys := Controllers.start n
  given := fun _ => []
  cleared := 0

/-- A record is for a backend. -/
def For (d : Delivery) (b : BackendId) (o : Nat) : Prop :=
  o < d.sys.made ∧ (d.sys.objects o).route = .backend b

end Delivery

/-! ## Steps that leave the queues -/

/-- Two systems with the same queues, and the same records for them. -/
structure SameQueues (s s' : System) : Prop where
  queues : s'.queues = s.queues
  made : s'.made = s.made
  route : ∀ o, (s'.objects o).route = (s.objects o).route

namespace SameQueues

variable {s s' : System} {t o : Nat} {p : Pc}

theorem goto (h : SameQueues s s') (t : Nat) (p : Pc) : SameQueues s (s'.goto t p) :=
  ⟨h.queues, h.made, h.route⟩

theorem return_ (h : SameQueues s s') (t o : Nat) (pair : Pair) :
    SameQueues s (s'.returned t o pair) :=
  ⟨h.queues, h.made, h.route⟩

theorem refl (s : System) : SameQueues s s := ⟨rfl, rfl, fun _ => rfl⟩

theorem setObject {r : Pending} (hr : r.route = (s.objects o).route) :
    SameQueues s (s.setObject o r) := by
  refine ⟨rfl, rfl, fun o' => ?_⟩
  by_cases ho : o' = o
  · subst ho
    rw [System.objects_setObject_self]
    exact hr
  · rw [System.objects_setObject_of_ne ho]

theorem store (s : System) (o : Nat) (pair : Pair) (stage : Stage) :
    SameQueues s (s.store o pair stage) :=
  setObject (Pending.store_route _ pair stage)

theorem accept (s : System) (source : Route) (o : Nat) (pair : Pair) :
    SameQueues s (s.accept source o pair) := by
  have hset : SameQueues s (s.setObject o
      { s.objects o with replies := (s.objects o).replies ++ [(source, pair)] }) := setObject rfl
  exact ⟨rfl, rfl, hset.route⟩

/-- Only the first section of a dispatch changes a queue. -/
theorem of_advances (h : Advances s t p s') :
    SameQueues s s' ∨ ∃ event route, p = .enter event route ∧ s' = s.register t event route := by
  cases h with
  | entered => exact .inr ⟨_, _, rfl, rfl⟩
  | unmanned | timedOut | readData | pushed => exact .inl ((refl s).return_ _ _ _)
  | missing | found | sent | unsent | woken | answered | readStatus | monitored | gone =>
    exact .inl ((refl s).goto _ _)
  | popped | taken => exact .inl ⟨rfl, rfl, fun _ => rfl⟩
  | late => exact .inl ⟨rfl, rfl, fun _ => rfl⟩
  | accepted =>
    exact .inl ⟨rfl, rfl, (accept s _ _ _).route⟩
  | stored | completed | failing | failed => exact .inl ((store s _ _ _).goto _ _)

end SameQueues

/-! ## The invariant -/

/-- What was given to a backend, with its queue behind it, is in the order of the dispatches, and
the queue has all records for the backend that were made since the last reset and not given. -/
structure Delivery.Fifo (d : Delivery) : Prop where
  order : ∀ b, (d.given b ++ d.sys.queues b).Pairwise (· < ·)
  given : ∀ b, ∀ o ∈ d.given b, d.For b o
  queue : ∀ b o, o ∈ d.sys.queues b ↔ d.cleared ≤ o ∧ d.For b o ∧ o ∉ d.given b
  cleared : d.cleared ≤ d.sys.made

namespace Delivery.Fifo

variable {d : Delivery} {s : System}

theorem start (n : Nat) : (Delivery.start n).Fifo where
  order := fun _ => .nil
  given := fun _ _ ho => (List.not_mem_nil ho).elim
  queue := fun _ _ =>
    ⟨fun ho => (List.not_mem_nil ho).elim, fun ho => (Nat.not_lt_zero _ ho.2.1.1).elim⟩
  cleared := Nat.zero_le _

theorem below (h : d.Fifo) {b : BackendId} {o : Nat} (ho : o ∈ d.given b ++ d.sys.queues b) :
    o < d.sys.made := by
  rcases List.mem_append.mp ho with hgiven | hqueue
  · exact (h.given b o hgiven).1
  · exact ((h.queue b o).mp hqueue).2.1.1

theorem same (h : d.Fifo) (hs : SameQueues d.sys s) : Delivery.Fifo { d with sys := s } := by
  have hfor : ∀ b o, Delivery.For { d with sys := s } b o ↔ d.For b o := fun b o => by
    unfold Delivery.For
    rw [hs.made, hs.route]
  exact {
    order := fun b => by
      show (d.given b ++ s.queues b).Pairwise (· < ·)
      rw [hs.queues]
      exact h.order b
    given := fun b o ho => (hfor b o).mpr (h.given b o ho)
    queue := fun b o => by
      show o ∈ s.queues b ↔ d.cleared ≤ o ∧ Delivery.For { d with sys := s } b o ∧ o ∉ d.given b
      rw [hs.queues, hfor]
      exact h.queue b o
    cleared := by
      show d.cleared ≤ s.made
      rw [hs.made]
      exact h.cleared }

/-- A new record goes to the end of the queue of its backend. -/
theorem register (h : d.Fifo) (t : Nat) (event : Event) (route : Route) :
    Delivery.Fifo { d with sys := d.sys.register t event route } := by
  have hold : ∀ b o, o < d.sys.made →
      (Delivery.For { d with sys := d.sys.register t event route } b o ↔ d.For b o) := by
    intro b o ho
    unfold Delivery.For
    rw [System.objects_register_of_lt ho]
    show o < d.sys.made + 1 ∧ _ ↔ _
    exact and_congr_left fun _ => ⟨fun _ => ho, fun _ => Nat.lt_succ_of_lt ho⟩
  have hnew : ∀ b, Delivery.For { d with sys := d.sys.register t event route } b d.sys.made ↔
      route = .backend b := by
    intro b
    unfold Delivery.For
    show d.sys.made < d.sys.made + 1 ∧
      (update d.sys.objects d.sys.made (.fresh event route) d.sys.made).route = _ ↔ _
    rw [update_self]
    exact and_iff_right (Nat.lt_succ_self _)
  have hqueue : ∀ b o, o ∈ (d.sys.register t event route).queues b ↔
      o ∈ d.sys.queues b ∨ o = d.sys.made ∧ route = .backend b := by
    intro b o
    show o ∈ d.sys.enqueue d.sys.made route b ↔ _
    cases route with
    | worker deviceId => simp [System.enqueue]
    | backend b' =>
      show o ∈ update d.sys.queues b' (d.sys.queues b' ++ [d.sys.made]) b ↔ _
      by_cases hb : b = b'
      · subst hb
        simp
      · have hne : Route.backend b' ≠ .backend b := fun heq => hb (Route.backend.inj heq).symm
        rw [update_of_ne hb]
        simp [hne]
  exact {
    order := fun b => by
      show (d.given b ++ d.sys.enqueue d.sys.made route b).Pairwise (· < ·)
      cases route with
      | worker deviceId => exact h.order b
      | backend b' =>
        show (d.given b ++ update d.sys.queues b' (d.sys.queues b' ++ [d.sys.made]) b).Pairwise _
        by_cases hb : b = b'
        · subst hb
          rw [update_self, ← List.append_assoc]
          refine List.pairwise_append.mpr ⟨h.order b, List.pairwise_singleton _ _, ?_⟩
          intro o ho o' ho'
          rw [List.mem_singleton.mp ho']
          exact h.below ho
        · rw [update_of_ne hb]
          exact h.order b
    given := fun b o ho => (hold b o (h.given b o ho).1).mpr (h.given b o ho)
    queue := fun b o => by
      rw [hqueue, h.queue]
      by_cases ho : o = d.sys.made
      · subst ho
        have hnot : d.sys.made ∉ d.given b := fun hmem => Nat.lt_irrefl _ (h.given b _ hmem).1
        have hfor : ¬ d.For b d.sys.made := fun hfor => Nat.lt_irrefl _ hfor.1
        simp [hnew, hnot, hfor, h.cleared]
      · by_cases hlt : o < d.sys.made
        · simp [hold b o hlt, ho]
        · have hfor : ¬ d.For b o := fun hfor => hlt hfor.1
          have hfor' : ¬ Delivery.For { d with sys := d.sys.register t event route } b o :=
            fun hfor => hlt (Nat.lt_of_le_of_ne (Nat.le_of_lt_succ hfor.1) ho)
          simp [hfor, hfor', ho]
    cleared := Nat.le_succ_of_le h.cleared }

/-- A poll is given the first record of the queue. -/
theorem poll (h : d.Fifo) (b : BackendId) : Delivery.Fifo
    { d with
      sys := { d.sys with queues := update d.sys.queues b (d.sys.queues b).tail }
      given := update d.given b (d.given b ++ (d.sys.queues b).head?.toList) } := by
  have hsplit : (d.given b ++ (d.sys.queues b).head?.toList) ++ (d.sys.queues b).tail =
      d.given b ++ d.sys.queues b := by
    cases d.sys.queues b with
    | nil => simp
    | cons o rest => simp
  exact {
    order := fun b' => by
      show (update d.given b _ b' ++ update d.sys.queues b _ b').Pairwise (· < ·)
      by_cases hb : b' = b
      · subst hb
        rw [update_self, update_self, hsplit]
        exact h.order b'
      · rw [update_of_ne hb, update_of_ne hb]
        exact h.order b'
    given := fun b' o ho => by
      have ho : o ∈ update d.given b (d.given b ++ (d.sys.queues b).head?.toList) b' := ho
      by_cases hb : b' = b
      · subst hb
        rw [update_self] at ho
        rcases List.mem_append.mp ho with hgiven | hhead
        · exact h.given b' o hgiven
        · have hqueue := List.mem_of_mem_head? (Option.mem_toList.mp hhead)
          exact ((h.queue b' o).mp hqueue).2.1
      · rw [update_of_ne hb] at ho
        exact h.given b' o ho
    queue := fun b' o => by
      show o ∈ update d.sys.queues b (d.sys.queues b).tail b' ↔ d.cleared ≤ o ∧ d.For b' o ∧
        o ∉ update d.given b (d.given b ++ (d.sys.queues b).head?.toList) b'
      by_cases hb : b' = b
      · subst hb
        rw [update_self, update_self]
        have hqueue := h.queue b' o
        have horder := (List.pairwise_append.mp (h.order b')).2.1
        cases hq : d.sys.queues b' with
        | nil =>
          rw [hq] at hqueue
          simpa using hqueue
        | cons first rest =>
          rw [hq] at hqueue horder
          have hfirst : first ∉ rest := fun hmem =>
            Nat.lt_irrefl _ ((List.pairwise_cons.mp horder).1 first hmem)
          simp only [List.tail_cons, List.head?_cons, Option.toList_some, List.mem_append, not_or,
            List.mem_cons, List.not_mem_nil, not_false_eq_true, and_true] at hqueue ⊢
          constructor
          · intro hrest
            obtain ⟨hle, hfor, hnot⟩ := hqueue.mp (.inr hrest)
            refine ⟨hle, hfor, hnot, ?_⟩
            rintro rfl
            exact hfirst hrest
          · rintro ⟨hle, hfor, hnot, hne⟩
            exact (hqueue.mpr ⟨hle, hfor, hnot⟩).resolve_left hne
      · rw [update_of_ne hb, update_of_ne hb]
        exact h.queue b' o
    cleared := h.cleared }

theorem steps {a : Act} (h : d.Fifo) (hs : Steps d.sys a s) :
    Delivery.Fifo { sys := s, given := d.givenAfter a, cleared := d.clearedAfter a } := by
  cases hs with
  | dispatch | replies => exact h.same ((SameQueues.refl _).goto _ _)
  | undeliverable | unknown | launches | stops | exits => exact h.same ⟨rfl, rfl, fun _ => rfl⟩
  | goes ht hadvance =>
    rcases SameQueues.of_advances hadvance with hsame | ⟨event, route, -, rfl⟩
    · exact h.same hsame
    · exact h.register _ event route
  | polls => exact h.poll _
  | clears =>
    exact {
      order := fun b => by
        show (d.given b ++ []).Pairwise (· < ·)
        rw [List.append_nil]
        exact (List.pairwise_append.mp (h.order b)).1
      given := h.given
      queue := fun b o => ⟨fun ho => (List.not_mem_nil ho).elim,
        fun ho => absurd ho.2.1.1 (Nat.not_lt.mpr ho.1)⟩
      cleared := le_rfl }

end Delivery.Fifo

/-- In every run the polls of a backend are given the requests that were dispatched to it, each at
most once and in the order of the dispatches; and what its queue has is every request for it since
the last reset that no poll was given. -/
theorem events_given_in_order {n : Nat} {d : Delivery}
    (hr : Reach Delivery.step anyStep (Delivery.start n) d) (b : BackendId) :
    (d.given b ++ d.sys.queues b).Pairwise (· < ·) ∧
    (∀ o ∈ d.given b, o < d.sys.made ∧ (d.sys.objects o).route = .backend b) ∧
    ∀ o, o ∈ d.sys.queues b ↔ d.cleared ≤ o ∧ (o < d.sys.made ∧
      (d.sys.objects o).route = .backend b) ∧ o ∉ d.given b := by
  have h : d.Fifo := by
    refine hr.invariant (Delivery.Fifo.start n) fun d a d' hd _ hstep => ?_
    obtain ⟨s, hs, rfl⟩ := Option.map_eq_some_iff.mp hstep
    exact hd.steps (steps_of_step hs)
  exact ⟨h.order b, h.given b, h.queue b⟩

/-- Two requests are dispatched, and one poll is given the first of them. -/
theorem events_given_in_order_two : ∃ d : Delivery,
    d.given (.str (text "flash")) = [0] ∧ d.sys.queues (.str (text "flash")) = [1] ∧
    1 ∉ d.given (.str (text "flash")) := by
  have hrun : (exec (guarded Delivery.step anyStep) (Delivery.start 2)
      [.dispatch 0 ⟨9, text "flash0"⟩ false (some (.str (text "flash"))), .go 0 false,
        .dispatch 1 ⟨10, text "flash0"⟩ false (some (.str (text "flash"))), .go 1 false,
        .poll (.str (text "flash"))]).map (fun d => (d.given (.str (text "flash")),
          d.sys.queues (.str (text "flash")))) = some ([0], [1]) := by
    decide +kernel
  obtain ⟨d, hd, hview⟩ := Option.map_eq_some_iff.mp hrun
  simp only [Prod.mk.injEq] at hview
  have hqueue := (events_given_in_order (reach_of_exec hd) (.str (text "flash"))).2.2
  exact ⟨d, hview.1, hview.2, ((hqueue 1).mp (hview.2 ▸ List.mem_singleton_self 1)).2.2⟩

end Sensorium.Controllers

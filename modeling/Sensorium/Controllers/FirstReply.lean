import Sensorium.Controllers.Bookkeeping

/-!
# The first reply wins

A record is looked up under the manager's lock, filled under the lock of its condition and read
under neither, and it stays in the table between its completion and its removal.  A second reply
that finds it there overwrites the first, and a worker failure that takes a record with a reply on
the way can mix the two.  In runs in which neither happens, and in which a dispatch to a managed
worker finds its worker, a dispatch returns the first accepted reply, a timeout or a failure.
-/

namespace Sensorium.Controllers

open Lib Function
open Sensorium.Inventory (BackendId)

/-- The failure, or the first reply that was accepted. -/
def Pending.Result (p : Pending) (pair : Pair) : Prop :=
  pair = (ePipe, []) ∨ p.replies.head?.map Prod.snd = some pair

/-- Every dispatch returned the first accepted reply, a timeout or a failure; every accepted reply
was the first one and found its dispatch waiting; and the other replies are counted. -/
def System.FirstWins (s : System) : Prop :=
  (∀ r ∈ s.returns, ∃ o, r.1 = some o ∧
    (r.2 = (eTimedOut, []) ∨ (s.objects o).Result r.2)) ∧
  (∀ o surplus, some (o, surplus) ∈ s.heard → surplus = false) ∧
  s.late = s.heard.count none

/-- The dispatch of the record has passed its deadline, and its entry is still there. -/
def Pc.expired (o : Nat) : Pc → Bool
  | .pop own _ => own = o
  | _ => false

/-- A reply was accepted for the record and has not taken the lock of its condition. -/
def Pc.onTheWay (o : Nat) : Pc → Bool
  | .writes _ o' _ .status => o' = o
  | _ => false

/-- A dispatch to a managed worker finds the worker; a reply that finds an entry is the first, and
its dispatch is waiting; a failure takes no record with a reply on the way. -/
def Pc.Undisturbed (s : System) : Pc → Prop
  | .completing _ reply => ∀ o ∈ dictGet s.table reply.requestId,
      (s.objects o).replies = [] ∧ ∀ p ∈ s.threads, p.expired o = false
  | .fails _ (id :: _) => ∀ o ∈ dictGet s.table id, ∀ p ∈ s.threads, p.onTheWay o = false
  | _ => True

def undisturbed (s : System) : Act → Prop
  | .dispatch _ event managed attached => (routeOf event managed attached).isSome
  | .go t _ => ∀ p ∈ s.threads[t]?, p.Manned s ∧ p.Undisturbed s
  | _ => True

/-! ## Records -/

theorem Stage.next_ne_status {stage next : Stage} (hn : stage.next = some next) :
    next ≠ .status := by
  cases stage with
  | status | data =>
    cases hn
    decide
  | done => cases hn

/-- The stores before a stage have been made, and the lock of the condition is held from the first
one on. -/
def Pending.Stored (p : Pending) (pair : Pair) : Stage → Prop
  | .status => True
  | .data => p.held = true ∧ p.status = pair.1
  | .done => p.held = true ∧ p.status = pair.1 ∧ p.data = pair.2

namespace Pending

variable {p : Pending} {pair : Pair} {stage next : Stage}

theorem Stored.store (h : p.Stored pair stage) (hn : stage.next = some next) :
    (p.store pair stage).Stored pair next := by
  cases stage with
  | status =>
    cases hn
    exact ⟨rfl, rfl⟩
  | data =>
    cases hn
    exact ⟨h.1, h.2, rfl⟩
  | done => cases hn

theorem Stored.held (h : p.Stored pair stage) (hs : stage ≠ .status) : p.held = true := by
  cases stage with
  | status => exact absurd rfl hs
  | data | done => exact h.1

theorem done_store (hn : stage.next = some next) : (p.store pair stage).done = p.done := by
  cases stage with
  | status | data => rfl
  | done => cases hn

theorem Result.mono {q : Pending} (h : p.Result pair)
    (hr : ∀ r, p.replies.head? = some r → q.replies.head? = some r) : q.Result pair := by
  rcases h with h | h
  · exact .inl h
  · obtain ⟨r, hhead, hpair⟩ := Option.map_eq_some_iff.mp h
    exact .inr (Option.map_eq_some_iff.mpr ⟨r, hr r hhead, hpair⟩)

end Pending

/-! ## Threads that touch one record -/

/-- What a thread does to the record that others may be at: it holds the manager's lock, and may be
storing a failure; or it stores a reply, or reads. -/
inductive Role
  | bystander
  | keeper
  | failing (o : Nat) (stage : Stage)
  | completing (o : Nat) (stage : Stage)
  | reading (o : Nat)

def Pc.role : Pc → Role
  | .fails _ _ => .keeper
  | .failsOne _ o stage _ => .failing o stage
  | .writes _ o _ stage => .completing o stage
  | .readDone _ o | .readStatus _ o | .readData _ o _ => .reading o
  | _ => .bystander

namespace Role

def locks : Role → Bool
  | keeper | failing _ _ => true
  | _ => false

/-- Two threads can be where they are at the same time. -/
def Apart : Role → Role → Prop
  | failing o stage, completing o' stage' | completing o' stage', failing o stage =>
    o' = o → stage' ≠ .status ∧ stage = .status
  | reading o, failing o' _ | failing o' _, reading o => o ≠ o'
  | completing o _, completing o' _ => o ≠ o'
  | a, b => a.locks = false ∨ b.locks = false

theorem Apart.symm {a b : Role} (h : a.Apart b) : b.Apart a := by
  cases a <;> cases b <;> first | exact h | exact Or.symm h | exact Ne.symm h

theorem apart_bystander (b : Role) : bystander.Apart b := by
  cases b <;> exact .inl rfl

theorem apart_keeper {b : Role} : keeper.Apart b ↔ b.locks = false := by
  cases b <;> simp [Apart, locks]

theorem Apart.unlocked {a b : Role} (h : a.Apart b) (ha : a.locks = true) : b.locks = false := by
  cases a <;> cases b <;> simp_all [Apart, locks]

end Role

theorem Pc.locks_role (p : Pc) : p.role.locks = p.locks := by
  cases p <;> rfl

/-- The thread is storing a failure over what the record held. -/
def Pc.overwrites (o : Nat) : Pc → Prop
  | .failsOne _ o' stage _ => o' = o ∧ stage ≠ .status
  | _ => False

/-- What a thread knows of the record that it stores to or reads. -/
def Pc.Fits (s : System) : Pc → Prop
  | .writes source o pair stage => (s.objects o).replies = [(source, pair)] ∧
      (s.objects o).done = false ∧ (s.objects o).Stored pair stage
  | .failsOne _ o stage _ => (∀ e ∈ s.table, e.2 ≠ o) ∧ (s.objects o).Stored (ePipe, []) stage
  | .readDone _ o => ∀ e ∈ s.table, e.2 ≠ o
  | .readStatus _ o => (∀ e ∈ s.table, e.2 ≠ o) ∧ (s.objects o).done = true
  | .readData _ o status =>
    (∀ e ∈ s.table, e.2 ≠ o) ∧ (s.objects o).done = true ∧ status = (s.objects o).status
  | _ => True

namespace System

variable {s s' : System} {t o : Nat} {p q : Pc}

/-- Threads are apart and fit their records; a record that is done holds the first reply or the
failure, unless a failure is being stored; an entry without a reply is not done. -/
structure Settled (s : System) : Prop where
  apart : ∀ (t u : Nat) (p q : Pc), s.threads[t]? = some p → s.threads[u]? = some q → t ≠ u →
    p.role.Apart q.role
  fits : ∀ p ∈ s.threads, p.Fits s
  value : ∀ o, (s.objects o).done = true → (∃ p ∈ s.threads, p.overwrites o) ∨
    (s.objects o).Result ((s.objects o).status, (s.objects o).data)
  unanswered : ∀ e ∈ s.table, (s.objects e.2).replies = [] → (s.objects e.2).done = false
  returned : ∀ r ∈ s.returns, ∃ o, r.1 = some o ∧
    (r.2 = (eTimedOut, []) ∨ (s.objects o).Result r.2)

namespace Settled

theorem start (n : Nat) : (Controllers.start n).Settled := by
  have hidle (t : Nat) (p : Pc) (hp : (Controllers.start n).threads[t]? = some p) : p = .idle :=
    List.eq_of_mem_replicate (List.mem_of_getElem? hp)
  refine ⟨?_, ?_, fun o ho => (by cases ho), fun _ he => (List.not_mem_nil he).elim,
    fun _ hr => (List.not_mem_nil hr).elim⟩
  · intro t u p q hp _ _
    rw [hidle t p hp]
    exact Role.apart_bystander _
  · intro p hp
    rw [List.eq_of_mem_replicate hp]
    trivial

theorem apart_others (h : s.Settled) (ht : s.threads[t]? = some p) {u : Nat} {r : Pc}
    (hut : u ≠ t) (hr : s.threads[u]? = some r) : p.role.Apart r.role :=
  h.apart t u p r ht hr (Ne.symm hut)

/-- One thread moves, and the records and the table change so that the other threads still fit. -/
theorem move {w : System} (h : s.Settled) (ht : s.threads[t]? = some p)
    (hthreads : w.threads = s.threads.set t q) (hreturns : w.returns = s.returns)
    (hq : q.Fits w) (hapart : ∀ u r, u ≠ t → s.threads[u]? = some r → q.role.Apart r.role)
    (hfits : ∀ u r, u ≠ t → s.threads[u]? = some r → r.Fits w)
    (hvalue : ∀ o, (w.objects o).done = true → (∃ p ∈ w.threads, p.overwrites o) ∨
      (w.objects o).Result ((w.objects o).status, (w.objects o).data))
    (hopen : ∀ e ∈ w.table, (w.objects e.2).replies = [] → (w.objects e.2).done = false)
    (hresult : ∀ r ∈ s.returns, ∀ o ∈ r.1, (s.objects o).Result r.2 → (w.objects o).Result r.2) :
    w.Settled where
  value := hvalue
  unanswered := hopen
  apart := by
    intro u v r r' hr hr' huv
    rw [hthreads] at hr hr'
    rcases getElem?_set_cases hr with ⟨rfl, rfl⟩ | ⟨hu, hold⟩
    · rcases getElem?_set_cases hr' with ⟨rfl, _⟩ | ⟨hv, hold'⟩
      · exact absurd rfl huv
      · exact hapart v r' hv hold'
    · rcases getElem?_set_cases hr' with ⟨_, rfl⟩ | ⟨_, hold'⟩
      · exact (hapart u r hu hold).symm
      · exact h.apart u v r r' hold hold' huv
  fits := by
    intro r hr
    rw [hthreads] at hr
    obtain ⟨u, hu⟩ := List.getElem?_of_mem hr
    rcases getElem?_set_cases hu with ⟨_, rfl⟩ | ⟨hut, hu⟩
    · exact hq
    · exact hfits u r hut hu
  returned := by
    intro r hr
    rw [hreturns] at hr
    obtain ⟨o, ho, hpair⟩ := h.returned r hr
    exact ⟨o, ho, hpair.imp_right (hresult r hr o ho)⟩

/-- A failure that is being stored stays so while another thread moves. -/
theorem overwrites_set (ht : s.threads[t]? = some p) (hp : p.overwrites o → q.overwrites o)
    (h : ∃ r ∈ s.threads, r.overwrites o) : ∃ r ∈ s.threads.set t q, r.overwrites o := by
  obtain ⟨r, hr, hover⟩ := h
  rcases mem_set_or_eq ht hr q with hr | rfl
  · exact ⟨r, hr, hover⟩
  · exact ⟨q, List.mem_of_getElem? (getElem?_set_of_eq ht q), hp hover⟩

/-- One thread moves and nothing else changes. -/
theorem goto (h : s.Settled) (ht : s.threads[t]? = some p) (hq : q.Fits s)
    (hapart : ∀ u r, u ≠ t → s.threads[u]? = some r → q.role.Apart r.role)
    (hp : ∀ o, ¬ p.overwrites o) : (s.goto t q).Settled := by
  apply h.move (w := s.goto t q) ht rfl rfl hq hapart
    (fun _ r _ hr => h.fits r (List.mem_of_getElem? hr)) _ h.unanswered (fun _ _ _ _ hr => hr)
  intro o hd
  exact (h.value o hd).imp_left (overwrites_set ht fun hover => absurd hover (hp o))

theorem goto_bystander (h : s.Settled) (ht : s.threads[t]? = some p) (hq : q.Fits s)
    (hrole : q.role = .bystander) (hp : ∀ o, ¬ p.overwrites o) : (s.goto t q).Settled := by
  apply h.goto ht hq _ hp
  intro u r _ _
  rw [hrole]
  exact Role.apart_bystander _

theorem return_ (h : (s.goto t .idle).Settled) {pair : Pair}
    (hpair : pair = (eTimedOut, []) ∨ (s.objects o).Result pair) :
    (s.returned t o pair).Settled where
  apart := h.apart
  fits := h.fits
  value := h.value
  unanswered := h.unanswered
  returned := by
    intro r hr
    rcases List.mem_append.mp hr with hr | hr
    · exact h.returned r hr
    · rw [List.mem_singleton.mp hr]
      exact ⟨o, rfl, hpair⟩

/-- Fewer entries. -/
theorem popEntry (h : s.Settled) (id : Nat) : (s.popEntry id).Settled where
  apart := h.apart
  value := h.value
  returned := h.returned
  unanswered := fun e he => h.unanswered e (mem_popEntry.mp he).1
  fits := by
    intro p hp
    have hsub {o : Nat} (hno : ∀ e ∈ s.table, e.2 ≠ o) : ∀ e ∈ (s.popEntry id).table, e.2 ≠ o :=
      fun e he => hno e (mem_popEntry.mp he).1
    have hfit := h.fits p hp
    cases p with
    | writes => exact hfit
    | failsOne | readStatus | readData => exact ⟨hsub hfit.1, hfit.2⟩
    | readDone => exact hsub hfit
    | _ => trivial

-- The other threads refer to older records, and the new entry is of none of these.
theorem register (h : s.Settled) (hf : s.Filed) {event : Event} {route : Route}
    (ht : s.threads[t]? = some (.enter event route)) : (s.register t event route).Settled := by
  have hold {o : Nat} (ho : o < s.made) :
      (s.register t event route).objects o = s.objects o := objects_register_of_lt ho
  have htable {o : Nat} (ho : o < s.made) (hno : ∀ e ∈ s.table, e.2 ≠ o) :
      ∀ e ∈ (s.register t event route).table, e.2 ≠ o := by
    intro e he
    rcases mem_of_mem_dictSet he with rfl | he
    · exact (Nat.ne_of_lt ho).symm
    · exact hno e he
  have hnew : (s.register t event route).objects s.made = .fresh event route := update_self ..
  apply h.move (w := s.register t event route) (q := .entered s.made route) ht rfl rfl
  · cases route <;> trivial
  · intro u r _ _
    cases route <;> exact Role.apart_bystander _
  · intro u r _ hr
    have hmem := List.mem_of_getElem? hr
    have hfit := h.fits r hmem
    have hrefs := hf.refs r hmem
    cases r with
    | writes source o pair stage =>
      rw [Pc.Fits, hold (hrefs o (.head _))]
      exact hfit
    | failsOne caller o stage ids =>
      rw [Pc.Fits, hold (hrefs o (.head _))]
      exact ⟨htable (hrefs o (.head _)) hfit.1, hfit.2⟩
    | readDone own o => exact htable (hrefs o (.tail _ (.head _))) hfit
    | readStatus own o =>
      rw [Pc.Fits, hold (hrefs o (.tail _ (.head _)))]
      exact ⟨htable (hrefs o (.tail _ (.head _))) hfit.1, hfit.2⟩
    | readData own o status =>
      rw [Pc.Fits, hold (hrefs o (.tail _ (.head _)))]
      exact ⟨htable (hrefs o (.tail _ (.head _))) hfit.1, hfit.2⟩
    | _ => trivial
  · intro o hd
    by_cases ho : o = s.made
    · rw [ho, hnew] at hd
      cases hd
    · have hsame : (s.register t event route).objects o = s.objects o := update_of_ne ho ..
      rw [hsame] at hd ⊢
      exact (h.value o hd).imp_left (overwrites_set ht fun hover => hover.elim)
  · intro e he hr
    rcases mem_of_mem_dictSet he with rfl | he
    · rw [hnew]
      rfl
    · rw [hold (hf.entry e he).1] at hr ⊢
      exact h.unanswered e he hr
  · intro r hr o ho hresult
    rw [hold (hf.returned r hr o ho)]
    exact hresult

/-- Only the replies of a record change. -/
theorem fields_accept (s : System) (source : Route) (o : Nat) (pair : Pair) (o' : Nat) :
    ((s.accept source o pair).objects o').done = (s.objects o').done ∧
      ((s.accept source o pair).objects o').status = (s.objects o').status ∧
      ((s.accept source o pair).objects o').data = (s.objects o').data := by
  by_cases ho : o' = o
  · rw [ho, objects_accept_self]
    exact ⟨rfl, rfl, rfl⟩
  · rw [objects_accept_of_ne ho]
    exact ⟨rfl, rfl, rfl⟩

/-- A thread that stores a reply to the record has it among the accepted ones. -/
theorem not_completing (h : s.Settled) (hnone : (s.objects o).replies = []) {u : Nat} {r : Pc}
    (hr : s.threads[u]? = some r) (stage : Stage) : r.role ≠ .completing o stage := by
  intro hrole
  have hfit := h.fits r (List.mem_of_getElem? hr)
  cases r with
  | writes source' o' pair' stage' =>
    cases hrole
    rw [hfit.1] at hnone
    cases hnone
  | _ => cases hrole

theorem apart_accept (h : s.Settled) (hl : s.locked = false)
    (hnone : (s.objects o).replies = []) {u : Nat} {r : Pc} (hr : s.threads[u]? = some r) :
    (Role.completing o .status).Apart r.role := by
  have hunlocked := locked_of_mem hl (List.mem_of_getElem? hr)
  rw [← Pc.locks_role] at hunlocked
  have hno := h.not_completing hnone hr
  cases hrole : r.role with
  | completing o' stage =>
    rintro rfl
    exact hno stage hrole
  | failing o' stage =>
    rw [hrole] at hunlocked
    cases hunlocked
  | bystander | keeper | reading => exact .inl rfl

theorem fits_accept (h : s.Settled) {id : Nat} (hentry : (id, o) ∈ s.table)
    (hnone : (s.objects o).replies = []) (source : Route) (pair : Pair) {u : Nat} {r : Pc}
    (hr : s.threads[u]? = some r) : r.Fits (s.accept source o pair) := by
  have hfields := fields_accept s source o pair
  have hfit := h.fits r (List.mem_of_getElem? hr)
  cases r with
  | writes source' o' pair' stage' =>
    have ho : o' ≠ o := fun ho => h.not_completing hnone hr stage' (ho ▸ rfl)
    rw [Pc.Fits, objects_accept_of_ne ho]
    exact hfit
  | failsOne caller o' stage' ids =>
    have ho : o' ≠ o := fun ho => hfit.1 _ hentry ho.symm
    refine ⟨hfit.1, ?_⟩
    rw [objects_accept_of_ne ho]
    exact hfit.2
  | readDone => exact hfit
  | readStatus own o' => exact ⟨hfit.1, (hfields o').1.trans hfit.2⟩
  | readData own o' status =>
    exact ⟨hfit.1, (hfields o').1.trans hfit.2.1, hfit.2.2.trans (hfields o').2.1.symm⟩
  | _ => trivial

/-- A reply is accepted for a record that has none. -/
theorem accept (h : s.Settled) (ht : s.threads[t]? = some p) (hl : s.locked = false) {id : Nat}
    (hp : ∀ o, ¬ p.overwrites o) (hget : dictGet s.table id = some o)
    (hnone : (s.objects o).replies = []) (source : Route) (pair : Pair) :
    ((s.accept source o pair).goto t (.writes source o pair .status)).Settled := by
  have hentry := mem_of_dictGet hget
  have hdone := h.unanswered _ hentry hnone
  have hself : (s.accept source o pair).objects o =
      { s.objects o with replies := [(source, pair)] } := by
    rw [objects_accept_self, hnone]
    rfl
  have hfields := fields_accept s source o pair
  have hresult (o' : Nat) (pair' : Pair) (hr : (s.objects o').Result pair') :
      ((s.accept source o pair).objects o').Result pair' := by
    apply hr.mono
    intro r hhead
    by_cases ho : o' = o
    · rw [ho, hnone] at hhead
      cases hhead
    · rw [objects_accept_of_ne ho]
      exact hhead
  apply h.move (w := (s.accept source o pair).goto t (.writes source o pair .status))
    (q := .writes source o pair .status) ht rfl rfl
  · have hfit : Pc.Fits (s.accept source o pair) (.writes source o pair .status) := by
      rw [Pc.Fits, hself]
      exact ⟨rfl, hdone, trivial⟩
    exact hfit
  · exact fun u r _ hr => h.apart_accept hl hnone hr
  · exact fun u r _ hr => h.fits_accept hentry hnone source pair hr
  · intro o' hd
    show _ ∨ ((s.accept source o pair).objects o').Result
      (((s.accept source o pair).objects o').status, ((s.accept source o pair).objects o').data)
    rw [(hfields o').2.1, (hfields o').2.2]
    rcases h.value o' ((hfields o').1.symm.trans hd) with hover | hr
    · exact .inl (overwrites_set ht (fun hp' => absurd hp' (hp o')) hover)
    · exact .inr (hresult o' _ hr)
  · intro e he hr
    by_cases ho : e.2 = o
    · have : ((s.accept source o pair).objects e.2).replies = [] := hr
      rw [ho, hself] at this
      cases this
    · have hsame := objects_accept_of_ne (s := s) ho source pair
      show ((s.accept source o pair).objects e.2).done = false
      rw [hsame]
      apply h.unanswered e he
      rw [← hsame]
      exact hr
  · exact fun r _ o' _ hr => hresult o' r.2 hr

-- A thread that neither stores a reply to the record nor has seen it done still fits.
theorem fits_store {r : Pc} {pair : Pair} {stage : Stage} (hfit : r.Fits s)
    (hwriter : ∀ st, r.role ≠ .completing o st)
    (hfailing : ∀ st, r.role = .failing o st → st = .status)
    (hreader : (s.objects o).done = true → r.role ≠ .reading o) : r.Fits (s.store o pair stage) := by
  cases r with
  | writes source o' pair' stage' =>
    have ho : o' ≠ o := fun ho => hwriter stage' (ho ▸ rfl)
    rw [Pc.Fits, objects_store_of_ne ho]
    exact hfit
  | failsOne caller o' stage' ids =>
    refine ⟨hfit.1, ?_⟩
    by_cases ho : o' = o
    · rw [hfailing stage' (ho ▸ rfl)]
      trivial
    · rw [objects_store_of_ne ho]
      exact hfit.2
  | readDone => exact hfit
  | readStatus own o' =>
    have ho : o' ≠ o := fun ho => hreader (ho ▸ hfit.2) (ho ▸ rfl)
    rw [Pc.Fits, objects_store_of_ne ho]
    exact hfit
  | readData own o' status =>
    have ho : o' ≠ o := fun ho => hreader (ho ▸ hfit.2.1) (ho ▸ rfl)
    rw [Pc.Fits, objects_store_of_ne ho]
    exact hfit
  | _ => trivial

/-- A field of a record is stored: no other thread stores a reply to it, a failure that is due waits
for its lock, and a reader has not seen it done. -/
theorem store (h : s.Settled) (ht : s.threads[t]? = some p) {pair : Pair} {stage : Stage}
    (hq : q.Fits (s.store o pair stage))
    (hapart : ∀ u r, u ≠ t → s.threads[u]? = some r → q.role.Apart r.role)
    (hwriter : ∀ u r, u ≠ t → s.threads[u]? = some r → ∀ st, r.role ≠ .completing o st)
    (hfailing : ∀ u r, u ≠ t → s.threads[u]? = some r → ∀ st, r.role = .failing o st → st = .status)
    (hreader : (s.objects o).done = true → ∀ u r, u ≠ t → s.threads[u]? = some r →
      r.role ≠ .reading o)
    (hp : ∀ o', o' ≠ o → ¬ p.overwrites o')
    (hvalue : ((s.objects o).store pair stage).done = true → q.overwrites o ∨
      ((s.objects o).store pair stage).Result (((s.objects o).store pair stage).status,
        ((s.objects o).store pair stage).data))
    (hopen : ∀ e ∈ s.table, e.2 = o → (s.objects o).replies ≠ []) :
    ((s.store o pair stage).goto t q).Settled := by
  have hreplies (o' : Nat) :
      ((s.store o pair stage).objects o').replies = (s.objects o').replies := by
    by_cases ho : o' = o
    · rw [ho, objects_store_self, Pending.store_replies]
    · rw [objects_store_of_ne ho]
  have hmoved : q ∈ s.threads.set t q := List.mem_of_getElem? (getElem?_set_of_eq ht q)
  apply h.move (w := (s.store o pair stage).goto t q) ht rfl rfl hq hapart
  · intro u r hut hr
    have hfit : r.Fits (s.store o pair stage) :=
      fits_store (h.fits r (List.mem_of_getElem? hr)) (hwriter u r hut hr) (hfailing u r hut hr)
        fun hdone => hreader hdone u r hut hr
    cases r <;> exact hfit
  · intro o' hd
    by_cases ho : o' = o
    · subst ho
      have hself := objects_store_self (s := s) (o := o') pair stage
      have hd' : ((s.objects o').store pair stage).done = true := hself ▸ hd
      rcases hvalue hd' with hover | hresult
      · exact .inl ⟨q, hmoved, hover⟩
      · refine .inr ?_
        show ((s.store o' pair stage).objects o').Result
          (((s.store o' pair stage).objects o').status, ((s.store o' pair stage).objects o').data)
        rw [hself]
        exact hresult
    · have hsame : ((s.store o pair stage).goto t q).objects o' = s.objects o' :=
        objects_store_of_ne ho pair stage
      rw [hsame] at hd ⊢
      exact (h.value o' hd).imp_left (overwrites_set ht fun hover => absurd hover (hp o' ho))
  · intro e he hr
    have hnone : (s.objects e.2).replies = [] := (hreplies e.2).symm.trans hr
    by_cases ho : e.2 = o
    · exact absurd (ho ▸ hnone) (hopen e he ho)
    · have hsame : ((s.store o pair stage).goto t q).objects e.2 = s.objects e.2 :=
        objects_store_of_ne ho pair stage
      rw [hsame]
      exact h.unanswered e he hnone
  · intro r _ o' _ hr
    exact hr.mono fun x hx => (congrArg List.head? (hreplies o')).trans hx

/-- One field of an accepted reply. -/
theorem writes {source : Route} {pair : Pair} {stage : Stage} (h : s.Settled)
    (ht : s.threads[t]? = some (.writes source o pair stage))
    (hq : q.Fits (s.store o pair stage))
    (hapart : ∀ u r, u ≠ t → s.threads[u]? = some r → q.role.Apart r.role)
    (hvalue : ((s.objects o).store pair stage).done = true →
      ((s.objects o).store pair stage).Result (((s.objects o).store pair stage).status,
        ((s.objects o).store pair stage).data)) :
    ((s.store o pair stage).goto t q).Settled := by
  have hfit := h.fits _ (List.mem_of_getElem? ht)
  apply h.store ht hq hapart
  · intro u r hut hr st hrole
    have hne := h.apart_others ht hut hr
    rw [hrole] at hne
    exact hne rfl
  · intro u r hut hr st hrole
    have hst := h.apart_others ht hut hr
    rw [hrole] at hst
    exact (hst rfl).2
  · intro hd
    rw [hfit.2.1] at hd
    cases hd
  · exact fun _ _ hover => hover
  · exact fun hd => .inr (hvalue hd)
  · intro _ _ _ hnil
    rw [hfit.1] at hnil
    cases hnil

/-- One field of a failure.  A reply that holds the lock of the condition keeps it out, and the
guard keeps a reply away that does not hold it yet. -/
theorem fails {caller : Option Nat} {stage : Stage} {ids : List Nat} (h : s.Settled)
    (ht : s.threads[t]? = some (.failsOne caller o stage ids))
    (hb : stage.blocked (s.objects o) = false) (hq : q.Fits (s.store o (ePipe, []) stage))
    (hrole : q.role = .keeper ∨ ∃ next, q.role = .failing o next)
    (hvalue : ((s.objects o).store (ePipe, []) stage).done = true → q.overwrites o ∨
      ((s.objects o).store (ePipe, []) stage).Result
        (((s.objects o).store (ePipe, []) stage).status,
          ((s.objects o).store (ePipe, []) stage).data)) :
    ((s.store o (ePipe, []) stage).goto t q).Settled := by
  have hfit := h.fits _ (List.mem_of_getElem? ht)
  -- A reply past its first store holds the lock of the condition, which this store is not kept out of.
  have hwriter (u : Nat) (r : Pc) (hut : u ≠ t) (hr : s.threads[u]? = some r) (st : Stage) :
      r.role ≠ .completing o st := by
    intro hcompleting
    have hst := h.apart_others ht hut hr
    rw [hcompleting] at hst
    obtain ⟨hne, rfl⟩ := hst rfl
    have hfit' := h.fits r (List.mem_of_getElem? hr)
    cases r with
    | writes source o' pair stage' =>
      cases hcompleting
      exact absurd ((hfit'.2.2.held hne).symm.trans hb) (by decide)
    | _ => cases hcompleting
  have hreader (u : Nat) (r : Pc) (hut : u ≠ t) (hr : s.threads[u]? = some r) :
      r.role ≠ .reading o := by
    -- a failure and a reader never share a record
    intro hreading
    have hne := h.apart_others ht hut hr
    rw [hreading] at hne
    exact hne rfl
  have hlocks (u : Nat) (r : Pc) (hut : u ≠ t) (hr : s.threads[u]? = some r) :
      r.role.locks = false :=
    (h.apart_others ht hut hr).unlocked rfl
  apply h.store ht hq _ hwriter _ (fun _ => hreader) _ hvalue
  · intro e he ho
    exact absurd ho (hfit.1 e he)
  · intro u r hut hr
    rcases hrole with hrole | ⟨next, hrole⟩
    · rw [hrole]
      exact Role.apart_keeper.mpr (hlocks u r hut hr)
    · rw [hrole]
      cases hr' : r.role with
      | bystander => exact .inr rfl
      | keeper | failing =>
        have hlock := hlocks u r hut hr
        rw [hr'] at hlock
        cases hlock
      | completing o' st =>
        rintro rfl
        exact absurd hr' (hwriter u r hut hr st)
      | reading o' =>
        rintro rfl
        exact absurd hr' (hreader u r hut hr)
  · intro u r hut hr st hrole'
    have hlock := hlocks u r hut hr
    rw [hrole'] at hlock
    cases hlock
  · exact fun _ ho hover => ho hover.1.symm

theorem unlocked_role (hl : s.locked = false) {u : Nat} {r : Pc} (hr : s.threads[u]? = some r) :
    r.role.locks = false := by
  rw [Pc.locks_role]
  exact locked_of_mem hl (List.mem_of_getElem? hr)

/-- No failure is being stored to a record that a thread reads. -/
theorem not_overwritten (h : s.Settled) (ht : s.threads[t]? = some p) (hp : p.role = .reading o) :
    ¬ ∃ r ∈ s.threads, r.overwrites o := by
  rintro ⟨r, hr, hover⟩
  obtain ⟨u, hu⟩ := List.getElem?_of_mem hr
  cases r with
  | failsOne caller o' stage ids =>
    obtain ⟨rfl, _⟩ := hover
    have hut : u ≠ t := by
      rintro rfl
      cases Option.some.inj (ht.symm.trans hu)
      cases hp
    have hne := h.apart_others ht hut hu
    rw [hp] at hne
    exact hne rfl
  | _ => exact hover

/-- The record was found under the request id that is removed. -/
theorem popped {own : Nat} (h : s.Settled) (hf : s.Filed)
    (ht : s.threads[t]? = some (.pop own o)) (hl : s.locked = false) :
    ((s.popEntry (s.event own).requestId).goto t (.readDone own o)).Settled := by
  apply (h.popEntry _).goto ht _ _ fun _ hover => hover
  · rintro e he rfl
    obtain ⟨he, hne⟩ := mem_popEntry.mp he
    have hpair := hf.pair _ (List.mem_of_getElem? ht) own e.2 rfl
    exact hne ((hf.entry e he).2.symm.trans hpair.symm)
  · intro u r _ hr
    show (Role.reading o).Apart r.role
    have hlock : r.role.locks = false := unlocked_role hl hr
    cases hrole : r.role with
    | failing o' stage =>
      rw [hrole] at hlock
      cases hlock
    | _ => exact .inl rfl

theorem stored {source : Route} {pair : Pair} {stage next : Stage} (h : s.Settled)
    (ht : s.threads[t]? = some (.writes source o pair stage)) (hn : stage.next = some next) :
    ((s.store o pair stage).goto t (.writes source o pair next)).Settled := by
  have hfit := h.fits _ (List.mem_of_getElem? ht)
  apply h.writes ht
  · rw [Pc.Fits, objects_store_self, Pending.store_replies, Pending.done_store hn]
    exact ⟨hfit.1, hfit.2.1, hfit.2.2.store hn⟩
  · intro u r hut hr
    have hold : (Role.completing o stage).Apart r.role := h.apart_others ht hut hr
    show (Role.completing o next).Apart r.role
    cases hrole : r.role with
    | failing o' stage' =>
      rw [hrole] at hold
      exact fun ho => ⟨Stage.next_ne_status hn, (hold ho).2⟩
    | completing o' stage' =>
      rw [hrole] at hold
      exact hold
    | _ => exact .inl rfl
  · intro hd
    rw [Pending.done_store hn, hfit.2.1] at hd
    cases hd

/-- Readers have removed their entries, so a record that is still in the table has none. -/
theorem taken {caller : Option Nat} {id : Nat} {ids : List Nat} (h : s.Settled) (hf : s.Filed)
    (ht : s.threads[t]? = some (.fails caller (id :: ids))) (hget : dictGet s.table id = some o)
    (haway : ∀ p ∈ s.threads, p.onTheWay o = false) :
    ((s.popEntry id).goto t (.failsOne caller o .status ids)).Settled := by
  have hentry := mem_of_dictGet hget
  apply (h.popEntry _).goto ht _ _ fun _ hover => hover
  · refine ⟨?_, trivial⟩
    rintro e he rfl
    obtain ⟨he, hne⟩ := mem_popEntry.mp he
    exact hne ((hf.entry e he).2.symm.trans (hf.entry _ hentry).2)
  · intro u r hut hr
    have hlock : r.role.locks = false := (h.apart_others ht hut hr).unlocked rfl
    have hmem := List.mem_of_getElem? hr
    have hfit' := h.fits r hmem
    have hstill := haway r hmem
    show (Role.failing o .status).Apart r.role
    cases r with
    | writes source o' pair stage =>
      rintro rfl
      refine ⟨?_, rfl⟩
      rintro rfl
      simp [Pc.onTheWay] at hstill
    | readDone own o' => exact fun ho => hfit' _ hentry ho.symm
    | readStatus own o' => exact fun ho => hfit'.1 _ hentry ho.symm
    | readData own o' status => exact fun ho => hfit'.1 _ hentry ho.symm
    | fails | failsOne => cases hlock
    | _ => exact .inr rfl

/-- Both the dispatch and what it returns leave the record as it is. -/
theorem advances (h : s.Settled) (hf : s.Filed) (ht : s.threads[t]? = some p) (hm : p.Manned s)
    (hok : p.Undisturbed s) (ha : Advances s t p s') : s'.Settled := by
  have hfit := h.fits p (List.mem_of_getElem? ht)
  cases ha with
  | entered => exact h.register hf ht
  | unmanned _ hw => exact absurd (hw.symm.trans hm) (by decide)
  | missing | found | sent | woken | monitored =>
    exact h.goto_bystander ht trivial rfl fun _ hover => hover
  | unsent hl =>
    refine h.goto ht trivial ?_ fun _ hover => hover
    exact fun u r _ hr => Role.apart_keeper.mpr (unlocked_role hl hr)
  | popped hl => exact h.popped hf ht hl
  | answered hd =>
    refine h.goto ht ⟨hfit, hd⟩ ?_ fun _ hover => hover
    exact fun u r hut hr => h.apart_others ht hut hr
  | readStatus =>
    refine h.goto ht ⟨hfit.1, hfit.2, rfl⟩ ?_ fun _ hover => hover
    exact fun u r hut hr => h.apart_others ht hut hr
  | timedOut => exact return_ (h.goto_bystander ht trivial rfl fun _ hover => hover) (.inl rfl)
  | @readData own o status =>
    -- Since the status was read nobody could store to the record: the data is of the same reply.
    refine return_ (h.goto_bystander ht trivial rfl fun _ hover => hover) (.inr ?_)
    rw [hfit.2.2]
    exact (h.value o hfit.2.1).resolve_left (h.not_overwritten ht rfl)
  | late =>
    have hlate : s.lateReply.Settled := ⟨h.apart, h.fits, h.value, h.unanswered, h.returned⟩
    exact hlate.goto_bystander ht trivial rfl fun _ hover => hover
  | accepted hl hget =>
    exact h.accept ht hl (fun _ hover => hover) hget (hok _ hget).1 _ _
  | stored _ hn => exact h.stored ht hn
  | @completed source o pair =>
    -- The last store of the only accepted reply: the record holds exactly that one.
    refine h.writes ht trivial (fun _ _ _ _ => Role.apart_bystander _) fun _ => .inr ?_
    rw [Pending.store_replies, hfit.1]
    exact congrArg some (Prod.ext hfit.2.2.2.1.symm hfit.2.2.2.2.symm)
  | pushed =>
    exact return_ (h.goto_bystander ht trivial rfl fun _ hover => hover) (.inr (.inl rfl))
  | gone =>
    refine h.goto ht trivial ?_ fun _ hover => hover
    exact fun u r hut hr => h.apart_others ht hut hr
  | taken hget => exact h.taken hf ht hget (hok _ hget)
  | @failing caller o stage next ids hb hn =>
    apply h.fails ht hb
    · rw [Pc.Fits, objects_store_self]
      exact ⟨hfit.1, hfit.2.store hn⟩
    · exact .inr ⟨next, rfl⟩
    · exact fun _ => .inl ⟨rfl, Stage.next_ne_status hn⟩
  | failed =>
    refine h.fails ht rfl trivial (.inl rfl) fun _ => .inr (.inl ?_)
    exact Prod.ext hfit.2.2.1 hfit.2.2.2

theorem steps {a : Act} (h : s.Settled) (hf : s.Filed) (hok : undisturbed s a)
    (hs : Steps s a s') : s'.Settled := by
  cases hs with
  | dispatch ht | replies ht => exact h.goto_bystander ht trivial rfl fun _ hover => hover
  | undeliverable hr =>
    rw [undisturbed, hr] at hok
    cases hok
  | unknown | launches | stops | polls =>
    exact ⟨h.apart, h.fits, h.value, h.unanswered, h.returned⟩
  | @exits t deviceId ht hl =>
    have hs : Settled { s with workers := update s.workers deviceId false } :=
      ⟨h.apart, h.fits, h.value, h.unanswered, h.returned⟩
    refine hs.goto ht trivial ?_ fun _ hover => hover
    exact fun u r _ hr => Role.apart_keeper.mpr (unlocked_role hl hr)
  | goes ht ha => exact h.advances hf ht (hok _ ht).1 (hok _ ht).2 ha
  | clears =>
    refine ⟨h.apart, ?_, h.value, fun _ he => (List.not_mem_nil he).elim, h.returned⟩
    intro p hp
    have hfit := h.fits p hp
    cases p with
    | writes => exact hfit
    | failsOne | readStatus | readData => exact ⟨fun _ he => (List.not_mem_nil he).elim, hfit.2⟩
    | readDone => exact fun _ he => (List.not_mem_nil he).elim
    | _ => trivial

end Settled

/-! ## Replies that are counted -/

/-- Every accepted reply was the first one for a dispatch that was waiting, and the others were
counted. -/
structure Counted (s : System) : Prop where
  first : ∀ o surplus, some (o, surplus) ∈ s.heard → surplus = false
  late : s.late = s.heard.count none

namespace Counted

theorem lateReply (h : s.Counted) : s.lateReply.Counted where
  first := by
    intro o surplus hmem
    rcases List.mem_append.mp hmem with hmem | hmem
    · exact h.first o surplus hmem
    · cases List.mem_singleton.mp hmem
  late := by
    show s.late + 1 = (s.heard ++ [none]).count none
    rw [List.count_append, h.late]
    rfl

/-- The thread that removes an entry has not given up, unless it has passed its deadline. -/
theorem awaited_of_keeps {e : Nat × Nat} (hp : p ∈ s.threads) (hk : p.Keeps e)
    (hnot : p.expired e.2 = false) : s.awaited e.2 = true := by
  rw [awaited, List.any_eq_true]
  refine ⟨p, hp, ?_⟩
  rw [decide_eq_true_eq]
  cases p with
  | lookup | send | wait => exact congrArg some hk
  | fails | failsOne => exact hk.1
  | pop own o =>
    have hne : ¬ own = e.2 := of_decide_eq_false hnot
    exact absurd hk hne
  | _ => exact hk.elim

theorem accept (h : s.Counted) (hkept : s.Kept) {id : Nat} (hget : dictGet s.table id = some o)
    (hnone : (s.objects o).replies = []) (hwaits : ∀ p ∈ s.threads, p.expired o = false)
    (source : Route) (pair : Pair) : (s.accept source o pair).Counted where
  first := by
    intro o' surplus hmem
    rcases List.mem_append.mp hmem with hmem | hmem
    · exact h.first o' surplus hmem
    · obtain ⟨p, hp, hk⟩ := hkept _ (mem_of_dictGet hget)
      have hawaited := awaited_of_keeps hp hk (hwaits p hp)
      cases List.mem_singleton.mp hmem
      rw [hnone, hawaited]
      rfl
  late := by
    show s.late = (s.heard ++ [some _]).count none
    rw [List.count_append, h.late]
    rfl

theorem steps {a : Act} (h : s.Counted) (hkept : s.Kept) (hok : undisturbed s a)
    (hs : Steps s a s') : s'.Counted := by
  cases hs with
  | unknown => exact h.lateReply
  | goes ht ha =>
    cases ha with
    | late => exact ⟨h.lateReply.first, h.lateReply.late⟩
    | @accepted source reply _ _ hget =>
      have hfirst := (hok _ ht).2 _ hget
      have haccept := h.accept hkept hget hfirst.1 hfirst.2 source (reply.status, reply.data)
      exact ⟨haccept.first, haccept.late⟩
    | _ => exact ⟨h.first, h.late⟩
  | _ => exact ⟨h.first, h.late⟩

end Counted

end System

/-- In every run in which a dispatch goes to a backend or to a worker that is there, a reply that is
accepted is the first and finds its dispatch waiting, and a failure takes no record with a reply on
the way, every dispatch returns the first accepted reply, a timeout or a failure. -/
theorem first_reply_wins {n : Nat} {s : System} (h : Reach step undisturbed (start n) s) :
    s.FirstWins := by
  have hinv : s.Filed ∧ s.Kept ∧ s.Settled ∧ s.Counted := by
    refine h.invariant (I := fun s => s.Filed ∧ s.Kept ∧ s.Settled ∧ s.Counted)
      ⟨.start n, .start n, .start n, fun _ _ hmem => (List.not_mem_nil hmem).elim, rfl⟩ ?_
    rintro s a s' ⟨hfiled, hkept, hsettled, hcounted⟩ hok hstep
    have hs := steps_of_step hstep
    refine ⟨hfiled.steps hs, hkept.steps hfiled ?_ hs, hsettled.steps hfiled hok hs,
      hcounted.steps hkept hok hs⟩
    rintro t choice p rfl ht
    exact (hok p ht).1
  exact ⟨hinv.2.2.1.returned, hinv.2.2.2.first, hinv.2.2.2.late⟩

/-! ## Schedules -/

instance (s : System) (p : Pc) : Decidable (p.Undisturbed s) :=
  match p with
  | .completing _ reply => inferInstanceAs (Decidable (∀ o ∈ dictGet s.table reply.requestId,
      (s.objects o).replies = [] ∧ ∀ p ∈ s.threads, p.expired o = false))
  | .fails _ (id :: _) => inferInstanceAs (Decidable
      (∀ o ∈ dictGet s.table id, ∀ p ∈ s.threads, p.onTheWay o = false))
  | .fails _ [] | .idle | .enter _ _ | .lookup _ | .send _ _ | .wait _ _ | .pop _ _ | .readDone _ _
  | .readStatus _ _ | .readData _ _ _ | .writes _ _ _ _ | .failsOne _ _ _ _ => .isTrue trivial

instance (s : System) (a : Act) : Decidable (undisturbed s a) :=
  match a with
  | .dispatch _ event managed attached =>
    inferInstanceAs (Decidable ((routeOf event managed attached).isSome = true))
  | .go t _ => inferInstanceAs (Decidable (∀ p ∈ s.threads[t]?, p.Manned s ∧ p.Undisturbed s))
  | .reply _ _ _ | .workerExit _ _ | .poll _ | .launch _ | .stop _ | .clear => .isTrue trivial

def flashReply (status : Int) (data : List UInt8) : Reply := ⟨9, status, data⟩

def askFlash : List Act :=
  [.dispatch 0 flashEvent false (some flashBackend), .go 0 false, .poll flashBackend]

/-- A reply on thread `t`, up to the end of its stores. -/
def answer (t : Nat) (reply : Reply) : List Act :=
  [.reply t (.backend flashBackend) reply, .go t false, .go t false, .go t false, .go t false]

/-- One reply in time and one after the dispatch returned. -/
theorem first_reply_wins_late : ∃ s : System,
    s.returns = [(some 0, 0, [1])] ∧ s.late = 1 ∧ s.FirstWins := by
  have hrun : (exec (guarded step undisturbed) (start 2)
      (askFlash ++ answer 1 (flashReply 0 [1]) ++
        [.go 0 false, .go 0 false, .go 0 false, .go 0 false, .go 0 false,
          .reply 1 (.backend flashBackend) (flashReply 0 [2])])).map
      (fun s => decide (s.returns = [(some 0, 0, [1])]) && decide (s.late = 1)) = some true := by
    decide +kernel
  obtain ⟨s, hexec, hview⟩ := Option.map_eq_some_iff.mp hrun
  simp only [Bool.and_eq_true, decide_eq_true_eq] at hview
  exact ⟨s, hview.1, hview.2, first_reply_wins (reach_of_exec hexec)⟩

/-- A second reply before the removal of the entry: its data is returned with the status of the
first, and it is not counted. -/
theorem replies_mixed : ∃ s : System, Reach step anyStep (start 2) s ∧
    (s.objects 0).replies.map Prod.snd = [(0, [1]), (-5, [2])] ∧
    s.returns = [(some 0, 0, [2])] ∧ s.late = 0 ∧ ¬ s.FirstWins := by
  have hrun : (exec (guarded step anyStep) (start 2)
      (askFlash ++ answer 1 (flashReply 0 [1]) ++
        -- The second reply is accepted, the dispatch reads the first status, and then it is stored.
        [.reply 1 (.backend flashBackend) (flashReply (-5) [2]), .go 1 false, .go 0 false, .go 0 false,
          .go 0 false, .go 0 false, .go 1 false, .go 1 false, .go 0 false])).map
      (fun s => decide ((s.objects 0).replies.map Prod.snd = [(0, [1]), (-5, [2])]) &&
        decide (s.returns = [(some 0, 0, [2])]) && decide (s.late = 0)) = some true := by
    decide +kernel
  obtain ⟨s, hexec, hview⟩ := Option.map_eq_some_iff.mp hrun
  simp only [Bool.and_eq_true, decide_eq_true_eq] at hview
  obtain ⟨⟨hreplies, hreturns⟩, hlate⟩ := hview
  refine ⟨s, reach_of_exec hexec, hreplies, hreturns, hlate, fun hwins => ?_⟩
  obtain ⟨o, ho, hpair⟩ := hwins.1 (some 0, 0, [2]) (hreturns ▸ .head _)
  cases ho
  rcases hpair with hpair | hpair | hpair
  · exact absurd hpair (by decide)
  · exact absurd hpair (by decide)
  · rw [← List.head?_map, hreplies] at hpair
    exact absurd hpair (by decide)

end Sensorium.Controllers

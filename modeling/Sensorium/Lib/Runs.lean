import Mathlib.Data.List.Basic

/-!
# Runs of labelled transition functions

A system is a partial step function `σ → α → Option σ`: `none` means that the label is not enabled.
`exec` folds it over a schedule, and `Reach` collects the states of the runs whose every step meets
a side condition on the state before the step.  The side condition is what an environment promises;
`fun _ _ => True` is the unconstrained system.
-/

namespace Sensorium.Lib

variable {σ : Type*} {α : Type*}

/-- Run a schedule, stopping with `none` at the first label that is not enabled. -/
def exec (step : σ → α → Option σ) : σ → List α → Option σ
  | s, [] => some s
  | s, a :: as => (step s a).bind fun t => exec step t as

theorem exec_append (step : σ → α → Option σ) (s : σ) (as bs : List α) :
    exec step s (as ++ bs) = (exec step s as).bind fun t => exec step t bs := by
  induction as generalizing s with
  | nil => rfl
  | cons a as ih =>
    rw [List.cons_append, exec, exec, Option.bind_assoc]
    exact Option.bind_congr fun t _ => ih t

/-- States reached from `s₀` by steps that all meet `ok`. -/
inductive Reach (step : σ → α → Option σ) (ok : σ → α → Prop) (s₀ : σ) : σ → Prop
  | start : Reach step ok s₀ s₀
  | next {s t : σ} {a : α} : Reach step ok s₀ s → ok s a → step s a = some t → Reach step ok s₀ t

/-- No side condition. -/
def anyStep : σ → α → Prop := fun _ _ => True

instance (s : σ) (a : α) : Decidable (anyStep s a) := .isTrue trivial

/-- The steps that meet `ok`. -/
def guarded (step : σ → α → Option σ) (ok : σ → α → Prop) [∀ s a, Decidable (ok s a)] :
    σ → α → Option σ :=
  fun s a => if ok s a then step s a else none

variable {step : σ → α → Option σ} {ok : σ → α → Prop} {s₀ : σ}

theorem of_guarded [∀ s a, Decidable (ok s a)] {s t : σ} {a : α}
    (h : guarded step ok s a = some t) : ok s a ∧ step s a = some t := by
  unfold guarded at h
  split at h
  · exact ⟨‹_›, h⟩
  · cases h

/-- The invariant rule: what holds at the start and is kept by every allowed step holds in every
state reached. -/
theorem Reach.invariant {I : σ → Prop} (h0 : I s₀)
    (hstep : ∀ s a t, I s → ok s a → step s a = some t → I t) {s : σ}
    (hr : Reach step ok s₀ s) : I s := by
  induction hr with
  | start => exact h0
  | next _ hok hs ih => exact hstep _ _ _ ih hok hs

/-- The invariant rule with what is known of every state reached. -/
theorem Reach.invariant_of_reach {I : σ → Prop} (h0 : I s₀)
    (hstep : ∀ s a t, Reach step ok s₀ s → I s → ok s a → step s a = some t → I t) {s : σ}
    (hr : Reach step ok s₀ s) : I s := by
  induction hr with
  | start => exact h0
  | next hr hok hs ih => exact hstep _ _ _ hr ih hok hs

theorem Reach.mono {ok' : σ → α → Prop} (h : ∀ s a, ok s a → ok' s a) {s : σ}
    (hr : Reach step ok s₀ s) : Reach step ok' s₀ s := by
  induction hr with
  | start => exact .start
  | next _ hok hs ih => exact ih.next (h _ _ hok) hs

/-- The invariant rule for one schedule. -/
theorem exec_invariant {I : σ → Prop} {as : List α} {s t : σ} (h0 : I s)
    (hstep : ∀ s a t, a ∈ as → I s → step s a = some t → I t) (h : exec step s as = some t) :
    I t := by
  induction as generalizing s with
  | nil =>
    cases h
    exact h0
  | cons a as ih =>
    obtain ⟨u, hu, h⟩ := Option.bind_eq_some_iff.mp h
    exact ih (hstep s a u List.mem_cons_self h0 hu)
      (fun s b t hb => hstep s b t (List.mem_cons_of_mem _ hb)) h

theorem Reach.trans {s t : σ} (hs : Reach step ok s₀ s) (ht : Reach step ok s t) :
    Reach step ok s₀ t := by
  induction ht with
  | start => exact hs
  | next _ hok hst ih => exact ih.next hok hst

/-- A schedule whose steps all meet `ok` and that runs to the end reaches its final state. -/
theorem reach_of_exec [∀ s a, Decidable (ok s a)] {as : List α} {s t : σ}
    (h : exec (guarded step ok) s as = some t) : Reach step ok s t := by
  induction as generalizing s with
  | nil =>
    simp only [exec, Option.some.injEq] at h
    exact h ▸ .start
  | cons a as ih =>
    obtain ⟨u, hu, ht⟩ := Option.bind_eq_some_iff.mp h
    obtain ⟨hok, hstep⟩ := of_guarded hu
    exact Reach.trans (.next .start hok hstep) (ih ht)

/-- Every step of the run of a schedule meets `P`, up to the first label that is not enabled. -/
def EveryStep (step : σ → α → Option σ) (P : σ → α → σ → Prop) : σ → List α → Prop
  | _, [] => True
  | s, a :: as => ∀ t, step s a = some t → P s a t ∧ EveryStep step P t as

/-- The rule for a property of steps that the state before a step decides. -/
theorem everyStep_congr {P Q : σ → α → σ → Prop}
    (h : ∀ s a t, step s a = some t → (P s a t ↔ Q s a t)) (s : σ) (as : List α) :
    EveryStep step P s as ↔ EveryStep step Q s as := by
  induction as generalizing s with
  | nil => exact Iff.rfl
  | cons a as ih =>
    exact forall_congr' fun t => imp_congr_right fun hs => and_congr (h s a t hs) (ih t)

/-! ## Threads

A system of threads keeps their program counters in a list, and a step sets one of them. -/

section Threads

variable {π : Type*} {pcs : List π} {t u : Nat} {p q : π}

theorem getElem?_set_cases (h : (pcs.set t p)[u]? = some q) :
    u = t ∧ q = p ∨ u ≠ t ∧ pcs[u]? = some q := by
  by_cases hut : u = t
  · subst hut
    rw [List.getElem?_set_self'] at h
    obtain ⟨_, _, hq⟩ := Option.map_eq_some_iff.mp h
    exact .inl ⟨rfl, hq.symm⟩
  · rw [List.getElem?_set_ne (Ne.symm hut)] at h
    exact .inr ⟨hut, h⟩

theorem getElem?_set_of_ne (hut : u ≠ t) (h : pcs[u]? = some q) (p : π) :
    (pcs.set t p)[u]? = some q := by
  rw [List.getElem?_set_ne (Ne.symm hut)]
  exact h

theorem getElem?_set_of_eq (h : pcs[t]? = some p) (q : π) : (pcs.set t q)[t]? = some q := by
  rw [List.getElem?_set_self', h]
  rfl

/-- A thread that is not the one that moved is still there. -/
theorem mem_set_or_eq (ht : pcs[t]? = some p) (h : q ∈ pcs) (r : π) :
    q ∈ pcs.set t r ∨ q = p := by
  obtain ⟨u, hu⟩ := List.getElem?_of_mem h
  by_cases hut : u = t
  · subst hut
    exact .inr (Option.some.inj (hu.symm.trans ht))
  · exact .inl (List.mem_of_getElem? (getElem?_set_of_ne hut hu r))

end Threads

end Sensorium.Lib

import Mathlib.Data.List.Basic

/-!
# Objects that are called and answer

An object is a state with a function that takes a call to the state after it and an answer.  Two
states are alike when no sequence of calls tells them apart.
-/

namespace Sensorium.Lib

variable {σ : Type*} {ι : Type*} {ο : Type*}

/-- The answers to calls made one after the other. -/
def answers (call : σ → ι → σ × ο) : σ → List ι → List ο
  | _, [] => []
  | s, i :: is => (call s i).2 :: answers call (call s i).1 is

/-- The state after them. -/
def after (call : σ → ι → σ × ο) : σ → List ι → σ
  | s, [] => s
  | s, i :: is => after call (call s i).1 is

/-- Every sequence of calls gets the same answers. -/
def Alike (call : σ → ι → σ × ο) (s t : σ) : Prop := ∀ is, answers call s is = answers call t is

variable {call : σ → ι → σ × ο} {s t u : σ}

theorem after_append (s : σ) (is js : List ι) :
    after call s (is ++ js) = after call (after call s is) js := by
  induction is generalizing s with
  | nil => rfl
  | cons i is ih => exact ih (call s i).1

/-- What every call keeps holds after a sequence of them. -/
theorem after_invariant {I : σ → Prop} (hcall : ∀ s i, I s → I (call s i).1) (h : I s)
    (is : List ι) : I (after call s is) := by
  induction is generalizing s with
  | nil => exact h
  | cons i is ih => exact ih (hcall s i h)

namespace Alike

theorem refl (s : σ) : Alike call s s := fun _ => rfl

theorem answer (h : Alike call s t) (i : ι) : (call s i).2 = (call t i).2 :=
  (List.cons.inj (h [i])).1

theorem next (h : Alike call s t) (i : ι) : Alike call (call s i).1 (call t i).1 :=
  fun is => (List.cons.inj (h (i :: is))).2

/-- Two states are alike if a relation between them is kept by every call and its answers are the
same. -/
theorem of_relation {R : σ → σ → Prop}
    (hcall : ∀ s t i, R s t → (call s i).2 = (call t i).2 ∧ R (call s i).1 (call t i).1)
    (h : R s t) : Alike call s t := by
  intro is
  induction is generalizing s t with
  | nil => rfl
  | cons i is ih =>
    obtain ⟨hanswer, hnext⟩ := hcall s t i h
    rw [answers, answers, hanswer, ih hnext]

end Alike

end Sensorium.Lib

import Mathlib.Data.List.Basic

/-!
# Loops

One pass of a loop goes on with a new state or leaves the loop with a result.  `loop` repeats it
with a bound on the passes.  The rule gives both that the loop ends and what holds when it does,
from an invariant and a size that every pass decreases.
-/

namespace Sensorium.Lib

variable {σ : Type*} {τ : Type*}

/-- At most `fuel` passes of `body`. -/
def loop (body : σ → σ ⊕ τ) : Nat → σ → Option τ
  | 0, _ => none
  | fuel + 1, s => (body s).elim (loop body fuel) some

/-- The loop rule: total correctness. -/
theorem loop_spec {body : σ → σ ⊕ τ} (I : σ → Prop) (size : σ → Nat) {Q : τ → Prop} {s : σ}
    (hs : I s) (hpass : ∀ s t, I s → body s = .inl t → I t ∧ size t < size s)
    (hexit : ∀ s r, I s → body s = .inr r → Q r) {fuel : Nat} (hfuel : size s < fuel) :
    ∃ r, loop body fuel s = some r ∧ Q r := by
  -- The fuel bounds the size, so it outlasts the passes.
  induction fuel generalizing s with
  | zero => omega
  | succ fuel ih =>
    rw [loop]
    cases hb : body s with
    | inl t =>
      have ⟨ht, hlt⟩ := hpass s t hs hb
      exact ih ht (by omega)
    | inr r => exact ⟨r, rfl, hexit s r hs hb⟩

end Sensorium.Lib

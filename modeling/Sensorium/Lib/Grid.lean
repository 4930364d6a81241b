import Mathlib.Tactic.Common
import Mathlib.Data.Nat.Basic

/-!
# The next point of a grid

A grid starts at `start` and has a point at every multiple of `step` behind it.  `NextOnGrid` is the
first of these points, the start left out, that lies past a given time.
-/

namespace Sensorium.Lib

structure NextOnGrid (start step now k : Nat) : Prop where
  pos : 1 ≤ k
  past : now < start + k * step
  least : ∀ j, 1 ≤ j → now < start + j * step → k ≤ j

namespace NextOnGrid

variable {start step now k : Nat}

theorem one (h : now < start + step) : NextOnGrid start step now 1 where
  pos := Nat.le_refl 1
  past := by rw [Nat.one_mul]; exact h
  least _ hj _ := hj

/-- Where the first point is not past, the grid may as well start there. -/
theorem behind (hbehind : start + step ≤ now) (h : NextOnGrid start step now (k + 1)) :
    NextOnGrid (start + step) step now k := by
  have hadd : ∀ j, start + (j + 1) * step = start + step + j * step := by
    intro j
    rw [Nat.succ_mul]
    omega
  have hpast := h.past
  rw [hadd] at hpast
  refine ⟨?_, hpast, fun j _ hj => ?_⟩
  · rcases Nat.eq_zero_or_pos k with rfl | hk
    · omega
    · exact hk
  · rw [← hadd] at hj
    exact Nat.le_of_succ_le_succ (h.least (j + 1) (Nat.le_add_left 1 j) hj)

theorem unique {l : Nat} (h : NextOnGrid start step now k) (h' : NextOnGrid start step now l) :
    k = l :=
  Nat.le_antisymm (h.least l h'.pos h'.past) (h'.least k h.pos h.past)

/-- There is one, and it is that many steps away. -/
theorem of_pos (hstep : 0 < step) (start now : Nat) :
    NextOnGrid start step now ((now - start) / step + 1) where
  pos := Nat.le_add_left 1 _
  past := by
    have hrest := Nat.mod_lt (now - start) hstep
    have hdiv := Nat.div_add_mod' (now - start) step
    rw [Nat.succ_mul]
    omega
  least j hj hpast := by
    have hlt : now - start < j * step := by
      have hjpos : 0 < j * step := Nat.mul_pos hj hstep
      omega
    exact (Nat.div_lt_iff_lt_mul hstep).mpr hlt

theorem eq_div (hstep : 0 < step) (h : NextOnGrid start step now k) :
    k = (now - start) / step + 1 :=
  h.unique (of_pos hstep start now)

end NextOnGrid

end Sensorium.Lib

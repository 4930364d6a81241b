import Mathlib.Data.List.Basic

/-!
# Parts of an array

A copy out of an array of fixed size, or into it, names its first cell and a length.  `none` is an
access behind the end.
-/

namespace Sensorium.Lib

variable {α : Type*} {n : Nat}

/-- `len` cells from `start` on. -/
def slice (v : Vector α n) (start len : Nat) : Option (List α) :=
  if start + len ≤ n then some ((v.toList.drop start).take len) else none

/-- `xs` put in the place of the cells from `start` on. -/
def splice (v : Vector α n) (start : Nat) (xs : List α) : Option (Vector α n) :=
  if start + xs.length ≤ n then
    some (Vector.ofFn fun i => if start ≤ i.val then (xs[i.val - start]?).getD v[i] else v[i])
  else none

variable {v w : Vector α n} {start len start' len' : Nat} {xs : List α}

theorem slice_of_le (v : Vector α n) (h : start + len ≤ n) :
    slice v start len = some ((v.toList.drop start).take len) :=
  if_pos h

theorem length_of_slice (h : slice v start len = some xs) : xs.length = len := by
  unfold slice at h
  split at h
  · cases h
    rw [List.length_take, List.length_drop, Vector.length_toList]
    omega
  · cases h

theorem exists_slice (v : Vector α n) (start len : Nat) (h : start + len ≤ n) :
    ∃ xs, slice v start len = some xs ∧ xs.length = len :=
  ⟨_, slice_of_le v h, length_of_slice (slice_of_le v h)⟩

theorem slice_zero (v : Vector α n) (h : start ≤ n) : slice v start 0 = some [] := by
  rw [slice_of_le v h, List.take_zero]

/-- A part begins with its first cell. -/
theorem slice_succ (v : Vector α n) (h : start < n) :
    slice v start (len + 1) = (slice v (start + 1) len).map (v[start] :: ·) := by
  unfold slice
  by_cases hle : start + (len + 1) ≤ n
  · have hcons : v.toList.drop start = v[start] :: v.toList.drop (start + 1) := by
      rw [List.drop_eq_getElem_cons (by simpa using h)]
      simp
    rw [if_pos hle, if_pos (by omega), hcons, List.take_succ_cons]
    rfl
  · rw [if_neg hle, if_neg (by omega)]
    rfl

theorem exists_splice (v : Vector α n) (start : Nat) (xs : List α) (h : start + xs.length ≤ n) :
    ∃ w, splice v start xs = some w :=
  ⟨_, if_pos h⟩

/-- The cells after a copy: inside the part they are new. -/
theorem getElem?_splice (h : splice v start xs = some w) (i : Nat) :
    w.toList[i]? =
      if start ≤ i ∧ i < start + xs.length then xs[i - start]? else v.toList[i]? := by
  unfold splice at h
  split at h
  swap
  · cases h
  cases h
  by_cases hi : i < n
  · rw [List.getElem?_eq_getElem (by simpa using hi)]
    split
    · rename_i hinside
      have hlt : i - start < xs.length := by omega
      simp [hinside.1, List.getElem?_eq_getElem hlt]
    · rename_i hout
      rw [List.getElem?_eq_getElem (by simpa using hi)]
      by_cases hle : start ≤ i
      · have hge : xs.length ≤ i - start := by omega
        simp [hle, List.getElem?_eq_none hge]
      · simp [hle]
  · rw [List.getElem?_eq_none (by simpa using hi), if_neg (by omega),
      List.getElem?_eq_none (by simpa using hi)]

theorem getElem_splice_of_lt (h : splice v start xs = some w) {i : Nat} (hi : i < start)
    (hn : i < n) : w[i] = v[i] := by
  have hcell := getElem?_splice h i
  rw [if_neg (by omega), List.getElem?_eq_getElem (by simpa using hn),
    List.getElem?_eq_getElem (by simpa using hn), Option.some_inj] at hcell
  simpa using hcell

theorem le_of_splice (h : splice v start xs = some w) : start + xs.length ≤ n := by
  unfold splice at h
  split at h
  · assumption
  · cases h

/-- What is copied in is there. -/
theorem slice_splice (h : splice v start xs = some w) : slice w start xs.length = some xs := by
  have hle := le_of_splice h
  rw [slice_of_le w hle, Option.some_inj]
  apply List.ext_getElem?
  intro i
  by_cases hi : i < xs.length
  · rw [List.getElem?_take_of_lt hi, List.getElem?_drop, getElem?_splice h, if_pos (by omega),
      Nat.add_sub_cancel_left]
  · rw [List.getElem?_eq_none (by rw [List.length_take]; omega),
      List.getElem?_eq_none (by omega)]

end Sensorium.Lib

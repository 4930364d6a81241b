import Mathlib.Data.List.TakeWhile
import Mathlib.Tactic.Common

/-!
# Lines of a buffer that grows

A stream is cut at a separator into its complete lines and an unterminated rest.  A reader that
keeps only the rest between two chunks finds the lines of the whole stream.
-/

namespace Sensorium.Lib

variable {α : Type*} [DecidableEq α]

/-- The complete lines, without their separators. -/
def lines (sep : α) : List α → List (List α)
  | [] => []
  | x :: xs =>
    if x = sep then [] :: lines sep xs
    else
      match lines sep xs with
      | [] => []
      | l :: ls => (x :: l) :: ls

/-- What stands after the last separator. -/
def unterminated (sep : α) : List α → List α
  | [] => []
  | x :: xs =>
    if x = sep then unterminated sep xs
    else if lines sep xs = [] then x :: unterminated sep xs else unterminated sep xs

variable {sep : α}

theorem lines_eq_nil_of_notMem {xs : List α} (h : sep ∉ xs) : lines sep xs = [] := by
  induction xs with
  | nil => rfl
  | cons x xs ih =>
    obtain ⟨hx, hxs⟩ := List.ne_and_not_mem_of_not_mem_cons h
    rw [lines, if_neg (Ne.symm hx), ih hxs]

theorem unterminated_eq_self {xs : List α} (h : sep ∉ xs) : unterminated sep xs = xs := by
  induction xs with
  | nil => rfl
  | cons x xs ih =>
    obtain ⟨hx, hxs⟩ := List.ne_and_not_mem_of_not_mem_cons h
    rw [unterminated, if_neg (Ne.symm hx), if_pos (lines_eq_nil_of_notMem hxs), ih hxs]

/-! ## The first line -/

theorem lines_append_cons {l : List α} (h : sep ∉ l) (xs : List α) :
    lines sep (l ++ sep :: xs) = l :: lines sep xs := by
  induction l with
  | nil => rw [List.nil_append, lines, if_pos rfl]
  | cons x l ih =>
    obtain ⟨hx, hl⟩ := List.ne_and_not_mem_of_not_mem_cons h
    rw [List.cons_append, lines, if_neg (Ne.symm hx), ih hl]

theorem unterminated_append_cons {l : List α} (h : sep ∉ l) (xs : List α) :
    unterminated sep (l ++ sep :: xs) = unterminated sep xs := by
  induction l with
  | nil => rw [List.nil_append, unterminated, if_pos rfl]
  | cons x l ih =>
    obtain ⟨hx, hl⟩ := List.ne_and_not_mem_of_not_mem_cons h
    have hne : lines sep (l ++ sep :: xs) ≠ [] := by
      rw [lines_append_cons hl]
      exact List.cons_ne_nil _ _
    rw [List.cons_append, unterminated, if_neg (Ne.symm hx), if_neg hne, ih hl]

/-- The line before the first separator. -/
def firstLine (sep : α) (xs : List α) : List α := xs.takeWhile (· ≠ sep)

/-- What stands after the first separator. -/
def remainder (sep : α) (xs : List α) : List α := (xs.dropWhile (· ≠ sep)).tail

theorem notMem_firstLine (xs : List α) : sep ∉ firstLine sep xs := by
  intro h
  have hne := List.mem_takeWhile_imp h
  simp at hne

theorem firstLine_append_remainder {xs : List α} (h : sep ∈ xs) :
    firstLine sep xs ++ sep :: remainder sep xs = xs := by
  unfold firstLine remainder
  have hdrop : xs.dropWhile (· ≠ sep) = sep :: (xs.dropWhile (· ≠ sep)).tail := by
    induction xs with
    | nil => exact (List.not_mem_nil h).elim
    | cons x xs ih =>
      by_cases hx : x = sep
      · simp [hx]
      · rw [List.dropWhile_cons_of_pos (by simpa using hx)]
        exact ih ((List.mem_cons.mp h).resolve_left (Ne.symm hx))
  rw [← hdrop, List.takeWhile_append_dropWhile]

theorem lines_eq_cons {xs : List α} (h : sep ∈ xs) :
    lines sep xs = firstLine sep xs :: lines sep (remainder sep xs) := by
  conv_lhs => rw [← firstLine_append_remainder h]
  exact lines_append_cons (notMem_firstLine xs) _

theorem unterminated_remainder {xs : List α} (h : sep ∈ xs) :
    unterminated sep (remainder sep xs) = unterminated sep xs := by
  conv_rhs => rw [← firstLine_append_remainder h]
  exact (unterminated_append_cons (notMem_firstLine xs) _).symm

theorem count_remainder {xs : List α} (h : sep ∈ xs) :
    xs.count sep = (remainder sep xs).count sep + 1 := by
  conv_lhs => rw [← firstLine_append_remainder h]
  rw [List.count_append, List.count_eq_zero_of_not_mem (notMem_firstLine xs), List.count_cons_self,
    Nat.zero_add]

/-! ## Chunks -/

/-- The lines of the first part, and then those of its rest with the second part. -/
theorem lines_append (xs ys : List α) :
    lines sep (xs ++ ys) = lines sep xs ++ lines sep (unterminated sep xs ++ ys) := by
  induction xs with
  | nil => rfl
  | cons x xs ih =>
    rw [List.cons_append, lines, lines, unterminated]
    split
    · rw [ih, List.cons_append]
    · rename_i hx
      rw [ih]
      cases hls : lines sep xs with
      | nil =>
        rw [if_pos rfl, List.nil_append, List.nil_append, List.cons_append, lines, if_neg hx]
      | cons l ls =>
        rw [if_neg (List.cons_ne_nil l ls)]
        rfl

theorem unterminated_append (xs ys : List α) :
    unterminated sep (xs ++ ys) = unterminated sep (unterminated sep xs ++ ys) := by
  induction xs with
  | nil => rfl
  | cons x xs ih =>
    rw [List.cons_append, unterminated, unterminated]
    split
    · exact ih
    · rename_i hx
      -- without a complete line behind it, `x` is a part of the rest
      by_cases hls : lines sep xs = []
      · rw [if_pos hls, List.cons_append, unterminated, if_neg hx, ih, lines_append, hls,
          List.nil_append]
      · rw [if_neg hls, if_neg, ih]
        rw [lines_append]
        exact fun h => hls (List.append_eq_nil_iff.mp h).1

theorem lines_extend {xs ys : List α} (h : xs <+: ys) : lines sep xs <+: lines sep ys := by
  obtain ⟨zs, rfl⟩ := h
  rw [lines_append]
  exact List.prefix_append _ _

theorem notMem_unterminated (xs : List α) : sep ∉ unterminated sep xs := by
  induction xs with
  | nil => exact List.not_mem_nil
  | cons x xs ih =>
    rw [unterminated]
    split
    · exact ih
    · rename_i hx
      split
      · exact List.not_mem_cons_of_ne_of_not_mem (Ne.symm hx) ih
      · exact ih

/-- The rest of a first part is not longer than the line that it starts, complete or not. -/
theorem length_unterminated_le {xs ys : List α} (h : xs <+: ys) {n : Nat}
    (hlines : ∀ l ∈ lines sep ys, l.length ≤ n) (hrest : (unterminated sep ys).length ≤ n) :
    (unterminated sep xs).length ≤ n := by
  obtain ⟨zs, rfl⟩ := h
  rw [lines_append] at hlines
  rw [unterminated_append] at hrest
  have hfree : sep ∉ unterminated sep xs := notMem_unterminated xs
  by_cases hzs : sep ∈ zs
  · -- the rest is the start of the first line of the second part
    have hfirst : sep ∉ unterminated sep xs ++ firstLine sep zs := by
      intro hmem
      rcases List.mem_append.mp hmem with hmem | hmem
      · exact hfree hmem
      · exact notMem_firstLine zs hmem
    have hline := lines_append_cons hfirst (remainder sep zs)
    rw [List.append_assoc, firstLine_append_remainder hzs] at hline
    have hlen := hlines (unterminated sep xs ++ firstLine sep zs)
      (List.mem_append_right _ (hline ▸ List.mem_cons_self))
    rw [List.length_append] at hlen
    omega
  · have hself : sep ∉ unterminated sep xs ++ zs := by
      intro hmem
      rcases List.mem_append.mp hmem with hmem | hmem
      · exact hfree hmem
      · exact hzs hmem
    rw [unterminated_eq_self hself, List.length_append] at hrest
    omega

end Sensorium.Lib

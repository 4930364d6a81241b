import Mathlib.Data.List.DropRight

/-!
# Splitting a sequence at its end

A loop that moves back over the last elements, and a pattern of two parts whose first part is
matched lazily, find the same place.
-/

namespace Sensorium.Lib

variable {α : Type}

/-! ## From the right -/

/-- The loop `while i > 0 and p(xs[i - 1]): i -= 1`. -/
def scanBack (p : α → Bool) (xs : List α) : Nat → Nat
  | 0 => 0
  | i + 1 => if xs[i]?.any p then scanBack p xs i else i + 1

theorem scanBack_eq (p : α → Bool) (xs : List α) {i : Nat} (hi : i ≤ xs.length) :
    scanBack p xs i = ((xs.take i).rdropWhile p).length := by
  induction i with
  | zero => rfl
  | succ i ih =>
    have hlt : i < xs.length := hi
    rw [scanBack, List.getElem?_eq_getElem hlt, Option.any_some,
      List.take_succ_eq_append_getElem hlt, List.rdropWhile_concat, ih hlt.le]
    split
    · rfl
    · rw [List.length_append, List.length_take, Nat.min_eq_left hlt.le]
      rfl

theorem scanBack_length (p : α → Bool) (xs : List α) :
    scanBack p xs xs.length = (xs.rdropWhile p).length := by
  rw [scanBack_eq p xs le_rfl, List.take_length]

theorem scanBack_congr {p q : α → Bool} {xs : List α} (h : ∀ x ∈ xs, p x = q x) (i : Nat) :
    scanBack p xs i = scanBack q xs i := by
  induction i with
  | zero => rfl
  | succ i ih =>
    have hsame : xs[i]?.any p = xs[i]?.any q := by
      cases hx : xs[i]? with
      | none => rfl
      | some x => exact h x (List.mem_of_getElem? hx)
    rw [scanBack, scanBack, hsame, ih]

theorem take_rdropWhile (p : α → Bool) (xs : List α) :
    xs.take (xs.rdropWhile p).length = xs.rdropWhile p :=
  List.prefix_iff_eq_take.mp (List.rdropWhile_prefix p xs) |>.symm

theorem drop_rdropWhile (p : α → Bool) (xs : List α) :
    xs.drop (xs.rdropWhile p).length = xs.rtakeWhile p := by
  have hparts : xs = xs.rdropWhile p ++ xs.rtakeWhile p := List.rdropWhile_append_rtakeWhile.symm
  calc
    xs.drop (xs.rdropWhile p).length =
        (xs.rdropWhile p ++ xs.rtakeWhile p).drop (xs.rdropWhile p).length := by rw [← hparts]
    _ = xs.rtakeWhile p := List.drop_left

theorem rdropWhile_append_of_all {p : α → Bool} {ys : List α} (h : ∀ y ∈ ys, p y = true)
    (xs : List α) : (xs ++ ys).rdropWhile p = xs.rdropWhile p := by
  rw [List.rdropWhile, List.reverse_append,
    List.dropWhile_append_of_pos fun y hy => h y (List.mem_reverse.mp hy)]
  rfl

/-! ## Lazily from the left -/

/-- The shortest first part of a full match of two parts. -/
def lazySplit (first rest : List α → Bool) (xs : List α) : Option Nat :=
  (List.range (xs.length + 1)).find? fun i => first (xs.take i) && rest (xs.drop i)

variable {start more last : α → Bool}

/-- `[start][more]*?` followed by `[last]+`. -/
def lazySuffix (start more last : α → Bool) : List α → Option Nat :=
  lazySplit (fun xs => xs.head?.any start && xs.all more) fun xs => !xs.isEmpty && xs.all last

-- What consists of `last` does not start before the last elements do.
theorem length_rdropWhile_le {xs : List α} {i : Nat} (h : (xs.drop i).all last = true) :
    (xs.rdropWhile last).length ≤ i := by
  have hdrop : xs.rdropWhile last = (xs.take i).rdropWhile last := by
    conv_lhs => rw [← List.take_append_drop i xs]
    exact rdropWhile_append_of_all (List.all_eq_true.mp h) _
  calc
    (xs.rdropWhile last).length ≤ (xs.take i).length := by
      rw [hdrop]
      exact (List.rdropWhile_prefix last _).length_le
    _ ≤ i := List.length_take_le i xs

-- The head of a first part that matches is none of the last elements, so it is the head of all that
-- stands before them.
theorem head?_rdropWhile (hstart : ∀ x, start x = true → last x = false) {xs : List α} {i : Nat}
    (h : (xs.take i).head?.any start = true) :
    (xs.rdropWhile last).head? = (xs.take i).head? := by
  cases htake : (xs.take i).head? with
  | none => rw [htake] at h; cases h
  | some x =>
    rw [htake, Option.any_some] at h
    have hx : xs.head? = some x := by
      rw [List.head?_take] at htake
      split at htake
      · cases htake
      · exact htake
    obtain ⟨rest, hrest⟩ := List.rdropWhile_prefix last xs
    cases hbase : xs.rdropWhile last with
    | nil =>
      have hall := List.rdropWhile_eq_nil_iff.mp hbase x (List.mem_of_head? hx)
      exact absurd ((hstart x h).symm.trans hall) Bool.false_ne_true
    | cons y base =>
      rw [← hrest, hbase] at hx
      exact hx

/-- The lazy first part ends where the last elements begin, if none of these can start it. -/
theorem lazySuffix_eq (hstart : ∀ x, start x = true → last x = false) (xs : List α) :
    lazySuffix start more last xs =
      if !(xs.rtakeWhile last).isEmpty && ((xs.rdropWhile last).head?.any start &&
        (xs.rdropWhile last).all more) then some (xs.rdropWhile last).length else none := by
  unfold lazySuffix lazySplit
  split
  · rename_i hmatch
    simp only [Bool.and_eq_true] at hmatch
    refine List.find?_range_eq_some.mpr ⟨?_, ?_, fun j hj => ?_⟩
    · simp only [take_rdropWhile, drop_rdropWhile, Bool.and_eq_true]
      exact ⟨hmatch.2, hmatch.1, List.all_eq_true.mpr fun x hx => List.mem_rtakeWhile_imp hx⟩
    · exact List.mem_range.mpr (Nat.lt_succ_of_le (List.rdropWhile_prefix last xs).length_le)
    · rw [Bool.not_eq_true', Bool.and_eq_false_iff]
      refine .inr (Bool.eq_false_iff.mpr fun hrest => ?_)
      exact absurd (length_rdropWhile_le (Bool.and_eq_true_iff.mp hrest).2) (by omega)
  · rename_i hmatch
    refine List.find?_eq_none.mpr fun i hi hi' => hmatch ?_
    simp only [Bool.and_eq_true] at hi' ⊢
    obtain ⟨⟨hhead, hmore⟩, hne, hlast⟩ := hi'
    have hle := length_rdropWhile_le hlast
    refine ⟨?_, ?_, ?_⟩
    · rw [← drop_rdropWhile]
      simp only [Bool.not_eq_true', List.isEmpty_eq_false_iff, ne_eq, List.drop_eq_nil_iff] at hne ⊢
      omega
    · rw [head?_rdropWhile hstart hhead]
      exact hhead
    · rw [← take_rdropWhile, ← Nat.min_eq_left hle, ← List.take_take]
      exact List.all_eq_true.mpr fun x hx =>
        List.all_eq_true.mp hmore x ((List.take_prefix _ _).subset hx)

end Sensorium.Lib

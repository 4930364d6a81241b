import Mathlib.Combinatorics.Enumerative.DoubleCounting
import Mathlib.Algebra.Order.BigOperators.Group.Finset
import Mathlib.Logic.Relation

/-!
# Chains of successors

In a finite set of numbered elements every element with a positive number follows one whose number
is one less, and no two follow the same.  The set falls apart into chains, one for each element with
number zero, and its size is at most the number of chains times their length.
-/

namespace Sensorium.Lib

open Finset

variable {α : Type*}

/-- `follows y x`: `x` comes next after `y`. -/
structure Chains (follows : α → α → Prop) (number : α → Nat) (s : Finset α) : Prop where
  pred : ∀ x ∈ s, number x ≠ 0 → ∃ y ∈ s, follows y x
  inside : ∀ y x, follows y x → y ∈ s ∧ x ∈ s
  next : ∀ y x, follows y x → number x = number y + 1
  once : ∀ y x x', follows y x → follows y x' → x = x'

namespace Chains

variable {follows : α → α → Prop} {number : α → Nat} {s : Finset α}

/-- Every element stands in the chain of one with number zero. -/
theorem exists_root (h : Chains follows number s) {x : α} (hx : x ∈ s) :
    ∃ root ∈ s, number root = 0 ∧ Relation.ReflTransGen follows root x := by
  induction hn : number x generalizing x with
  | zero => exact ⟨x, hx, hn, .refl⟩
  | succ n ih =>
    -- the one before it has the number before it
    obtain ⟨y, hy, hyx⟩ := h.pred x hx (by omega)
    have hnumber := h.next y x hyx
    obtain ⟨root, hroot, hzero, hpath⟩ := ih hy (by omega)
    exact ⟨root, hroot, hzero, hpath.tail hyx⟩

/-- What comes after an element, up to one that nothing follows. -/
theorem exists_chain (h : Chains follows number s) {x : α} (hx : x ∈ s) :
    ∃ chain, List.IsChain follows (x :: chain) ∧
      ∀ y ∈ x :: chain, ∀ z, follows y z → z ∈ chain := by
  -- the numbers of the elements have a bound
  obtain ⟨bound, hbound⟩ : ∃ bound, ∀ y ∈ s, number y ≤ bound :=
    ⟨s.sup number, fun y hy => Finset.le_sup (f := number) hy⟩
  induction hn : bound - number x generalizing x with
  | zero =>
    refine ⟨[], List.isChain_singleton x, fun y hy z hyz => ?_⟩
    rw [List.mem_singleton.mp hy] at hyz
    have hz := hbound z (h.inside x z hyz).2
    have hnumber := h.next x z hyz
    omega
  | succ n ih =>
    by_cases hlast : ∃ z, follows x z
    · obtain ⟨z, hxz⟩ := hlast
      have hnumber := h.next x z hxz
      obtain ⟨chain, hchain, hall⟩ := ih (h.inside x z hxz).2 (by omega)
      refine ⟨z :: chain, List.isChain_cons_cons.mpr ⟨hxz, hchain⟩, fun y hy w hyw => ?_⟩
      rcases List.mem_cons.mp hy with rfl | hy
      · rw [h.once y w z hyw hxz]
        exact List.mem_cons_self
      · exact List.mem_cons_of_mem _ (hall y hy w hyw)
    · refine ⟨[], List.isChain_singleton x, fun y hy z hyz => ?_⟩
      rw [List.mem_singleton.mp hy] at hyz
      exact absurd ⟨z, hyz⟩ hlast

/-- The numbers go up by one along a chain. -/
theorem number_getElem? (h : Chains follows number s) {chain : List α}
    (hchain : List.IsChain follows chain) {x : α} (hhead : chain.head? = some x) {i : Nat} {y : α}
    (hi : chain[i]? = some y) : number y = number x + i := by
  induction chain generalizing x i with
  | nil => cases hhead
  | cons z chain ih =>
    cases hhead
    cases i with
    | zero =>
      cases hi
      rfl
    | succ i =>
      cases chain with
      | nil => cases hi
      | cons w chain =>
        obtain ⟨hzw, hchain⟩ := List.isChain_cons_cons.mp hchain
        have hnumber := h.next _ _ hzw
        rw [ih hchain rfl hi, hnumber]
        omega

/-- There are at most as many elements with one number as there are chains. -/
theorem card_number_le (h : Chains follows number s) (n : Nat) :
    #{x ∈ s | number x = n} ≤ #{x ∈ s | number x = 0} := by
  induction n with
  | zero => exact Nat.le_refl _
  | succ n ih =>
    refine Nat.le_trans ?_ ih
    -- an element goes to the one that it follows, and no two to the same
    refine card_le_card_of_forall_subsingleton (fun x y => follows y x) (fun x hx => ?_)
      fun y _ x hx x' hx' => h.once y x x' hx.2 hx'.2
    obtain ⟨hx, hnumber⟩ := mem_filter.mp hx
    obtain ⟨y, hy, hyx⟩ := h.pred x hx (by omega)
    have hnext := h.next y x hyx
    exact ⟨y, mem_filter.mpr ⟨hy, by omega⟩, hyx⟩

/-- The size of the whole, by the number of the chains and the bound of their numbers. -/
theorem card_le (h : Chains follows number s) {bound : Nat} (hbound : ∀ x ∈ s, number x ≤ bound) :
    #s ≤ #{x ∈ s | number x = 0} * (bound + 1) := by
  have hmaps : Set.MapsTo number (s : Set α) (range (bound + 1)) := fun x hx =>
    mem_coe.mpr (mem_range.mpr (Nat.lt_succ_of_le (hbound x (mem_coe.mp hx))))
  calc #s = ∑ n ∈ range (bound + 1), #{x ∈ s | number x = n} := card_eq_sum_card_fiberwise hmaps
    _ ≤ #(range (bound + 1)) • #{x ∈ s | number x = 0} :=
      sum_le_card_nsmul _ _ _ fun n _ => h.card_number_le n
    _ = #{x ∈ s | number x = 0} * (bound + 1) := by
      rw [card_range]
      exact Nat.mul_comm _ _

end Chains

end Sensorium.Lib

import Mathlib.Data.List.Nodup
import Mathlib.Data.List.Perm.Subperm
import Mathlib.Logic.Function.Basic

/-!
# Objects on a list and in indexes

Memory is a partial map from addresses to objects.  Three views of it are kept in step: a list that
holds every object once (`Listed`), an index that finds the objects by a key (`Files`), and a count
of the objects with a property (`population`).  The lemmas say how each follows an allocation and a
release.
-/

namespace Sensorium.Lib

open Function

universe u v

abbrev Heap (α : Type u) := Nat → Option α

variable {α : Type u} {κ : Type v} {heap : Heap α} {objs : List Nat} {a : Nat} {o : α}

/-- An allocation; `none` is out of memory.  The allocator may choose any address that is free. -/
def Heap.alloc (heap : Heap α) (chosen : Option Nat) : Option Nat :=
  chosen.filter fun a => (heap a).isNone

theorem Heap.alloc_eq_some {chosen : Option Nat} (h : heap.alloc chosen = some a) :
    heap a = none := by
  rw [Heap.alloc, Option.filter_eq_some_iff] at h
  exact Option.isNone_iff_eq_none.mp h.2

/-- An allocation that is released again leaves the memory as it was. -/
theorem Heap.update_none (h : heap a = none) (o : Option α) :
    update (update heap a o) a none = heap := by
  rw [update_idem, ← h, update_eq_self]

/-! ## Lists -/

/-- The list holds the live objects, each once. -/
structure Listed (heap : Heap α) (objs : List Nat) : Prop where
  nodup : objs.Nodup
  live : ∀ a, a ∈ objs ↔ ∃ o, heap a = some o

namespace Listed

theorem nil : Listed (fun _ => none : Heap α) [] where
  nodup := List.nodup_nil
  live a := by simp

theorem notMem (h : Listed heap objs) (ha : heap a = none) : a ∉ objs := by
  rw [h.live, ha]
  simp

theorem mem (h : Listed heap objs) (ha : heap a = some o) : a ∈ objs := (h.live a).mpr ⟨o, ha⟩

theorem add (h : Listed heap objs) (ha : heap a = none) (o : α) :
    Listed (update heap a (some o)) (objs ++ [a]) where
  nodup := List.nodup_append.mpr
    ⟨h.nodup, List.nodup_singleton a, fun b hb c hc he =>
      h.notMem ha (List.mem_singleton.mp hc ▸ he ▸ hb)⟩
  live b := by
    by_cases hb : b = a
    · subst hb
      simp
    · rw [update_of_ne hb, List.mem_append, h.live]
      simp [hb]

theorem set (h : Listed heap objs) (ha : heap a = some o) (o' : α) :
    Listed (update heap a (some o')) objs where
  nodup := h.nodup
  live b := by
    by_cases hb : b = a
    · subst hb
      simp [h.mem ha]
    · rw [update_of_ne hb, h.live]

theorem erase (h : Listed heap objs) (a : Nat) : Listed (update heap a none) (objs.erase a) where
  nodup := h.nodup.erase a
  live b := by
    rw [h.nodup.mem_erase_iff, h.live]
    by_cases hb : b = a
    · subst hb
      simp
    · simp [hb]

end Listed

/-! ## Indexes -/

/-- The index finds, under each key, the live object that stands there. -/
def Files (heap : Heap α) (index : κ → Option Nat) (stands : α → κ → Prop) : Prop :=
  ∀ k a, index k = some a ↔ ∃ o, heap a = some o ∧ stands o k

namespace Files

variable {index : κ → Option Nat} {stands : α → κ → Prop} {k : κ}

theorem nil : Files (fun _ => none : Heap α) (fun _ => none) stands := by
  intro k a
  simp

theorem free (h : Files heap index stands) (hk : index k = none) (ha : heap a = some o) :
    ¬ stands o k := by
  intro ho
  have hfound : index k = some a := (h k a).mpr ⟨o, ha, ho⟩
  rw [hk] at hfound
  cases hfound

/-- What the index finds is on the list. -/
theorem listed (h : Files heap index stands) (hl : Listed heap objs) (k : κ) (a : Nat) :
    index k = some a ↔ a ∈ objs ∧ ∃ o, heap a = some o ∧ stands o k := by
  rw [h]
  constructor
  · rintro ⟨o, ha, ho⟩
    exact ⟨hl.mem ha, o, ha, ho⟩
  · exact And.right

/-- An object that stands nowhere is allocated. -/
theorem add_other (h : Files heap index stands) (ha : heap a = none) (ho : ∀ k, ¬ stands o k) :
    Files (update heap a (some o)) index stands := by
  intro k b
  rw [h]
  by_cases hb : b = a
  · subst hb
    simp [ha, ho]
  · rw [update_of_ne hb]

/-- An object is changed, but not where it stands. -/
theorem set {o' : α} (h : Files heap index stands) (ha : heap a = some o)
    (ho : ∀ k, stands o' k ↔ stands o k) : Files (update heap a (some o')) index stands := by
  intro k b
  rw [h]
  by_cases hb : b = a
  · subst hb
    simp [ha, ho]
  · rw [update_of_ne hb]

theorem erase_other (h : Files heap index stands) (ha : ∀ o k, heap a = some o → ¬ stands o k) :
    Files (update heap a none) index stands := by
  intro k b
  rw [h]
  by_cases hb : b = a
  · subst hb
    simp only [update_self, reduceCtorEq, false_and, exists_false, iff_false, not_exists, not_and]
    exact fun o => ha o k
  · rw [update_of_ne hb]

variable [DecidableEq κ]

theorem add (h : Files heap index stands) (ha : heap a = none) (hk : index k = none)
    (ho : ∀ k', stands o k' ↔ k' = k) :
    Files (update heap a (some o)) (update index k (some a)) stands := by
  intro k' b
  by_cases hk' : k' = k
  · subst hk'
    rw [update_self]
    by_cases hb : b = a
    · subst hb
      simp [ho]
    · rw [update_of_ne hb]
      constructor
      · intro he
        exact absurd (Option.some.inj he).symm hb
      · rintro ⟨o', ho', hs⟩
        exact absurd hs (h.free hk ho')
  · rw [update_of_ne hk']
    by_cases hb : b = a
    · subst hb
      simp [h k' b, ha, ho, hk']
    · rw [update_of_ne hb, h]

/-- The object goes, and with it the entry under the key it may stand at. -/
theorem erase (h : Files heap index stands) (ho : ∀ o k', heap a = some o → stands o k' → k' = k)
    (hk : ∀ b, index k = some b → b = a) :
    Files (update heap a none) (update index k none) stands := by
  intro k' b
  by_cases hb : b = a
  · subst hb
    simp only [update_self, reduceCtorEq, false_and, exists_false, iff_false]
    by_cases hk' : k' = k
    · rw [hk', update_self]
      simp
    · rw [update_of_ne hk', h]
      rintro ⟨o, hb, hs⟩
      exact hk' (ho o k' hb hs)
  · rw [update_of_ne hb]
    by_cases hk' : k' = k
    · subst hk'
      rw [update_self, ← h]
      constructor
      · intro he
        cases he
      · intro he
        exact absurd (hk b he) hb
    · rw [update_of_ne hk', h]

end Files

/-! ## Counts -/

/-- How many of the listed objects have the property. -/
def population (heap : Heap α) (objs : List Nat) (p : α → Bool) : Nat :=
  objs.countP fun a => (heap a).any p

section

variable {p : α → Bool}

theorem population_congr {heap' : Heap α} (h : ∀ b ∈ objs, heap' b = heap b) :
    population heap' objs p = population heap objs p :=
  List.countP_congr fun b hb => by rw [h b hb]

theorem population_add (ha : a ∉ objs) (o : α) :
    population (update heap a (some o)) (objs ++ [a]) p =
      population heap objs p + if p o then 1 else 0 := by
  have hold : population (update heap a (some o)) objs p = population heap objs p :=
    population_congr fun b hb => update_of_ne (ne_of_mem_of_not_mem hb ha) _ _
  unfold population at hold ⊢
  rw [List.countP_append, hold, List.countP_singleton, update_self]
  rfl

theorem population_erase (hl : Listed heap objs) (ha : heap a = some o) :
    population (update heap a none) (objs.erase a) p + (if p o then 1 else 0) =
      population heap objs p := by
  have hold : population (update heap a none) (objs.erase a) p = population heap (objs.erase a) p :=
    population_congr fun b hb =>
      update_of_ne (ne_of_mem_of_not_mem hb hl.nodup.not_mem_erase) _ _
  have hperm : objs.Perm (a :: objs.erase a) := List.perm_cons_erase (hl.mem ha)
  have hcount := hperm.countP_eq fun b => (heap b).any p
  rw [List.countP_cons, ha] at hcount
  rw [hold]
  exact hcount.symm

theorem population_pos (hl : Listed heap objs) :
    0 < population heap objs p ↔ ∃ a o, heap a = some o ∧ p o := by
  unfold population
  rw [List.countP_pos_iff]
  constructor
  · rintro ⟨a, -, ha⟩
    obtain ⟨o, ho, hp⟩ := (Option.any_eq_true _ _).mp ha
    exact ⟨a, o, ho, hp⟩
  · rintro ⟨a, o, ho, hp⟩
    exact ⟨a, hl.mem ho, by rw [ho]; exact hp⟩

/-- Objects with places of their own below `n` are at most `n`. -/
theorem population_le {n : Nat} (place : Nat → Option Nat) (hl : Listed heap objs)
    (hplace : ∀ a o, heap a = some o → p o → ∃ i < n, place i = some a) :
    population heap objs p ≤ n := by
  unfold population
  rw [List.countP_eq_length_filter]
  have hsub : objs.filter (fun a => (heap a).any p) ⊆ (List.range n).filterMap place := by
    intro a ha
    obtain ⟨o, ho, hp⟩ := (Option.any_eq_true _ _).mp (List.mem_filter.mp ha).2
    obtain ⟨i, hi, hia⟩ := hplace a o ho hp
    exact List.mem_filterMap.mpr ⟨i, List.mem_range.mpr hi, hia⟩
  calc (objs.filter fun a => (heap a).any p).length
      ≤ ((List.range n).filterMap place).length :=
        ((hl.nodup.filter _).subperm hsub).length_le
    _ ≤ (List.range n).length := List.length_filterMap_le _ _
    _ = n := List.length_range

end

end Sensorium.Lib

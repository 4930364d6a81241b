import Mathlib.Data.List.Basic
import Mathlib.Data.List.Count
import Mathlib.Data.List.Nodup
import Mathlib.Data.List.Perm.Basic
import Mathlib.Data.List.Perm.Subperm

/-!
# Ledgers of lent items

A table of items, each of which can be lent and returned, with the list of those that are lent.  An
item counts how often it was given away and how often it came back.  The ledger is in balance when
every item that is lent stands in the list once and has come back once less than it was given, and
every other item does not stand there and has come back as often as it was given.
-/

namespace Sensorium.Lib

variable {β : Type*} {given returned : β → Nat} {lent : β → Prop}

structure Ledger (given returned : β → Nat) (lent : β → Prop) (items : List β) (out : List Nat) :
    Prop where
  nodup : out.Nodup
  inside : ∀ i ∈ out, i < items.length
  lent : ∀ i b, items[i]? = some b → (lent b ↔ i ∈ out)
  balance : ∀ i b, items[i]? = some b → given b = returned b + out.count i

namespace Ledger

variable {items : List β} {out out' : List Nat} {i : Nat} {f : β → β}

theorem perm (h : Ledger given returned lent items out) (hp : out'.Perm out) :
    Ledger given returned lent items out' where
  nodup := hp.nodup_iff.mpr h.nodup
  inside i hi := h.inside i (hp.mem_iff.mp hi)
  lent i b hb := (h.lent i b hb).trans hp.mem_iff.symm
  balance i b hb := by
    rw [hp.count_eq]
    exact h.balance i b hb

/-- A change of one item, and of its place in the list. -/
theorem modify (h : Ledger given returned lent items out) (hnodup : out'.Nodup)
    (hinside : ∀ j ∈ out', j < items.length) (hother : ∀ j, j ≠ i → (j ∈ out' ↔ j ∈ out))
    (hi : ∀ b, items[i]? = some b → (lent (f b) ↔ i ∈ out') ∧
      given (f b) = returned (f b) + out'.count i) :
    Ledger given returned lent (items.modify i f) out' where
  nodup := hnodup
  inside j hj := by
    rw [List.length_modify]
    exact hinside j hj
  lent j b hb := by
    rw [List.getElem?_modify] at hb
    obtain ⟨b', hb', rfl⟩ := Option.map_eq_some_iff.mp hb
    split
    · subst i
      exact (hi b' hb').1
    · rename_i hne
      exact (h.lent j b' hb').trans (hother j (Ne.symm hne)).symm
  balance j b hb := by
    rw [List.getElem?_modify] at hb
    obtain ⟨b', hb', rfl⟩ := Option.map_eq_some_iff.mp hb
    split
    · subst i
      exact (hi b' hb').2
    · rename_i hne
      have hcount : out'.count j = out.count j := by
        simp only [hnodup.count, h.nodup.count, hother j (Ne.symm hne)]
      rw [hcount]
      exact h.balance j b' hb'

/-- A change that is no loan and no return. -/
theorem edit (h : Ledger given returned lent items out)
    (hi : ∀ b, items[i]? = some b → (lent (f b) ↔ lent b) ∧ given (f b) = given b ∧
      returned (f b) = returned b) :
    Ledger given returned lent (items.modify i f) out := by
  refine h.modify h.nodup h.inside (fun _ _ => Iff.rfl) fun b hb => ?_
  obtain ⟨hlent, hgiven, hreturned⟩ := hi b hb
  rw [hgiven, hreturned]
  exact ⟨hlent.trans (h.lent i b hb), h.balance i b hb⟩

theorem give (h : Ledger given returned lent items out) (hlength : i < items.length)
    (hout : i ∉ out)
    (hf : ∀ b, lent (f b) ∧ given (f b) = given b + 1 ∧ returned (f b) = returned b) :
    Ledger given returned lent (items.modify i f) (out ++ [i]) := by
  have hnodup : (out ++ [i]).Nodup := by
    rw [List.nodup_append_comm]
    exact List.nodup_cons.mpr ⟨hout, h.nodup⟩
  refine h.modify hnodup (fun j hj => ?_) (fun j hj => by simp [hj]) fun b hb => ?_
  · rcases List.mem_append.mp hj with hj | hj
    · exact h.inside j hj
    · rw [List.mem_singleton.mp hj]
      exact hlength
  · obtain ⟨hlent, hgiven, hreturned⟩ := hf b
    have hbalance := h.balance i b hb
    rw [List.count_eq_zero.mpr hout] at hbalance
    rw [hgiven, hreturned, List.count_append, List.count_eq_zero.mpr hout, List.count_singleton_self]
    exact ⟨⟨fun _ => by simp, fun _ => hlent⟩, by omega⟩

theorem takeBack (h : Ledger given returned lent items out) (hout : i ∈ out)
    (hf : ∀ b, ¬lent (f b) ∧ given (f b) = given b ∧ returned (f b) = returned b + 1) :
    Ledger given returned lent (items.modify i f) (out.erase i) := by
  refine h.modify (h.nodup.erase i) (fun j hj => h.inside j (List.mem_of_mem_erase hj))
    (fun j hj => List.mem_erase_of_ne hj) fun b hb => ?_
  obtain ⟨hlent, hgiven, hreturned⟩ := hf b
  have hbalance := h.balance i b hb
  have hgone : i ∉ out.erase i := h.nodup.not_mem_erase
  rw [List.count_eq_one_of_mem h.nodup hout] at hbalance
  rw [hgiven, hreturned, List.count_eq_zero.mpr hgone]
  exact ⟨⟨fun hl => absurd hl hlent, fun hmem => absurd hmem hgone⟩, by omega⟩

/-- New items, none of them lent. -/
theorem append (h : Ledger given returned lent items out) {more : List β}
    (hmore : ∀ b ∈ more, ¬lent b ∧ given b = returned b) :
    Ledger given returned lent (items ++ more) out where
  nodup := h.nodup
  inside i hi := by
    rw [List.length_append]
    exact Nat.lt_add_right _ (h.inside i hi)
  lent i b hb := by
    by_cases hlt : i < items.length
    · rw [List.getElem?_append_left hlt] at hb
      exact h.lent i b hb
    · rw [List.getElem?_append_right (Nat.le_of_not_lt hlt)] at hb
      exact ⟨fun hl => absurd hl (hmore b (List.mem_of_getElem? hb)).1,
        fun hi => absurd (h.inside i hi) hlt⟩
  balance i b hb := by
    by_cases hlt : i < items.length
    · rw [List.getElem?_append_left hlt] at hb
      exact h.balance i b hb
    · rw [List.getElem?_append_right (Nat.le_of_not_lt hlt)] at hb
      rw [List.count_eq_zero.mpr fun hi => hlt (h.inside i hi)]
      exact (hmore b (List.mem_of_getElem? hb)).2

/-- A ledger with nothing lent, whose items may change as long as none is lent. -/
theorem map_of_nil (h : Ledger given returned lent items [])
    (hf : ∀ b, ¬lent (f b) ∧ given (f b) = given b ∧ returned (f b) = returned b) :
    Ledger given returned lent (items.map f) [] where
  nodup := .nil
  inside _ hi := (List.not_mem_nil hi).elim
  lent i b hb := by
    rw [List.getElem?_map] at hb
    obtain ⟨b', -, rfl⟩ := Option.map_eq_some_iff.mp hb
    exact ⟨fun hl => absurd hl (hf b').1, fun hi => (List.not_mem_nil hi).elim⟩
  balance i b hb := by
    rw [List.getElem?_map] at hb
    obtain ⟨b', hb', rfl⟩ := Option.map_eq_some_iff.mp hb
    rw [(hf b').2.1, (hf b').2.2]
    exact h.balance i b' hb'

theorem nil : Ledger given returned lent [] [] where
  nodup := .nil
  inside _ hi := (List.not_mem_nil hi).elim
  lent _ _ hb := by cases hb
  balance _ _ hb := by cases hb

end Ledger

end Sensorium.Lib

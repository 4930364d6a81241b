import Mathlib.Data.List.Nodup
import Mathlib.Logic.Function.Basic

/-!
# Rasters

A loop over the rows of an area and the cells of a row visits the cells in the order of their
indices, also where a round takes two cells.  A list of stores that names every cell of an area
once leaves each cell with the value that was stored for it.
-/

namespace Sensorium.Lib

open Function

variable {α : Type*} {β : Type*}

/-! ## The order of the cells -/

/-- Two cells a round. -/
theorem flatMap_range_pairs (n : Nat) (f : Nat → α) :
    (List.range n).flatMap (fun k => [f (2 * k), f (2 * k + 1)]) = (List.range (2 * n)).map f := by
  induction n with
  | zero => rfl
  | succ n ih =>
    rw [List.range_succ, List.flatMap_append, ih, Nat.mul_succ, List.range_succ, List.range_succ,
      List.map_append, List.map_append, List.append_assoc]
    rfl

/-- Row after row. -/
theorem flatMap_range_rows (rows width : Nat) (f : Nat → α) :
    (List.range rows).flatMap (fun y => (List.range width).map fun x => f (y * width + x)) =
      (List.range (rows * width)).map f := by
  induction rows with
  | zero => rw [Nat.zero_mul]; rfl
  | succ rows ih =>
    rw [List.range_succ, List.flatMap_append, ih, Nat.succ_mul, List.range_add, List.map_append,
      List.flatMap_singleton, List.map_map]
    rfl

/-! ## Stores -/

/-- The stores of a list, in order. -/
def writeAll (writes : List (Nat × β)) (mem : Nat → β) : Nat → β :=
  writes.foldl (fun mem w => update mem w.1 w.2) mem

theorem writeAll_cons (w : Nat × β) (writes : List (Nat × β)) (mem : Nat → β) :
    writeAll (w :: writes) mem = writeAll writes (update mem w.1 w.2) :=
  rfl

variable {writes : List (Nat × β)} {mem : Nat → β} {i : Nat} {v : β}

theorem writeAll_of_notMem (h : i ∉ writes.map Prod.fst) : writeAll writes mem i = mem i := by
  induction writes generalizing mem with
  | nil => rfl
  | cons w writes ih =>
    rw [List.map_cons, List.mem_cons, not_or] at h
    rw [writeAll_cons, ih h.2, update_of_ne h.1]

/-- Where no cell is stored to twice, every store is there at the end. -/
theorem writeAll_of_mem (hnodup : (writes.map Prod.fst).Nodup) (h : (i, v) ∈ writes) :
    writeAll writes mem i = v := by
  induction writes generalizing mem with
  | nil => cases h
  | cons w writes ih =>
    rw [List.map_cons, List.nodup_cons] at hnodup
    rw [writeAll_cons]
    -- no later store meets the cell of the first one
    rcases List.mem_cons.mp h with rfl | h
    · rw [writeAll_of_notMem hnodup.1, update_self]
    · exact ih hnodup.2 h

/-- A store to each of the first cells. -/
theorem writeAll_range (n : Nat) (f : Nat → β) (mem : Nat → β) (i : Nat) :
    writeAll ((List.range n).map fun i => (i, f i)) mem i = if i < n then f i else mem i := by
  have hcells : ((List.range n).map fun i => (i, f i)).map Prod.fst = List.range n := by
    rw [List.map_map]
    exact List.map_id _
  split
  · rename_i hi
    apply writeAll_of_mem
    · rw [hcells]
      exact List.nodup_range
    · exact List.mem_map.mpr ⟨i, List.mem_range.mpr hi, rfl⟩
  · rename_i hi
    apply writeAll_of_notMem
    rw [hcells, List.mem_range]
    exact hi

end Sensorium.Lib

import Mathlib.Algebra.Order.Ring.Nat
import Mathlib.Data.List.Basic
import Mathlib.Tactic.Common

/-!
# Little-endian records

A fixed-width field is its bytes with the least significant one first, and a record is the
concatenation of its fields.  `readLe` reads a field at an offset, and `unpackTable` reads a table
of records of one size with a running offset.
-/

namespace Sensorium.Lib

/-- The `w` low bytes of `n`. -/
def leBytes : Nat → Nat → List UInt8
  | 0, _ => []
  | w + 1, n => UInt8.ofNat n :: leBytes w (n / 256)

def leNat : List UInt8 → Nat
  | [] => 0
  | b :: bs => b.toNat + 256 * leNat bs

@[simp] theorem length_leBytes (w n : Nat) : (leBytes w n).length = w := by
  induction w generalizing n with
  | zero => rfl
  | succ w ih => rw [leBytes, List.length_cons, ih]

theorem leNat_leBytes {w n : Nat} (h : n < 256 ^ w) : leNat (leBytes w n) = n := by
  induction w generalizing n with
  | zero =>
    rw [leBytes, leNat]
    omega
  | succ w ih =>
    have hdiv : n / 256 < 256 ^ w := by
      rw [pow_succ'] at h
      omega
    rw [leBytes, leNat, ih hdiv, UInt8.toNat_ofNat']
    omega

/-! ## Fields -/

/-- The field of `w` bytes at `offset`. -/
def readLe (bs : List UInt8) (offset w : Nat) : Nat := leNat ((bs.drop offset).take w)

theorem readLe_append {as bs : List UInt8} {offset w : Nat} (h : as.length ≤ offset) :
    readLe (as ++ bs) offset w = readLe bs (offset - as.length) w := by
  unfold readLe
  rw [List.drop_append, List.drop_eq_nil_of_le h, List.nil_append]

theorem readLe_leBytes {w n : Nat} (bs : List UInt8) (h : n < 256 ^ w) :
    readLe (leBytes w n ++ bs) 0 w = n := by
  unfold readLe
  rw [List.drop_zero, List.take_left' (length_leBytes w n), leNat_leBytes h]

/-! ## Tables -/

variable {α β : Type*}

/-- `n` records of `size` bytes from `offset` on. -/
def unpackTable (unpack : List UInt8 → Nat → β) (size : Nat) (bs : List UInt8) :
    Nat → Nat → List β
  | 0, _ => []
  | n + 1, offset => unpack bs offset :: unpackTable unpack size bs n (offset + size)

/-- A table of packed records is read back record by record. -/
theorem unpackTable_flatMap {unpack : List UInt8 → Nat → β} {size : Nat} {pack : α → List UInt8}
    {view : α → β} {l : List α} (hsize : ∀ x ∈ l, (pack x).length = size)
    (hunpack : ∀ x ∈ l, ∀ before after, unpack (before ++ (pack x ++ after)) before.length = view x)
    (before after : List UInt8) :
    unpackTable unpack size (before ++ (l.flatMap pack ++ after)) l.length before.length =
      l.map view := by
  induction l generalizing before with
  | nil => rfl
  | cons x l ih =>
    have hx := hsize x List.mem_cons_self
    have htail := ih (fun y hy => hsize y (List.mem_cons_of_mem x hy))
      (fun y hy => hunpack y (List.mem_cons_of_mem x hy)) (before ++ pack x)
    rw [List.length_append, hx] at htail
    rw [List.flatMap_cons, List.length_cons, unpackTable, List.map_cons, List.append_assoc,
      hunpack x List.mem_cons_self, ← htail, List.append_assoc]

theorem length_flatMap_pack {size : Nat} {pack : α → List UInt8} {l : List α}
    (hsize : ∀ x ∈ l, (pack x).length = size) : (l.flatMap pack).length = size * l.length := by
  induction l with
  | nil => rfl
  | cons x l ih =>
    rw [List.flatMap_cons, List.length_append, hsize x List.mem_cons_self,
      ih fun y hy => hsize y (List.mem_cons_of_mem x hy), List.length_cons, Nat.mul_succ,
      Nat.add_comm]

end Sensorium.Lib

import Mathlib.Data.List.Induction
import Mathlib.Data.Nat.Bitwise
import Sensorium.Lib.Histories

/-!
# Flags of a word

Single bits of 32-bit words, and updates that set some flags and clear others.  The flags that an
update names do not depend on the word it was applied to, so an update that was computed from an
old word may be merged into a newer one.
-/

namespace Sensorium.Lib

/-! ## Bits -/

def flag (x : UInt32) (i : Nat) : Bool := x.toNat.testBit i

@[simp] theorem flag_and (x y : UInt32) (i : Nat) : flag (x &&& y) i = (flag x i && flag y i) := by
  rw [flag, UInt32.toNat_and, Nat.testBit_and]
  rfl

@[simp] theorem flag_or (x y : UInt32) (i : Nat) : flag (x ||| y) i = (flag x i || flag y i) := by
  rw [flag, UInt32.toNat_or, Nat.testBit_or]
  rfl

theorem flag_not (x : UInt32) {i : Nat} (hi : i < 32) : flag (~~~x) i = !flag x i := by
  have hlt : x.toNat < 2 ^ 32 := x.toNat_lt
  have hnot : (~~~x).toNat = 2 ^ 32 - (x.toNat + 1) := by
    rw [UInt32.toNat_not]
    show 2 ^ 32 - 1 - x.toNat = _
    omega
  rw [flag, hnot, Nat.testBit_two_pow_sub_succ hlt, decide_eq_true hi, Bool.true_and]
  rfl

theorem eq_of_flags {x y : UInt32} (h : ∀ i < 32, flag x i = flag y i) : x = y := by
  apply UInt32.toNat_inj.mp
  apply Nat.eq_of_testBit_eq
  intro i
  by_cases hi : i < 32
  · exact h i hi
  · have hpow : 2 ^ 32 ≤ 2 ^ i := Nat.pow_le_pow_right (by decide) (by omega)
    have hx : x.toNat < 2 ^ i := lt_of_lt_of_le x.toNat_lt hpow
    have hy : y.toNat < 2 ^ i := lt_of_lt_of_le y.toNat_lt hpow
    rw [Nat.testBit_lt_two_pow hx, Nat.testBit_lt_two_pow hy]

theorem and_two_pow_ne_zero (n i : Nat) : n &&& 2 ^ i ≠ 0 ↔ n.testBit i = true := by
  rw [Nat.and_two_pow]
  cases n.testBit i <;> simp

/-! ## Updates -/

structure Update where
  set : UInt32
  clear : UInt32
  deriving DecidableEq, Repr

namespace Update

variable (u : Update)

def mask : UInt32 := u.set ||| u.clear

def on (x : UInt32) : UInt32 := (x ||| u.set) &&& ~~~u.clear

/-- The update names a flag, and leaves it raised. -/
def names (i : Nat) : Bool := flag u.mask i

def raises (i : Nat) : Bool := flag u.set i && !flag u.clear i

variable {u}

theorem flag_on (x : UInt32) {i : Nat} (hi : i < 32) :
    flag (u.on x) i = if u.names i then u.raises i else flag x i := by
  simp only [on, names, raises, mask, flag_and, flag_or, flag_not _ hi]
  cases flag u.set i <;> cases flag u.clear i <;> simp

/-- What an update makes of any word may be merged into another word. -/
theorem merge_on (x y : UInt32) : (x &&& ~~~u.mask) ||| (u.on y &&& u.mask) = u.on x := by
  apply eq_of_flags
  intro i hi
  rw [flag_on x hi, flag_or, flag_and, flag_and, flag_not _ hi, flag_on y hi]
  show (flag x i && !u.names i || (if u.names i then u.raises i else flag y i) && u.names i) = _
  cases u.names i <;> simp

theorem flag_masked (y : UInt32) {i : Nat} (hi : i < 32) (hn : u.names i = true) :
    flag (u.on y &&& u.mask) i = u.raises i := by
  have hmask : flag u.mask i = true := hn
  rw [flag_and, flag_on y hi, if_pos hn, hmask, Bool.and_true]

/-- After a history of updates a flag is as the last update that names it leaves it. -/
theorem flag_foldl (us : List Update) (x : UInt32) {i : Nat} (hi : i < 32) :
    flag (us.foldl (fun x u => u.on x) x) i =
      latest (flag x i) (fun u => u.raises i) (us.filter fun u => u.names i) := by
  induction us using List.reverseRecOn with
  | nil => rfl
  | append_singleton us u ih =>
    rw [List.foldl_append, List.foldl_cons, List.foldl_nil, flag_on _ hi, ih,
      latest_filter_concat]

end Update

end Sensorium.Lib

import Mathlib.Data.List.Basic
import Mathlib.Data.UInt

/-!
# Consecutive regions

A memory that is cut into regions one behind the other: each starts where the one before ends.  Then
no byte is in two of them, and every byte up to the end is in one.  The end may be rounded up to a
power of two by clearing the low bits of a word.
-/

namespace Sensorium.Lib

structure Region where
  start : Nat
  size : Nat
  deriving DecidableEq, Repr

namespace Region

def stop (r : Region) : Nat := r.start + r.size

def Has (r : Region) (pos : Nat) : Prop := r.start ≤ pos ∧ pos < r.stop

def Apart (r t : Region) : Prop := ∀ pos, r.Has pos → ¬ t.Has pos

end Region

/-- The regions lie one behind the other, from `start` to `stop`. -/
def Consecutive : Nat → List Region → Nat → Prop
  | start, [], stop => start = stop
  | start, r :: rest, stop => r.start = start ∧ Consecutive r.stop rest stop

instance : (start : Nat) → (regions : List Region) → (stop : Nat) →
    Decidable (Consecutive start regions stop)
  | start, [], stop => inferInstanceAs (Decidable (start = stop))
  | start, r :: rest, stop =>
    have := instDecidableConsecutive r.stop rest stop
    inferInstanceAs (Decidable (r.start = start ∧ Consecutive r.stop rest stop))

namespace Consecutive

variable {start stop : Nat} {regions : List Region}

theorem le (h : Consecutive start regions stop) : start ≤ stop := by
  induction regions generalizing start with
  | nil => exact Nat.le_of_eq h
  | cons r rest ih =>
    obtain ⟨hstart, hrest⟩ := h
    have := ih hrest
    unfold Region.stop at this
    omega

theorem within (h : Consecutive start regions stop) {r : Region} (hr : r ∈ regions) :
    start ≤ r.start ∧ r.stop ≤ stop := by
  induction regions generalizing start with
  | nil => cases hr
  | cons first rest ih =>
    obtain ⟨hstart, hrest⟩ := h
    rcases List.mem_cons.mp hr with rfl | hr
    · exact ⟨Nat.le_of_eq hstart.symm, hrest.le⟩
    · obtain ⟨hle, hstop⟩ := ih hrest hr
      unfold Region.stop at hle
      exact ⟨by omega, hstop⟩

theorem pairwise_apart (h : Consecutive start regions stop) : regions.Pairwise Region.Apart := by
  induction regions generalizing start with
  | nil => exact .nil
  | cons r rest ih =>
    obtain ⟨-, hrest⟩ := h
    refine .cons (fun t ht pos hr hpos => ?_) (ih hrest)
    have hlater := (hrest.within ht).1
    exact absurd hr.2 (Nat.not_lt.mpr (hlater.trans hpos.1))

theorem covers (h : Consecutive start regions stop) {pos : Nat} (hstart : start ≤ pos)
    (hstop : pos < stop) : ∃ r ∈ regions, r.Has pos := by
  induction regions generalizing start with
  | nil =>
    have hempty : start = stop := h
    omega
  | cons r rest ih =>
    obtain ⟨hfirst, hrest⟩ := h
    by_cases hpos : pos < r.stop
    · exact ⟨r, List.mem_cons_self, by rw [hfirst]; exact hstart, hpos⟩
    · obtain ⟨t, ht, hhas⟩ := ih hrest (Nat.le_of_not_lt hpos)
      exact ⟨t, List.mem_cons_of_mem r ht, hhas⟩

end Consecutive

/-! ## Rounding up -/

/-- `(x + (a - 1)) & ~(a - 1)` for the power of two `a`. -/
def alignUp (shift : Nat) (x : UInt32) : UInt32 :=
  let mask := UInt32.ofNat (2 ^ shift - 1)
  (x + mask) &&& ~~~mask

/-- A mask and its complement split a word. -/
theorem toNat_and_add_and_not (x mask : UInt32) :
    (x &&& mask).toNat + (x &&& ~~~mask).toNat = x.toNat := by
  have hapart : x.toBitVec &&& mask.toBitVec &&& (x.toBitVec &&& ~~~mask.toBitVec) = 0 := by
    ext i
    simp only [BitVec.getElem_and, BitVec.getElem_not]
    cases x.toBitVec[i] <;> cases mask.toBitVec[i] <;> simp
  have hjoin : x.toBitVec &&& mask.toBitVec ||| x.toBitVec &&& ~~~mask.toBitVec = x.toBitVec := by
    ext i
    simp only [BitVec.getElem_or, BitVec.getElem_and, BitVec.getElem_not]
    cases x.toBitVec[i] <;> cases mask.toBitVec[i] <;> decide
  have hsum := BitVec.toNat_add_of_and_eq_zero hapart
  rw [BitVec.add_eq_or_of_and_eq_zero _ _ hapart, hjoin] at hsum
  exact hsum.symm

theorem toNat_and_not_of_pow (x : UInt32) {shift : Nat} (hshift : shift < 32) :
    (x &&& ~~~UInt32.ofNat (2 ^ shift - 1)).toNat = x.toNat - x.toNat % 2 ^ shift := by
  have hpow : 2 ^ shift < 2 ^ 32 := Nat.pow_lt_pow_right (by decide) hshift
  have hmask : (UInt32.ofNat (2 ^ shift - 1)).toNat = 2 ^ shift - 1 := by
    rw [UInt32.toNat_ofNat']
    exact Nat.mod_eq_of_lt (by omega)
  have hlow : (x &&& UInt32.ofNat (2 ^ shift - 1)).toNat = x.toNat % 2 ^ shift := by
    rw [UInt32.toNat_and, hmask, Nat.and_two_pow_sub_one_eq_mod]
  have hsplit := toNat_and_add_and_not x (UInt32.ofNat (2 ^ shift - 1))
  omega

/-- Where nothing overflows, the next multiple. -/
theorem alignUp_spec {shift : Nat} {x : UInt32} (hshift : shift < 32)
    (hfits : x.toNat + 2 ^ shift ≤ 2 ^ 32) :
    x.toNat ≤ (alignUp shift x).toNat ∧ (alignUp shift x).toNat < x.toNat + 2 ^ shift ∧
      2 ^ shift ∣ (alignUp shift x).toNat := by
  have hpos : 0 < 2 ^ shift := Nat.two_pow_pos shift
  have hpow : 2 ^ shift < 2 ^ 32 := Nat.pow_lt_pow_right (by decide) hshift
  have hsum : (x + UInt32.ofNat (2 ^ shift - 1)).toNat = x.toNat + (2 ^ shift - 1) := by
    rw [UInt32.toNat_add, UInt32.toNat_ofNat', Nat.mod_eq_of_lt (by omega : 2 ^ shift - 1 < 2 ^ 32)]
    exact Nat.mod_eq_of_lt (by omega)
  have hround : (alignUp shift x).toNat =
      x.toNat + (2 ^ shift - 1) - (x.toNat + (2 ^ shift - 1)) % 2 ^ shift := by
    rw [alignUp, toNat_and_not_of_pow _ hshift, hsum]
  have hlow := Nat.mod_lt (x.toNat + (2 ^ shift - 1)) hpos
  rw [hround]
  exact ⟨by omega, by omega, Nat.dvd_sub_mod _⟩

end Sensorium.Lib

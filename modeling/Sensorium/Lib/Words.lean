import Mathlib.Algebra.Group.Nat.Defs
import Mathlib.Tactic.Common

/-!
# Fixed-width unsigned words

Unsigned machine words are natural numbers reduced at every store.  Wrap-around of C unsigned
arithmetic is the explicit `% 2 ^ w` of these two functions.
-/

namespace Sensorium.Lib

def u32 (n : Nat) : Nat := n % 2 ^ 32

def u64 (n : Nat) : Nat := n % 2 ^ 64

theorem u32_lt (n : Nat) : u32 n < 2 ^ 32 := Nat.mod_lt _ (by decide)

theorem u32_of_lt {n : Nat} (h : n < 2 ^ 32) : u32 n = n := Nat.mod_eq_of_lt h

theorem u64_of_lt {n : Nat} (h : n < 2 ^ 64) : u64 n = n := Nat.mod_eq_of_lt h

/-- Subtraction of `u32` operands. -/
def u32Sub (a b : Nat) : Nat := u32 (a + 2 ^ 32 - b)

theorem u32Sub_of_le {a b : Nat} (ha : a < 2 ^ 32) (h : b ≤ a) : u32Sub a b = a - b := by
  unfold u32Sub u32
  omega

theorem u32Sub_of_lt {a b : Nat} (hb : b < 2 ^ 32) (h : a < b) :
    u32Sub a b = a + 2 ^ 32 - b := by
  unfold u32Sub u32
  omega

end Sensorium.Lib

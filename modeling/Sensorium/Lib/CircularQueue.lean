import Sensorium.Lib.Windows

/-!
# A queue in a circular zone

The cells between `head` and `tail` hold the elements, oldest first.  A caller copies elements in
and out in windows that stop at the end of the zone; what crosses the end takes two of them.
-/

namespace Sensorium.Lib

structure CircularQueue (β : Type*) where
  capacity : Nat
  cells : Nat → β
  head : Nat
  tail : Nat
  count : Nat

namespace CircularQueue

variable {β : Type*} (q : CircularQueue β)

/-- The elements, oldest first. -/
def contents : List β := readSpan q.cells q.capacity q.head q.count

structure Ring : Prop where
  head_lt : q.head < q.capacity
  count_le : q.count ≤ q.capacity
  tail_eq : q.tail = (q.head + q.count) % q.capacity

/-- Copy elements into the cells at the tail. -/
def push (xs : List β) : CircularQueue β :=
  { q with
    cells := writeWindow q.cells q.capacity q.tail xs
    tail := (q.tail + xs.length) % q.capacity
    count := q.count + xs.length }

/-- The cells at the head. -/
def front (n : Nat) : List β := readWindow q.cells q.capacity q.head n

def pop (n : Nat) : CircularQueue β :=
  { q with
    head := (q.head + n) % q.capacity
    count := q.count - n }

@[simp] theorem push_capacity (xs : List β) : (q.push xs).capacity = q.capacity := rfl
@[simp] theorem push_count (xs : List β) : (q.push xs).count = q.count + xs.length := rfl
@[simp] theorem pop_capacity (n : Nat) : (q.pop n).capacity = q.capacity := rfl
@[simp] theorem pop_count (n : Nat) : (q.pop n).count = q.count - n := rfl

@[simp] theorem contents_length : q.contents.length = q.count := readSpan_length _ _ _ _

variable {q}

theorem Ring.tail_lt (h : q.Ring) : q.tail < q.capacity := by
  have hcap := Nat.zero_lt_of_lt h.head_lt
  rw [h.tail_eq]
  exact Nat.mod_lt _ hcap

/-- A copy that neither overtakes the head nor crosses the end appends its elements. -/
theorem Ring.push (h : q.Ring) {xs : List β} (hroom : q.count + xs.length ≤ q.capacity)
    (hend : q.tail + xs.length ≤ q.capacity) :
    (q.push xs).Ring ∧ (q.push xs).contents = q.contents ++ xs := by
  have htail : (q.tail + xs.length) % q.capacity =
      (q.head + (q.count + xs.length)) % q.capacity := by
    rw [h.tail_eq, Nat.mod_add_mod, Nat.add_assoc]
  refine ⟨⟨h.head_lt, hroom, htail⟩, ?_⟩
  have hspan : readSpan (writeSpan q.cells q.capacity (q.head + q.count) xs) q.capacity q.head
      (q.count + xs.length) = readSpan q.cells q.capacity q.head q.count ++ xs :=
    readSpan_writeSpan q.cells (Nat.zero_lt_of_lt h.head_lt) hroom
  rw [← writeSpan_mod, ← h.tail_eq, writeSpan_of_inside h.tail_lt hend] at hspan
  exact hspan

theorem Ring.front (h : q.Ring) {n : Nat} (hn : n ≤ q.count) (hend : q.head + n ≤ q.capacity) :
    q.front n = q.contents.take n := by
  have hcount := h.count_le
  show readWindow q.cells q.capacity q.head n = (readSpan q.cells q.capacity q.head q.count).take n
  rw [readSpan_take _ _ _ hn, readSpan_eq_windows q.cells h.head_lt (by omega),
    Nat.min_eq_left (by omega), Nat.sub_self]
  exact (List.append_nil _).symm

theorem Ring.pop (h : q.Ring) {n : Nat} (hn : n ≤ q.count) :
    (q.pop n).Ring ∧ (q.pop n).contents = q.contents.drop n := by
  have hcount := h.count_le
  have htail : q.tail = ((q.head + n) % q.capacity + (q.count - n)) % q.capacity := by
    rw [h.tail_eq, Nat.mod_add_mod, show q.head + n + (q.count - n) = q.head + q.count by omega]
  refine ⟨⟨Nat.mod_lt _ (Nat.zero_lt_of_lt h.head_lt), ?_, htail⟩, ?_⟩
  · rw [pop_count, pop_capacity]
    omega
  · show readSpan q.cells q.capacity ((q.head + n) % q.capacity) (q.count - n) = _
    rw [readSpan_mod, ← readSpan_drop _ _ _ hn]
    rfl

end CircularQueue

end Sensorium.Lib

import Mathlib.Data.Nat.ModEq

/-!
# Windows in a circular zone

A zone of `z` cells is addressed by absolute offsets, reduced modulo `z`.  A window is an absolute
offset and a length that does not cross the end of the zone.  Windows whose absolute spans are
ordered inside one zone length share no cell.  A span may cross the end; it is read and written as
two windows.
-/

namespace Sensorium.Lib

variable {β : Type*}

/-- Read a window of `len` cells. -/
def readWindow (zone : Nat → β) (z off len : Nat) : List β :=
  (List.range len).map fun j => zone (off % z + j)

/-- Overwrite a window with `bytes`. -/
def writeWindow (zone : Nat → β) (z off : Nat) (bytes : List β) : Nat → β :=
  fun i => if off % z ≤ i then (bytes[i - off % z]?).getD (zone i) else zone i

/-- The cells of a window. -/
def InWindow (z off len i : Nat) : Prop := off % z ≤ i ∧ i < off % z + len

@[simp] theorem readWindow_length (zone : Nat → β) (z off len : Nat) :
    (readWindow zone z off len).length = len := by
  simp [readWindow]

theorem readWindow_congr {zone zone' : Nat → β} {z off len : Nat}
    (h : ∀ i, InWindow z off len i → zone i = zone' i) :
    readWindow zone z off len = readWindow zone' z off len := by
  apply List.map_congr_left
  intro j hj
  have hlt : j < len := List.mem_range.mp hj
  exact h _ ⟨by omega, by omega⟩

theorem writeWindow_of_not_mem {zone : Nat → β} {z off i : Nat} {bytes : List β}
    (h : ¬ InWindow z off bytes.length i) : writeWindow zone z off bytes i = zone i := by
  unfold writeWindow
  split
  · rename_i hle
    rw [List.getElem?_eq_none (by unfold InWindow at h; omega)]
    rfl
  · rfl

/-- Reading back the window just written. -/
theorem readWindow_writeWindow (zone : Nat → β) (z off : Nat) (bytes : List β) :
    readWindow (writeWindow zone z off bytes) z off bytes.length = bytes := by
  apply List.ext_getElem
  · simp
  · intro j hj hj'
    simp [readWindow, writeWindow, List.getElem?_eq_getElem hj']

/-- Absolute positions less than one zone length apart have different cells. -/
theorem eq_of_mod_eq_of_span {z lo a b : Nat} (ha : lo ≤ a) (ha' : a < lo + z) (hb : lo ≤ b)
    (hb' : b < lo + z) (h : a % z = b % z) : a = b := by
  wlog hab : a ≤ b generalizing a b
  · exact (this hb hb' ha ha' h.symm (by omega)).symm
  have hdvd : z ∣ b - a := (Nat.modEq_iff_dvd' hab).mp h
  rcases Nat.eq_zero_or_pos (b - a) with hz | hpos
  · omega
  · have := Nat.le_of_dvd hpos hdvd
    omega

/-- Cells of a window that does not cross the end of the zone. -/
theorem mod_add_of_inside {z off len j : Nat} (hin : off % z + len ≤ z) (hj : j < len) :
    (off + j) % z = off % z + j := by
  rw [Nat.add_mod, Nat.mod_eq_of_lt (show j < z by omega), Nat.mod_eq_of_lt (by omega)]

/-- Two ordered windows inside one zone length share no cell. -/
theorem windows_disjoint {z lo o₁ l₁ o₂ l₂ i : Nat} (hlo : lo ≤ o₁) (hord : o₁ + l₁ ≤ o₂)
    (hspan : o₂ + l₂ ≤ lo + z) (hin₁ : o₁ % z + l₁ ≤ z) (hin₂ : o₂ % z + l₂ ≤ z)
    (h₁ : InWindow z o₁ l₁ i) : ¬ InWindow z o₂ l₂ i := by
  intro h₂
  obtain ⟨hl₁, hr₁⟩ := h₁
  obtain ⟨hl₂, hr₂⟩ := h₂
  have hm₁ := mod_add_of_inside (j := i - o₁ % z) hin₁ (by omega)
  have hm₂ := mod_add_of_inside (j := i - o₂ % z) hin₂ (by omega)
  have hlo₁ : lo ≤ o₁ + (i - o₁ % z) := by omega
  have heq := eq_of_mod_eq_of_span (z := z) (b := o₂ + (i - o₂ % z)) hlo₁ (by omega) (by omega)
    (by omega) (by omega)
  omega

/-! ## Spans -/

/-- Read `len` cells from an absolute offset on, around the end of the zone. -/
def readSpan (zone : Nat → β) (z off len : Nat) : List β :=
  (List.range len).map fun j => zone ((off + j) % z)

/-- Overwrite a span with `bytes`, in two windows where it crosses the end. -/
def writeSpan (zone : Nat → β) (z off : Nat) (bytes : List β) : Nat → β :=
  let first := min bytes.length (z - off % z)
  writeWindow (writeWindow zone z off (bytes.take first)) z 0 (bytes.drop first)

@[simp] theorem readSpan_length (zone : Nat → β) (z off len : Nat) :
    (readSpan zone z off len).length = len := by
  simp [readSpan]

@[simp] theorem readSpan_zero (zone : Nat → β) (z off : Nat) : readSpan zone z off 0 = [] := rfl

theorem readSpan_mod (zone : Nat → β) (z off len : Nat) :
    readSpan zone z (off % z) len = readSpan zone z off len := by
  simp [readSpan]

theorem readSpan_append (zone : Nat → β) (z off n m : Nat) :
    readSpan zone z off (n + m) = readSpan zone z off n ++ readSpan zone z (off + n) m := by
  simp only [readSpan, List.range_add, List.map_append, List.map_map]
  congr 1
  apply List.map_congr_left
  intro j _
  rw [Function.comp_apply, Nat.add_assoc]

theorem readSpan_take (zone : Nat → β) (z off : Nat) {k n : Nat} (h : k ≤ n) :
    (readSpan zone z off n).take k = readSpan zone z off k := by
  obtain ⟨m, rfl⟩ := Nat.exists_eq_add_of_le h
  rw [readSpan_append, List.take_left' (readSpan_length zone z off k)]

theorem readSpan_drop (zone : Nat → β) (z off : Nat) {k n : Nat} (h : k ≤ n) :
    (readSpan zone z off n).drop k = readSpan zone z (off + k) (n - k) := by
  obtain ⟨m, rfl⟩ := Nat.exists_eq_add_of_le h
  rw [readSpan_append, List.drop_left' (readSpan_length zone z off k), Nat.add_sub_cancel_left]

theorem readSpan_congr {zone zone' : Nat → β} {z off len : Nat}
    (h : ∀ j < len, zone ((off + j) % z) = zone' ((off + j) % z)) :
    readSpan zone z off len = readSpan zone' z off len := by
  apply List.map_congr_left
  intro j hj
  exact h j (List.mem_range.mp hj)

/-- A span is the window up to the end of the zone and the window from its start. -/
theorem readSpan_eq_windows (zone : Nat → β) {z off len : Nat} (hoff : off < z) (hlen : len ≤ z) :
    readSpan zone z off len = readWindow zone z off (min len (z - off)) ++
      readWindow zone z 0 (len - min len (z - off)) := by
  have hsplit : len = min len (z - off) + (len - min len (z - off)) := by omega
  conv_lhs => rw [hsplit, readSpan_append]
  congr 1
  · apply List.map_congr_left
    intro j hj
    have hlt := List.mem_range.mp hj
    rw [Nat.mod_eq_of_lt hoff, Nat.mod_eq_of_lt (by omega)]
  · apply List.map_congr_left
    intro j hj
    have hlt := List.mem_range.mp hj
    rw [Nat.zero_mod, Nat.zero_add, show off + min len (z - off) + j = z + j by omega,
      Nat.add_mod_left, Nat.mod_eq_of_lt (by omega)]

theorem writeWindow_get {zone : Nat → β} {z off j : Nat} {bytes : List β} (hj : j < bytes.length) :
    writeWindow zone z off bytes (off % z + j) = bytes[j] := by
  simp [writeWindow, List.getElem?_eq_getElem hj]

/-- The cells of a span that has been written. -/
theorem writeSpan_get (zone : Nat → β) {z off j : Nat} {bytes : List β} (hz : 0 < z)
    (hlen : bytes.length ≤ z) (hj : j < bytes.length) :
    writeSpan zone z off bytes ((off + j) % z) = bytes[j] := by
  have hoff := Nat.mod_lt off hz
  unfold writeSpan
  by_cases hfirst : j < min bytes.length (z - off % z)
  · have hcell : (off + j) % z = off % z + j := by
      rw [Nat.add_mod, Nat.mod_eq_of_lt (show j < z by omega), Nat.mod_eq_of_lt (by omega)]
    rw [writeWindow_of_not_mem, hcell, writeWindow_get (by simp; omega), List.getElem_take]
    -- The second window ends before the first starts.
    unfold InWindow
    rw [hcell, List.length_drop, Nat.zero_mod]
    omega
  · have hcell : (off + j) % z = 0 % z + (j - min bytes.length (z - off % z)) := by
      rw [Nat.add_mod, Nat.mod_eq_of_lt (show j < z by omega), Nat.zero_mod,
        show off % z + j = z + (j - min bytes.length (z - off % z)) by omega, Nat.add_mod_left,
        Nat.mod_eq_of_lt (by omega), Nat.zero_add]
    rw [hcell, writeWindow_get (by simp; omega), List.getElem_drop]
    congr 1
    omega

theorem writeSpan_of_not_mem {zone : Nat → β} {z off i : Nat} {bytes : List β} (hz : 0 < z)
    (hlen : bytes.length ≤ z) (h : ∀ j < bytes.length, i ≠ (off + j) % z) :
    writeSpan zone z off bytes i = zone i := by
  have hoff := Nat.mod_lt off hz
  unfold writeSpan
  rw [writeWindow_of_not_mem, writeWindow_of_not_mem]
  · rintro ⟨hl, hr⟩
    rw [List.length_take] at hr
    refine h (i - off % z) (by omega) ?_
    rw [Nat.add_mod, Nat.mod_eq_of_lt (show i - off % z < z by omega), Nat.mod_eq_of_lt (by omega)]
    omega
  · rintro ⟨hl, hr⟩
    rw [List.length_drop, Nat.zero_mod] at hr
    refine h (i + (z - off % z)) (by omega) ?_
    rw [Nat.add_mod, Nat.mod_eq_of_lt (show i + (z - off % z) < z by omega),
      show off % z + (i + (z - off % z)) = z + i by omega, Nat.add_mod_left,
      Nat.mod_eq_of_lt (by omega)]

/-- Writing behind a span extends what is read from it. -/
theorem readSpan_writeSpan (zone : Nat → β) {z off n : Nat} {bytes : List β} (hz : 0 < z)
    (hroom : n + bytes.length ≤ z) :
    readSpan (writeSpan zone z (off + n) bytes) z off (n + bytes.length) =
      readSpan zone z off n ++ bytes := by
  rw [readSpan_append]
  congr 1
  · apply readSpan_congr
    intro j hj
    apply writeSpan_of_not_mem hz (by omega)
    intro i hi heq
    have := eq_of_mod_eq_of_span (z := z) (show off ≤ off + j by omega) (by omega) (by omega)
      (by omega) heq
    omega
  · apply List.ext_getElem
    · simp
    · intro j hj hj'
      simp only [readSpan, List.getElem_map, List.getElem_range]
      exact writeSpan_get zone hz (by omega) hj'

theorem writeSpan_mod (zone : Nat → β) (z off : Nat) (bytes : List β) :
    writeSpan zone z (off % z) bytes = writeSpan zone z off bytes := by
  unfold writeSpan writeWindow
  simp

/-- A span that does not cross the end is one window. -/
theorem writeSpan_of_inside {zone : Nat → β} {z off : Nat} {bytes : List β} (hoff : off < z)
    (hend : off + bytes.length ≤ z) :
    writeSpan zone z off bytes = writeWindow zone z off bytes := by
  have hfirst : min bytes.length (z - off % z) = bytes.length := by
    rw [Nat.mod_eq_of_lt hoff]
    omega
  unfold writeSpan
  simp only [hfirst, List.take_length, List.drop_length]
  funext i
  apply writeWindow_of_not_mem
  unfold InWindow
  rw [List.length_nil]
  omega

end Sensorium.Lib

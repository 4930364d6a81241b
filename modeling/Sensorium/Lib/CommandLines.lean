import Mathlib.Data.List.Infix
import Sensorium.Lib.Dict
import Sensorium.Lib.Text

/-!
# Command lines

A line is split into words at separators, and an argument assigns a value to a name.  Numbers in
arguments are read with the base that their marker says.
-/

namespace Sensorium.Lib

/-! ## Words -/

section Words

variable {α : Type*} {sep : α → Bool}

/-- The words between separators; there are no empty words. -/
def words (sep : α → Bool) (line : List α) : List (List α) :=
  (line.splitOnP sep).filter fun w => !w.isEmpty

/-- A text that words can be put together from. -/
def IsWord (sep : α → Bool) (w : List α) : Prop := w ≠ [] ∧ ∀ c ∈ w, sep c = false

theorem words_of_isWord {w : List α} (h : IsWord sep w) : words sep w = [w] := by
  have hsplit : w.splitOnP sep = [w] := List.splitOnP_eq_singleton h.2
  simp [words, hsplit, h.1]

theorem words_append_cons {w : List α} (h : IsWord sep w) {s : α} (hs : sep s = true)
    (rest : List α) : words sep (w ++ s :: rest) = w :: words sep rest := by
  have hsplit := List.splitOnP_append_cons_of_forall_mem h.2 s hs rest
  simp [words, hsplit, h.1]

/-- Words with a separator between them. -/
def joinWords (s : α) (ws : List (List α)) : List α := [s].intercalate ws

theorem joinWords_cons_cons (s : α) (w v : List α) (ws : List (List α)) :
    joinWords s (w :: v :: ws) = w ++ s :: joinWords s (v :: ws) := by
  simp [joinWords, List.intercalate]

theorem joinWords_singleton (s : α) (w : List α) : joinWords s [w] = w := by
  simp [joinWords, List.intercalate]

theorem joinWords_concat (s : α) {ws : List (List α)} (hws : ws ≠ []) (w : List α) :
    joinWords s (ws ++ [w]) = joinWords s ws ++ s :: w := by
  induction ws with
  | nil => exact absurd rfl hws
  | cons v ws ih =>
    cases ws with
    | nil => rw [List.cons_append, List.nil_append, joinWords_cons_cons, joinWords_singleton,
        joinWords_singleton]
    | cons u ws =>
      have hrest := ih (List.cons_ne_nil u ws)
      rw [List.cons_append] at hrest
      rw [List.cons_append, List.cons_append, joinWords_cons_cons, hrest, joinWords_cons_cons]
      simp

theorem joinWords_eq_nil {s : α} {ws : List (List α)} (h : ∀ w ∈ ws, w ≠ []) :
    joinWords s ws = [] ↔ ws = [] := by
  constructor
  · intro hjoin
    cases ws with
    | nil => rfl
    | cons w ws =>
      cases ws with
      | nil =>
        rw [joinWords_singleton] at hjoin
        exact absurd hjoin (h w List.mem_cons_self)
      | cons v ws =>
        rw [joinWords_cons_cons] at hjoin
        simp at hjoin
  · rintro rfl
    rfl

/-- Joined words come apart again. -/
theorem words_joinWords {s : α} (hs : sep s = true) {ws : List (List α)}
    (h : ∀ w ∈ ws, IsWord sep w) : words sep (joinWords s ws) = ws := by
  induction ws with
  | nil => rfl
  | cons w ws ih =>
    have hw := h w List.mem_cons_self
    cases ws with
    | nil =>
      rw [joinWords_singleton]
      exact words_of_isWord hw
    | cons v ws =>
      rw [joinWords_cons_cons, words_append_cons hw hs,
        ih fun u hu => h u (List.mem_cons_of_mem w hu)]

end Words

/-- White space that no word has is not at the ends of a joined line. -/
theorem strip_joinWords {s : Nat} {ws : List Text} (h : ∀ w ∈ ws, IsWord isSpace w) :
    strip (joinWords s ws) = joinWords s ws := by
  have hfront : (joinWords s ws).dropWhile isSpace = joinWords s ws := by
    cases ws with
    | nil => rfl
    | cons w ws =>
      obtain ⟨hne, hspace⟩ := h w List.mem_cons_self
      obtain ⟨c, cs, rfl⟩ := List.exists_cons_of_ne_nil hne
      have hc := hspace c List.mem_cons_self
      have hcons : ∃ rest, joinWords s ((c :: cs) :: ws) = c :: rest := by
        cases ws with
        | nil => exact ⟨cs, joinWords_singleton s _⟩
        | cons v ws => exact ⟨_, joinWords_cons_cons s _ v ws⟩
      obtain ⟨rest, hrest⟩ := hcons
      rw [hrest, List.dropWhile_cons, hc, if_neg Bool.false_ne_true]
  have hback : (joinWords s ws).rdropWhile isSpace = joinWords s ws := by
    rcases List.eq_nil_or_concat ws with rfl | ⟨ws, w, rfl⟩
    · rfl
    · obtain ⟨hne, hspace⟩ := h w (by simp)
      obtain ⟨cs, c, rfl⟩ := List.eq_nil_or_concat w |>.resolve_left hne
      have hc := hspace c (by simp)
      have hconcat : ∃ rest, joinWords s (ws ++ [cs ++ [c]]) = rest ++ [c] := by
        by_cases hws : ws = []
        · subst hws
          exact ⟨cs, joinWords_singleton s _⟩
        · exact ⟨joinWords s ws ++ s :: cs, by rw [joinWords_concat s hws]; simp⟩
      obtain ⟨rest, hrest⟩ := hconcat
      simp only [List.concat_eq_append] at hrest ⊢
      rw [hrest, List.rdropWhile_concat_neg]
      simp [hc]
  rw [strip, hfront, hback]

/-! ## Assignments -/

/-- `name=value`. -/
def assignment (name value : Text) : Text := name ++ 61 :: value

/-- The value that the last assignment to a name gives it. -/
def assigned (ws : List Text) (name : Text) : Option Text :=
  ws.foldl (fun value w => if (name ++ [61]).isPrefixOf w then some (w.drop (name.length + 1))
    else value) none

theorem takeWhile_assignment {name : Text} (h : 61 ∉ name) (value : Text) :
    (assignment name value).takeWhile (· ≠ 61) = name := by
  have hall : ∀ c ∈ name, decide (c ≠ 61) = true := by
    intro c hc
    apply decide_eq_true
    rintro rfl
    exact h hc
  rw [assignment, List.takeWhile_append_of_pos hall]
  simp

theorem isPrefixOf_assignment {name other : Text} (hname : 61 ∉ name) (hother : 61 ∉ other)
    (value : Text) :
    (name ++ [61]).isPrefixOf (assignment other value) = decide (name = other) := by
  rw [Bool.eq_iff_iff, List.isPrefixOf_iff_prefix, decide_eq_true_eq]
  constructor
  · rintro ⟨rest, hrest⟩
    -- up to the first sign both are a name
    have hsame : assignment name rest = assignment other value := by simpa [assignment] using hrest
    have htake := congrArg (List.takeWhile (· ≠ 61)) hsame
    rwa [takeWhile_assignment hname, takeWhile_assignment hother] at htake
  · rintro rfl
    exact ⟨value, by simp [assignment]⟩

/-- Of assignments to different names each is found. -/
theorem assigned_assignments {ps : List (Text × Text)} (hps : (keys ps).Nodup)
    (hnames : ∀ name ∈ keys ps, 61 ∉ name) {name : Text} (hname : 61 ∉ name) :
    assigned (ps.map fun p => assignment p.1 p.2) name = dictGet ps name := by
  suffices h : ∀ value : Option Text,
      (ps.map fun p => assignment p.1 p.2).foldl (fun value w =>
        if (name ++ [61]).isPrefixOf w then some (w.drop (name.length + 1)) else value) value =
      (dictGet ps name).or value from by
    rw [assigned, h, Option.or_none]
  induction ps with
  | nil => exact fun value => rfl
  | cons p ps ih =>
    intro value
    obtain ⟨hnew, hnodup⟩ := List.nodup_cons.mp hps
    rw [List.map_cons, List.foldl_cons, ih hnodup fun n hn => hnames n (List.mem_cons_of_mem _ hn),
      isPrefixOf_assignment hname (hnames p.1 List.mem_cons_self), dictGet]
    by_cases hp : name = p.1
    · have hdrop : (assignment p.1 p.2).drop (p.1.length + 1) = p.2 := by simp [assignment]
      cases hget : dictGet ps name with
      | none => simp [hp, hdrop]
      | some v => exact absurd (hp ▸ List.mem_map.mpr ⟨_, mem_of_dictGet hget, rfl⟩) hnew
    · simp [hp, Ne.symm hp]

/-! ## Numbers -/

/-- The decimal spelling of an integer. -/
def signed (n : Int) : Text := if n < 0 then 45 :: decimal n.natAbs else decimal n.natAbs

def digitsOf? (base : Nat) (cs : Text) : Option Nat :=
  if cs = [] then none
  else cs.foldlM (fun acc c => (digitOf? base c).map fun d => base * acc + d) 0

/-- A magnitude as C spells it: `0x` marks base 16, and another zero in front base 8. -/
def cMagnitude? : Text → Option Nat
  | 48 :: c :: cs => if c = 120 || c = 88 then digitsOf? 16 cs else digitsOf? 8 (c :: cs)
  | cs => digitsOf? 10 cs

/-- A magnitude behind an optional sign. -/
def signedBy (magnitude : Text → Option Nat) : Text → Option Int
  | 43 :: cs => (magnitude cs).map Int.ofNat
  | 45 :: cs => (magnitude cs).map fun n => -Int.ofNat n
  | cs => (magnitude cs).map Int.ofNat

def cInteger? : Text → Option Int := signedBy cMagnitude?

theorem decimal_zero : decimal 0 = [48] := by
  rw [decimal, Nat.toDigits_zero]
  rfl

/-- A number above zero starts with no zero. -/
theorem head?_decimal {n : Nat} (hn : 0 < n) : (decimal n).head? ≠ some 48 := by
  induction n using Nat.strong_induction_on with
  | h n ih =>
    by_cases hlt : n < 10
    · have hchar : ∀ d < 10, 0 < d → d.digitChar.toNat ≠ 48 := by decide
      rw [decimal, Nat.toDigits_of_lt_base hlt]
      simpa using hchar n hlt hn
    · have hge : 10 ≤ n := by omega
      have hrest := ih (n / 10) (by omega) (by omega)
      have hne := decimal_ne_nil (n / 10)
      have hsplit : decimal n = decimal (n / 10) ++ [(n % 10).digitChar.toNat] := by
        simp [decimal, Nat.toDigits_of_base_le (by omega) hge]
      rw [hsplit, List.head?_append_of_ne_nil _ hne]
      exact hrest

theorem decimal_cases (n : Nat) :
    decimal n = [48] ∨ ∃ c cs, decimal n = c :: cs ∧ c ≠ 48 ∧ c ≠ 43 ∧ c ≠ 45 := by
  by_cases hn : n = 0
  · rw [hn]
    exact .inl decimal_zero
  · have hhead := head?_decimal (Nat.pos_of_ne_zero hn)
    have hdigit : ∀ c ∈ decimal n, isDigit c = true := fun c hc => isDigit_of_mem_decimal hc
    cases hd : decimal n with
    | nil => exact absurd hd (decimal_ne_nil n)
    | cons c cs =>
      rw [hd] at hhead hdigit
      have hc := hdigit c List.mem_cons_self
      simp only [isDigit, Bool.and_eq_true, decide_eq_true_eq] at hc
      exact .inr ⟨c, cs, rfl, fun heq => hhead (congrArg some heq), by omega, by omega⟩

theorem decimalLiteral?_of_length {n : Nat} (h : (decimal n).length ≤ 4300) :
    decimalLiteral? (decimal n) = some n := by
  have hdigit : ∀ c ∈ decimal n, isDigit c = true := fun c hc => isDigit_of_mem_decimal hc
  have hfilter : (decimal n).filter (· ≠ 95) = decimal n := by
    apply List.filter_eq_self.mpr
    intro c hc
    apply decide_eq_true
    rintro rfl
    exact absurd (hdigit 95 hc) (by decide)
  unfold decimalLiteral?
  rw [hfilter, if_neg (by omega)]
  have hvalue := decimalValue_decimal n
  cases hd : decimal n with
  | nil => exact absurd hd (decimal_ne_nil n)
  | cons c cs =>
    rw [hd] at hdigit hvalue
    have hc : c ≠ 95 := by
      rintro rfl
      exact absurd (hdigit 95 List.mem_cons_self) (by decide)
    have hstart : digitsValue? 10 false 0 (c :: cs) = digitsValue? 10 true 0 (c :: cs) := by
      rw [digitsValue?, digitsValue?, if_neg hc, if_neg hc]
    rw [hstart, digitsValue?_true hdigit]
    exact congrArg some hvalue

/-- Every character of a number is ASCII, and no white space. -/
theorem signed_ascii {n : Int} {c : Nat} (hc : c ∈ signed n) :
    c < 128 ∧ isAsciiSpace c = false := by
  have hdigit : ∀ d, isDigit d = true → d < 128 ∧ isAsciiSpace d = false := by
    intro d hd
    simp only [isDigit, Bool.and_eq_true, decide_eq_true_eq] at hd
    simp only [isAsciiSpace, Bool.or_eq_false_iff, Bool.and_eq_false_iff, decide_eq_false_iff_not]
    omega
  unfold signed at hc
  split at hc
  · rcases List.mem_cons.mp hc with rfl | hc
    · decide
    · exact hdigit c (isDigit_of_mem_decimal hc)
  · exact hdigit c (isDigit_of_mem_decimal hc)

/-- The sign of an integer literal that has no white space. -/
theorem intLiteral?_of_ascii {s : Text} (h : ∀ c ∈ s, c < 128 ∧ isAsciiSpace c = false) :
    intLiteral? s = signedBy magnitude? s := by
  have hascii : s.map asciiOf = s := by
    conv_rhs => rw [← List.map_id s]
    apply List.map_congr_left
    intro c hc
    simp [asciiOf, (h c hc).1]
  have hdrop : s.dropWhile isAsciiSpace = s := by
    cases s with
    | nil => rfl
    | cons c cs => rw [List.dropWhile_cons, (h c List.mem_cons_self).2, if_neg Bool.false_ne_true]
  have hrdrop : s.rdropWhile isAsciiSpace = s := by
    rw [List.rdropWhile_eq_self_iff]
    intro hne
    rw [(h _ (List.getLast_mem hne)).2]
    decide
  show signedBy magnitude? (((s.map asciiOf).dropWhile isAsciiSpace).rdropWhile isAsciiSpace) = _
  rw [hascii, hdrop, hrdrop]

theorem magnitude?_decimal {n : Nat} (h : (decimal n).length ≤ 4300) :
    magnitude? (decimal n) = some n := by
  have hliteral := decimalLiteral?_of_length h
  rcases decimal_cases n with hd | ⟨c, cs, hd, hc, -⟩
  · rw [hd] at hliteral ⊢
    exact hliteral
  · rw [hd] at hliteral ⊢
    rw [magnitude?]
    · exact hliteral
    · intro d ds heq
      exact absurd (List.cons.inj heq).1 hc

theorem cMagnitude?_decimal (n : Nat) : cMagnitude? (decimal n) = some n := by
  have hfold : ∀ (cs : Text) (acc : Nat), (∀ c ∈ cs, isDigit c = true) →
      cs.foldlM (fun acc c => (digitOf? 10 c).map fun d => 10 * acc + d) acc =
        some (cs.foldl (fun acc c => 10 * acc + (c - 48)) acc) := by
    intro cs
    induction cs with
    | nil => exact fun acc _ => rfl
    | cons c cs ih =>
      intro acc hcs
      have hc := hcs c List.mem_cons_self
      have hrange : 48 ≤ c ∧ c ≤ 57 := by simpa [isDigit] using hc
      have hvalue : digitOf? 10 c = some (c - 48) := by
        unfold digitOf? digitValue?
        rw [if_pos hc, Option.filter_some, if_pos (decide_eq_true (by omega))]
      rw [List.foldlM_cons, hvalue, List.foldl_cons]
      exact ih _ fun d hd => hcs d (List.mem_cons_of_mem c hd)
  have hdigits : digitsOf? 10 (decimal n) = some n := by
    rw [digitsOf?, if_neg (decimal_ne_nil n), hfold _ _ fun c hc => isDigit_of_mem_decimal hc]
    exact congrArg some (decimalValue_decimal n)
  rcases decimal_cases n with hd | ⟨c, cs, hd, hc, -⟩
  · rw [hd] at hdigits ⊢
    exact hdigits
  · rw [hd] at hdigits ⊢
    rw [cMagnitude?]
    · exact hdigits
    · intro d ds heq
      exact absurd (List.cons.inj heq).1 hc

theorem signedBy_signed {magnitude : Text → Option Nat} {n : Int}
    (h : magnitude (decimal n.natAbs) = some n.natAbs) :
    signedBy magnitude (signed n) = some n := by
  unfold signed
  by_cases hn : n < 0
  · have habs : -Int.ofNat n.natAbs = n := by
      show -(n.natAbs : Int) = n
      omega
    rw [if_pos hn, signedBy, h, Option.map_some, habs]
  · have habs : Int.ofNat n.natAbs = n := by
      show (n.natAbs : Int) = n
      omega
    rw [if_neg hn]
    rcases decimal_cases n.natAbs with hd | ⟨c, cs, hd, -, hplus, hminus⟩
    · rw [hd] at h ⊢
      show (magnitude [48]).map Int.ofNat = some n
      rw [h, Option.map_some, habs]
    · rw [hd] at h ⊢
      rw [signedBy]
      · rw [h, Option.map_some, habs]
      · intro ds heq
        exact absurd (List.cons.inj heq).1 hplus
      · intro ds heq
        exact absurd (List.cons.inj heq).1 hminus

theorem intLiteral?_signed {n : Int} (h : (decimal n.natAbs).length ≤ 4300) :
    intLiteral? (signed n) = some n := by
  rw [intLiteral?_of_ascii fun c hc => signed_ascii hc]
  exact signedBy_signed (magnitude?_decimal h)

theorem cInteger?_signed (n : Int) : cInteger? (signed n) = some n :=
  signedBy_signed (cMagnitude?_decimal n.natAbs)

/-- A word with a marker is read as a number of base 16. -/
theorem cMagnitude?_hexWord (width n : Nat) : cMagnitude? (hexWord width n) = some n := by
  have hfold : ∀ (ds : List Nat) (acc : Nat), (∀ d ∈ ds, d < 16) →
      (ds.map nibble).foldlM (fun acc c => (digitOf? 16 c).map fun d => 16 * acc + d) acc =
        some (ds.foldl (fun a d => 16 * a + d) acc) := by
    intro ds
    induction ds with
    | nil => exact fun acc _ => rfl
    | cons d ds ih =>
      intro acc hds
      rw [List.map_cons, List.foldlM_cons, digitOf?_nibble (hds d List.mem_cons_self)]
      exact ih _ fun e he => hds e (List.mem_cons_of_mem d he)
  have hne : (hexWordDigits width n).map nibble ≠ [] :=
    fun heq => hexWordDigits_ne_nil width n (List.map_eq_nil_iff.mp heq)
  rw [hexWord_eq]
  show digitsOf? 16 ((hexWordDigits width n).map nibble) = some n
  rw [digitsOf?, if_neg hne, hfold _ _ fun d hd => hexWordDigits_lt hd, foldl_hexWordDigits]

end Sensorium.Lib

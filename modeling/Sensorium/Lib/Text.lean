import Mathlib.Data.List.DropRight
import Mathlib.Data.Nat.Digits.Defs
import Sensorium.Lib.Dict

/-!
# Texts as lists of code points

A text is a list of code points, lone surrogates included, as the string type of a scripting
language has them.  This file has the operations on such texts that input checks use: stripping
white space, hexadecimal and decimal spellings, integer literals with a base marker, and UTF-8.
-/

namespace Sensorium.Lib

abbrev Text := List Nat

instance : LawfulBEq Text := List.instLawfulBEq

def text (s : String) : Text := s.toList.map Char.toNat

/-! ## Character classes -/

def isDigit (c : Nat) : Bool := 48 ≤ c && c ≤ 57

def isLetter (c : Nat) : Bool := (65 ≤ c && c ≤ 90) || (97 ≤ c && c ≤ 122)

/-- The white space of the C locale. -/
def isAsciiSpace (c : Nat) : Bool := c = 32 || (9 ≤ c && c ≤ 13)

/-- The Unicode white space, with the separators 0x1c to 0x1f. -/
def isSpace (c : Nat) : Bool :=
  isAsciiSpace c || (28 ≤ c && c ≤ 31) || c = 0x85 || c = 0xa0 || c = 0x1680 ||
    (0x2000 ≤ c && c ≤ 0x200a) || c = 0x2028 || c = 0x2029 || c = 0x202f || c = 0x205f ||
    c = 0x3000

/-- The zeros of the decimal digits of Unicode 14; the other nine digits follow each of them. -/
def decimalZeros : List Nat :=
  [0x30, 0x660, 0x6f0, 0x7c0, 0x966, 0x9e6, 0xa66, 0xae6, 0xb66, 0xbe6, 0xc66, 0xce6, 0xd66, 0xde6,
    0xe50, 0xed0, 0xf20, 0x1040, 0x1090, 0x17e0, 0x1810, 0x1946, 0x19d0, 0x1a80, 0x1a90, 0x1b50,
    0x1bb0, 0x1c40, 0x1c50, 0xa620, 0xa8d0, 0xa900, 0xa9d0, 0xa9f0, 0xaa50, 0xabf0, 0xff10, 0x104a0,
    0x10d30, 0x11066, 0x110f0, 0x11136, 0x111d0, 0x112f0, 0x11450, 0x114d0, 0x11650, 0x116c0,
    0x11730, 0x118e0, 0x11950, 0x11c50, 0x11d50, 0x11da0, 0x16a60, 0x16ac0, 0x16b50, 0x1d7ce,
    0x1d7d8, 0x1d7e2, 0x1d7ec, 0x1d7f6, 0x1e140, 0x1e2f0, 0x1e950, 0x1fbf0]

def lowerAscii (c : Nat) : Nat := if 65 ≤ c && c ≤ 90 then c + 32 else c

/-- The value of a letter or digit as a digit of a base up to 36. -/
def digitValue? (c : Nat) : Option Nat :=
  if isDigit c then some (c - 48)
  else if 97 ≤ c && c ≤ 122 then some (c - 87)
  else if 65 ≤ c && c ≤ 90 then some (c - 55)
  else none

def digitOf? (base c : Nat) : Option Nat := (digitValue? c).filter (· < base)

/-- The lower-case digit of a value below 16. -/
def nibble (n : Nat) : Nat := if n < 10 then 48 + n else 87 + n

theorem digitOf?_nibble {n : Nat} (hn : n < 16) : digitOf? 16 (nibble n) = some n := by
  decide +revert

/-! ## Stripping -/

def strip (s : Text) : Text := (s.dropWhile isSpace).rdropWhile isSpace

theorem strip_strip (s : Text) : strip (strip s) = strip s := by
  have hhead : (strip s).dropWhile isSpace = strip s := by
    rw [List.dropWhile_eq_self_iff]
    intro hl hsp
    -- a prefix of the text without its leading white space starts with the same character
    have hpre : strip s <+: s.dropWhile isSpace := List.rdropWhile_prefix isSpace _
    have hlen : 0 < (s.dropWhile isSpace).length := lt_of_lt_of_le hl hpre.length_le
    have hget : (strip s)[0] = (s.dropWhile isSpace)[0] := hpre.getElem hl
    rw [hget] at hsp
    exact List.dropWhile_get_zero_not isSpace s hlen hsp
  change ((strip s).dropWhile isSpace).rdropWhile isSpace = strip s
  rw [hhead]
  exact List.rdropWhile_idempotent isSpace _

theorem mem_of_mem_strip {s : Text} {c : Nat} (h : c ∈ strip s) : c ∈ s :=
  (List.dropWhile_suffix isSpace).subset ((List.rdropWhile_prefix isSpace _).subset h)

/-- Stripping leaves the characters that are no white space. -/
theorem filter_strip (s : Text) (p : Nat → Bool) (hp : ∀ c, p c = true → isSpace c = false) :
    (strip s).filter p = s.filter p := by
  have hdrop : ∀ l : Text, (l.dropWhile isSpace).filter p = l.filter p := by
    intro l
    induction l with
    | nil => rfl
    | cons c l ih =>
      rw [List.dropWhile_cons]
      split
      · rename_i hc
        rw [ih, List.filter_cons_of_neg]
        intro hpc
        rw [hp c hpc] at hc
        exact absurd hc (by simp)
      · rfl
  unfold strip List.rdropWhile
  rw [List.filter_reverse, hdrop, List.filter_reverse, List.reverse_reverse, hdrop]

/-! ## Numbers -/

/-- The decimal spelling. -/
def decimal (n : Nat) : Text := (Nat.toDigits 10 n).map Char.toNat

/-- The value of a text of ASCII digits. -/
def decimalValue (s : Text) : Nat := s.foldl (fun acc c => 10 * acc + (c - 48)) 0

/-- The lower-case hexadecimal spelling, without a marker. -/
def hexDigits (n : Nat) : Text :=
  if n = 0 then [48] else ((Nat.digits 16 n).map nibble).reverse

/-- The spelling with the marker `0x`, padded with zeros to `width` digits. -/
def hexWord (width n : Nat) : Text :=
  text "0x" ++ List.replicate (width - (hexDigits n).length) 48 ++ hexDigits n

/-- Digits of a base with single underscores between them; `digit` says that the character before
was a digit. -/
def digitsValue? (base : Nat) : Bool → Nat → Text → Option Nat
  | digit, acc, [] => if digit then some acc else none
  | digit, acc, c :: cs =>
    if c = 95 then if digit then digitsValue? base false acc cs else none
    else
      match digitOf? base c with
      | some d => digitsValue? base true (base * acc + d) cs
      | none => none

/-- A decimal literal; the conversion takes at most 4300 digits. -/
def decimalLiteral? (cs : Text) : Option Nat :=
  if 4300 < (cs.filter (· ≠ 95)).length then none else digitsValue? 10 false 0 cs

/-- The magnitude of an integer literal whose base is read off its marker.  One underscore may
follow the marker, and a decimal literal starts with a zero only if its value is zero. -/
def magnitude? : Text → Option Nat
  | 48 :: c :: cs =>
    let marked (base : Nat) : Option Nat :=
      digitsValue? base false 0 (if cs.head? = some 95 then cs.tail else cs)
    if c = 120 || c = 88 then marked 16
    else if c = 111 || c = 79 then marked 8
    else if c = 98 || c = 66 then marked 2
    else (decimalLiteral? (48 :: c :: cs)).filter (· = 0)
  | cs => decimalLiteral? cs

/-- White space and decimal digits of any script as their ASCII counterparts; another character
beyond ASCII becomes a question mark. -/
def asciiOf (c : Nat) : Nat :=
  if c < 128 then c
  else if isSpace c then 32
  else
    match decimalZeros.find? fun z => z ≤ c && c < z + 10 with
    | some z => 48 + (c - z)
    | none => 63

/-- `int(s, 0)`. -/
def intLiteral? (s : Text) : Option Int :=
  let t := ((s.map asciiOf).dropWhile isAsciiSpace).rdropWhile isAsciiSpace
  match t with
  | 43 :: cs => (magnitude? cs).map Int.ofNat
  | 45 :: cs => (magnitude? cs).map fun n => -Int.ofNat n
  | cs => (magnitude? cs).map Int.ofNat

theorem digitsValue?_nibbles {ds : List Nat} (hds : ∀ d ∈ ds, d < 16) (digit : Bool) (acc : Nat)
    (hne : digit = true ∨ ds ≠ []) :
    digitsValue? 16 digit acc (ds.map nibble) = some (ds.foldl (fun a d => 16 * a + d) acc) := by
  induction ds generalizing digit acc with
  | nil =>
    have hdigit : digit = true := by simpa using hne
    simp [digitsValue?, hdigit]
  | cons d ds ih =>
    have hd : d < 16 := hds d List.mem_cons_self
    have hnot : nibble d ≠ 95 := by
      unfold nibble
      split <;> omega
    rw [List.map_cons, digitsValue?, if_neg hnot, digitOf?_nibble hd]
    exact ih (fun e he => hds e (List.mem_cons_of_mem d he)) true (16 * acc + d) (.inl rfl)

/-- The digits of `hexWord`, most significant first. -/
def hexWordDigits (width n : Nat) : List Nat :=
  List.replicate (width - (hexDigits n).length) 0 ++
    if n = 0 then [0] else (Nat.digits 16 n).reverse

theorem hexWord_eq (width n : Nat) :
    hexWord width n = 48 :: 120 :: (hexWordDigits width n).map nibble := by
  have hx : text "0x" = [48, 120] := rfl
  have hz : nibble 0 = 48 := rfl
  unfold hexWord hexWordDigits
  rw [hx, List.map_append, List.map_replicate, hz]
  by_cases hn : n = 0
  · simp [hexDigits, hn, hz]
  · simp [hexDigits, hn, List.map_reverse]

theorem hexWordDigits_lt {width n d : Nat} (h : d ∈ hexWordDigits width n) : d < 16 := by
  unfold hexWordDigits at h
  rcases List.mem_append.mp h with h | h
  · rw [List.eq_of_mem_replicate h]
    decide
  · split at h
    · rw [List.mem_singleton.mp h]
      decide
    · exact Nat.digits_lt_base (by decide) (List.mem_reverse.mp h)

theorem hexWordDigits_ne_nil (width n : Nat) : hexWordDigits width n ≠ [] := by
  unfold hexWordDigits
  by_cases hn : n = 0
  · simp [hn]
  · have hdigits : Nat.digits 16 n ≠ [] := Nat.digits_ne_nil_iff_ne_zero.mpr hn
    simp [hn, hdigits]

theorem foldl_hexWordDigits (width n : Nat) :
    (hexWordDigits width n).foldl (fun a d => 16 * a + d) 0 = n := by
  have hzeros : ∀ k, (List.replicate k 0).foldl (fun a d => 16 * a + d) 0 = 0 := by
    intro k
    induction k with
    | zero => rfl
    | succ k ih => simpa [List.replicate_succ] using ih
  unfold hexWordDigits
  rw [List.foldl_append, hzeros]
  by_cases hn : n = 0
  · simp [hn]
  · rw [if_neg hn, List.foldl_reverse]
    have hval := Nat.ofDigits_digits 16 n
    rw [Nat.ofDigits_eq_foldr] at hval
    simpa [Nat.add_comm] using hval

theorem nibble_range {d : Nat} (hd : d < 16) :
    nibble d < 128 ∧ isAsciiSpace (nibble d) = false ∧ nibble d ≠ 95 := by
  decide +revert

/-- A padded hexadecimal word reads back as its value. -/
theorem intLiteral?_hexWord (width n : Nat) : intLiteral? (hexWord width n) = some (n : Int) := by
  have hchars : ∀ c ∈ hexWord width n, c < 128 ∧ isAsciiSpace c = false := by
    rw [hexWord_eq]
    intro c hc
    simp only [List.mem_cons, List.mem_map] at hc
    rcases hc with rfl | rfl | ⟨d, hd, rfl⟩
    · decide
    · decide
    · exact ⟨(nibble_range (hexWordDigits_lt hd)).1, (nibble_range (hexWordDigits_lt hd)).2.1⟩
  have hascii : (hexWord width n).map asciiOf = hexWord width n := by
    conv_rhs => rw [← List.map_id (hexWord width n)]
    apply List.map_congr_left
    intro c hc
    simp [asciiOf, (hchars c hc).1]
  have hdrop : (hexWord width n).dropWhile isAsciiSpace = hexWord width n := by
    rw [hexWord_eq]
    rfl
  have hrdrop : (hexWord width n).rdropWhile isAsciiSpace = hexWord width n := by
    rw [List.rdropWhile_eq_self_iff]
    intro hne
    rw [(hchars _ (List.getLast_mem hne)).2]
    decide
  have hhead : ((hexWordDigits width n).map nibble).head? ≠ some 95 := by
    cases hds : hexWordDigits width n with
    | nil => exact absurd hds (hexWordDigits_ne_nil width n)
    | cons d ds =>
      have hd : d ∈ hexWordDigits width n := by rw [hds]; exact List.mem_cons_self
      simpa using (nibble_range (hexWordDigits_lt hd)).2.2
  have hmag : magnitude? (hexWord width n) = some n := by
    rw [hexWord_eq]
    simp only [magnitude?, if_neg hhead]
    rw [digitsValue?_nibbles (fun d hd => hexWordDigits_lt hd) false 0
      (.inr (hexWordDigits_ne_nil width n)), foldl_hexWordDigits]
    rfl
  unfold intLiteral?
  simp only [hascii, hdrop, hrdrop]
  rw [hexWord_eq] at hmag ⊢
  simp [hmag]

/-! ## Bytes -/

/-- `bytes.fromhex`: pairs of digits, with ASCII white space between the pairs. -/
def fromHex? : Text → Option (List UInt8)
  | [] => some []
  | [a] => if isAsciiSpace a then some [] else none
  | a :: b :: cs =>
    if isAsciiSpace a then fromHex? (b :: cs)
    else do
      let hi ← digitOf? 16 a
      let lo ← digitOf? 16 b
      let rest ← fromHex? cs
      pure (UInt8.ofNat (16 * hi + lo) :: rest)

/-- `bytes.hex`. -/
def toHex (bs : List UInt8) : Text :=
  bs.flatMap fun b => [nibble (b.toNat / 16), nibble (b.toNat % 16)]

theorem fromHex?_toHex (bs : List UInt8) : fromHex? (toHex bs) = some bs := by
  induction bs with
  | nil => rfl
  | cons b bs ih =>
    have hb := b.toNat_lt
    have hspace : ∀ n < 16, isAsciiSpace (nibble n) = false := by decide
    have hhi : b.toNat / 16 < 16 := by omega
    have hlo : b.toNat % 16 < 16 := by omega
    have hbyte : UInt8.ofNat (16 * (b.toNat / 16) + b.toNat % 16) = b := by
      rw [Nat.div_add_mod, UInt8.ofNat_toNat]
    have hcons : toHex (b :: bs) = nibble (b.toNat / 16) :: nibble (b.toNat % 16) :: toHex bs := by
      simp [toHex]
    rw [hcons, fromHex?, hspace _ hhi, digitOf?_nibble hhi, digitOf?_nibble hlo, ih]
    exact congrArg (fun b => some (b :: bs)) hbyte

theorem digitOf?_lowerAscii (c : Nat) : digitOf? 16 (lowerAscii c) = digitOf? 16 c := by
  unfold lowerAscii
  split
  · rename_i hupper
    have hupper : 65 ≤ c ∧ c ≤ 90 := by simpa using hupper
    have hvalue : digitValue? (c + 32) = digitValue? c := by
      simp only [digitValue?, isDigit, Bool.and_eq_true, decide_eq_true_eq]
      rw [if_neg (by omega), if_pos (by omega), if_neg (by omega), if_neg (by omega),
        if_pos (by omega)]
      congr 1
    rw [digitOf?, hvalue, digitOf?]
  · rfl

theorem isAsciiSpace_lowerAscii (c : Nat) : isAsciiSpace (lowerAscii c) = isAsciiSpace c := by
  unfold lowerAscii
  split
  · rename_i hupper
    have hupper : 65 ≤ c ∧ c ≤ 90 := by simpa using hupper
    simp only [isAsciiSpace]
    rw [Bool.eq_iff_iff]
    simp only [Bool.or_eq_true, Bool.and_eq_true, decide_eq_true_eq]
    omega
  · rfl

/-- The case of the digits does not matter. -/
theorem fromHex?_map_lowerAscii (s : Text) : fromHex? (s.map lowerAscii) = fromHex? s := by
  induction s using fromHex?.induct with
  | case1 => rfl
  | case2 a ha => simp [fromHex?, ha, isAsciiSpace_lowerAscii]
  | case3 a ha => simp [fromHex?, ha, isAsciiSpace_lowerAscii]
  | case4 a b cs ha ih =>
    rw [List.map_cons] at ih
    rw [List.map_cons, List.map_cons, fromHex?, fromHex?, isAsciiSpace_lowerAscii, if_pos ha,
      if_pos ha, ih]
  | case5 a b cs ha ih =>
    rw [List.map_cons, List.map_cons, fromHex?, fromHex?, isAsciiSpace_lowerAscii, if_neg ha,
      if_neg ha, digitOf?_lowerAscii, digitOf?_lowerAscii, ih]

/-- The UTF-8 encoding of one code point; a surrogate has none. -/
def utf8Char? (c : Nat) : Option (List UInt8) :=
  if c < 0x80 then some [.ofNat c]
  else if c < 0x800 then some [.ofNat (0xc0 + c / 64), .ofNat (0x80 + c % 64)]
  else if 0xd800 ≤ c && c ≤ 0xdfff then none
  else if c < 0x10000 then
    some [.ofNat (0xe0 + c / 4096), .ofNat (0x80 + c / 64 % 64), .ofNat (0x80 + c % 64)]
  else if c < 0x110000 then
    some [.ofNat (0xf0 + c / 262144), .ofNat (0x80 + c / 4096 % 64), .ofNat (0x80 + c / 64 % 64),
      .ofNat (0x80 + c % 64)]
  else none

/-- `s.encode("utf-8")`. -/
def utf8? (s : Text) : Option (List UInt8) := (s.mapM utf8Char?).map List.flatten

theorem isSome_utf8Char? (c : Nat) : (utf8Char? c).isSome = true ↔ Nat.isValidChar c := by
  unfold utf8Char? Nat.isValidChar
  simp only [Bool.and_eq_true, decide_eq_true_eq]
  split_ifs
  · exact iff_of_true rfl (by omega)
  · exact iff_of_true rfl (by omega)
  · exact iff_of_false Bool.false_ne_true (by omega)
  · exact iff_of_true rfl (by omega)
  · exact iff_of_true rfl (by omega)
  · exact iff_of_false Bool.false_ne_true (by omega)

theorem isSome_utf8? (s : Text) : (utf8? s).isSome = true ↔ ∀ c ∈ s, Nat.isValidChar c := by
  rw [utf8?, Option.isSome_map, isSome_mapM]
  simp only [isSome_utf8Char?]

theorem utf8?_of_ascii {s : Text} (h : ∀ c ∈ s, c < 128) : utf8? s = some (s.map UInt8.ofNat) := by
  induction s with
  | nil => rfl
  | cons c s ih =>
    have hc : utf8Char? c = some [UInt8.ofNat c] := if_pos (h c List.mem_cons_self)
    have hs := ih fun d hd => h d (List.mem_cons_of_mem c hd)
    obtain ⟨bs, hbs, hflat⟩ := Option.map_eq_some_iff.mp hs
    rw [utf8?, List.mapM_cons, hc, hbs]
    exact congrArg (fun t => some (UInt8.ofNat c :: t)) hflat

/-! ## Numbered names -/

theorem decimal_ne_nil (n : Nat) : decimal n ≠ [] :=
  fun h => Nat.toDigits_ne_nil (List.map_eq_nil_iff.mp h)

theorem isDigit_of_mem_decimal {n c : Nat} (h : c ∈ decimal n) : isDigit c = true := by
  obtain ⟨ch, hch, rfl⟩ := List.mem_map.mp h
  have hdigit := Nat.isDigit_of_mem_toDigits (by omega) (by omega) hch
  simpa [Char.isDigit, isDigit, UInt32.le_iff_toNat_le] using hdigit

theorem decimalValue_decimal (n : Nat) : decimalValue (decimal n) = n := by
  rw [decimalValue, decimal, List.foldl_map]
  exact Nat.ofDigitChars_ten_toDigits

-- Digits are read one by one.
theorem digitsValue?_true {cs : Text} (h : ∀ c ∈ cs, isDigit c = true) (acc : Nat) :
    digitsValue? 10 true acc cs = some (cs.foldl (fun acc c => 10 * acc + (c - 48)) acc) := by
  induction cs generalizing acc with
  | nil => rfl
  | cons c cs ih =>
    have hc := h c List.mem_cons_self
    have hrange : 48 ≤ c ∧ c ≤ 57 := by simpa [isDigit] using hc
    have hvalue : digitOf? 10 c = some (c - 48) := by
      unfold digitOf? digitValue?
      rw [if_pos hc, Option.filter_some, if_pos (decide_eq_true (by omega))]
    rw [digitsValue?, if_neg (by omega), hvalue, List.foldl_cons]
    exact ih (fun d hd => h d (List.mem_cons_of_mem c hd)) _

theorem decimalLiteral?_decimal {n m : Nat} (h : decimalLiteral? (decimal n) = some m) : m = n := by
  unfold decimalLiteral? at h
  split at h
  · cases h
  · cases hcs : decimal n with
    | nil => exact absurd hcs (decimal_ne_nil n)
    | cons c cs =>
      have hdigits : ∀ d ∈ c :: cs, isDigit d = true :=
        fun d hd => isDigit_of_mem_decimal (hcs ▸ hd)
      have hc : c ≠ 95 := by
        rintro rfl
        exact absurd (hdigits 95 List.mem_cons_self) (by decide)
      have hstart : digitsValue? 10 false 0 (c :: cs) = digitsValue? 10 true 0 (c :: cs) := by
        rw [digitsValue?, digitsValue?, if_neg hc, if_neg hc]
      rw [hcs, hstart, digitsValue?_true hdigits] at h
      have hvalue := decimalValue_decimal n
      rw [hcs] at hvalue
      exact (Option.some.inj h).symm.trans hvalue

theorem length_decimal_le {n k : Nat} (hk : 0 < k) (h : n < 10 ^ k) : (decimal n).length ≤ k := by
  rw [decimal, List.length_map]
  exact (Nat.length_toDigits_le_iff (by omega) hk).mpr h

-- A base ends in no digit.
theorem rdropWhile_append_decimal {base : Text} (hbase : base.rdropWhile isDigit = base) (n : Nat) :
    (base ++ decimal n).rdropWhile isDigit = base := by
  have hdigits : ∀ c ∈ (decimal n).reverse, isDigit c = true :=
    fun c hc => isDigit_of_mem_decimal (List.mem_reverse.mp hc)
  rw [List.rdropWhile, List.reverse_append, List.dropWhile_append_of_pos hdigits]
  exact hbase

theorem rtakeWhile_append_decimal {base : Text} (hbase : base.rdropWhile isDigit = base) (n : Nat) :
    (base ++ decimal n).rtakeWhile isDigit = decimal n := by
  have hparts : (base ++ decimal n).rdropWhile isDigit ++ (base ++ decimal n).rtakeWhile isDigit =
      base ++ decimal n := List.rdropWhile_append_rtakeWhile
  rw [rdropWhile_append_decimal hbase] at hparts
  exact List.append_cancel_left hparts

end Sensorium.Lib

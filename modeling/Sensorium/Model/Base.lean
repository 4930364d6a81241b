import Sensorium.Lib.Dict
import Sensorium.Lib.Text

/-!
# Checks of raw model values

A raw model is a value as a YAML or JSON reader builds it.  The checks of `model_base.py` take such
a value and a label that says where it stands, and return its normal form or the failure they raise.
-/

namespace Sensorium.Model

open Lib

/-! ## Values -/

inductive Value
  | null
  | bool (b : Bool)
  | int (n : Int)
  | float (literal : Text)
  | str (s : Text)
  | bytes (bs : List UInt8)
  | list (xs : List Value)
  | dict (es : List (Value × Value))

abbrev Entries := List (Value × Value)

/-- A string constant of the source as a value. -/
def Value.lit (s : String) : Value := .str (text s)

/-- `bool(value)`; a float is its representation. -/
def Value.truthy : Value → Bool
  | .null => false
  | .bool b => b
  | .int n => n ≠ 0
  | .float literal => literal ≠ text "0.0" && literal ≠ text "-0.0"
  | .str s => s ≠ []
  | .bytes bs => bs ≠ []
  | .list xs => !xs.isEmpty
  | .dict es => !es.isEmpty

/-- What may be a key of a dictionary. -/
def Value.hashable : Value → Bool
  | .list _ | .dict _ => false
  | _ => true

def lookup : Entries → Text → Option Value
  | [], _ => none
  | (.str s, v) :: es, k => if s = k then some v else lookup es k
  | _ :: es, k => lookup es k

/-- `mapping.get(key, default)`. -/
def getD (es : Entries) (key : String) (default : Value) : Value :=
  (lookup es (text key)).getD default

def get (es : Entries) (key : String) : Value := getD es key .null

def has (es : Entries) (key : String) : Bool := (lookup es (text key)).isSome

/-- `mapping[key] = value` for a string key. -/
def put : Entries → Text → Value → Entries
  | [], k, v => [(.str k, v)]
  | (.str s, w) :: es, k, v => if s = k then (.str s, v) :: es else (.str s, w) :: put es k v
  | e :: es, k, v => e :: put es k v

theorem lookup_put (es : Entries) (k k' : Text) (v : Value) :
    lookup (put es k v) k' = if k = k' then some v else lookup es k' := by
  induction es, k, v using put.induct with
  | case1 k v => rfl
  | case2 w es k v =>
    rw [put, if_pos rfl, lookup, lookup]
    split <;> rfl
  | case3 s w es k v hne ih =>
    rw [put, if_neg hne, lookup, lookup, ih]
    split
    · rename_i hk
      rw [if_neg (hk ▸ Ne.symm hne)]
    · rfl
  | case4 e es k v hstr ih =>
    obtain ⟨key, w⟩ := e
    cases key with
    | str s => exact absurd rfl (hstr s w)
    | _ => exact ih

-- `mapping.update`: the keys of the second dictionary are different.
theorem lookup_foldl_put {ps : List (Text × Value)} (hps : (keys ps).Nodup) (es : Entries)
    (k : Text) :
    lookup (ps.foldl (fun es p => put es p.1 p.2) es) k = (dictGet ps k).or (lookup es k) := by
  induction ps generalizing es with
  | nil => rfl
  | cons p ps ih =>
    obtain ⟨hnew, hps⟩ := List.nodup_cons.mp hps
    rw [List.foldl_cons, ih hps, lookup_put, dictGet]
    split
    · rename_i hk
      cases hget : dictGet ps k with
      | none => rfl
      | some v => exact absurd (List.mem_map.mpr ⟨_, mem_of_dictGet hget, hk.symm⟩) hnew
    · rfl

/-! ## Failures -/

/-- A part of a label: `.name`, `[i]`, `[key]` with the key's representation, `[]` or ` key`. -/
inductive Seg
  | field (name : String)
  | index (i : Nat)
  | key (k : Value)
  | item
  | keyOf

abbrev Label := List Seg

def Label.dot (label : Label) (name : String) : Label := label ++ [.field name]

/-- `RuntimeModelError` with the label and the rest of its message, or an error that the string
operations raise themselves. -/
inductive Failure
  | model (label : Label) (message : String)
  | unicodeEncode
  | tooManyDigits

abbrev Checked := Except Failure

/-- A field that is only checked and kept under a condition. -/
def onlyIf {α : Type} (c : Bool) (x : Checked α) : Checked (Option α) :=
  if c then x >>= fun a => .ok (some a) else .ok none

def reject {α : Type} (label : Label) (message : String) : Checked α :=
  .error (.model label message)

theorem onlyIf_eq_some {α : Type} {c : Bool} {x : Checked α} {a : α}
    (h : onlyIf c x = .ok (some a)) : c = true ∧ x = .ok a := by
  cases c with
  | false => cases h
  | true =>
    obtain ⟨b, hb, h⟩ := bind_eq_ok.mp h
    cases h
    exact ⟨rfl, hb⟩

theorem onlyIf_eq_none {α : Type} {c : Bool} {x : Checked α} (h : onlyIf c x = .ok none) :
    c = false := by
  cases c with
  | false => rfl
  | true =>
    obtain ⟨b, _, h⟩ := bind_eq_ok.mp h
    cases h

theorem onlyIf_true {α : Type} {x : Checked α} {a : α} (h : x = .ok a) :
    onlyIf true x = .ok (some a) := bind_eq_ok.mpr ⟨a, h, rfl⟩

/-! ## Expectations -/

def expectMapping (v : Value) (label : Label) : Checked Entries :=
  match v with
  | .null => .ok []
  | .dict es => .ok es
  | _ => reject label "must be a mapping"

def expectList (v : Value) (label : Label) : Checked (List Value) :=
  match v with
  | .null => .ok []
  | .list xs => .ok xs
  | _ => reject label "must be a list"

/-- `expect_string`; `form` is `strip`, or the identity for `strip=False`. -/
def expectStringIn (form : Text → Text) (v : Value) (label : Label) : Checked Text :=
  match v with
  | .str s => if form s = [] then reject label "must be a non-empty string" else .ok (form s)
  | _ => reject label "must be a non-empty string"

def expectString : Value → Label → Checked Text := expectStringIn strip

def expectRawString : Value → Label → Checked Text := expectStringIn id

def expectInt (v : Value) (label : Label) : Checked Int :=
  match v with
  | .int n => .ok n
  | _ => reject label "must be an integer"

def expectBool (v : Value) (label : Label) : Checked Bool :=
  match v with
  | .bool b => .ok b
  | _ => reject label "must be a boolean"

/-- The first lines of `expect_hex_int`: a string is read as an integer literal. -/
def readInt (v : Value) (label : Label) : Checked Int :=
  match v with
  | .str s =>
    match intLiteral? s with
    | some n => .ok n
    | none => reject label "must be an integer or hex literal"
  | v => expectInt v label

/-- Every minimum in the source is at least zero, so the result is a natural number. -/
def expectHexInt (v : Value) (label : Label) (minimum : Nat) (maximum : Option Nat) :
    Checked Nat := do
  let n ← readInt v label
  if n < minimum then reject label s!"must be >= {minimum}"
  else
    match maximum with
    | none => .ok n.toNat
    | some m => if (m : Int) < n then reject label s!"must be <= {m}" else .ok n.toNat

def isNameChar (c : Nat) : Bool :=
  isLetter c || isDigit c || c = 46 || c = 95 || c = 58 || c = 45

def expectName (v : Value) (label : Label) : Checked Text := do
  let s ← expectString v label
  if s.all isNameChar then .ok s
  else
    reject label "must use only letters, numbers, dot, underscore, hyphen, or colon"

/-- `int(digits, 10)` of ASCII digits. -/
def intOfDigits (digits : Text) : Checked Nat :=
  match decimalLiteral? digits with
  | some n => .ok n
  | none => .error .tooManyDigits

/-- `split_runtime_numeric_suffix`.  The base of the pattern is matched lazily, so it ends where the
digits at the end of the name begin. -/
def splitRuntimeNumericSuffix (v : Value) (label : Label) : Checked (Text × Text × Nat) := do
  let s ← expectName v label
  let base := s.rdropWhile isDigit
  let digits := s.rtakeWhile isDigit
  let word (c : Nat) : Bool := isLetter c || c = 95
  if digits ≠ [] && (base.head?.any word) && base.all (fun c => word c || isDigit c) then do
    let index ← intOfDigits digits
    .ok (s, base, index)
  else reject label "must end in a numeric suffix"

/-- A bus name made of a stem and a number, in the only spelling of that number. -/
def expectNumberedBusName (stem style : String) (v : Value) (label : Label) : Checked Text := do
  let s ← expectName v label
  let digits := s.drop (text stem).length
  if (text stem).isPrefixOf s && digits ≠ [] && digits.all isDigit then do
    let number ← intOfDigits digits
    if s = text stem ++ decimal number then .ok s
    else reject label s!"must use canonical {style} naming without leading zeroes"
  else reject label s!"must use canonical {style} naming"

def expectRuntimeI2cBusName : Value → Label → Checked Text :=
  expectNumberedBusName "i2c-" "i2c-N"

def expectRuntimeSpiBusName : Value → Label → Checked Text :=
  expectNumberedBusName "spi" "spiN"

def expectRuntimeUartPortName (v : Value) (label : Label) : Checked Text := do
  let (s, base, index) ← splitRuntimeNumericSuffix v label
  if s = base ++ decimal index then .ok s
  else reject label "must use a tty-style name with a canonical numeric suffix"

/-! ### Results pass their own checks

`label` is only used in failures, so a check may be repeated under another label.
-/

variable {v : Value} {label label' : Label} {s : Text} {n : Nat}

theorem expectStringIn_self {form : Text → Text} (hform : ∀ t, form (form t) = form t)
    (h : expectStringIn form v label = .ok s) : expectStringIn form (.str s) label' = .ok s := by
  cases v with
  | str t =>
    simp only [expectStringIn] at h
    split at h
    · cases h
    · rename_i hne
      cases h
      simp only [expectStringIn, hform, if_neg hne]
  | _ => cases h

theorem expectString_self (h : expectString v label = .ok s) :
    expectString (.str s) label' = .ok s :=
  expectStringIn_self strip_strip h

theorem expectRawString_self (h : expectRawString v label = .ok s) :
    expectRawString (.str s) label' = .ok s :=
  expectStringIn_self (fun _ => rfl) h

theorem expectHexInt_eq_ok {minimum : Nat} {maximum : Option Nat} :
    expectHexInt v label minimum maximum = .ok n ↔
      readInt v label = .ok (n : Int) ∧ minimum ≤ n ∧ ∀ m, maximum = some m → n ≤ m := by
  unfold expectHexInt
  rw [bind_eq_ok]
  constructor
  · rintro ⟨i, hi, h⟩
    split at h
    · cases h
    · rename_i hmin
      have hi0 : (i.toNat : Int) = i := Int.toNat_of_nonneg (by omega)
      cases maximum with
      | none =>
        cases h
        exact ⟨by rw [hi0]; exact hi, by omega, fun m hm => (nomatch hm)⟩
      | some m =>
        dsimp only at h
        split at h
        · cases h
        · rename_i hmax
          cases h
          refine ⟨by rw [hi0]; exact hi, by omega, fun m' hm' => ?_⟩
          cases hm'
          omega
  · rintro ⟨hi, hmin, hmax⟩
    refine ⟨n, hi, ?_⟩
    rw [if_neg (by omega)]
    cases maximum with
    | none => simp
    | some m =>
      have hm := hmax m rfl
      dsimp only
      rw [if_neg (by omega)]
      simp

/-- Another spelling of an accepted number is accepted. -/
theorem expectHexInt_of_readInt {w : Value} {minimum : Nat} {maximum : Option Nat}
    (h : expectHexInt v label minimum maximum = .ok n) (hw : readInt w label' = .ok (n : Int)) :
    expectHexInt w label' minimum maximum = .ok n :=
  expectHexInt_eq_ok.mpr ⟨hw, (expectHexInt_eq_ok.mp h).2⟩

theorem expectHexInt_self {minimum : Nat} {maximum : Option Nat}
    (h : expectHexInt v label minimum maximum = .ok n) :
    expectHexInt (.int n) label' minimum maximum = .ok n :=
  expectHexInt_of_readInt h rfl

theorem expectHexInt_hexWord {minimum : Nat} {maximum : Option Nat} (width : Nat)
    (h : expectHexInt v label minimum maximum = .ok n) :
    expectHexInt (.str (hexWord width n)) label' minimum maximum = .ok n := by
  apply expectHexInt_of_readInt h
  simp only [readInt, intLiteral?_hexWord]

theorem expectName_eq_ok :
    expectName v label = .ok s ↔ expectString v label = .ok s ∧ s.all isNameChar = true := by
  unfold expectName
  rw [bind_eq_ok]
  constructor
  · rintro ⟨t, ht, h⟩
    split at h
    · rename_i hall
      cases h
      exact ⟨ht, hall⟩
    · cases h
  · rintro ⟨ht, hall⟩
    exact ⟨s, ht, by rw [if_pos hall]⟩

theorem expectName_self (h : expectName v label = .ok s) : expectName (.str s) label' = .ok s :=
  expectName_eq_ok.mpr ⟨expectString_self (expectName_eq_ok.mp h).1, (expectName_eq_ok.mp h).2⟩

theorem expectNumberedBusName_self {stem style : String}
    (h : expectNumberedBusName stem style v label = .ok s) :
    expectNumberedBusName stem style (.str s) label' = .ok s := by
  unfold expectNumberedBusName at h ⊢
  obtain ⟨t, ht, h⟩ := bind_eq_ok.mp h
  dsimp only at h
  split at h
  · rename_i hshape
    obtain ⟨number, hnumber, h⟩ := bind_eq_ok.mp h
    split at h
    · rename_i hcanon
      cases h
      refine bind_eq_ok.mpr ⟨s, expectName_self ht, ?_⟩
      dsimp only
      rw [if_pos hshape]
      refine bind_eq_ok.mpr ⟨number, hnumber, ?_⟩
      rw [if_pos hcanon]
    · cases h
  · cases h

theorem splitRuntimeNumericSuffix_self {base : Text} {index : Nat}
    (h : splitRuntimeNumericSuffix v label = .ok (s, base, index)) :
    splitRuntimeNumericSuffix (.str s) label' = .ok (s, base, index) := by
  unfold splitRuntimeNumericSuffix at h ⊢
  obtain ⟨t, ht, h⟩ := bind_eq_ok.mp h
  dsimp only at h
  split at h
  · rename_i hshape
    obtain ⟨i, hi, h⟩ := bind_eq_ok.mp h
    cases h
    refine bind_eq_ok.mpr ⟨s, expectName_self ht, ?_⟩
    dsimp only
    rw [if_pos hshape]
    exact bind_eq_ok.mpr ⟨index, hi, rfl⟩
  · cases h

theorem expectRuntimeUartPortName_self (h : expectRuntimeUartPortName v label = .ok s) :
    expectRuntimeUartPortName (.str s) label' = .ok s := by
  unfold expectRuntimeUartPortName at h ⊢
  obtain ⟨⟨t, base, index⟩, ht, h⟩ := bind_eq_ok.mp h
  dsimp only at h
  split at h
  · rename_i hcanon
    cases h
    refine bind_eq_ok.mpr ⟨(s, base, index), splitRuntimeNumericSuffix_self ht, ?_⟩
    dsimp only
    rw [if_pos hcanon]
  · cases h

/-! ## Byte literals -/

def dropMarker (compact : Text) : Text :=
  if (text "0x").isPrefixOf compact then compact.drop 2 else compact

def padEven (compact : Text) : Text :=
  if compact.length % 2 = 1 then 48 :: compact else compact

/-- The digits of a hexadecimal literal: no spaces, underscores or marker, and an even number. -/
def compactHex (stripped : Text) : Text :=
  padEven (dropMarker (stripped.filter fun c => c ≠ 32 && c ≠ 95))

def normalizeBytesLiteral (v : Value) (label : Label) : Checked Text :=
  match v with
  | .bytes bs => .ok (toHex bs)
  | .str s =>
    let stripped := strip s
    if (text "text:").isPrefixOf stripped then
      match utf8? (stripped.drop 5) with
      | some bs => .ok (toHex bs)
      | none => .error .unicodeEncode
    else
      let compact := compactHex stripped
      match fromHex? compact with
      | some _ => .ok (compact.map lowerAscii)
      | none => reject label "must be valid hex or use text:<payload> for UTF-8 text"
  | _ => reject label "must be a hex string or text string"

/-! ### Byte literals settle

A literal may keep white space at its ends (the stripping comes before the marker and the
underscores go), so one more pass can still change it or reject it.  A second pass is final.
-/

/-- What `normalize_bytes_literal` returns: lower-case digits and white space other than spaces,
with an even number of digits. -/
structure HexText (s : Text) : Prop where
  chars : ∀ c ∈ s, isAsciiSpace c = true ∧ c ≠ 32 ∨
    isAsciiSpace c = false ∧ (isDigit c = true ∨ 97 ≤ c ∧ c ≤ 102)
  even : (s.filter fun c => !isAsciiSpace c).length % 2 = 0

theorem isSpace_of_isAsciiSpace {c : Nat} (h : isAsciiSpace c = true) : isSpace c = true := by
  simp [isSpace, h]

theorem digitOf?_sixteen {c d : Nat} (h : digitOf? 16 c = some d) :
    isAsciiSpace c = false ∧ (isDigit c = true ∨ 97 ≤ c ∧ c ≤ 102 ∨ 65 ≤ c ∧ c ≤ 70) := by
  unfold digitOf? digitValue? at h
  simp only [Option.filter_eq_some_iff, decide_eq_true_eq] at h
  obtain ⟨h, hd⟩ := h
  simp only [isDigit, isAsciiSpace, Bool.and_eq_true, decide_eq_true_eq] at h ⊢
  split at h
  · rename_i hc
    exact ⟨by simp; omega, .inl hc⟩
  · split at h
    · cases h
      exact ⟨by simp; omega, .inr (.inl (by omega))⟩
    · split at h
      · cases h
        exact ⟨by simp; omega, .inr (.inr (by omega))⟩
      · cases h

theorem fromHex?_chars {s : Text} {bs : List UInt8} (h : fromHex? s = some bs) :
    (∀ c ∈ s, isAsciiSpace c = true ∨
      isAsciiSpace c = false ∧ (isDigit c = true ∨ 97 ≤ c ∧ c ≤ 102 ∨ 65 ≤ c ∧ c ≤ 70)) ∧
    (s.filter fun c => !isAsciiSpace c).length % 2 = 0 := by
  induction s using fromHex?.induct generalizing bs with
  | case1 => simp
  | case2 a ha => simp [ha]
  | case3 a ha => simp [fromHex?, ha] at h
  | case4 a b cs ha ih =>
    rw [fromHex?, if_pos ha] at h
    obtain ⟨hchars, heven⟩ := ih h
    refine ⟨?_, by rw [List.filter_cons_of_neg (by simp [ha])]; exact heven⟩
    intro c hc
    rcases List.mem_cons.mp hc with rfl | hc
    · exact .inl ha
    · exact hchars c hc
  | case5 a b cs ha ih =>
    rw [fromHex?, if_neg ha] at h
    obtain ⟨hi, hhi, h⟩ := Option.bind_eq_some_iff.mp h
    obtain ⟨lo, hlo, h⟩ := Option.bind_eq_some_iff.mp h
    obtain ⟨rest, hrest, h⟩ := Option.bind_eq_some_iff.mp h
    obtain ⟨hchars, heven⟩ := ih hrest
    have ha' := digitOf?_sixteen hhi
    have hb' := digitOf?_sixteen hlo
    constructor
    · intro c hc
      rcases List.mem_cons.mp hc with rfl | hc
      · exact .inr ha'
      · rcases List.mem_cons.mp hc with rfl | hc
        · exact .inr hb'
        · exact hchars c hc
    · rw [List.filter_cons_of_pos (by simp [ha'.1]), List.filter_cons_of_pos (by simp [hb'.1])]
      simp only [List.length_cons]
      omega

theorem hexText_toHex (bs : List UInt8) : HexText (toHex bs) := by
  have hnibble : ∀ n < 16, isAsciiSpace (nibble n) = false ∧
      (isDigit (nibble n) = true ∨ 97 ≤ nibble n ∧ nibble n ≤ 102) := by decide
  induction bs with
  | nil => exact ⟨by simp [toHex], rfl⟩
  | cons b bs ih =>
    have hb := b.toNat_lt
    have hhi := hnibble (b.toNat / 16) (by omega)
    have hlo := hnibble (b.toNat % 16) (by omega)
    have hcons : toHex (b :: bs) = nibble (b.toNat / 16) :: nibble (b.toNat % 16) :: toHex bs := by
      simp [toHex]
    rw [hcons]
    constructor
    · intro c hc
      rcases List.mem_cons.mp hc with rfl | hc
      · exact .inr hhi
      · rcases List.mem_cons.mp hc with rfl | hc
        · exact .inr hlo
        · exact ih.chars c hc
    · rw [List.filter_cons_of_pos (by simp [hhi.1]), List.filter_cons_of_pos (by simp [hlo.1])]
      have heven := ih.even
      simp only [List.length_cons]
      omega

theorem mem_compactHex {s : Text} {c : Nat} (h : c ∈ compactHex s) : c ≠ 32 := by
  have hdrop : ∀ d ∈ dropMarker (s.filter fun c => c ≠ 32 && c ≠ 95), d ≠ 32 := by
    intro d hd
    have hmem : d ∈ s.filter fun c => c ≠ 32 && c ≠ 95 := by
      unfold dropMarker at hd
      split at hd
      · exact List.mem_of_mem_drop hd
      · exact hd
    have hkept := (List.mem_filter.mp hmem).2
    simp only [Bool.and_eq_true, decide_eq_true_eq] at hkept
    exact hkept.1
  unfold compactHex padEven at h
  split at h
  · rcases List.mem_cons.mp h with rfl | h
    · decide
    · exact hdrop c h
  · exact hdrop c h

theorem lowerAscii_hex {c : Nat} (hspace : isAsciiSpace c = true ∧ c ≠ 32 ∨
    isAsciiSpace c = false ∧ (isDigit c = true ∨ 97 ≤ c ∧ c ≤ 102 ∨ 65 ≤ c ∧ c ≤ 70)) :
    isAsciiSpace (lowerAscii c) = isAsciiSpace c ∧
      (isAsciiSpace (lowerAscii c) = true ∧ lowerAscii c ≠ 32 ∨ isAsciiSpace (lowerAscii c) = false ∧
        (isDigit (lowerAscii c) = true ∨ 97 ≤ lowerAscii c ∧ lowerAscii c ≤ 102)) := by
  simp only [isAsciiSpace, isDigit, lowerAscii] at *
  simp only [Bool.or_eq_true, Bool.and_eq_true, decide_eq_true_eq, Bool.or_eq_false_iff,
    Bool.and_eq_false_iff, decide_eq_false_iff_not] at *
  split <;> grind

/-- Whatever is accepted can be read with `bytes.fromhex`. -/
theorem fromHex?_of_normalizeBytesLiteral (h : normalizeBytesLiteral v label = .ok s) :
    ∃ bs, fromHex? s = some bs := by
  cases v with
  | bytes bs =>
    cases h
    exact ⟨bs, fromHex?_toHex bs⟩
  | str t =>
    simp only [normalizeBytesLiteral] at h
    split at h
    · split at h
      · cases h
        exact ⟨_, fromHex?_toHex _⟩
      · cases h
    · split at h
      · rename_i bs hbs
        cases h
        exact ⟨bs, (fromHex?_map_lowerAscii _).trans hbs⟩
      · cases h
  | _ => cases h

/-- Whatever is accepted is a `HexText`. -/
theorem hexText_of_normalizeBytesLiteral (h : normalizeBytesLiteral v label = .ok s) :
    HexText s := by
  cases v with
  | bytes bs =>
    cases h
    exact hexText_toHex bs
  | str t =>
    simp only [normalizeBytesLiteral] at h
    split at h
    · split at h
      · cases h
        exact hexText_toHex _
      · cases h
    · split at h
      · rename_i bs hbs
        cases h
        obtain ⟨hchars, heven⟩ := fromHex?_chars hbs
        have hlow : ∀ c ∈ compactHex (strip t), _ := fun c hc =>
          lowerAscii_hex ((hchars c hc).imp (fun hs => ⟨hs, mem_compactHex hc⟩) id)
        constructor
        · intro c hc
          obtain ⟨d, hd, rfl⟩ := List.mem_map.mp hc
          exact (hlow d hd).2
        · rw [List.filter_map, List.length_map]
          have hsame : (compactHex (strip t)).filter ((fun c => !isAsciiSpace c) ∘ lowerAscii) =
              (compactHex (strip t)).filter fun c => !isAsciiSpace c := by
            apply List.filter_congr
            intro c hc
            simp [(hlow c hc).1]
          rw [hsame]
          exact heven
      · cases h
  | _ => cases h

/-- Nothing is left to remove in a stripped `HexText`. -/
theorem HexText.compactHex_eq (h : HexText s) : compactHex s = padEven s := by
  have hchar : ∀ c ∈ s, c ≠ 32 ∧ c ≠ 95 ∧ c ≠ 120 := by
    intro c hc
    rcases h.chars c hc with ⟨hs, hne⟩ | ⟨hs, hd⟩
    · refine ⟨hne, ?_, ?_⟩ <;> rintro rfl <;> exact absurd hs (by decide)
    · simp only [isDigit, Bool.and_eq_true, decide_eq_true_eq] at hd
      refine ⟨?_, by omega, by omega⟩
      rintro rfl
      omega
  have hfilter : s.filter (fun c => c ≠ 32 && c ≠ 95) = s := by
    apply List.filter_eq_self.mpr
    intro c hc
    simp [(hchar c hc).1, (hchar c hc).2.1]
  have hmarker : (text "0x").isPrefixOf s = false := by
    rw [Bool.eq_false_iff]
    intro hp
    have hx : (120 : Nat) ∈ s := (List.isPrefixOf_iff_prefix.mp hp).subset (by decide)
    exact (hchar 120 hx).2.2 rfl
  unfold compactHex
  rw [hfilter, dropMarker, if_neg (by simp [hmarker])]

theorem HexText.not_text (h : HexText s) : (text "text:").isPrefixOf s = false := by
  rw [Bool.eq_false_iff]
  intro hp
  have ht : (116 : Nat) ∈ s := (List.isPrefixOf_iff_prefix.mp hp).subset (by decide)
  rcases h.chars 116 ht with ⟨hs, _⟩ | ⟨_, hd⟩
  · exact absurd hs (by decide)
  · exact absurd hd (by decide)

theorem HexText.strip (h : HexText s) : HexText (strip s) := by
  refine ⟨fun c hc => h.chars c (mem_of_mem_strip hc), ?_⟩
  have hsame : (Lib.strip s).filter (fun c => !isAsciiSpace c) =
      s.filter fun c => !isAsciiSpace c := by
    have hdigits : ∀ t : Text, (∀ c ∈ t, isAsciiSpace c = true ∧ c ≠ 32 ∨
        isAsciiSpace c = false ∧ (isDigit c = true ∨ 97 ≤ c ∧ c ≤ 102)) →
        t.filter (fun c => !isAsciiSpace c) = t.filter fun c => !isSpace c := by
      intro t ht
      apply List.filter_congr
      intro c hc
      rcases ht c hc with ⟨hs, _⟩ | ⟨hs, hd⟩
      · rw [hs, isSpace_of_isAsciiSpace hs]
      · have hns : isSpace c = false := by
          simp only [isDigit, Bool.and_eq_true, decide_eq_true_eq] at hd
          simp only [isSpace, hs, Bool.false_or, Bool.or_eq_false_iff, Bool.and_eq_false_iff,
            decide_eq_false_iff_not]
          omega
        rw [hs, hns]
    rw [hdigits _ fun c hc => h.chars c (mem_of_mem_strip hc), hdigits _ h.chars]
    exact filter_strip s _ (fun c hc => by simpa using hc)
  rw [hsame]
  exact h.even

theorem HexText.map_lowerAscii (h : HexText s) : s.map lowerAscii = s := by
  conv_rhs => rw [← List.map_id s]
  apply List.map_congr_left
  intro c hc
  have hlow : ¬(65 ≤ c ∧ c ≤ 90) := by
    rcases h.chars c hc with ⟨hs, _⟩ | ⟨_, hd⟩
    · simp only [isAsciiSpace, Bool.or_eq_true, Bool.and_eq_true, decide_eq_true_eq] at hs
      omega
    · simp only [isDigit, Bool.and_eq_true, decide_eq_true_eq] at hd
      omega
  simp only [lowerAscii, Bool.and_eq_true, decide_eq_true_eq, if_neg hlow, id]

/-- A second pass strips the literal; it fails where that leaves an odd length. -/
theorem HexText.normalizeBytesLiteral_eq (h : HexText s) {t : Text}
    (ht : normalizeBytesLiteral (.str s) label = .ok t) :
    t = Lib.strip s ∧ fromHex? t ≠ none ∧ t.length % 2 = 0 := by
  simp only [normalizeBytesLiteral, h.strip.not_text, h.strip.compactHex_eq, Bool.false_eq_true,
    if_false] at ht
  unfold padEven at ht
  by_cases hodd : (Lib.strip s).length % 2 = 1
  · rw [if_pos hodd] at ht
    split at ht
    · rename_i bs hbs
      -- the added zero makes the number of digits odd
      have heven := (fromHex?_chars hbs).2
      rw [List.filter_cons_of_pos (by decide), List.length_cons] at heven
      have := h.strip.even
      omega
    · cases ht
  · rw [if_neg hodd] at ht
    split at ht
    · rename_i bs hbs
      cases ht
      rw [h.strip.map_lowerAscii]
      exact ⟨rfl, by rw [hbs]; simp, by omega⟩
    · cases ht

/-- A literal that one more pass returns unchanged, whatever its label. -/
def Settled (s : Text) : Prop := ∀ label, normalizeBytesLiteral (.str s) label = .ok s

theorem HexText.settled (h : HexText s) {t : Text}
    (ht : normalizeBytesLiteral (.str s) label = .ok t) : Settled t := by
  obtain ⟨rfl, hhex, heven⟩ := h.normalizeBytesLiteral_eq ht
  intro label'
  have hpad : padEven (Lib.strip s) = Lib.strip s := if_neg (by omega)
  simp only [normalizeBytesLiteral, strip_strip, h.strip.not_text, h.strip.compactHex_eq, hpad,
    Bool.false_eq_true, if_false]
  split
  · rw [h.strip.map_lowerAscii]
  · rename_i hnone
    exact absurd hnone hhex

-- The label only matters for a rejection.
theorem normalizeBytesLiteral_relabel (h : normalizeBytesLiteral v label = .ok s) :
    normalizeBytesLiteral v label' = .ok s := by
  cases v with
  | bytes bs => exact h
  | str t =>
    simp only [normalizeBytesLiteral] at h ⊢
    split at h
    · rename_i hp
      rw [if_pos hp]
      exact h
    · rename_i hp
      rw [if_neg hp]
      split at h
      · exact h
      · cases h
  | _ => cases h

/-- A literal that one more pass accepts. -/
def Legible (s : Text) : Prop := ∃ t, normalizeBytesLiteral (.str s) [] = .ok t

theorem Settled.legible (h : Settled s) : Legible s := ⟨s, h []⟩

theorem Legible.again (h : Legible s) (label : Label) :
    ∃ t, normalizeBytesLiteral (.str s) label = .ok t ∧ (Settled s → t = s) := by
  obtain ⟨t, ht⟩ := h
  refine ⟨t, normalizeBytesLiteral_relabel ht, fun hs => ?_⟩
  exact Except.ok.inj (ht.symm.trans (hs []))

instance (s : Text) : Decidable (Legible s) :=
  match h : normalizeBytesLiteral (.str s) [] with
  | .ok t => .isTrue ⟨t, h⟩
  | .error _ => .isFalse fun ⟨_, ht⟩ => nomatch h.symm.trans ht

instance (s : Text) : Decidable (Settled s) :=
  match h : normalizeBytesLiteral (.str s) [] with
  | .ok t =>
    if ht : t = s then .isTrue fun _ => normalizeBytesLiteral_relabel (ht ▸ h)
    else .isFalse fun hs => ht (Except.ok.inj (h.symm.trans (hs [])))
  | .error _ => .isFalse fun hs => nomatch h.symm.trans (hs [])

/-- The width of a register key for a bank whose last register is `maximum`. -/
def registerWidth (maximum : Nat) : Nat := if maximum ≤ 0xff then 2 else 4

def normalizeI2cRegisters (registers : Value) (maximum : Nat) : Checked (List (Text × Nat)) := do
  let es ← expectMapping registers [.field "backend.registers"]
  let entry (e : Value × Value) : Checked (Text × Nat) := do
    let reg ← expectHexInt e.1 [.field "backend.registers", .keyOf] 0 (some maximum)
    let byte ← expectHexInt e.2 [.field "backend.registers", .key e.1] 0 (some 0xff)
    .ok (hexWord (registerWidth maximum) reg, byte)
  collect entry [] es

/-- The dictionary a table of registers is kept in. -/
def registerEntries (rs : List (Text × Nat)) : Entries :=
  rs.map fun p => (.str p.1, .int p.2)

theorem normalizeI2cRegisters_self {maximum : Nat} {rs : List (Text × Nat)}
    (h : normalizeI2cRegisters v maximum = .ok rs) :
    normalizeI2cRegisters (.dict (registerEntries rs)) maximum = .ok rs := by
  unfold normalizeI2cRegisters at h ⊢
  obtain ⟨es, _, h⟩ := bind_eq_ok.mp h
  refine bind_eq_ok.mpr ⟨registerEntries rs, rfl, ?_⟩
  refine collect_map_self (fun p hp => ?_) (nodup_keys_of_collect h List.nodup_nil)
  obtain ⟨e, _, he⟩ := (mem_of_collect h hp).resolve_left (by simp)
  obtain ⟨reg, hreg, he⟩ := bind_eq_ok.mp he
  obtain ⟨byte, hbyte, he⟩ := bind_eq_ok.mp he
  cases he
  exact bind_eq_ok.mpr ⟨reg, expectHexInt_hexWord _ hreg,
    bind_eq_ok.mpr ⟨byte, expectHexInt_self hbyte, rfl⟩⟩

/-! ## Faults and settings -/

/-- The value of an enumeration with a given spelling. -/
def oneOf {α : Type} (all : List α) (spelling : α → Text) (s : Text) (label : Label)
    (names : String) : Checked α :=
  match all.find? fun a => spelling a = s with
  | some a => .ok a
  | none => reject label s!"must be one of {names}"

inductive FaultMode
  | none
  | timeout
  | errno
  | disconnect
  | shortReply
  deriving DecidableEq, Repr

def FaultMode.spelling : FaultMode → Text
  | .none => text "none"
  | .timeout => text "timeout"
  | .errno => text "errno"
  | .disconnect => text "disconnect"
  | .shortReply => text "short-reply"

def FaultMode.all : List FaultMode := [.none, .timeout, .errno, .disconnect, .shortReply]

structure Faults where
  mode : FaultMode
  remaining : Nat
  errno : Option Nat
  replyData : Option Text
  deriving DecidableEq, Repr

/-- The dictionary a fault is kept in. -/
def Faults.toEntries (f : Faults) : Entries :=
  [(.lit "mode", .str f.mode.spelling), (.lit "remaining", .int f.remaining)] ++
    (f.errno.map fun n => (Value.lit "errno", Value.int n)).toList ++
    (f.replyData.map fun d => (Value.lit "reply_data", Value.str d)).toList

def normalizeFaults (v : Value) (label : Label) : Checked Faults := do
  let faults ← expectMapping v label
  let name ← expectString (getD faults "mode" (.lit "none")) (label.dot "mode")
  let mode ← oneOf FaultMode.all FaultMode.spelling name (label.dot "mode")
    "['disconnect', 'errno', 'none', 'short-reply', 'timeout']"
  let remaining ← expectHexInt (getD faults "remaining" (.int 0)) (label.dot "remaining") 0 none
  let errno ← onlyIf (mode = .errno || has faults "errno")
    (expectHexInt (getD faults "errno" (.int 5)) (label.dot "errno") 1 (some 4095))
  let replyData ← onlyIf (mode = .shortReply || has faults "reply_data")
    (normalizeBytesLiteral (getD faults "reply_data" (.lit "")) (label.dot "reply_data"))
  pure ⟨mode, remaining, errno, replyData⟩

theorem FaultMode.expectString_spelling (m : FaultMode) :
    expectString (.str m.spelling) label = .ok m.spelling := by
  cases m <;> rfl

theorem FaultMode.oneOf_spelling (m : FaultMode) (names : String) :
    oneOf FaultMode.all FaultMode.spelling m.spelling label names = .ok m := by
  cases m <;> rfl

theorem normalizeFaults_eq_ok {f : Faults} (h : normalizeFaults v label = .ok f) :
    (∃ w l, expectHexInt w l 0 none = .ok f.remaining) ∧
    (f.mode = .errno → f.errno ≠ none) ∧ (f.mode = .shortReply → f.replyData ≠ none) ∧
    (∀ n, f.errno = some n → ∃ w l, expectHexInt w l 1 (some 4095) = .ok n) ∧
    (∀ d, f.replyData = some d → ∃ w l, normalizeBytesLiteral w l = .ok d) := by
  unfold normalizeFaults at h
  obtain ⟨faults, _, h⟩ := bind_eq_ok.mp h
  obtain ⟨name, _, h⟩ := bind_eq_ok.mp h
  obtain ⟨mode, _, h⟩ := bind_eq_ok.mp h
  obtain ⟨remaining, hremaining, h⟩ := bind_eq_ok.mp h
  obtain ⟨errno, herrno, h⟩ := bind_eq_ok.mp h
  obtain ⟨replyData, hreply, h⟩ := bind_eq_ok.mp h
  cases h
  refine ⟨⟨_, _, hremaining⟩, ?_, ?_, ?_, ?_⟩
  · rintro rfl rfl
    exact absurd (onlyIf_eq_none herrno) (by simp)
  · rintro rfl rfl
    exact absurd (onlyIf_eq_none hreply) (by simp)
  · rintro n rfl
    exact ⟨_, _, (onlyIf_eq_some herrno).2⟩
  · rintro d rfl
    exact ⟨_, _, (onlyIf_eq_some hreply).2⟩

/-- What is asked of the numbers in the dictionary of a fault. -/
structure Faults.Ranged (f : Faults) : Prop where
  remaining : ∃ w l, expectHexInt w l 0 none = .ok f.remaining
  errnoGiven : f.mode = .errno → f.errno ≠ none
  replyGiven : f.mode = .shortReply → f.replyData ≠ none
  errno : ∀ n, f.errno = some n → ∃ w l, expectHexInt w l 1 (some 4095) = .ok n

theorem ranged_of_normalizeFaults {f : Faults} (h : normalizeFaults v label = .ok f) :
    f.Ranged := by
  obtain ⟨hremaining, hmodeErrno, hmodeReply, herrno, -⟩ := normalizeFaults_eq_ok h
  exact ⟨hremaining, hmodeErrno, hmodeReply, herrno⟩

theorem Faults.Ranged.again {f : Faults} (h : f.Ranged)
    (hlegible : ∀ d, f.replyData = some d → Legible d) (label : Label) :
    ∃ f', normalizeFaults (.dict f.toEntries) label = .ok f' ∧
      ((∀ d, f.replyData = some d → Settled d) → f' = f) := by
  obtain ⟨⟨_, _, hremaining⟩, hmodeErrno, hmodeReply, herrno⟩ := h
  obtain ⟨mode, remaining, errno, replyData⟩ := f
  dsimp only at hremaining hmodeErrno hmodeReply herrno hlegible
  -- The reply is the one field that a second pass may change.
  obtain ⟨reply, hreply, hsame⟩ : ∃ reply,
      onlyIf (mode = .shortReply || has (Faults.toEntries ⟨mode, remaining, errno, replyData⟩)
        "reply_data") (normalizeBytesLiteral (getD (Faults.toEntries
          ⟨mode, remaining, errno, replyData⟩) "reply_data" (.lit "")) (label.dot "reply_data")) =
        .ok reply ∧ ((∀ d, replyData = some d → Settled d) → reply = replyData) := by
    cases replyData with
    | none =>
      have hmode : mode ≠ .shortReply := fun hm => hmodeReply hm rfl
      have hhas : has (Faults.toEntries ⟨mode, remaining, errno, none⟩) "reply_data" = false := by
        cases errno <;> rfl
      rw [hhas, decide_eq_false hmode]
      exact ⟨none, rfl, fun _ => rfl⟩
    | some d =>
      have hget : getD (Faults.toEntries ⟨mode, remaining, errno, some d⟩) "reply_data" (.lit "") =
          .str d := by cases errno <;> rfl
      have hhas : has (Faults.toEntries ⟨mode, remaining, errno, some d⟩) "reply_data" = true := by
        cases errno <;> rfl
      obtain ⟨t, ht, hts⟩ := (hlegible d rfl).again (label.dot "reply_data")
      rw [hhas, Bool.or_true, hget]
      exact ⟨some t, onlyIf_true ht, fun hs => by rw [hts (hs d rfl)]⟩
  refine ⟨⟨mode, remaining, errno, reply⟩, ?_, fun hs => by rw [hsame hs]⟩
  unfold normalizeFaults
  refine bind_eq_ok.mpr ⟨_, rfl, ?_⟩
  refine bind_eq_ok.mpr ⟨mode.spelling, mode.expectString_spelling, ?_⟩
  refine bind_eq_ok.mpr ⟨mode, mode.oneOf_spelling _, ?_⟩
  refine bind_eq_ok.mpr ⟨remaining, expectHexInt_self hremaining, ?_⟩
  refine bind_eq_ok.mpr ⟨errno, ?_, bind_eq_ok.mpr ⟨reply, hreply, rfl⟩⟩
  · cases errno with
    | none =>
      have hmode : mode ≠ .errno := fun hm => hmodeErrno hm rfl
      have hhas : has (Faults.toEntries ⟨mode, remaining, none, replyData⟩) "errno" = false := by
        cases replyData <;> rfl
      rw [hhas, decide_eq_false hmode]
      rfl
    | some n =>
      obtain ⟨w, l, hn⟩ := herrno n rfl
      have hhas : has (Faults.toEntries ⟨mode, remaining, some n, replyData⟩) "errno" = true := rfl
      rw [hhas, Bool.or_true]
      exact onlyIf_true (expectHexInt_self hn)

/-- Settings stay a dictionary: a UART configuration request stores further keys in it. -/
def normalizeSpiSettings (v : Value) (label : Label) : Checked Entries := do
  let settings ← expectMapping v label
  let mode ← expectHexInt (getD settings "mode" (.int 0)) (label.dot "mode") 0 (some 3)
  let bits ← expectHexInt (getD settings "bits_per_word" (.int 8)) (label.dot "bits_per_word") 1
    (some 32)
  let speed ← expectHexInt (getD settings "max_speed_hz" (.int 500000)) (label.dot "max_speed_hz")
    1 none
  pure [(.lit "mode", .int mode), (.lit "bits_per_word", .int bits),
    (.lit "max_speed_hz", .int speed)]

theorem normalizeSpiSettings_self {es : Entries} (h : normalizeSpiSettings v label = .ok es) :
    normalizeSpiSettings (.dict es) label' = .ok es := by
  unfold normalizeSpiSettings at h ⊢
  obtain ⟨settings, _, h⟩ := bind_eq_ok.mp h
  obtain ⟨mode, hmode, h⟩ := bind_eq_ok.mp h
  obtain ⟨bits, hbits, h⟩ := bind_eq_ok.mp h
  obtain ⟨speed, hspeed, h⟩ := bind_eq_ok.mp h
  cases h
  refine bind_eq_ok.mpr ⟨_, rfl, ?_⟩
  refine bind_eq_ok.mpr ⟨mode, expectHexInt_self hmode, ?_⟩
  refine bind_eq_ok.mpr ⟨bits, expectHexInt_self hbits, ?_⟩
  exact bind_eq_ok.mpr ⟨speed, expectHexInt_self hspeed, rfl⟩

inductive Parity
  | none
  | even
  | odd
  deriving DecidableEq, Repr

def Parity.spelling : Parity → Text
  | .none => text "none"
  | .even => text "even"
  | .odd => text "odd"

def Parity.all : List Parity := [.none, .even, .odd]

def normalizeUartSettings (v : Value) (label : Label) : Checked Entries := do
  let settings ← expectMapping v label
  let name ← expectString (getD settings "parity" (.lit "none")) (label.dot "parity")
  let parity ← oneOf Parity.all Parity.spelling name (label.dot "parity")
    "['even', 'none', 'odd']"
  let dataBits ← expectHexInt (getD settings "data_bits" (.int 8)) (label.dot "data_bits") 5
    (some 8)
  let stopBits ← expectHexInt (getD settings "stop_bits" (.int 1)) (label.dot "stop_bits") 1
    (some 2)
  let baudRate ← expectHexInt (getD settings "baud_rate" (.int 115200)) (label.dot "baud_rate") 1
    none
  let xonxoff ← expectBool (getD settings "xonxoff" (.bool false)) (label.dot "xonxoff")
  let rtscts ← expectBool (getD settings "rtscts" (.bool false)) (label.dot "rtscts")
  pure [(.lit "baud_rate", .int baudRate), (.lit "data_bits", .int dataBits),
    (.lit "parity", .str parity.spelling), (.lit "stop_bits", .int stopBits),
    (.lit "xonxoff", .bool xonxoff), (.lit "rtscts", .bool rtscts)]

theorem normalizeUartSettings_self {es : Entries} (h : normalizeUartSettings v label = .ok es) :
    normalizeUartSettings (.dict es) label' = .ok es := by
  unfold normalizeUartSettings at h ⊢
  obtain ⟨settings, _, h⟩ := bind_eq_ok.mp h
  obtain ⟨name, _, h⟩ := bind_eq_ok.mp h
  obtain ⟨parity, _, h⟩ := bind_eq_ok.mp h
  obtain ⟨dataBits, hdata, h⟩ := bind_eq_ok.mp h
  obtain ⟨stopBits, hstop, h⟩ := bind_eq_ok.mp h
  obtain ⟨baudRate, hbaud, h⟩ := bind_eq_ok.mp h
  obtain ⟨xonxoff, _, h⟩ := bind_eq_ok.mp h
  obtain ⟨rtscts, _, h⟩ := bind_eq_ok.mp h
  cases h
  refine bind_eq_ok.mpr ⟨_, rfl, ?_⟩
  refine bind_eq_ok.mpr ⟨parity.spelling, by cases parity <;> rfl, ?_⟩
  refine bind_eq_ok.mpr ⟨parity, by cases parity <;> rfl, ?_⟩
  refine bind_eq_ok.mpr ⟨dataBits, expectHexInt_self hdata, ?_⟩
  refine bind_eq_ok.mpr ⟨stopBits, expectHexInt_self hstop, ?_⟩
  refine bind_eq_ok.mpr ⟨baudRate, expectHexInt_self hbaud, ?_⟩
  exact bind_eq_ok.mpr ⟨xonxoff, rfl, bind_eq_ok.mpr ⟨rtscts, rfl, rfl⟩⟩

end Sensorium.Model

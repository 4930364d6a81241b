import Sensorium.Inventory.WireLimits
import Sensorium.Lib.Scans

/-!
# Names of ports in three parsers

The check of a model takes a port name apart with a lazy pattern, the daemon scans its digits from
the right, and the kernel does so into a base of 32 bytes and a number of 32 bits.
-/

namespace Sensorium.Inventory

open Lib Model

/-! ## The parsers -/

/-- `[A-Za-z_]`. -/
def isWordStart (c : Nat) : Bool := isLetter c || c = 95

/-- `[A-Za-z0-9_]`. -/
def isWordChar (c : Nat) : Bool := isWordStart c || isDigit c

/-- `re.fullmatch(r"([A-Za-z_][A-Za-z0-9_]*?)(\d+)", value)` of an ASCII text: the groups. -/
def matchNumericSuffix (s : Text) : Option (Text × Text) :=
  (lazySuffix isWordStart isWordChar isDigit s).map fun i => (s.take i, s.drop i)

/-- `split_runtime_numeric_suffix`, with its pattern. -/
def splitByPattern (v : Value) (label : Label) : Checked (Text × Text × Nat) := do
  let s ← expectName v label
  match matchNumericSuffix s with
  | some (base, digits) => do
    let index ← intOfDigits digits
    .ok (s, base, index)
  | none => reject label "must end in a numeric suffix"

/-- `parse_tty_name`, with its loop.  `isdigit` is `str.isdigit` of one character, which also holds
of digits outside ASCII. -/
def scanTtyName (isdigit : Nat → Bool) (s : Text) : Option (Text × Nat) :=
  let split := scanBack isdigit s s.length
  if split = s.length ∨ split = 0 then none
  else if (s.take split).head?.any isWordStart && (s.take split).all isWordChar then
    (decimalLiteral? ((s.drop split).map asciiOf)).map fun n => (s.take split, n)
  else none

theorem isDigit_of_isWordStart {c : Nat} (h : isWordStart c = true) : isDigit c = false := by
  unfold isWordStart isLetter at h
  unfold isDigit
  simp only [Bool.or_eq_true, Bool.and_eq_true, decide_eq_true_eq] at h
  simp only [Bool.and_eq_false_iff, decide_eq_false_iff_not]
  omega

theorem matchNumericSuffix_eq (s : Text) : matchNumericSuffix s =
    if !(s.rtakeWhile isDigit).isEmpty && ((s.rdropWhile isDigit).head?.any isWordStart &&
      (s.rdropWhile isDigit).all isWordChar) then
      some (s.rdropWhile isDigit, s.rtakeWhile isDigit) else none := by
  rw [matchNumericSuffix, lazySuffix_eq fun _ => isDigit_of_isWordStart]
  split
  · rw [Option.map_some, take_rdropWhile, drop_rdropWhile]
  · rfl

/-- A word that ends in digits. -/
def suffixed (s : Text) : Bool :=
  s.rtakeWhile isDigit ≠ [] && (s.rdropWhile isDigit).head?.any isWordStart &&
    (s.rdropWhile isDigit).all isWordChar

theorem suffixed_eq (s : Text) : suffixed s =
    (!(s.rtakeWhile isDigit).isEmpty && ((s.rdropWhile isDigit).head?.any isWordStart &&
      (s.rdropWhile isDigit).all isWordChar)) := by
  unfold suffixed
  cases s.rtakeWhile isDigit with
  | nil => rfl
  | cons c cs => rfl

/-- The pattern ends its first group where the digits at the end begin. -/
theorem splitRuntimeNumericSuffix_eq (v : Value) (label : Label) :
    splitRuntimeNumericSuffix v label = splitByPattern v label := by
  unfold splitRuntimeNumericSuffix splitByPattern
  congr 1
  funext s
  rw [matchNumericSuffix_eq, ← suffixed_eq]
  dsimp only
  by_cases hmatch : suffixed s = true
  · rw [if_pos hmatch]
    exact if_pos hmatch
  · rw [if_neg hmatch]
    exact if_neg hmatch

/-- The loop stops where the digits at the end begin. -/
theorem digitSplit_eq_scanBack (name : Text) :
    Kernel.digitSplit name = scanBack isDigit name name.length :=
  (scanBack_length isDigit name).symm

section Digits

variable {isdigit : Nat → Bool} (hdigit : ∀ c < 128, isdigit c = isDigit c)

include hdigit

theorem scanTtyName_eq {s : Text} (hs : ∀ c ∈ s, c < 128) :
    scanTtyName isdigit s = parseTtyName s := by
  have hsplit : scanBack isdigit s s.length = (s.rdropWhile isDigit).length := by
    rw [scanBack_congr fun c hc => hdigit c (hs c hc), scanBack_length]
  -- The digits are those of ASCII already.
  have hascii : (s.rtakeWhile isDigit).map asciiOf = s.rtakeWhile isDigit := by
    refine (List.map_congr_left fun c hc => ?_).trans (List.map_id _)
    exact if_pos (hs c ((List.rtakeWhile_suffix isDigit s).subset hc))
  unfold scanTtyName parseTtyName
  dsimp only
  rw [hsplit, take_rdropWhile, drop_rdropWhile, hascii]
  show _ = if suffixed s = true then _ else none
  have hlen : (s.rdropWhile isDigit).length ≤ s.length :=
    (List.rdropWhile_prefix isDigit s).length_le
  have hdigits : s.rtakeWhile isDigit = [] ↔ s.length ≤ (s.rdropWhile isDigit).length := by
    rw [← drop_rdropWhile, List.drop_eq_nil_iff]
  by_cases hends : (s.rdropWhile isDigit).length = s.length ∨ (s.rdropWhile isDigit).length = 0
  · rw [if_pos hends, if_neg]
    unfold suffixed
    rcases hends with hall | hnone
    · rw [decide_eq_false (not_not.mpr (hdigits.mpr hall.ge))]
      exact Bool.false_ne_true
    · rw [List.length_eq_zero_iff.mp hnone, List.head?_nil, Option.any_none, Bool.and_false]
      exact Bool.false_ne_true
  · obtain ⟨hall, hnone⟩ := not_or.mp hends
    have hne : s.rtakeWhile isDigit ≠ [] := fun hnil => hall (hlen.antisymm (hdigits.mp hnil))
    rw [if_neg hends, suffixed, decide_eq_true hne, Bool.true_and]

/-! ## Agreement -/

/-- What the three parsers make of an accepted name, and what becomes of `DEVICE_ADD` for its
port. -/
structure NamesAgree (isdigit : Nat → Bool) (s base : Text) (index : Nat) : Prop where
  daemon : scanTtyName isdigit s = some (base, index)
  kernel : Kernel.parseTtyName s 32 = .ok (base, index)
  spelled : s = base ++ decimal index
  alone : ∀ v label s', expectRuntimeUartPortName v label = .ok s' →
    splitByPattern v label = .ok (s', base, index) ∨ scanTtyName isdigit s' = some (base, index) ∨
      Kernel.parseTtyName s' 32 = .ok (base, index) → s' = s
  located : ∀ handle busHandle dev backend, dev.part = .uart s backend → handle < 2 ^ 32 →
    busHandle < 2 ^ 32 → ∃ cmd ∈ packDevice handle busHandle dev, passesDevice cmd = true

variable {v : Value} {label : Label} {s : Text}

omit hdigit in
theorem splitByPattern_parts {base : Text} {index : Nat}
    (h : splitByPattern v label = .ok (s, base, index)) :
    base = s.rdropWhile isDigit ∧ intOfDigits (s.rtakeWhile isDigit) = .ok index := by
  unfold splitByPattern at h
  obtain ⟨t, _, h⟩ := bind_eq_ok.mp h
  rw [matchNumericSuffix_eq] at h
  split at h
  · rename_i hmatch
    obtain ⟨i, hi, h⟩ := bind_eq_ok.mp h
    cases h
    split at hmatch
    · cases hmatch
      exact ⟨rfl, hi⟩
    · cases hmatch
  · cases h

omit hdigit in
/-- The check of a model splits an accepted name into the parts of its only spelling. -/
theorem splitByPattern_of_accepted (h : expectRuntimeUartPortName v label = .ok s) :
    ∃ base index, splitByPattern v label = .ok (s, base, index) ∧ s = base ++ decimal index ∧
      base.rdropWhile isDigit = base ∧ base ≠ [] ∧ parseTtyName s = some (base, index) := by
  obtain ⟨_, base, index, hspelled, hbase, hne, hparse⟩ := portName_shape h
  unfold expectRuntimeUartPortName at h
  obtain ⟨⟨t, base', index'⟩, hsplit, h⟩ := bind_eq_ok.mp h
  dsimp only at h
  split at h
  · cases h
    rw [splitRuntimeNumericSuffix_eq] at hsplit
    obtain ⟨hb, hi⟩ := splitByPattern_parts hsplit
    rw [hspelled, rdropWhile_append_decimal hbase] at hb
    rw [hspelled, rtakeWhile_append_decimal hbase] at hi
    have hindex : index' = index := intOfDigits_decimal hi
    subst hb hindex
    exact ⟨base', index', hsplit, hspelled, hbase, hne, hparse⟩
  · cases h

/-- On an accepted name the daemon always agrees with the check of the model, and the kernel agrees
where the base fits its buffer and the number its type. -/
theorem parsed_of_accepted (h : expectRuntimeUartPortName v label = .ok s) :
    ∃ base index, splitByPattern v label = .ok (s, base, index) ∧ s = base ++ decimal index ∧
      scanTtyName isdigit s = some (base, index) ∧ parseTtyName s = some (base, index) ∧
      ∀ pair, Kernel.parseTtyName s 32 = .ok pair ↔
        pair = (base, index) ∧ base.length < 32 ∧ index < 2 ^ 32 := by
  obtain ⟨base, index, hsplit, hspelled, hbase, hne, hparse⟩ := splitByPattern_of_accepted h
  have hchars : ∀ c ∈ s, c < 128 :=
    fun c hc => (lt_of_isNameChar (List.all_eq_true.mp (portName_shape h).1 c hc)).2
  refine ⟨base, index, hsplit, hspelled, (scanTtyName_eq hdigit hchars).trans hparse, hparse, ?_⟩
  intro pair
  rw [hspelled, parseTtyName_decimal hbase hne]
  by_cases hfits : base.length < 32 ∧ index < 2 ^ 32
  · rw [if_pos hfits, Except.ok.injEq]
    exact ⟨fun heq => ⟨heq.symm, hfits⟩, fun hpair => hpair.1.symm⟩
  · rw [if_neg hfits]
    refine iff_of_false (fun heq => ?_) fun hpair => hfits hpair.2
    split at heq <;> cases heq

/-- The three parsers agree on an accepted name, and its port passes the check of its location,
exactly where the base is shorter than 32 characters and the number has 32 bits. -/
theorem tty_names_agree_iff (h : expectRuntimeUartPortName v label = .ok s) :
    ∃ base index, splitByPattern v label = .ok (s, base, index) ∧
      (NamesAgree isdigit s base index ↔ base.length < 32 ∧ index < 2 ^ 32) := by
  obtain ⟨base, index, hsplit, hspelled, hdaemon, hparse, hkernel⟩ := parsed_of_accepted hdigit h
  refine ⟨base, index, hsplit, fun hagree => ((hkernel _).mp hagree.kernel).2, fun hfits => ?_⟩
  refine ⟨hdaemon, (hkernel _).mpr ⟨rfl, hfits⟩, hspelled, ?_, ?_⟩
  · intro v' label' s' h' hread
    obtain ⟨base', index', hsplit', hspelled', hdaemon', _, hkernel'⟩ :=
      parsed_of_accepted hdigit h'
    -- Each of the three gives the parts that spell the name.
    have hparts : (base, index) = (base', index') := by
      rcases hread with hmodel | hscan | hkern
      · rw [hsplit'] at hmodel
        cases hmodel
        rfl
      · exact Option.some.inj (hscan.symm.trans hdaemon')
      · exact ((hkernel' _).mp hkern).1
    cases hparts
    rw [hspelled, hspelled']
  · intro handle busHandle dev backend hpart hhandle hbus
    exact (uartPacked_iff h hpart hparse).mpr ⟨hhandle, hbus, hfits⟩

end Digits

theorem tty_names_agree_sparse :
    NamesAgree isDigit (text "ttyAMA511") (text "ttyAMA") 511 := by
  obtain ⟨base, index, hsplit, hagree⟩ := @tty_names_agree_iff isDigit (fun _ _ => rfl)
    (.lit "ttyAMA511") [] (text "ttyAMA511") (ok_of_toOption (by decide +kernel))
  have hparts : (splitByPattern (.lit "ttyAMA511") []).toOption =
      some (text "ttyAMA511", text "ttyAMA", 511) := by decide +kernel
  cases hsplit.symm.trans (ok_of_toOption hparts)
  exact hagree.mpr (by decide)

/-- A base of 32 characters is accepted, and the kernel refuses it. -/
theorem long_base_refused :
    ¬ ∀ isdigit : Nat → Bool, (∀ c < 128, isdigit c = isDigit c) → ∀ v label s,
      expectRuntimeUartPortName v label = .ok s → ∃ base index,
        splitByPattern v label = .ok (s, base, index) ∧ NamesAgree isdigit s base index := by
  intro h
  obtain ⟨base, index, _, hagree⟩ := h isDigit (fun _ _ => rfl)
    (.lit "ttyTemperatureControlFrontPanel_0") [] (text "ttyTemperatureControlFrontPanel_0")
    (ok_of_toOption (by decide +kernel))
  have hrefused : (Kernel.parseTtyName (text "ttyTemperatureControlFrontPanel_0") 32).toOption =
      none := by decide +kernel
  rw [hagree.kernel] at hrefused
  cases hrefused

end Sensorium.Inventory

import Mathlib.Data.List.Basic
import Mathlib.Data.List.Induction
import Mathlib.Logic.Function.Basic

/-!
# Histories

A run that appends what it does to a list.  A property of each entry may depend on the entries
before it, and a value that is set by some entries is that of the last of them; so are the cells of
a list that is assigned to.
-/

namespace Sensorium.Lib

variable {α β : Type*}

/-- `P` holds of every entry and of the entries before it. -/
def AtEach (P : List α → α → Prop) (xs : List α) : Prop :=
  ∀ past x rest, xs = past ++ x :: rest → P past x

theorem atEach_nil (P : List α → α → Prop) : AtEach P [] := by
  intro past x rest h
  cases past <;> cases h

theorem atEach_concat {P : List α → α → Prop} {xs : List α} {y : α} :
    AtEach P (xs ++ [y]) ↔ AtEach P xs ∧ P xs y := by
  constructor
  · intro h
    refine ⟨fun past x rest hsplit => h past x (rest ++ [y]) ?_, h xs y [] rfl⟩
    rw [hsplit, List.append_assoc, List.cons_append]
  · rintro ⟨hpast, hlast⟩ past x rest hsplit
    rcases List.eq_nil_or_concat rest with rfl | ⟨rest, z, rfl⟩
    · obtain ⟨rfl, hx⟩ := List.append_inj' hsplit rfl
      cases hx
      exact hlast
    · rw [List.concat_eq_append, ← List.cons_append, ← List.append_assoc] at hsplit
      obtain ⟨rfl, -⟩ := List.append_inj' hsplit rfl
      exact hpast past x rest rfl

theorem AtEach.and_mem {P : List α → α → Prop} {Q : α → Prop} {xs : List α} (h : AtEach P xs)
    (hmem : ∀ x ∈ xs, Q x) : AtEach (fun past x => P past x ∧ Q x) xs := by
  rintro past x rest rfl
  exact ⟨h past x rest rfl, hmem x (List.mem_append_right _ List.mem_cons_self)⟩

/-- Where `R` holds, `P` and `Q` of each entry may be exchanged. -/
theorem AtEach.congr {P Q R : List α → α → Prop} {xs : List α} (h : AtEach R xs)
    (hiff : ∀ past x, R past x → (P past x ↔ Q past x)) : AtEach P xs ↔ AtEach Q xs :=
  forall_congr' fun past => forall_congr' fun x => forall_congr' fun rest =>
    forall_congr' fun hsplit => hiff past x (h past x rest hsplit)

/-- The value that the last entry left, or the one of the start. -/
def latest (start : β) (value : α → β) (xs : List α) : β := (xs.getLast?.map value).getD start

theorem latest_concat (start : β) (value : α → β) (xs : List α) (y : α) :
    latest start value (xs ++ [y]) = value y := by
  rw [latest, List.getLast?_concat]
  rfl

/-- A value that only some entries set is changed by these. -/
theorem latest_filter_concat (start : β) (value : α → β) (sets : α → Bool) (xs : List α) (y : α) :
    latest start value ((xs ++ [y]).filter sets) =
      if sets y then value y else latest start value (xs.filter sets) := by
  rw [List.filter_append]
  cases hy : sets y with
  | true => rw [List.filter_cons_of_pos hy, List.filter_nil, latest_concat, if_pos rfl]
  | false =>
    rw [List.filter_cons_of_neg (by rw [hy]; exact Bool.false_ne_true), List.filter_nil,
      List.append_nil, if_neg Bool.false_ne_true]

/-- Where every entry sets the value, it is that of the last. -/
theorem latest_filter_of_all {sets : α → Bool} {xs : List α} (h : ∀ x ∈ xs, sets x = true)
    (start : β) (value : α → β) : latest start value (xs.filter sets) = latest start value xs := by
  rw [List.filter_eq_self.mpr h]

/-! ## Since when -/

/-- An entry with `P`, and none with `Q` after it. -/
def Since (P Q : α → Prop) (xs : List α) : Prop :=
  ∃ past x after, xs = past ++ x :: after ∧ P x ∧ ∀ y ∈ after, ¬ Q y

theorem not_since_nil (P Q : α → Prop) : ¬ Since P Q [] := by
  rintro ⟨past, x, after, hsplit, -, -⟩
  cases past <;> cases hsplit

theorem since_concat {P Q : α → Prop} {xs : List α} {y : α} :
    Since P Q (xs ++ [y]) ↔ P y ∨ Since P Q xs ∧ ¬ Q y := by
  constructor
  · rintro ⟨past, x, after, hsplit, hx, hafter⟩
    rcases List.eq_nil_or_concat after with rfl | ⟨after, z, rfl⟩
    · obtain ⟨-, hlast⟩ := List.append_inj' hsplit rfl
      cases hlast
      exact .inl hx
    · rw [List.concat_eq_append, ← List.cons_append, ← List.append_assoc] at hsplit
      obtain ⟨rfl, hlast⟩ := List.append_inj' hsplit rfl
      cases hlast
      rw [List.concat_eq_append] at hafter
      refine .inr ⟨⟨past, x, after, rfl, hx, fun w hw => ?_⟩, ?_⟩
      · exact hafter w (List.mem_append_left _ hw)
      · exact hafter y (List.mem_append_right _ List.mem_cons_self)
  · rintro (hy | ⟨⟨past, x, after, rfl, hx, hafter⟩, hy⟩)
    · exact ⟨xs, y, [], rfl, hy, fun _ hw => nomatch hw⟩
    · refine ⟨past, x, after ++ [y], by simp, hx, fun w hw => ?_⟩
      rcases List.mem_append.mp hw with hw | hw
      · exact hafter w hw
      · rw [List.mem_singleton] at hw
        rwa [hw]

/-- `x` is the last entry that meets `P` with what came before it; `after` came after it. -/
structure LastAt (P : List α → α → Prop) (xs : List α) (x : α) (after : List α) : Prop where
  split : ∃ past, xs = past ++ x :: after ∧ P past x
  last : ∀ past y rest, xs = past ++ y :: rest → rest.length < after.length → ¬ P past y

theorem lastAt_concat {P : List α → α → Prop} {xs : List α} {x y : α} {after : List α} :
    LastAt P (xs ++ [y]) x after ↔
      x = y ∧ after = [] ∧ P xs y ∨
        ∃ before, after = before ++ [y] ∧ LastAt P xs x before ∧ ¬ P xs y := by
  constructor
  · rintro ⟨⟨past, hsplit, hx⟩, hlast⟩
    rcases List.eq_nil_or_concat after with rfl | ⟨after, z, rfl⟩
    · obtain ⟨rfl, hxy⟩ := List.append_inj' hsplit rfl
      cases hxy
      exact .inl ⟨rfl, rfl, hx⟩
    · rw [List.concat_eq_append] at hsplit hlast ⊢
      rw [← List.cons_append, ← List.append_assoc] at hsplit
      obtain ⟨rfl, hyz⟩ := List.append_inj' hsplit rfl
      cases hyz
      refine .inr ⟨after, rfl, ⟨⟨past, rfl, hx⟩, fun past' w rest hsplit' hlen => ?_⟩, ?_⟩
      · refine hlast past' w (rest ++ [y]) ?_ ?_
        · rw [hsplit', List.append_assoc, List.cons_append]
        · simp only [List.length_append, List.length_cons, List.length_nil]
          omega
      · exact hlast _ y [] rfl (by simp)
  · rintro (⟨rfl, rfl, hx⟩ | ⟨before, rfl, ⟨⟨past, rfl, hx⟩, hlast⟩, hy⟩)
    · exact ⟨⟨xs, rfl, hx⟩, fun _ _ _ _ hlen => absurd hlen (Nat.not_lt_zero _)⟩
    · refine ⟨⟨past, by simp, hx⟩, fun past' w rest hsplit hlen => ?_⟩
      rcases List.eq_nil_or_concat rest with rfl | ⟨rest, z, rfl⟩
      · obtain ⟨rfl, hyw⟩ := List.append_inj' hsplit rfl
        cases hyw
        exact hy
      · rw [List.concat_eq_append] at hsplit hlen
        rw [← List.cons_append, ← List.append_assoc] at hsplit
        obtain ⟨hsplit, -⟩ := List.append_inj' hsplit rfl
        simp only [List.length_append, List.length_cons, List.length_nil] at hlen
        exact hlast past' w rest hsplit (by omega)

theorem not_lastAt_nil (P : List α → α → Prop) (x : α) (after : List α) :
    ¬ LastAt P [] x after := by
  rintro ⟨⟨past, hsplit, -⟩, -⟩
  cases past <;> cases hsplit

/-! ## Assignments -/

section Assignments

variable [DecidableEq α]

/-- The value of a name after a list of assignments. -/
def valueAfter (start : α → β) (log : List (α × β)) (a : α) : β :=
  latest (start a) Prod.snd (log.filter fun e => e.1 = a)

theorem valueAfter_concat (start : α → β) (log : List (α × β)) (e : α × β) :
    valueAfter start (log ++ [e]) = Function.update (valueAfter start log) e.1 e.2 := by
  funext a
  unfold valueAfter
  rw [latest_filter_concat]
  by_cases h : e.1 = a
  · subst h
    rw [decide_eq_true rfl, if_pos rfl, Function.update_self]
  · rw [decide_eq_false h, if_neg Bool.false_ne_true, Function.update_of_ne (Ne.symm h)]

theorem valueAfter_append (start : α → β) (log later : List (α × β)) :
    valueAfter start (log ++ later) = valueAfter (valueAfter start log) later := by
  induction later using List.reverseRecOn with
  | nil => rw [List.append_nil]; rfl
  | append_singleton later e ih =>
    rw [← List.append_assoc, valueAfter_concat, valueAfter_concat, ih]

end Assignments

/-- Assignments to the cells of a list. -/
def assignAll (xs : List β) (log : List (Nat × β)) : List β :=
  log.foldl (fun xs e => xs.set e.1 e.2) xs

theorem set_map_range (f : Nat → β) (n k : Nat) (v : β) :
    ((List.range n).map f).set k v = (List.range n).map (Function.update f k v) := by
  apply List.ext_getElem
  · rw [List.length_set, List.length_map, List.length_map]
  · intro i hi hi'
    rw [List.getElem_set, List.getElem_map, List.getElem_map, List.getElem_range]
    by_cases h : k = i
    · subst h
      rw [if_pos rfl, Function.update_self]
    · rw [if_neg h, Function.update_of_ne (Ne.symm h)]

/-- The cells hold the values that were assigned last. -/
theorem assignAll_map_range (f : Nat → β) (n : Nat) (log : List (Nat × β)) :
    assignAll ((List.range n).map f) log = (List.range n).map (valueAfter f log) := by
  induction log using List.reverseRecOn with
  | nil => rfl
  | append_singleton log e ih =>
    rw [assignAll, List.foldl_append, List.foldl_cons, List.foldl_nil]
    change (assignAll _ log).set e.1 e.2 = _
    rw [ih, set_map_range, valueAfter_concat]

end Sensorium.Lib

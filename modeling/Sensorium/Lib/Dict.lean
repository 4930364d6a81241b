import Mathlib.Data.List.Basic
import Mathlib.Data.List.Nodup
import Mathlib.Data.List.Forall2

/-!
# Insertion-ordered dictionaries and checks that build them

A dictionary is a list of pairs.  `dictSet` overwrites in place or appends, so the order is the one
in which the keys first came.  `collect` is the loop that checks the entries of a collection one by
one and stores each result under its key.
-/

namespace Sensorium.Lib

universe u v

variable {κ ν α β : Type u} {ε : Type v}

/-! ## Lists related element by element -/

theorem forall₂_trans {R : α → α → Prop} (hR : ∀ a b c, R a b → R b c → R a c)
    {xs ys zs : List α} (h : List.Forall₂ R xs ys) (h' : List.Forall₂ R ys zs) :
    List.Forall₂ R xs zs := by
  induction h generalizing zs with
  | nil => exact h'
  | cons hab _ ih =>
    cases h' with
    | cons hbc h' => exact .cons (hR _ _ _ hab hbc) (ih h')

theorem map_eq_of_forall₂ {γ : Type*} {R : α → β → Prop} {f : α → γ} {g : β → γ} {xs : List α}
    {ys : List β} (h : List.Forall₂ R xs ys) (hf : ∀ x y, R x y → g y = f x) :
    ys.map g = xs.map f := by
  induction h with
  | nil => rfl
  | cons hxy _ ih => rw [List.map_cons, List.map_cons, ih, hf _ _ hxy]

theorem exists_mem_of_forall₂ {R : α → β → Prop} {xs : List α} {ys : List β} {y : β}
    (h : List.Forall₂ R xs ys) (hy : y ∈ ys) : ∃ x ∈ xs, R x y := by
  induction h with
  | nil => exact absurd hy (by simp)
  | cons hxy _ ih =>
    rcases List.mem_cons.mp hy with rfl | hy
    · exact ⟨_, List.mem_cons_self, hxy⟩
    · obtain ⟨x, hx, hR⟩ := ih hy
      exact ⟨x, List.mem_cons_of_mem _ hx, hR⟩

theorem exists_forall₂ {R : α → β → Prop} {xs : List α} (h : ∀ x ∈ xs, ∃ y, R x y) :
    ∃ ys, List.Forall₂ R xs ys := by
  induction xs with
  | nil => exact ⟨[], .nil⟩
  | cons x xs ih =>
    obtain ⟨y, hy⟩ := h x List.mem_cons_self
    obtain ⟨ys, hys⟩ := ih fun x' hx' => h x' (List.mem_cons_of_mem _ hx')
    exact ⟨y :: ys, .cons hy hys⟩

theorem forall₂_mem {R : α → β → Prop} {xs : List α} {ys : List β} (h : List.Forall₂ R xs ys) :
    List.Forall₂ (fun x y => x ∈ xs ∧ R x y) xs ys :=
  (List.forall₂_and_left _ _).mpr ⟨fun _ hx => hx, h⟩

theorem forall₂_of_zipIdx {R : α → β → Prop} {xs : List α} {ys : List β}
    (h : List.Forall₂ (fun p y => R p.1 y) xs.zipIdx ys) : List.Forall₂ R xs ys := by
  have hmap : List.Forall₂ R (xs.zipIdx.map Prod.fst) ys := List.forall₂_map_left_iff.mpr h
  rwa [List.zipIdx_map_fst] at hmap

theorem forall₂_zipIdx_self {R : α × Nat → α → Prop} {xs : List α}
    (h : ∀ x ∈ xs, ∀ i, R (x, i) x) : List.Forall₂ R xs.zipIdx xs := by
  have hfst : List.Forall₂ (fun p x => p.1 = x) xs.zipIdx xs := by
    rw [List.forall₂_iff_get]
    refine ⟨by simp, fun i hi hi' => ?_⟩
    simp
  refine (forall₂_mem hfst).imp ?_
  rintro p x ⟨hp, rfl⟩
  exact h p.1 (List.fst_mem_of_mem_zipIdx hp) p.2

/-! ## Checks -/

theorem bind_eq_ok {x : Except ε α} {f : α → Except ε β} {b : β} :
    (x >>= f) = .ok b ↔ ∃ a, x = .ok a ∧ f a = .ok b := by
  cases x with
  | error e => exact ⟨fun h => (nomatch h), fun ⟨_, h, _⟩ => (nomatch h)⟩
  | ok a => exact ⟨fun h => ⟨a, rfl, h⟩, fun ⟨_, h, hf⟩ => by cases h; exact hf⟩

theorem ok_of_toOption {x : Except ε α} {a : α} (h : x.toOption = some a) : x = .ok a := by
  cases x with
  | error e => cases h
  | ok b =>
    cases h
    rfl

theorem mapM_eq_ok {f : α → Except ε β} {xs : List α} {ys : List β} :
    xs.mapM f = .ok ys ↔ List.Forall₂ (fun x y => f x = .ok y) xs ys := by
  induction xs generalizing ys with
  | nil =>
    rw [List.mapM_nil, List.forall₂_nil_left_iff]
    exact ⟨fun h => by cases h; rfl, fun h => by rw [h]; rfl⟩
  | cons x xs ih =>
    rw [List.mapM_cons, bind_eq_ok]
    constructor
    · rintro ⟨y, hy, h⟩
      obtain ⟨zs, hzs, h⟩ := bind_eq_ok.mp h
      cases h
      exact .cons hy (ih.mp hzs)
    · intro h
      cases h with
      | @cons _ y _ zs hy hzs => exact ⟨y, hy, bind_eq_ok.mpr ⟨zs, ih.mpr hzs, rfl⟩⟩

/-- A check that accepts the spelling of each of its results accepts the spelled list. -/
theorem mapM_map_self {f : α → Except ε β} {enc : β → α} {ys : List β}
    (h : ∀ y ∈ ys, f (enc y) = .ok y) : (ys.map enc).mapM f = .ok ys := by
  rw [mapM_eq_ok, List.forall₂_map_left_iff, List.forall₂_same]
  exact h

/-- Where no item fails, the whole list is mapped. -/
theorem exists_mapM_eq_some {f : α → Option β} {P : β → Prop} {xs : List α}
    (h : ∀ x ∈ xs, ∃ y, f x = some y ∧ P y) :
    ∃ ys, xs.mapM f = some ys ∧ ys.length = xs.length ∧ ∀ y ∈ ys, P y := by
  induction xs with
  | nil => exact ⟨[], rfl, rfl, fun y hy => (nomatch hy)⟩
  | cons x xs ih =>
    obtain ⟨y, hy, hP⟩ := h x List.mem_cons_self
    obtain ⟨ys, hys, hlen, hall⟩ := ih fun z hz => h z (List.mem_cons_of_mem x hz)
    refine ⟨y :: ys, ?_, congrArg (· + 1) hlen, ?_⟩
    · rw [List.mapM_cons, hy, hys]
      rfl
    · intro z hz
      rcases List.mem_cons.mp hz with rfl | hz
      · exact hP
      · exact hall z hz

theorem mapM_eq_some_map {f : α → Option β} {g : α → β} {xs : List α}
    (h : ∀ x ∈ xs, f x = some (g x)) : xs.mapM f = some (xs.map g) := by
  induction xs with
  | nil => rfl
  | cons x xs ih =>
    rw [List.mapM_cons, h x List.mem_cons_self, ih fun y hy => h y (List.mem_cons_of_mem x hy)]
    rfl

theorem isSome_mapM {f : α → Option β} {xs : List α} :
    (xs.mapM f).isSome = true ↔ ∀ x ∈ xs, (f x).isSome = true := by
  induction xs with
  | nil => simp
  | cons x xs ih =>
    rw [List.forall_mem_cons, ← ih, List.mapM_cons]
    cases f x with
    | none => simp
    | some y => cases xs.mapM f <;> simp

theorem mem_of_mapM_eq_ok {f : α → Except ε β} {xs : List α} {ys : List β} {y : β}
    (h : xs.mapM f = .ok ys) (hy : y ∈ ys) : ∃ x ∈ xs, f x = .ok y :=
  exists_mem_of_forall₂ (mapM_eq_ok.mp h) hy

/-! ## Dictionaries -/

abbrev keys (d : List (κ × ν)) : List κ := d.map Prod.fst

/-- `a` stands in a list under `k`. -/
def Belongs (groups : List (κ × List α)) (k : κ) (a : α) : Prop := ∃ g ∈ groups, g.1 = k ∧ a ∈ g.2

theorem belongs_nil (k : κ) (a : α) : ¬ Belongs [] k a := fun ⟨_, hg, _⟩ => nomatch hg

theorem belongs_cons {g : κ × List α} {groups : List (κ × List α)} {k : κ} {a : α} :
    Belongs (g :: groups) k a ↔ g.1 = k ∧ a ∈ g.2 ∨ Belongs groups k a := by
  simp only [Belongs, List.mem_cons, or_and_right, exists_or, exists_eq_left]

section

variable [DecidableEq κ]

def dictGet : List (κ × ν) → κ → Option ν
  | [], _ => none
  | (k', v) :: d, k => if k' = k then some v else dictGet d k

def dictSet : List (κ × ν) → κ → ν → List (κ × ν)
  | [], k, v => [(k, v)]
  | (k', v') :: d, k, v => if k' = k then (k', v) :: d else (k', v') :: dictSet d k v

theorem mem_of_dictGet {d : List (κ × ν)} {k : κ} {v : ν} (h : dictGet d k = some v) :
    (k, v) ∈ d := by
  induction d with
  | nil => cases h
  | cons p d ih =>
    rw [dictGet] at h
    split at h
    · rename_i hk
      cases h
      rw [← hk]
      exact List.mem_cons_self
    · exact List.mem_cons_of_mem _ (ih h)

theorem notMem_of_dictGet {d : List (κ × ν)} {k : κ} (h : dictGet d k = none) (v : ν) :
    (k, v) ∉ d := by
  induction d with
  | nil => simp
  | cons p d ih =>
    rw [dictGet] at h
    split at h
    · cases h
    · rename_i hk
      intro hmem
      rcases List.mem_cons.mp hmem with rfl | hmem
      · exact hk rfl
      · exact ih h hmem

-- With different keys, a lookup finds the one pair of its key.
theorem eq_of_dictGet {d : List (κ × ν)} {k : κ} {v w : ν} (hd : (keys d).Nodup)
    (hget : dictGet d k = some v) (hmem : (k, w) ∈ d) : w = v := by
  induction d with
  | nil => exact absurd hmem (by simp)
  | cons p d ih =>
    rw [keys, List.map_cons, List.nodup_cons] at hd
    rw [dictGet] at hget
    rcases List.mem_cons.mp hmem with rfl | hmem
    · rw [if_pos rfl] at hget
      exact Option.some.inj hget
    · have hne : p.1 ≠ k := by
        rintro rfl
        exact hd.1 (List.mem_map.mpr ⟨_, hmem, rfl⟩)
      rw [if_neg hne] at hget
      exact ih hd.2 hget hmem

theorem dictGet_of_mem {d : List (κ × ν)} {k : κ} {v : ν} (hd : (keys d).Nodup)
    (hmem : (k, v) ∈ d) : dictGet d k = some v := by
  cases hget : dictGet d k with
  | none => exact absurd hmem (notMem_of_dictGet hget v)
  | some w => rw [eq_of_dictGet hd hget hmem]

/-- The order of the entries does not matter where the keys are different. -/
theorem dictGet_perm {d e : List (κ × ν)} (h : d.Perm e) (hd : (keys d).Nodup) (k : κ) :
    dictGet d k = dictGet e k := by
  have he : (keys e).Nodup := (h.map Prod.fst).nodup_iff.mp hd
  cases hget : dictGet e k with
  | some v => exact dictGet_of_mem hd (h.mem_iff.mpr (mem_of_dictGet hget))
  | none =>
    cases hget' : dictGet d k with
    | none => rfl
    | some v => exact absurd (h.mem_iff.mp (mem_of_dictGet hget')) (notMem_of_dictGet hget v)

theorem dictGet_append_of_eq_some {d e : List (κ × ν)} {k : κ} {v : ν}
    (h : dictGet d k = some v) : dictGet (d ++ e) k = some v := by
  induction d with
  | nil => cases h
  | cons p d ih =>
    rw [dictGet] at h
    rw [List.cons_append, dictGet]
    split at h
    · rename_i hk
      rw [if_pos hk, h]
    · rename_i hk
      rw [if_neg hk, ih h]

theorem dictGet_of_forall₂ {μ : Type u} {R : ν → μ → Prop} {d : List (κ × ν)} {e : List (κ × μ)}
    {k : κ} {v : ν} (h : List.Forall₂ (fun p q => q.1 = p.1 ∧ R p.2 q.2) d e)
    (hget : dictGet d k = some v) : ∃ w, dictGet e k = some w ∧ R v w := by
  induction h with
  | nil => cases hget
  | @cons p q _ _ hpq _ ih =>
    rw [dictGet] at hget
    rw [dictGet, hpq.1]
    split at hget
    · rename_i hk
      cases hget
      exact ⟨q.2, if_pos hk, hpq.2⟩
    · rename_i hk
      rw [if_neg hk]
      exact ih hget

theorem dictGet_map_snd {μ : Type u} (f : ν → μ) (d : List (κ × ν)) (k : κ) :
    dictGet (d.map fun p => (p.1, f p.2)) k = (dictGet d k).map f := by
  induction d with
  | nil => rfl
  | cons p d ih =>
    rw [List.map_cons, dictGet, dictGet, ih]
    split <;> rfl

theorem dictGet_dictSet (d : List (κ × ν)) (k k' : κ) (v : ν) :
    dictGet (dictSet d k v) k' = if k = k' then some v else dictGet d k' := by
  induction d with
  | nil => rfl
  | cons p d ih =>
    rw [dictSet]
    split
    · rename_i hk
      rw [dictGet, dictGet, hk]
      split <;> rfl
    · rename_i hk
      rw [dictGet, dictGet, ih]
      split
      · rename_i hk'
        rw [if_neg fun h => hk (hk'.trans h.symm)]
      · rfl

theorem dictSet_of_notMem {d : List (κ × ν)} {k : κ} (h : k ∉ keys d) (v : ν) :
    dictSet d k v = d ++ [(k, v)] := by
  induction d with
  | nil => rfl
  | cons p d ih =>
    simp only [keys, List.map_cons, List.mem_cons, not_or] at h
    rw [dictSet, if_neg (Ne.symm h.1), ih h.2, List.cons_append]

theorem mem_of_mem_dictSet {d : List (κ × ν)} {k : κ} {v : ν} {p : κ × ν}
    (h : p ∈ dictSet d k v) : p = (k, v) ∨ p ∈ d := by
  induction d with
  | nil => exact .inl (List.mem_singleton.mp h)
  | cons q d ih =>
    rw [dictSet] at h
    split at h
    · rename_i hk
      rcases List.mem_cons.mp h with rfl | h
      · exact .inl (by rw [hk])
      · exact .inr (List.mem_cons_of_mem _ h)
    · rcases List.mem_cons.mp h with rfl | h
      · exact .inr List.mem_cons_self
      · exact (ih h).imp id (List.mem_cons_of_mem _)

theorem nodup_keys_dictSet {d : List (κ × ν)} (hd : (keys d).Nodup) (k : κ) (v : ν) :
    (keys (dictSet d k v)).Nodup := by
  by_cases hk : k ∈ keys d
  · have hkeys : keys (dictSet d k v) = keys d := by
      clear hd
      induction d with
      | nil => exact absurd hk (by simp)
      | cons p d ih =>
        rw [dictSet]
        split
        · rfl
        · rename_i hne
          have hk' : k ∈ keys d := (List.mem_cons.mp hk).resolve_left (Ne.symm hne)
          exact congrArg (p.1 :: ·) (ih hk')
    rw [hkeys]
    exact hd
  · rw [dictSet_of_notMem hk, keys, List.map_append, List.nodup_append]
    refine ⟨hd, List.nodup_singleton _, ?_⟩
    rintro a ha b hb rfl
    have hab : a = k := List.mem_singleton.mp hb
    exact hk (hab ▸ ha)

/-! ## Dictionaries of lists -/

/-- `d.setdefault(k, []).append(a)`. -/
def dictPush (d : List (κ × List α)) (k : κ) (a : α) : List (κ × List α) :=
  dictSet d k ((dictGet d k).getD [] ++ [a])

theorem belongs_dictPush {d : List (κ × List α)} {k k' : κ} {a a' : α} :
    Belongs (dictPush d k a) k' a' ↔ Belongs d k' a' ∨ k = k' ∧ a' = a := by
  unfold dictPush
  induction d with
  | nil =>
    rw [dictSet, belongs_cons]
    simp [dictGet, belongs_nil]
  | cons g d ih =>
    rw [dictSet, dictGet, belongs_cons]
    split
    · rename_i hk
      rw [belongs_cons, Option.getD_some, List.mem_append, List.mem_singleton, ← hk]
      tauto
    · rw [belongs_cons, ih, or_assoc]

/-- The second components, each with the first components it comes with. -/
def group (ps : List (α × κ)) : List (κ × List α) :=
  ps.foldl (fun d p => dictPush d p.2 p.1) []

theorem group_invariant {I : List (κ × List α) → Prop} (h0 : I [])
    (hpush : ∀ d k a, I d → I (dictPush d k a)) (ps : List (α × κ)) : I (group ps) := by
  unfold group
  generalize ([] : List (κ × List α)) = d at h0
  induction ps generalizing d with
  | nil => exact h0
  | cons p ps ih => exact ih _ (hpush d p.2 p.1 h0)

theorem nodup_keys_group (ps : List (α × κ)) : (keys (group ps)).Nodup :=
  group_invariant (I := fun d => (keys d).Nodup) List.nodup_nil
    (fun _ k _ h => nodup_keys_dictSet h k _) ps

theorem ne_nil_of_mem_group {ps : List (α × κ)} {g : κ × List α} (h : g ∈ group ps) :
    g.2 ≠ [] := by
  refine group_invariant (I := fun d => ∀ g ∈ d, g.2 ≠ []) (fun _ hg => nomatch hg) ?_ ps g h
  intro d k a hd g hg
  rcases mem_of_mem_dictSet hg with rfl | hg
  · simp
  · exact hd g hg

theorem belongs_group {ps : List (α × κ)} {k : κ} {a : α} :
    Belongs (group ps) k a ↔ (a, k) ∈ ps := by
  have hfold (d : List (κ × List α)) :
      Belongs (ps.foldl (fun d p => dictPush d p.2 p.1) d) k a ↔
        Belongs d k a ∨ (a, k) ∈ ps := by
    induction ps generalizing d with
    | nil => simp
    | cons p ps ih =>
      rw [List.foldl_cons, ih, belongs_dictPush, List.mem_cons, Prod.ext_iff, or_assoc]
      simp only [eq_comm, and_comm]
  exact (hfold []).trans (by simp [belongs_nil])

/-! ## Checking the entries of a collection -/

/-- Check the entries in order and store each result. -/
def collect (entry : α → Except ε (κ × ν)) : List (κ × ν) → List α → Except ε (List (κ × ν))
  | acc, [] => .ok acc
  | acc, e :: es => do
    let p ← entry e
    collect entry (dictSet acc p.1 p.2) es

variable {entry : α → Except ε (κ × ν)}

theorem nodup_keys_of_collect {es : List α} {acc out : List (κ × ν)}
    (h : collect entry acc es = .ok out) (hacc : (keys acc).Nodup) : (keys out).Nodup := by
  induction es generalizing acc with
  | nil =>
    cases h
    exact hacc
  | cons e es ih =>
    obtain ⟨p, _, h⟩ := bind_eq_ok.mp h
    exact ih h (nodup_keys_dictSet hacc p.1 p.2)

theorem collect_accepts {es : List α} (acc : List (κ × ν))
    (h : ∀ e ∈ es, ∃ p, entry e = .ok p) : ∃ out, collect entry acc es = .ok out := by
  induction es generalizing acc with
  | nil => exact ⟨acc, rfl⟩
  | cons e es ih =>
    obtain ⟨p, hp⟩ := h e List.mem_cons_self
    obtain ⟨out, hout⟩ := ih (dictSet acc p.1 p.2) fun e' he' => h e' (List.mem_cons_of_mem _ he')
    exact ⟨out, bind_eq_ok.mpr ⟨p, hp, hout⟩⟩

/-- Every stored pair is the result of one entry. -/
theorem mem_of_collect {es : List α} {acc out : List (κ × ν)} {p : κ × ν}
    (h : collect entry acc es = .ok out) (hp : p ∈ out) :
    p ∈ acc ∨ ∃ e ∈ es, entry e = .ok p := by
  induction es generalizing acc with
  | nil =>
    cases h
    exact .inl hp
  | cons e es ih =>
    obtain ⟨q, hq, h⟩ := bind_eq_ok.mp h
    rcases ih h with hacc | ⟨e', he', hp⟩
    · rcases mem_of_mem_dictSet hacc with rfl | hacc
      · exact .inr ⟨e, List.mem_cons_self, hq⟩
      · exact .inl hacc
    · exact .inr ⟨e', List.mem_cons_of_mem _ he', hp⟩

/-- Checking spelled pairs with different keys gives the pairs back. -/
theorem collect_map_self {enc : κ × ν → α} {acc ps : List (κ × ν)}
    (hent : ∀ p ∈ ps, entry (enc p) = .ok p) (hnodup : (keys (acc ++ ps)).Nodup) :
    collect entry acc (ps.map enc) = .ok (acc ++ ps) := by
  induction ps generalizing acc with
  | nil => simp [collect]
  | cons p ps ih =>
    have hfresh : p.1 ∉ keys acc := by
      rw [keys, List.map_append, List.map_cons, List.nodup_append] at hnodup
      exact fun hmem => hnodup.2.2 _ hmem _ List.mem_cons_self rfl
    rw [List.map_cons, collect, bind_eq_ok]
    refine ⟨p, hent p List.mem_cons_self, ?_⟩
    rw [dictSet_of_notMem hfresh]
    have hassoc : acc ++ p :: ps = (acc ++ [p]) ++ ps := by simp
    rw [hassoc] at hnodup ⊢
    exact ih (fun q hq => hent q (List.mem_cons_of_mem _ hq)) hnodup

end

end Sensorium.Lib

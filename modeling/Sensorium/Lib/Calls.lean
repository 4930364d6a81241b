import Mathlib.Data.List.Nodup
import Mathlib.Data.List.Perm.Basic
import Sensorium.Lib.Runs

/-!
# Overlapping calls of a server

Callers post requests to a server and wait.  The server handles one request at a time, in any order,
and answers it or not; a caller may give up, and his request is handled all the same.  Every call
that returns took place once, at one point between its post and its return, and its reply is that
of this point.
-/

namespace Sensorium.Lib

variable {σ ρ τ : Type*}

/-- A call with its number, and how many requests had been handled when it was posted. -/
structure Call (ρ : Type*) where
  number : Nat
  request : ρ
  since : Nat

structure Handled (ρ τ : Type*) where
  call : Call ρ
  reply : Option τ

/-- A call that was answered, and how many requests had been handled when it returned. -/
structure Returned (ρ τ : Type*) where
  call : Call ρ
  reply : τ
  upto : Nat

inductive Caller (ρ τ : Type*)
  | idle
  | waits (c : Call ρ)
  | answered (c : Call ρ) (reply : τ)

namespace Caller

/-- The call that a caller is in. -/
def call : Caller ρ τ → Option (Call ρ)
  | .idle => none
  | .waits c | .answered c _ => some c

/-- What a caller sees of the reply to a call. -/
def hear (c : Call ρ) (reply : τ) : Caller ρ τ → Caller ρ τ
  | .waits c' => if c'.number = c.number then .answered c' reply else .waits c'
  | p => p

theorem call_hear (c : Call ρ) (reply : τ) (p : Caller ρ τ) : (p.hear c reply).call = p.call := by
  cases p with
  | idle => rfl
  | waits c' =>
    show (if c'.number = c.number then Caller.answered c' reply else .waits c').call = _
    split <;> rfl
  | answered c' reply' => rfl

end Caller

structure Calls (σ ρ τ : Type*) where
  server : σ
  callers : List (Caller ρ τ)
  requests : List (Call ρ)
  made : Nat
  handled : List (Handled ρ τ)
  returned : List (Returned ρ τ)

namespace Calls

def start (server : σ) (callers : Nat) : Calls σ ρ τ where
  server := server
  callers := List.replicate callers .idle
  requests := []
  made := 0
  handled := []
  returned := []

variable (s : Calls σ ρ τ)

/-- The call that a caller is in. -/
def calling (i : Nat) : Option (Call ρ) := s.callers[i]?.bind Caller.call

def post (i : Nat) (request : ρ) : Option (Calls σ ρ τ) :=
  match s.callers[i]? with
  | some .idle =>
    let c : Call ρ := ⟨s.made, request, s.handled.length⟩
    some { s with
      callers := s.callers.set i (.waits c)
      requests := s.requests ++ [c]
      made := s.made + 1 }
  | _ => none

def handle (serve : σ → ρ → σ × Option τ) (k : Nat) : Option (Calls σ ρ τ) :=
  match s.requests[k]? with
  | some c =>
    let r := serve s.server c.request
    some { s with
      server := r.1
      callers := r.2.elim s.callers fun reply => s.callers.map (Caller.hear c reply)
      requests := s.requests.eraseIdx k
      handled := s.handled ++ [⟨c, r.2⟩] }
  | none => none

def finish (i : Nat) : Option (Returned ρ τ × Calls σ ρ τ) :=
  match s.callers[i]? with
  | some (.answered c reply) =>
    let x : Returned ρ τ := ⟨c, reply, s.handled.length⟩
    some (x, { s with
      callers := s.callers.set i .idle
      returned := s.returned ++ [x] })
  | _ => none

def giveUp (i : Nat) : Option (Calls σ ρ τ) :=
  match s.callers[i]? with
  | some (.waits _) => some { s with callers := s.callers.set i .idle }
  | _ => none

/-- The call took place after it was posted, among the first `n` that were handled. -/
def TookPlace (handled : List (Handled ρ τ)) (c : Call ρ) (reply : τ) (n : Nat) : Prop :=
  ∃ place, c.since ≤ place ∧ place < n ∧ handled[place]? = some ⟨c, some reply⟩

theorem TookPlace.append {handled : List (Handled ρ τ)} {c : Call ρ} {reply : τ} {n : Nat}
    (h : TookPlace handled c reply n) (later : List (Handled ρ τ)) :
    TookPlace (handled ++ later) c reply n := by
  obtain ⟨place, hsince, hlt, hget⟩ := h
  refine ⟨place, hsince, hlt, ?_⟩
  rw [List.getElem?_append_left (List.getElem?_eq_some_iff.mp hget).1]
  exact hget

/-- The numbers of the calls that were posted and not forgotten. -/
def numbers : List Nat :=
  s.requests.map Call.number ++ s.handled.map fun h => h.call.number

/-- Calls have numbers of their own, and every reply is one that the server gave. -/
structure Good : Prop where
  posted : ∀ c ∈ s.requests, c.since ≤ s.handled.length
  numbered : ∀ n ∈ s.numbers, n < s.made
  once : s.numbers.Nodup
  called : ∀ i c, s.calling i = some c → c.number < s.made
  linked : ∀ i c c', s.calling i = some c → c' ∈ s.requests → c'.number = c.number → c' = c
  alone : ∀ i j c c', s.calling i = some c → s.calling j = some c' → c.number = c'.number → i = j
  answered : ∀ c reply, .answered c reply ∈ s.callers →
    TookPlace s.handled c reply s.handled.length
  returned : ∀ x ∈ s.returned, TookPlace s.handled x.call x.reply x.upto
  left : ∀ x ∈ s.returned, x.call.number < s.made ∧
    ∀ i c, s.calling i = some c → c.number ≠ x.call.number
  returnedOnce : (s.returned.map fun x => x.call.number).Nodup

variable {s} {t : Calls σ ρ τ} {serve : σ → ρ → σ × Option τ} {i k : Nat}

theorem calling_set_cases {p : Caller ρ τ} {j : Nat} {c : Call ρ}
    (h : (s.callers.set i p)[j]?.bind Caller.call = some c) :
    j = i ∧ p.call = some c ∨ j ≠ i ∧ s.calling j = some c := by
  obtain ⟨q, hq, hc⟩ := Option.bind_eq_some_iff.mp h
  rcases getElem?_set_cases hq with ⟨hj, rfl⟩ | ⟨hj, hold⟩
  · exact .inl ⟨hj, hc⟩
  · exact .inr ⟨hj, Option.bind_eq_some_iff.mpr ⟨q, hold, hc⟩⟩

theorem calling_hear (c : Call ρ) (reply : τ) (j : Nat) :
    ((s.callers.map (Caller.hear c reply))[j]?).bind Caller.call = s.calling j := by
  rw [List.getElem?_map, Option.bind_map]
  exact Option.bind_congr fun p _ => p.call_hear c reply

theorem answered_hear {c c' : Call ρ} {reply reply' : τ}
    (h : .answered c' reply' ∈ s.callers.map (Caller.hear c reply)) :
    .answered c' reply' ∈ s.callers ∨
      .waits c' ∈ s.callers ∧ c'.number = c.number ∧ reply' = reply := by
  obtain ⟨p, hp, heq⟩ := List.mem_map.mp h
  cases p with
  | idle => cases heq
  | waits c'' =>
    change (if c''.number = c.number then Caller.answered c'' reply else .waits c'') = _ at heq
    split at heq
    · rename_i hc
      cases heq
      exact .inr ⟨hp, hc, rfl⟩
    · cases heq
  | answered c'' reply'' =>
    cases heq
    exact .inl hp

theorem exists_calling {p : Caller ρ τ} {c : Call ρ} (hp : p ∈ s.callers)
    (hc : p.call = some c) : ∃ i, s.calling i = some c := by
  obtain ⟨i, hi⟩ := List.getElem?_of_mem hp
  exact ⟨i, Option.bind_eq_some_iff.mpr ⟨p, hi, hc⟩⟩

/-! ## Steps -/

theorem post_cases {request : ρ} (h : s.post i request = some t) :
    s.callers[i]? = some .idle ∧ t = { s with
      callers := s.callers.set i (.waits ⟨s.made, request, s.handled.length⟩)
      requests := s.requests ++ [⟨s.made, request, s.handled.length⟩]
      made := s.made + 1 } := by
  unfold post at h
  split at h
  · rename_i hidle
    cases h
    exact ⟨hidle, rfl⟩
  · cases h

theorem handle_cases (h : s.handle serve k = some t) :
    ∃ c, s.requests[k]? = some c ∧ t = { s with
      server := (serve s.server c.request).1
      callers := (serve s.server c.request).2.elim s.callers
        fun reply => s.callers.map (Caller.hear c reply)
      requests := s.requests.eraseIdx k
      handled := s.handled ++ [⟨c, (serve s.server c.request).2⟩] } := by
  unfold handle at h
  split at h
  · rename_i c hc
    cases h
    exact ⟨c, hc, rfl⟩
  · cases h

theorem finish_cases {x : Returned ρ τ} (h : s.finish i = some (x, t)) :
    ∃ c reply, s.callers[i]? = some (.answered c reply) ∧ x = ⟨c, reply, s.handled.length⟩ ∧
      t = { s with callers := s.callers.set i .idle, returned := s.returned ++ [x] } := by
  unfold finish at h
  split at h
  · rename_i c reply hc
    cases h
    exact ⟨c, reply, hc, rfl, rfl⟩
  · cases h

theorem giveUp_cases (h : s.giveUp i = some t) :
    t = { s with callers := s.callers.set i .idle } := by
  unfold giveUp at h
  split at h
  · cases h
    rfl
  · cases h

/-! ## The invariant -/

namespace Good

theorem start (server : σ) (callers : Nat) : (Calls.start server callers : Calls σ ρ τ).Good := by
  have hidle (j : Nat) (c : Call ρ) :
      (Calls.start server callers : Calls σ ρ τ).calling j ≠ some c := by
    intro h
    obtain ⟨p, hp, hc⟩ := Option.bind_eq_some_iff.mp h
    rw [List.eq_of_mem_replicate (List.mem_of_getElem? hp)] at hc
    cases hc
  exact
    { posted := fun c hc => absurd hc List.not_mem_nil
      numbered := fun n hn => absurd hn List.not_mem_nil
      once := List.nodup_nil
      called := fun j c h => absurd h (hidle j c)
      linked := fun j c _ h => absurd h (hidle j c)
      alone := fun j _ c _ h => absurd h (hidle j c)
      answered := fun c reply h => by cases List.eq_of_mem_replicate h
      returned := fun x hx => absurd hx List.not_mem_nil
      left := fun x hx => absurd hx List.not_mem_nil
      returnedOnce := List.nodup_nil }

/-- The state of the server does not matter. -/
theorem server (h : s.Good) (server : σ) : Good { s with server := server } :=
  { h with }

theorem post {request : ρ} (h : s.Good) (ht : s.post i request = some t) : t.Good := by
  obtain ⟨-, rfl⟩ := post_cases ht
  have hperm : (Calls.numbers { s with
      callers := s.callers.set i (.waits ⟨s.made, request, s.handled.length⟩)
      requests := s.requests ++ [⟨s.made, request, s.handled.length⟩]
      made := s.made + 1 }).Perm (s.made :: s.numbers) := by
    unfold Calls.numbers
    rw [List.map_append, List.append_assoc]
    exact List.perm_middle
  have hnew : s.made ∉ s.numbers := fun hmem => absurd (h.numbered _ hmem) (Nat.lt_irrefl _)
  have hother {j : Nat} {c : Call ρ} (hc : s.calling j = some c) : c.number ≠ s.made :=
    Nat.ne_of_lt (h.called j c hc)
  exact
    { posted := by
        intro c hc
        rcases List.mem_append.mp hc with hc | hc
        · exact h.posted c hc
        · obtain rfl := List.mem_singleton.mp hc
          exact Nat.le_refl _
      numbered := by
        intro n hn
        rcases List.mem_cons.mp (hperm.mem_iff.mp hn) with rfl | hn
        · exact Nat.lt_succ_self _
        · exact Nat.lt_succ_of_lt (h.numbered n hn)
      once := hperm.nodup_iff.mpr (List.nodup_cons.mpr ⟨hnew, h.once⟩)
      called := by
        intro j c hc
        rcases calling_set_cases hc with ⟨-, hcall⟩ | ⟨-, hold⟩
        · cases hcall
          exact Nat.lt_succ_self _
        · exact Nat.lt_succ_of_lt (h.called j c hold)
      linked := by
        intro j c c' hc hc' hnumber
        rcases calling_set_cases hc with ⟨-, hcall⟩ | ⟨-, hold⟩
        · cases hcall
          rcases List.mem_append.mp hc' with hc' | hc'
          · exact absurd (List.mem_append_left _ (List.mem_map.mpr ⟨c', hc', hnumber⟩)) hnew
          · exact List.mem_singleton.mp hc'
        · rcases List.mem_append.mp hc' with hc' | hc'
          · exact h.linked j c c' hold hc' hnumber
          · rw [List.mem_singleton.mp hc'] at hnumber
            exact absurd hnumber.symm (hother hold)
      alone := by
        intro j j' c c' hc hc' hnumber
        rcases calling_set_cases hc with ⟨hj, hcall⟩ | ⟨-, hold⟩
        · cases hcall
          rcases calling_set_cases hc' with ⟨hj', -⟩ | ⟨-, hold'⟩
          · rw [hj, hj']
          · exact absurd hnumber.symm (hother hold')
        · rcases calling_set_cases hc' with ⟨-, hcall'⟩ | ⟨-, hold'⟩
          · cases hcall'
            exact absurd hnumber (hother hold)
          · exact h.alone j j' c c' hold hold' hnumber
      answered := by
        intro c reply hc
        rcases List.mem_or_eq_of_mem_set hc with hc | hc
        · exact h.answered c reply hc
        · cases hc
      returned := h.returned
      left := by
        intro x hx
        obtain ⟨hlt, hleft⟩ := h.left x hx
        refine ⟨Nat.lt_succ_of_lt hlt, fun j c hc => ?_⟩
        rcases calling_set_cases hc with ⟨-, hcall⟩ | ⟨-, hold⟩
        · cases hcall
          exact Nat.ne_of_gt hlt
        · exact hleft j c hold
      returnedOnce := h.returnedOnce }

theorem handle (h : s.Good) (ht : s.handle serve k = some t) : t.Good := by
  obtain ⟨c, hc, rfl⟩ := handle_cases ht
  generalize serve s.server c.request = r
  obtain ⟨hlt, hget⟩ := List.getElem?_eq_some_iff.mp hc
  have hmem : c ∈ s.requests := List.mem_of_getElem? hc
  have hcalling (j : Nat) :
      ((r.2.elim s.callers fun reply => s.callers.map (Caller.hear c reply))[j]?).bind
        Caller.call = s.calling j := by
    cases hreply : r.2 with
    | none => rfl
    | some reply => exact calling_hear c reply j
  have hperm : (((s.requests.eraseIdx k).map Call.number) ++
      ((s.handled ++ [(⟨c, r.2⟩ : Handled ρ τ)]).map fun h => h.call.number)).Perm
      s.numbers := by
    have herase := (List.getElem_cons_eraseIdx_perm hlt).map Call.number
    rw [hget, List.map_cons] at herase
    rw [List.map_append, ← List.append_assoc]
    refine (List.perm_append_singleton _ _).trans ?_
    exact herase.append_right _
  exact
    { posted := by
        intro c' hc'
        rw [List.length_append]
        exact Nat.le_add_right_of_le (h.posted c' (List.mem_of_mem_eraseIdx hc'))
      numbered := fun n hn => h.numbered n (hperm.mem_iff.mp hn)
      once := hperm.nodup_iff.mpr h.once
      called := fun j c' hc' => h.called j c' ((hcalling j).symm.trans hc')
      linked := fun j c' c'' hc' hc'' =>
        h.linked j c' c'' ((hcalling j).symm.trans hc') (List.mem_of_mem_eraseIdx hc'')
      alone := fun j j' c' c'' hc' hc'' =>
        h.alone j j' c' c'' ((hcalling j).symm.trans hc') ((hcalling j').symm.trans hc'')
      answered := by
        intro c' reply hc'
        have hlater {c' : Call ρ} {reply : τ}
            (hold : TookPlace s.handled c' reply s.handled.length) :
            TookPlace (s.handled ++ [⟨c, r.2⟩]) c' reply (s.handled.length + 1) := by
          obtain ⟨place, hsince, hplace, hat⟩ := hold.append [⟨c, r.2⟩]
          exact ⟨place, hsince, Nat.lt_succ_of_lt hplace, hat⟩
        show TookPlace (s.handled ++ [⟨c, r.2⟩]) c' reply
          (s.handled ++ [(⟨c, r.2⟩ : Handled ρ τ)]).length
        rw [List.length_append]
        change _ ∈ r.2.elim _ _ at hc'
        cases hreply : r.2 with
        | none =>
          rw [hreply] at hc' hlater
          exact hlater (h.answered c' reply hc')
        | some given =>
          rw [hreply] at hc' hlater
          rcases answered_hear hc' with hold | ⟨hwaits, hnumber, rfl⟩
          · exact hlater (h.answered c' reply hold)
          · -- the caller waits for the call that was handled now
            obtain ⟨j, hj⟩ := exists_calling hwaits rfl
            have hsame : c = c' := h.linked j c' c hj hmem hnumber.symm
            subst hsame
            exact ⟨s.handled.length, h.posted c hmem, Nat.lt_succ_self _,
              List.getElem?_concat_length⟩
      returned := fun x hx => (h.returned x hx).append _
      left := fun x hx => ⟨(h.left x hx).1, fun j c' hc' =>
        (h.left x hx).2 j c' ((hcalling j).symm.trans hc')⟩
      returnedOnce := h.returnedOnce }

/-- A caller may leave his call at any time. -/
theorem leave (h : s.Good) (i : Nat) : Good { s with callers := s.callers.set i .idle } := by
  have hcalling {j : Nat} {c : Call ρ}
      (hc : ((s.callers.set i Caller.idle)[j]?).bind Caller.call = some c) :
      s.calling j = some c := by
    rcases calling_set_cases hc with ⟨-, hcall⟩ | ⟨-, hold⟩
    · cases hcall
    · exact hold
  exact
    { h with
      called := fun j c hc => h.called j c (hcalling hc)
      linked := fun j c c' hc => h.linked j c c' (hcalling hc)
      alone := fun j j' c c' hc hc' => h.alone j j' c c' (hcalling hc) (hcalling hc')
      answered := by
        intro c reply hc
        rcases List.mem_or_eq_of_mem_set hc with hc | hc
        · exact h.answered c reply hc
        · cases hc
      left := fun x hx => ⟨(h.left x hx).1, fun j c hc => (h.left x hx).2 j c (hcalling hc)⟩ }

theorem giveUp (h : s.Good) (ht : s.giveUp i = some t) : t.Good := by
  rw [giveUp_cases ht]
  exact h.leave i

theorem finish {x : Returned ρ τ} (h : s.Good) (ht : s.finish i = some (x, t)) : t.Good := by
  obtain ⟨c, reply, hcaller, rfl, rfl⟩ := finish_cases ht
  have hcall : s.calling i = some c := by
    rw [calling, hcaller]
    rfl
  have hleft := h.leave i
  exact
    { hleft with
      returned := by
        intro x hx
        rcases List.mem_append.mp hx with hx | hx
        · exact h.returned x hx
        · rw [List.mem_singleton.mp hx]
          exact h.answered c reply (List.mem_of_getElem? hcaller)
      left := by
        intro x hx
        rcases List.mem_append.mp hx with hx | hx
        · exact hleft.left x hx
        · rw [List.mem_singleton.mp hx]
          refine ⟨h.called i c hcall, fun j c' hc' hnumber => ?_⟩
          rcases calling_set_cases hc' with ⟨-, hnone⟩ | ⟨hj, hold⟩
          · cases hnone
          · exact hj (h.alone j i c' c hold hcall hnumber)
      returnedOnce := by
        rw [List.map_append]
        refine List.nodup_append'.mpr ⟨h.returnedOnce, List.nodup_singleton _, fun n hn hlast => ?_⟩
        obtain ⟨x, hx, rfl⟩ := List.mem_map.mp hn
        exact (h.left x hx).2 i c hcall (List.mem_singleton.mp hlast).symm }

/-- No request was handled twice. -/
theorem handledOnce (h : s.Good) : (s.handled.map fun h => h.call.number).Nodup :=
  (List.nodup_append'.mp h.once).2.1

end Good

end Calls

end Sensorium.Lib

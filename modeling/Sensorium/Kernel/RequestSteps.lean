import Mathlib.Data.List.Nodup
import Sensorium.Kernel.Request

/-!
# What a request step can do

One inversion lemma per step, and what holds of the list, the index and the program counters along
every run.
-/

namespace Sensorium.Kernel

open Lib

-- The calls whose request is on the list.
def SendPc.inList : SendPc → Bool
  | .waiting | .timedOut | .woken | .outcomeRead _ _ => true
  | _ => false

/-- Well-formedness of one request. -/
structure Request.Wf (q : Request) : Prop where
  listed_eq : q.listed = q.pc.inList
  early : q.pc = .unallocated ∨ q.pc = .allocated →
    q.replied = false ∧ q.done = false ∧ q.first = none
  done_replied : q.done = true → q.replied = true
  woken_replied : (q.pc = .woken ∨ ∃ status len, q.pc = .outcomeRead status len) →
    q.replied = true

theorem Request.Wf.not_freed {q : Request} (h : q.Wf) (hlisted : q.listed = true) :
    q.freed = false := by
  have hpc := h.listed_eq
  rw [hlisted] at hpc
  unfold freed
  cases hq : q.pc <;> simp only [hq, SendPc.inList, Bool.true_eq_false] at hpc ⊢

namespace Runtime

structure Wf (s : Runtime) : Prop where
  request : ∀ r, (s.heap r).Wf
  mem_requests : ∀ r, r ∈ s.requests ↔ (s.heap r).listed = true
  nodup : s.requests.Nodup
  indexed : ∀ k r, s.requestIndex k = some r → (s.heap r).listed = true ∧ (s.heap r).id = k
  completing_replied : ∀ r ∈ s.completing, (s.heap r).replied = true
  fresh : ∀ r, s.allocated ≤ r → (s.heap r).pc = .unallocated
  pending_listed : ∀ f, s.lock = some f → ∀ r ∈ f.pending, (s.heap r).listed = true
  filled_listed : ∀ f r, s.lock = some f → f.filled = some r →
    (s.heap r).listed = true ∧ (s.heap r).replied = true

@[simp] theorem put_heap_self (s : Runtime) (r : Nat) (q : Request) : (s.put r q).heap r = q := by
  simp only [put, Function.update_self]

theorem put_heap_of_ne (s : Runtime) {r r' : Nat} (q : Request) (h : r' ≠ r) :
    (s.put r q).heap r' = s.heap r' := by
  simp only [put, Function.update_of_ne h]

theorem wf_init : Runtime.init.Wf where
  request := by
    intro r
    exact ⟨rfl, fun _ => ⟨rfl, rfl, rfl⟩, fun h => h, by simp [Runtime.init, Request.blank]⟩
  mem_requests := by simp [Runtime.init, Request.blank]
  nodup := List.nodup_nil
  indexed := by simp [Runtime.init]
  completing_replied := by simp [Runtime.init]
  fresh := fun _ _ => rfl
  pending_listed := by simp [Runtime.init]
  filled_listed := by simp [Runtime.init]

/-- Changing one request in place: it stays on or off the list, under its id, and never goes back
to unreplied. -/
theorem Wf.put {s : Runtime} (h : s.Wf) {r : Nat} {q : Request} (hq : q.Wf)
    (hlisted : q.listed = (s.heap r).listed)
    (hid : (s.heap r).listed = true → q.id = (s.heap r).id)
    (hreplied : (s.heap r).replied = true → q.replied = true)
    (hfresh : s.allocated ≤ r → q.pc = .unallocated) : (s.put r q).Wf := by
  have hkeep : ∀ r', ((s.put r q).heap r').listed = (s.heap r').listed := by
    intro r'
    by_cases hr : r' = r
    · rw [hr, put_heap_self, hlisted]
    · rw [put_heap_of_ne s q hr]
  have hmono : ∀ r', (s.heap r').replied = true → ((s.put r q).heap r').replied = true := by
    intro r' hr'
    by_cases hr : r' = r
    · rw [hr, put_heap_self]
      exact hreplied (hr ▸ hr')
    · rw [put_heap_of_ne s q hr]
      exact hr'
  exact {
    request := fun r' => by
      by_cases hr : r' = r
      · rw [hr, put_heap_self]
        exact hq
      · rw [put_heap_of_ne s q hr]
        exact h.request r'
    mem_requests := fun r' => by
      rw [hkeep]
      exact h.mem_requests r'
    nodup := h.nodup
    indexed := fun k r' hk => by
      obtain ⟨hl, hk'⟩ := h.indexed k r' hk
      rw [hkeep]
      refine ⟨hl, ?_⟩
      by_cases hr : r' = r
      · subst hr
        rw [put_heap_self, hid hl, hk']
      · rw [put_heap_of_ne s q hr, hk']
    completing_replied := fun r' hr' => hmono r' (h.completing_replied r' hr')
    fresh := fun r' hr' => by
      by_cases hr : r' = r
      · rw [hr, put_heap_self]
        exact hfresh (hr ▸ hr')
      · rw [put_heap_of_ne s q hr]
        exact h.fresh r' hr'
    pending_listed := fun f hf r' hr' => by
      rw [hkeep]
      exact h.pending_listed f hf r' hr'
    filled_listed := fun f r' hf hr' => by
      obtain ⟨hl, hrep⟩ := h.filled_listed f r' hf hr'
      rw [hkeep]
      exact ⟨hl, hmono r' hrep⟩ }

-- A request that some step can move is allocated.
theorem Wf.lt_allocated {s : Runtime} (h : s.Wf) {r : Nat} (hpc : (s.heap r).pc ≠ .unallocated) :
    ¬ s.allocated ≤ r :=
  fun hle => hpc (h.fresh r hle)

theorem Wf.allocRequest {s t : Runtime} {buf : List UInt8} (h : s.Wf)
    (hs : s.allocRequest buf = some t) : t.Wf := by
  simp only [Runtime.allocRequest, Option.some.injEq] at hs
  subst hs
  have hblank := h.fresh s.allocated (Nat.le_refl _)
  have hq := (h.request s.allocated)
  have hlisted : (s.heap s.allocated).listed = false := by rw [hq.listed_eq, hblank]; rfl
  have hreplied := (hq.early (.inl hblank)).1
  have hgrow : ({ s with allocated := s.allocated + 1 } : Runtime).Wf :=
    { h with fresh := fun r hr => h.fresh r (Nat.le_of_succ_le hr) }
  apply hgrow.put
  · exact ⟨rfl, fun _ => ⟨rfl, rfl, rfl⟩, fun h => h, by simp⟩
  · exact hlisted.symm
  · intro hl
    rw [hlisted] at hl
    cases hl
  · intro hr
    rw [hreplied] at hr
    cases hr
  · intro hle
    exact absurd hle (Nat.not_succ_le_self _)

theorem queueTransportLocked_ok {s t : Runtime} {full : Bool}
    (h : s.queueTransportLocked full = .ok t) :
    ∃ inflight, s.v5Started = true ∧ s.controlPage = some inflight ∧
      inflight < s.inflightCreditLimit ∧ t = { s with controlPage := some (inflight + 1) } := by
  unfold queueTransportLocked at h
  split at h
  · rename_i inflight _ hstarted hpage
    split at h
    · cases h
    · rename_i hroom
      split at h
      · cases h
      · cases h
        exact ⟨inflight, hstarted, hpage, Nat.lt_of_not_le hroom, rfl⟩
  · cases h

-- Off the index at one id.
theorem Wf.eraseIndex {s : Runtime} (h : s.Wf) (id : Nat) :
    ({ s with requestIndex := Function.update s.requestIndex id none } : Runtime).Wf :=
  { h with
    indexed := by
      intro k r hk
      by_cases hid : k = id
      · simp only [hid, Function.update_self, reduceCtorEq] at hk
      · simp only [Function.update_of_ne hid] at hk
        exact h.indexed k r hk }

/-- Changing one request together with the list and the index, with no failure loop under way: the
other requests stay on or off both. -/
theorem Wf.relist {s : Runtime} (h : s.Wf) (hlock : s.lock = none) {r : Nat} {q : Request}
    {index : Nat → Option Nat} {requests : List Nat} (hpc : (s.heap r).pc ≠ .unallocated)
    (hq : q.Wf) (hreplied : (s.heap r).replied = true → q.replied = true)
    (hself : r ∈ requests ↔ q.listed = true)
    (hothers : ∀ r', r' ≠ r → (r' ∈ requests ↔ r' ∈ s.requests)) (hnodup : requests.Nodup)
    (hindex : ∀ k r', index k = some r' →
      r' = r ∧ q.listed = true ∧ q.id = k ∨ r' ≠ r ∧ s.requestIndex k = some r') :
    ({ s.put r q with requestIndex := index, requests := requests } : Runtime).Wf where
  request r' := by
    show ((s.put r q).heap r').Wf
    by_cases hr : r' = r
    · rw [hr, put_heap_self]
      exact hq
    · rw [put_heap_of_ne s q hr]
      exact h.request r'
  mem_requests r' := by
    show r' ∈ requests ↔ ((s.put r q).heap r').listed = true
    by_cases hr : r' = r
    · rw [hr, put_heap_self]
      exact hself
    · rw [put_heap_of_ne s q hr, hothers r' hr]
      exact h.mem_requests r'
  nodup := hnodup
  indexed k r' hk := by
    show ((s.put r q).heap r').listed = true ∧ ((s.put r q).heap r').id = k
    rcases hindex k r' hk with ⟨hr, hfound⟩ | ⟨hr, hold⟩
    · rw [hr, put_heap_self]
      exact hfound
    · rw [put_heap_of_ne s q hr]
      exact h.indexed k r' hold
  completing_replied r' hr' := by
    show ((s.put r q).heap r').replied = true
    have hold := h.completing_replied r' hr'
    by_cases hr : r' = r
    · rw [hr] at hold
      rw [hr, put_heap_self]
      exact hreplied hold
    · rw [put_heap_of_ne s q hr]
      exact hold
  fresh r' hr' := by
    show ((s.put r q).heap r').pc = .unallocated
    have hr : r' ≠ r := fun hr => hpc (hr ▸ h.fresh r' hr')
    rw [put_heap_of_ne s q hr]
    exact h.fresh r' hr'
  pending_listed f hf := by
    have hlocked : s.lock = some f := hf
    rw [hlock] at hlocked
    cases hlocked
  filled_listed f r' hf := by
    have hlocked : s.lock = some f := hf
    rw [hlock] at hlocked
    cases hlocked

-- On the list and into the index, under the lock.
theorem Wf.link {s : Runtime} (h : s.Wf) (hlock : s.lock = none) {r : Nat}
    (hpc : (s.heap r).pc = .allocated) (id : Nat) :
    ({ s.put r { s.heap r with id := id, listed := true, pc := .waiting } with
      requestIndex := Function.update s.requestIndex id (some r)
      requests := s.requests ++ [r] } : Runtime).Wf := by
  have hq := h.request r
  have hnot : (s.heap r).listed = false := by rw [hq.listed_eq, hpc]; rfl
  have hmem : r ∉ s.requests := by
    rw [h.mem_requests, hnot]
    exact Bool.false_ne_true
  refine h.relist hlock (by rw [hpc]; decide) ⟨rfl, by simp, hq.done_replied, by simp⟩
    (fun hr => hr) ⟨fun _ => rfl, fun _ => List.mem_append_right _ (List.mem_singleton_self r)⟩ ?_ ?_ ?_
  · intro r' hr
    rw [List.mem_append, List.mem_singleton]
    exact ⟨fun hor => hor.resolve_right hr, .inl⟩
  · exact List.nodup_append.mpr ⟨h.nodup, List.nodup_singleton r, by
      intro a ha b hb hab
      rw [List.mem_singleton.mp hb] at hab
      exact hmem (hab ▸ ha)⟩
  · intro k r' hk
    by_cases hid : k = id
    · simp only [hid, Function.update_self, Option.some.injEq] at hk
      exact .inl ⟨hk.symm, rfl, hid.symm⟩
    · simp only [Function.update_of_ne hid] at hk
      refine .inr ⟨fun hr => ?_, hk⟩
      -- the request was not in the index before
      rw [hr] at hk
      have hlisted := (h.indexed k r hk).1
      rw [hnot] at hlisted
      cases hlisted

theorem publish_cases {s t : Runtime} {r : Nat} {stored full : Bool}
    (hs : s.publish r stored full = some t) :
    s.lock = none ∧ (s.heap r).pc = .allocated ∧
      ((∃ inflight, s.v5Started = true ∧ s.controlPage = some inflight ∧
          inflight < s.inflightCreditLimit ∧
          t = { s.put r { s.heap r with
              id := u32 (s.nextRequestId + 1), listed := true, pc := .waiting } with
            nextRequestId := u32 (s.nextRequestId + 1)
            controlPage := some (inflight + 1)
            requestIndex := Function.update s.requestIndex (u32 (s.nextRequestId + 1)) (some r)
            requests := s.requests ++ [r] }) ∨
        ∃ status index, (index = s.requestIndex ∨
            index = Function.update s.requestIndex (u32 (s.nextRequestId + 1)) none) ∧
          t = { s.put r { s.heap r with
              id := u32 (s.nextRequestId + 1), pc := .refusing status } with
            nextRequestId := u32 (s.nextRequestId + 1)
            requestIndex := index }) := by
  unfold Runtime.publish at hs
  split at hs
  · rename_i hlock hpc
    refine ⟨hlock, hpc, ?_⟩
    split at hs
    · split at hs
      · rename_i u hqueue
        obtain ⟨inflight, hstarted, hpage, hroom, rfl⟩ := queueTransportLocked_ok hqueue
        exact .inl ⟨inflight, hstarted, hpage, hroom, (Option.some.inj hs).symm⟩
      · rename_i status _
        exact .inr ⟨status, _, .inr rfl, (Option.some.inj hs).symm⟩
    · exact .inr ⟨eNoMem, _, .inl rfl, (Option.some.inj hs).symm⟩
  · cases hs

theorem Wf.publish {s t : Runtime} {r : Nat} {stored full : Bool} (h : s.Wf)
    (hs : s.publish r stored full = some t) : t.Wf := by
  obtain ⟨hlock, hpc, ⟨inflight, _, _, _, rfl⟩ | ⟨status, index, hindex, rfl⟩⟩ := publish_cases hs
  · exact { h.link hlock hpc _ with }
  · have hq := h.request r
    have hnot : (s.heap r).listed = false := by rw [hq.listed_eq, hpc]; rfl
    -- A refused call only leaves its id behind.
    have hrefuse : (s.put r { s.heap r with
        id := u32 (s.nextRequestId + 1), pc := .refusing status }).Wf := by
      apply h.put
      · exact ⟨hnot, by simp, hq.done_replied, by simp⟩
      · rfl
      · intro hl
        rw [hnot] at hl
        cases hl
      · exact fun hr => hr
      · exact fun hle => absurd hle (h.lt_allocated (by rw [hpc]; exact SendPc.noConfusion))
    obtain rfl | rfl := hindex
    · exact { hrefuse with }
    · exact { hrefuse.eraseIndex _ with }

-- Off the list and out of the index, under the lock.
theorem Wf.delist {s : Runtime} (h : s.Wf) (hlock : s.lock = none) {r : Nat} {pc : SendPc}
    (hlisted : (s.heap r).listed = true) (hpc : pc.inList = false)
    (hearly : ¬ (pc = .unallocated ∨ pc = .allocated)) : (s.delist r pc).Wf := by
  have hq := h.request r
  have hasleep : ¬ (pc = .woken ∨ ∃ status len, pc = .outcomeRead status len) := by
    rintro (hw | ⟨status, len, hw⟩) <;> rw [hw] at hpc <;> cases hpc
  have hallocated : (s.heap r).pc ≠ .unallocated := by
    intro hun
    rw [hq.listed_eq, hun] at hlisted
    cases hlisted
  rw [Runtime.delist, if_pos hlisted]
  refine h.relist hlock hallocated
    ⟨hpc.symm, fun he => absurd he hearly, hq.done_replied, fun hw => absurd hw hasleep⟩ id
    ⟨fun hr => absurd rfl (h.nodup.mem_erase_iff.mp hr).1, fun hl => absurd hl Bool.false_ne_true⟩
    ?_ (h.nodup.erase r) ?_
  · intro r' hr
    rw [h.nodup.mem_erase_iff]
    exact ⟨fun hand => hand.2, fun hold => ⟨hr, hold⟩⟩
  · intro k r' hk
    by_cases hid : k = (s.heap r).id
    · simp only [hid, Function.update_self, reduceCtorEq] at hk
    · simp only [Function.update_of_ne hid] at hk
      -- the index has the request under its own id only
      exact .inr ⟨fun hr => hid (hr ▸ (h.indexed k r' hk).2.symm), hk⟩

theorem unlink_cases {s t : Runtime} {r : Nat} (hs : s.unlink r = some t) :
    s.lock = none ∧
      (((s.heap r).pc = .timedOut ∧
          t = { s.delist r (.unlinked eTimedOut 0) with
            controlPage :=
              if (s.heap r).listed then releaseCredit s.controlPage else s.controlPage }) ∨
        ∃ status len, (s.heap r).pc = .outcomeRead status len ∧
          t = s.delist r (.unlinked status len)) := by
  unfold Runtime.unlink at hs
  split at hs
  · rename_i hlock hpc
    exact ⟨hlock, .inl ⟨hpc, (Option.some.inj hs).symm⟩⟩
  · rename_i status len hlock hpc
    exact ⟨hlock, .inr ⟨status, len, hpc, (Option.some.inj hs).symm⟩⟩
  · cases hs

theorem Wf.unlink {s t : Runtime} {r : Nat} (h : s.Wf) (hs : s.unlink r = some t) : t.Wf := by
  have hlisted := (h.request r).listed_eq
  obtain ⟨hlock, ⟨hpc, rfl⟩ | ⟨status, len, hpc, rfl⟩⟩ := unlink_cases hs
  · rw [hpc] at hlisted
    exact { h.delist hlock hlisted rfl (by simp) with }
  · rw [hpc] at hlisted
    exact h.delist hlock hlisted rfl (by simp)

theorem expire_cases {s t : Runtime} {r : Nat} (hs : s.expire r = some t) :
    (s.heap r).pc = .waiting ∧ (s.heap r).done = false ∧
      t = s.put r { s.heap r with
        pc := .timedOut, first := (s.heap r).first.or (some ⟨eTimedOut, []⟩) } := by
  unfold Runtime.expire at hs
  split at hs
  · rename_i hpc
    split at hs
    · cases hs
    · rename_i hdone
      exact ⟨hpc, Bool.eq_false_iff.mpr hdone, (Option.some.inj hs).symm⟩
  · cases hs

theorem wake_cases {s t : Runtime} {r : Nat} (hs : s.wake r = some t) :
    (s.heap r).pc = .waiting ∧ (s.heap r).done = true ∧
      t = s.put r { s.heap r with pc := .woken } := by
  unfold Runtime.wake at hs
  split at hs
  · rename_i hpc
    split at hs
    · rename_i hdone
      exact ⟨hpc, hdone, (Option.some.inj hs).symm⟩
    · cases hs
  · cases hs

theorem readOutcome_cases {s t : Runtime} {r : Nat} (hs : s.readOutcome r = some t) :
    (s.heap r).pc = .woken ∧
      t = s.put r { s.heap r with
        pc := .outcomeRead (s.heap r).status (s.heap r).actualResponseLen } := by
  unfold Runtime.readOutcome at hs
  split at hs
  · rename_i hpc
    exact ⟨hpc, (Option.some.inj hs).symm⟩
  · cases hs

theorem freeRequest_cases {s t : Runtime} {r : Nat} (hs : s.freeRequest r = some t) :
    (∃ status len, (s.heap r).pc = .unlinked status len ∧
        t = s.put r { s.heap r with pc := .returned status len }) ∨
      ∃ status, (s.heap r).pc = .refusing status ∧
        t = s.put r { s.heap r with pc := .refused status } := by
  unfold Runtime.freeRequest at hs
  split at hs
  · rename_i status len hpc
    exact .inl ⟨status, len, hpc, (Option.some.inj hs).symm⟩
  · rename_i status hpc
    exact .inr ⟨status, hpc, (Option.some.inj hs).symm⟩
  · cases hs

-- A waiter moving to a point from which it can be told that it was woken only after a completion.
theorem Wf.movePc {s : Runtime} (h : s.Wf) {r : Nat} {pc : SendPc} (first : Option Outcome)
    (hlist : pc.inList = (s.heap r).pc.inList)
    (hold : (s.heap r).pc ≠ .unallocated) (hearly : ¬ (pc = .unallocated ∨ pc = .allocated))
    (hwake : (pc = .woken ∨ ∃ status len, pc = .outcomeRead status len) →
      (s.heap r).replied = true) :
    (s.put r { s.heap r with pc := pc, first := first }).Wf := by
  have hq := h.request r
  apply h.put
  · exact ⟨hq.listed_eq.trans hlist.symm, fun he => absurd he hearly, hq.done_replied, hwake⟩
  · rfl
  · exact fun _ => rfl
  · exact fun hr => hr
  · exact fun hle => absurd hle (h.lt_allocated hold)

theorem Wf.expire {s t : Runtime} {r : Nat} (h : s.Wf) (hs : s.expire r = some t) : t.Wf := by
  obtain ⟨hpc, _, rfl⟩ := expire_cases hs
  exact h.movePc _ (by rw [hpc]; rfl) (by simp [hpc]) (by simp) (by simp)

theorem Wf.wake {s t : Runtime} {r : Nat} (h : s.Wf) (hs : s.wake r = some t) : t.Wf := by
  obtain ⟨hpc, hdone, rfl⟩ := wake_cases hs
  exact h.movePc _ (by rw [hpc]; rfl) (by simp [hpc]) (by simp)
    fun _ => (h.request r).done_replied hdone

theorem Wf.readOutcome {s t : Runtime} {r : Nat} (h : s.Wf) (hs : s.readOutcome r = some t) :
    t.Wf := by
  obtain ⟨hpc, rfl⟩ := readOutcome_cases hs
  exact h.movePc _ (by rw [hpc]; rfl) (by simp [hpc]) (by simp)
    fun _ => (h.request r).woken_replied (.inl hpc)

theorem Wf.freeRequest {s t : Runtime} {r : Nat} (h : s.Wf) (hs : s.freeRequest r = some t) :
    t.Wf := by
  obtain ⟨status, len, hpc, rfl⟩ | ⟨status, hpc, rfl⟩ := freeRequest_cases hs
  · exact h.movePc _ (by rw [hpc]; rfl) (by simp [hpc]) (by simp) (by simp)
  · exact h.movePc _ (by rw [hpc]; rfl) (by simp [hpc]) (by simp) (by simp)

-- Filling or completing a listed request.
theorem Wf.fill {s : Runtime} (h : s.Wf) {r : Nat} (hlate : (s.heap r).pc ≠ .unallocated)
    (hlate' : (s.heap r).pc ≠ .allocated) {q : Request} (hpc : q.pc = (s.heap r).pc)
    (hid : q.id = (s.heap r).id) (hlisted : q.listed = (s.heap r).listed)
    (hreplied : q.replied = true) : (s.put r q).Wf := by
  have hq := h.request r
  apply h.put
  · refine ⟨?_, ?_, fun _ => hreplied, fun _ => hreplied⟩
    · rw [hlisted, hpc]
      exact hq.listed_eq
    · rw [hpc]
      rintro (he | he)
      · exact absurd he hlate
      · exact absurd he hlate'
  · exact hlisted
  · exact fun _ => hid
  · exact fun _ => hreplied
  · exact fun hle => absurd hle (h.lt_allocated hlate)

-- Requests that a thread other than the waiter can hold have left the early points.
theorem Wf.late_of_replied {s : Runtime} (h : s.Wf) {r : Nat} (hr : (s.heap r).replied = true) :
    (s.heap r).pc ≠ .unallocated ∧ (s.heap r).pc ≠ .allocated := by
  have hearly := (h.request r).early
  constructor
  · intro hpc
    rw [(hearly (.inl hpc)).1] at hr
    cases hr
  · intro hpc
    rw [(hearly (.inr hpc)).1] at hr
    cases hr

theorem Wf.late_of_listed {s : Runtime} (h : s.Wf) {r : Nat} (hr : (s.heap r).listed = true) :
    (s.heap r).pc ≠ .unallocated ∧ (s.heap r).pc ≠ .allocated := by
  rw [(h.request r).listed_eq] at hr
  constructor <;> intro hpc <;> rw [hpc] at hr <;> cases hr

theorem cmdReply_cases {s t : Runtime} {id generation : Nat} {status : Int} {data : List UInt8}
    (hs : s.cmdReply id generation status data = some t) :
    t = s ∨ s.lock = none ∧ ∃ r, s.requestIndex id = some r ∧
      (t = s.touch r ∨
        ((s.heap r).generation = generation ∧
          t = { (s.touch r).put r ((s.heap r).accept status data) with
            controlPage := releaseCredit s.controlPage
            completing := r :: s.completing })) := by
  unfold Runtime.cmdReply at hs
  split at hs
  · exact .inl (Option.some.inj hs).symm
  · split at hs
    · cases hs
    · rename_i hlock
      split at hs
      · exact .inl (Option.some.inj hs).symm
      · rename_i r hindex
        split at hs
        · rename_i hgen
          exact .inr ⟨hlock, r, hindex, .inr ⟨hgen, (Option.some.inj hs).symm⟩⟩
        · exact .inr ⟨hlock, r, hindex, .inl (Option.some.inj hs).symm⟩

theorem Wf.touch {s : Runtime} (h : s.Wf) (r : Nat) : (s.touch r).Wf := { h with }

theorem Wf.cmdReply {s t : Runtime} {id generation : Nat} {status : Int} {data : List UInt8}
    (h : s.Wf) (hs : s.cmdReply id generation status data = some t) : t.Wf := by
  obtain rfl | ⟨_, r, hindex, rfl | ⟨_, rfl⟩⟩ := cmdReply_cases hs
  · exact h
  · exact h.touch r
  · obtain ⟨hlate, hlate'⟩ := h.late_of_listed (h.indexed id r hindex).1
    have hfilled := (h.touch r).fill hlate hlate' (q := (s.heap r).accept status data) rfl rfl rfl
      rfl
    exact { hfilled with
      completing_replied := by
        intro r' hr'
        rcases List.mem_cons.mp hr' with rfl | hold
        · change (((s.touch r').put r' _).heap r').replied = true
          rw [put_heap_self]
          rfl
        · exact hfilled.completing_replied r' hold }

theorem completeReply_cases {s t : Runtime} {r : Nat} (hs : s.completeReply r = some t) :
    r ∈ s.completing ∧
      t = { (s.touch r).put r { s.heap r with done := true } with
        completing := s.completing.erase r } := by
  unfold Runtime.completeReply at hs
  split at hs
  · rename_i hmem
    exact ⟨hmem, (Option.some.inj hs).symm⟩
  · cases hs

theorem Wf.completeReply {s t : Runtime} {r : Nat} (h : s.Wf) (hs : s.completeReply r = some t) :
    t.Wf := by
  obtain ⟨hmem, rfl⟩ := completeReply_cases hs
  have hreplied := h.completing_replied r hmem
  obtain ⟨hlate, hlate'⟩ := h.late_of_replied hreplied
  have hdone := (h.touch r).fill hlate hlate' (q := { s.heap r with done := true }) rfl rfl rfl
    hreplied
  exact { hdone with
    completing_replied := fun r' hr' => hdone.completing_replied r' (List.mem_of_mem_erase hr') }

theorem failBegin_cases {s t : Runtime} {cause : FailCause} (hs : s.failBegin cause = some t) :
    s.lock = none ∧
      ((cause = .reset ∧ t = { s with lock := some ⟨cause, s.requests, none⟩ }) ∨
        (cause = .release ∧ t = { s with
          lock := some ⟨cause, s.requests, none⟩, daemonOpen := false, v5Started := false })) := by
  unfold Runtime.failBegin at hs
  split at hs
  · cases hs
  · rename_i hlock
    cases cause with
    | reset => exact ⟨hlock, .inl ⟨rfl, (Option.some.inj hs).symm⟩⟩
    | release => exact ⟨hlock, .inr ⟨rfl, (Option.some.inj hs).symm⟩⟩

theorem Wf.failBegin {s t : Runtime} {cause : FailCause} (h : s.Wf)
    (hs : s.failBegin cause = some t) : t.Wf := by
  have hpending : ∀ r ∈ s.requests, (s.heap r).listed = true := fun r => (h.mem_requests r).mp
  obtain ⟨_, ⟨_, rfl⟩ | ⟨_, rfl⟩⟩ := failBegin_cases hs
  all_goals exact { h with
    pending_listed := by
      intro f hf
      cases hf
      exact hpending
    filled_listed := by
      intro f r hf hr
      cases hf
      cases hr }

theorem failFill_cases {s t : Runtime} (hs : s.failFill = some t) :
    ∃ cause r pending, s.lock = some ⟨cause, r :: pending, none⟩ ∧
      (((s.heap r).replied = true ∧ t = { s.touch r with lock := some ⟨cause, pending, none⟩ }) ∨
        ((s.heap r).replied = false ∧ t = { (s.touch r).put r ((s.heap r).fail ePipe) with
          lock := some ⟨cause, pending, some r⟩ })) := by
  unfold Runtime.failFill at hs
  split at hs
  · rename_i cause r pending hlock
    split at hs
    · rename_i hreplied
      exact ⟨cause, r, pending, hlock, .inl ⟨hreplied, (Option.some.inj hs).symm⟩⟩
    · rename_i hreplied
      exact ⟨cause, r, pending, hlock,
        .inr ⟨Bool.eq_false_iff.mpr hreplied, (Option.some.inj hs).symm⟩⟩
  · cases hs

theorem Wf.failFill {s t : Runtime} (h : s.Wf) (hs : s.failFill = some t) : t.Wf := by
  obtain ⟨cause, r, pending, hlock, ⟨_, rfl⟩ | ⟨_, rfl⟩⟩ := failFill_cases hs
  · exact { h.touch r with
      pending_listed := by
        intro f hf
        cases hf
        exact fun r' hr' => h.pending_listed _ hlock r' (List.mem_cons_of_mem r hr')
      filled_listed := by
        intro f r' hf hr
        cases hf
        cases hr }
  · have hlisted := h.pending_listed _ hlock r List.mem_cons_self
    obtain ⟨hlate, hlate'⟩ := h.late_of_listed hlisted
    have hfilled := (h.touch r).fill hlate hlate' (q := (s.heap r).fail ePipe) rfl rfl rfl rfl
    exact { hfilled with
      pending_listed := by
        intro f hf
        cases hf
        exact fun r' hr' => hfilled.pending_listed _ hlock r' (List.mem_cons_of_mem r hr')
      filled_listed := by
        intro f r' hf hr
        cases hf
        cases hr
        change (((s.touch r).put r _).heap r).listed = true ∧
          (((s.touch r).put r _).heap r).replied = true
        rw [put_heap_self]
        exact ⟨hlisted, rfl⟩ }

theorem failComplete_cases {s t : Runtime} (hs : s.failComplete = some t) :
    ∃ cause pending r, s.lock = some ⟨cause, pending, some r⟩ ∧
      t = { (s.touch r).put r { s.heap r with done := true } with
        lock := some ⟨cause, pending, none⟩ } := by
  unfold Runtime.failComplete at hs
  split at hs
  · rename_i cause pending r hlock
    exact ⟨cause, pending, r, hlock, (Option.some.inj hs).symm⟩
  · cases hs

theorem Wf.failComplete {s t : Runtime} (h : s.Wf) (hs : s.failComplete = some t) : t.Wf := by
  obtain ⟨cause, pending, r, hlock, rfl⟩ := failComplete_cases hs
  obtain ⟨hlisted, hreplied⟩ := h.filled_listed _ r hlock rfl
  obtain ⟨hlate, hlate'⟩ := h.late_of_listed hlisted
  have hdone := (h.touch r).fill hlate hlate' (q := { s.heap r with done := true }) rfl rfl rfl
    hreplied
  exact { hdone with
    pending_listed := by
      intro f hf
      cases hf
      exact hdone.pending_listed ⟨cause, pending, some r⟩ hlock
    filled_listed := by
      intro f r' hf hr
      cases hf
      cases hr }

theorem failEnd_cases {s t : Runtime} (hs : s.failEnd = some t) :
    (s.lock = some ⟨.reset, [], none⟩ ∧ t = { s with
        lock := none
        controlPage := s.controlPage.map fun _ => 0
        generation := nextGeneration s.generation }) ∨
      (s.lock = some ⟨.release, [], none⟩ ∧ t = { s with lock := none, controlPage := none }) := by
  unfold Runtime.failEnd at hs
  split at hs
  · rename_i hlock
    exact .inl ⟨hlock, (Option.some.inj hs).symm⟩
  · rename_i hlock
    exact .inr ⟨hlock, (Option.some.inj hs).symm⟩
  · cases hs

theorem bridgeOpen_cases {s t : Runtime} (hs : s.bridgeOpen = some t) :
    s.lock = none ∧ (t = s ∨
      (s.daemonOpen = false ∧ t = { s with daemonOpen := true, v5Started := false })) := by
  unfold Runtime.bridgeOpen at hs
  split at hs
  · cases hs
  · rename_i hlock
    split at hs
    · exact ⟨hlock, .inl (Option.some.inj hs).symm⟩
    · rename_i hopen
      exact ⟨hlock, .inr ⟨Bool.eq_false_iff.mpr hopen, (Option.some.inj hs).symm⟩⟩

theorem bridgeStart_cases {s t : Runtime} {limit : Nat} (hs : s.bridgeStart limit = some t) :
    s.lock = none ∧ s.daemonOpen = true ∧ s.v5Started = false ∧
      t = { s with v5Started := true, inflightCreditLimit := max 1 limit, controlPage := some 0 } := by
  unfold Runtime.bridgeStart at hs
  split at hs
  · cases hs
  · rename_i hlock
    split at hs
    · rename_i hready
      rw [Bool.and_eq_true, Bool.not_eq_true'] at hready
      exact ⟨hlock, hready.1, hready.2, (Option.some.inj hs).symm⟩
    · cases hs

-- With the lock free there is no list walk to constrain.
theorem Wf.unlocked {s : Runtime} (h : s.Wf) (page : Option Nat) (generation limit : Nat)
    (isOpen started : Bool) :
    ({ s with
      lock := none, controlPage := page, generation := generation, inflightCreditLimit := limit
      daemonOpen := isOpen, v5Started := started } : Runtime).Wf :=
  { h with
    pending_listed := by
      intro f hf
      cases hf
    filled_listed := by
      intro f r hf
      cases hf }

theorem Wf.step {s t : Runtime} {label : RequestStep} (h : s.Wf) (hs : s.step label = some t) :
    t.Wf := by
  cases label with
  | allocRequest buf => exact h.allocRequest hs
  | publish r stored full => exact h.publish hs
  | expire r => exact h.expire hs
  | wake r => exact h.wake hs
  | readOutcome r => exact h.readOutcome hs
  | unlink r => exact h.unlink hs
  | freeRequest r => exact h.freeRequest hs
  | cmdReply id generation status data => exact h.cmdReply hs
  | completeReply r => exact h.completeReply hs
  | failBegin cause => exact h.failBegin hs
  | failFill => exact h.failFill hs
  | failComplete => exact h.failComplete hs
  | failEnd =>
    obtain ⟨_, rfl⟩ | ⟨_, rfl⟩ := failEnd_cases hs
    · exact h.unlocked _ _ _ _ _
    · exact h.unlocked _ _ _ _ _
  | bridgeOpen =>
    obtain ⟨hlock, rfl | ⟨_, rfl⟩⟩ := bridgeOpen_cases hs
    · exact h
    · exact { h with }
  | bridgeStart limit =>
    obtain ⟨hlock, _, _, rfl⟩ := bridgeStart_cases hs
    exact { h with }

theorem wf_of_reach {ok : Runtime → RequestStep → Prop} {s : Runtime}
    (h : Reach Runtime.step ok Runtime.init s) : s.Wf :=
  h.invariant wf_init fun _ _ _ hwf _ hs => hwf.step hs

end Runtime

end Sensorium.Kernel

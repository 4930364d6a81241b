import Sensorium.Kernel.RequestSteps

/-!
# One completion per request

`cmd_reply` does not look at `replied`: a second reply overwrites the outcome of the first while the
request is still in the index, a timeout that expires between the fill and `complete_all` throws the
accepted reply away, and `complete_all` after the unlock can reach a request that its waiter has
freed.  Runs without these three events keep the first outcome and never touch freed memory.
-/

namespace Sensorium.Kernel

open Lib

/-- The request remembers its first completion, and what the waiter has read agrees with it. -/
def Request.Faithful (q : Request) : Prop :=
  match q.pc with
  | .waiting => q.first = if q.replied then some q.outcome else none
  | .timedOut => q.first = some ⟨eTimedOut, []⟩
  | .woken => q.first = some q.outcome
  | .outcomeRead status len | .unlinked status len | .returned status len =>
    q.first = some (outcomeOf status len q.responseBuf)
  | .unallocated | .allocated | .refusing _ | .refused _ => True

theorem Request.accept_outcome (q : Request) (status : Int) (data : List UInt8) :
    (q.accept status data).outcome = q.replyOutcome status data := by
  unfold outcome outcomeOf accept replyOutcome
  by_cases hstatus : status = 0
  · have hcopy : q.copyLen status data ≤ data.length := by
      unfold copyLen
      split
      · exact Nat.min_le_right _ _
      · exact Nat.zero_le _
    simp only [if_pos hstatus, Outcome.mk.injEq, true_and]
    rw [List.take_append_of_le_length (by rw [List.length_take]; omega), List.take_take, Nat.min_self]
    unfold copyLen
    by_cases hcap : q.responseBuf.length = 0
    · rw [if_neg (fun hand => hand.2 hcap), hcap]
    · rw [if_pos ⟨hstatus, hcap⟩, List.take_eq_take_iff]
      omega
  · simp only [if_neg hstatus]

theorem Request.fail_outcome (q : Request) : (q.fail ePipe).outcome = ⟨ePipe, []⟩ := rfl

-- The first fill of a listed request is its first completion, unless its wait has already expired.
theorem Request.faithful_fill {q q' : Request} (h : q.Faithful) (hwf : q.Wf)
    (hlisted : q.listed = true) (hreplied : q.replied = false) {o : Outcome}
    (hpc : q'.pc = q.pc) (hrep : q'.replied = true) (hout : q'.outcome = o)
    (hfirst : q'.first = q.first.or (some o)) : q'.Faithful := by
  have hin := hwf.listed_eq
  have hwoken := hwf.woken_replied
  rw [hlisted] at hin
  unfold Request.Faithful at h ⊢
  rw [hpc]
  cases hq : q.pc with
  | waiting =>
    simp only [hq, hreplied, Bool.false_eq_true, if_false] at h
    simp only [hrep, if_true, hfirst, h, Option.none_or, hout]
  | timedOut =>
    simp only [hq] at h
    simp only [hfirst, h, Option.some_or]
  | woken =>
    rw [hwoken (.inl hq)] at hreplied
    cases hreplied
  | outcomeRead status len =>
    rw [hwoken (.inr ⟨status, len, hq⟩)] at hreplied
    cases hreplied
  | _ =>
    rw [hq] at hin
    cases hin

namespace Runtime

/-- What `send_request` promises its callers in a state: a returned outcome is the first completion,
and nobody has used a request after its waiter freed it. -/
def ExactlyOnce (s : Runtime) : Prop :=
  s.touchedFreed = false ∧
    ∀ r status len, (s.heap r).pc = .returned status len →
      (s.heap r).first = some (outcomeOf status len (s.heap r).responseBuf)

/-- No accepted reply finds a replied request, no wait times out on a replied request, and no
request is freed while a replier still has to complete it. -/
def OnceGuard (s : Runtime) : RequestStep → Prop
  | .cmdReply id generation _ _ =>
    match s.requestIndex id with
    | some r => (s.heap r).generation = generation → (s.heap r).replied = false
    | none => True
  | .expire r => (s.heap r).replied = false
  | .freeRequest r => r ∉ s.completing
  | _ => True

instance (s : Runtime) (label : RequestStep) : Decidable (s.OnceGuard label) :=
  match label with
  | .cmdReply id generation _ _ =>
    show Decidable (match s.requestIndex id with
      | some r => (s.heap r).generation = generation → (s.heap r).replied = false
      | none => True) from
    match s.requestIndex id with
    | some r =>
      inferInstanceAs (Decidable ((s.heap r).generation = generation → (s.heap r).replied = false))
    | none => .isTrue trivial
  | .expire r => inferInstanceAs (Decidable ((s.heap r).replied = false))
  | .freeRequest r => inferInstanceAs (Decidable (r ∉ s.completing))
  | .allocRequest _ | .publish _ _ _ | .wake _ | .readOutcome _ | .unlink _ | .completeReply _
  | .failBegin _ | .failFill | .failComplete | .failEnd | .bridgeOpen | .bridgeStart _ =>
    .isTrue trivial

structure Once (s : Runtime) : Prop where
  faithful : ∀ r, (s.heap r).Faithful
  completing_live : ∀ r ∈ s.completing, (s.heap r).freed = false
  untouched : s.touchedFreed = false

theorem once_init : Runtime.init.Once where
  faithful := fun _ => trivial
  completing_live := by simp [Runtime.init]
  untouched := rfl

theorem Once.put {s : Runtime} (h : s.Once) {r : Nat} {q : Request} (hq : q.Faithful)
    (hfree : r ∈ s.completing → q.freed = false) : (s.put r q).Once where
  faithful := by
    intro r'
    by_cases hr : r' = r
    · rw [hr, put_heap_self]
      exact hq
    · rw [put_heap_of_ne s q hr]
      exact h.faithful r'
  completing_live := by
    intro r' hr'
    by_cases hr : r' = r
    · rw [hr, put_heap_self]
      exact hfree (hr ▸ hr')
    · rw [put_heap_of_ne s q hr]
      exact h.completing_live r' hr'
  untouched := h.untouched

theorem Once.touch {s : Runtime} (h : s.Once) {r : Nat} (hlive : (s.heap r).freed = false) :
    (s.touch r).Once :=
  { h with
    untouched := by
      change (s.touchedFreed || (s.heap r).freed) = false
      rw [h.untouched, hlive]
      rfl }

/-! ## Steps -/

theorem Once.allocRequest {s t : Runtime} {buf : List UInt8} (h : s.Once)
    (hs : s.allocRequest buf = some t) : t.Once := by
  cases hs
  have hput := h.put (r := s.allocated)
    (q := { Request.blank with generation := s.generation, responseBuf := buf, pc := .allocated })
    trivial fun _ => rfl
  exact { hput with }

theorem Once.publish {s t : Runtime} {r : Nat} {stored full : Bool} (h : s.Once) (hwf : s.Wf)
    (hs : s.publish r stored full = some t) : t.Once := by
  obtain ⟨_, hpc, ⟨_, _, _, _, rfl⟩ | ⟨status, _, _, rfl⟩⟩ := publish_cases hs
  · obtain ⟨hrep, _, hfirst⟩ := (hwf.request r).early (.inr hpc)
    have hwaiting : ({ s.heap r with
        id := u32 (s.nextRequestId + 1), listed := true, pc := .waiting } : Request).Faithful := by
      change (s.heap r).first = if (s.heap r).replied then _ else none
      rw [hfirst, hrep]
      rfl
    exact { h.put hwaiting fun _ => rfl with }
  · have hput := h.put (r := r)
      (q := { s.heap r with id := u32 (s.nextRequestId + 1), pc := .refusing status })
      trivial fun _ => rfl
    exact { hput with }

theorem Once.expire {s t : Runtime} {r : Nat} (h : s.Once) (hok : (s.heap r).replied = false)
    (hs : s.expire r = some t) : t.Once := by
  obtain ⟨hpc, _, rfl⟩ := expire_cases hs
  have hfaithful := h.faithful r
  simp only [Request.Faithful, hpc, hok, Bool.false_eq_true, if_false] at hfaithful
  refine h.put ?_ fun _ => rfl
  change (s.heap r).first.or _ = _
  rw [hfaithful]
  rfl

theorem Once.wake {s t : Runtime} {r : Nat} (h : s.Once) (hwf : s.Wf) (hs : s.wake r = some t) :
    t.Once := by
  obtain ⟨hpc, hdone, rfl⟩ := wake_cases hs
  have hfaithful := h.faithful r
  simp only [Request.Faithful, hpc, (hwf.request r).done_replied hdone, if_true] at hfaithful
  exact h.put hfaithful fun _ => rfl

theorem Once.readOutcome {s t : Runtime} {r : Nat} (h : s.Once) (hs : s.readOutcome r = some t) :
    t.Once := by
  obtain ⟨hpc, rfl⟩ := readOutcome_cases hs
  have hfaithful := h.faithful r
  simp only [Request.Faithful, hpc] at hfaithful
  exact h.put hfaithful fun _ => rfl

-- Leaving the list changes neither the outcome nor who may still use the request.
theorem Once.delist {s : Runtime} (h : s.Once) {r : Nat} (status : Int) (len : Nat)
    (hfirst : (s.heap r).first = some (outcomeOf status len (s.heap r).responseBuf)) :
    (s.delist r (.unlinked status len)).Once := by
  unfold Runtime.delist
  split
  · have hput := h.put (r := r)
      (q := { s.heap r with listed := false, pc := .unlinked status len }) hfirst fun _ => rfl
    exact { hput with }
  · exact h.put hfirst fun _ => rfl

theorem Once.unlink {s t : Runtime} {r : Nat} (h : s.Once) (hs : s.unlink r = some t) : t.Once := by
  have hfaithful := h.faithful r
  obtain ⟨_, ⟨hpc, rfl⟩ | ⟨status, len, hpc, rfl⟩⟩ := unlink_cases hs
  · simp only [Request.Faithful, hpc] at hfaithful
    exact { h.delist eTimedOut 0 hfaithful with }
  · simp only [Request.Faithful, hpc] at hfaithful
    exact h.delist status len hfaithful

theorem Once.freeRequest {s t : Runtime} {r : Nat} (h : s.Once) (hok : r ∉ s.completing)
    (hs : s.freeRequest r = some t) : t.Once := by
  have hfaithful := h.faithful r
  obtain ⟨status, len, hpc, rfl⟩ | ⟨status, hpc, rfl⟩ := freeRequest_cases hs
  · simp only [Request.Faithful, hpc] at hfaithful
    exact h.put hfaithful fun hmem => absurd hmem hok
  · exact h.put trivial fun hmem => absurd hmem hok

theorem Once.cmdReply {s t : Runtime} {id generation : Nat} {status : Int} {data : List UInt8}
    (h : s.Once) (hwf : s.Wf) (hok : s.OnceGuard (.cmdReply id generation status data))
    (hs : s.cmdReply id generation status data = some t) : t.Once := by
  obtain rfl | ⟨_, r, hindex, hcase⟩ := cmdReply_cases hs
  · exact h
  · have hlisted := (hwf.indexed id r hindex).1
    have hlive := (hwf.request r).not_freed hlisted
    obtain rfl | ⟨hgen, rfl⟩ := hcase
    · exact h.touch hlive
    · simp only [OnceGuard, hindex] at hok
      have hfaithful : ((s.heap r).accept status data).Faithful :=
        Request.faithful_fill (h.faithful r) (hwf.request r) hlisted (hok hgen) rfl rfl
          ((s.heap r).accept_outcome status data) rfl
      have hfilled := (h.touch hlive).put (r := r) hfaithful fun _ => hlive
      exact { hfilled with
        completing_live := by
          intro r' hr'
          rcases List.mem_cons.mp hr' with rfl | hold
          · change (((s.touch r').put r' _).heap r').freed = false
            rw [put_heap_self]
            exact hlive
          · exact hfilled.completing_live r' hold }

theorem Once.completeReply {s t : Runtime} {r : Nat} (h : s.Once)
    (hs : s.completeReply r = some t) : t.Once := by
  obtain ⟨hmem, rfl⟩ := completeReply_cases hs
  have hlive := h.completing_live r hmem
  have hdone := (h.touch hlive).put (r := r) (q := { s.heap r with done := true }) (h.faithful r)
    fun _ => hlive
  exact { hdone with
    completing_live := fun r' hr' => hdone.completing_live r' (List.mem_of_mem_erase hr') }

theorem Once.failFill {s t : Runtime} (h : s.Once) (hwf : s.Wf) (hs : s.failFill = some t) :
    t.Once := by
  obtain ⟨_, r, _, hlock, hcase⟩ := failFill_cases hs
  have hlisted := hwf.pending_listed _ hlock r List.mem_cons_self
  have hlive := (hwf.request r).not_freed hlisted
  obtain ⟨_, rfl⟩ | ⟨hreplied, rfl⟩ := hcase
  · exact { h.touch hlive with }
  · have hfaithful : ((s.heap r).fail ePipe).Faithful :=
      Request.faithful_fill (h.faithful r) (hwf.request r) hlisted hreplied rfl rfl
        (s.heap r).fail_outcome rfl
    exact { (h.touch hlive).put (r := r) hfaithful fun _ => hlive with }

theorem Once.failComplete {s t : Runtime} (h : s.Once) (hwf : s.Wf)
    (hs : s.failComplete = some t) : t.Once := by
  obtain ⟨_, _, r, hlock, rfl⟩ := failComplete_cases hs
  have hlive := (hwf.request r).not_freed (hwf.filled_listed _ r hlock rfl).1
  have hdone := (h.touch hlive).put (r := r) (q := { s.heap r with done := true }) (h.faithful r)
    fun _ => hlive
  exact { hdone with }

theorem Once.step {s t : Runtime} {label : RequestStep} (h : s.Once) (hwf : s.Wf)
    (hok : s.OnceGuard label) (hs : s.step label = some t) : t.Once := by
  cases label with
  | allocRequest buf => exact h.allocRequest hs
  | publish r stored full => exact h.publish hwf hs
  | expire r => exact h.expire hok hs
  | wake r => exact h.wake hwf hs
  | readOutcome r => exact h.readOutcome hs
  | unlink r => exact h.unlink hs
  | freeRequest r => exact h.freeRequest hok hs
  | cmdReply id generation status data => exact h.cmdReply hwf hok hs
  | completeReply r => exact h.completeReply hs
  | failBegin cause =>
    obtain ⟨_, ⟨_, rfl⟩ | ⟨_, rfl⟩⟩ := failBegin_cases hs
    · exact { h with }
    · exact { h with }
  | failFill => exact h.failFill hwf hs
  | failComplete => exact h.failComplete hwf hs
  | failEnd =>
    obtain ⟨_, rfl⟩ | ⟨_, rfl⟩ := failEnd_cases hs
    · exact { h with }
    · exact { h with }
  | bridgeOpen =>
    obtain ⟨_, rfl | ⟨_, rfl⟩⟩ := bridgeOpen_cases hs
    · exact h
    · exact { h with }
  | bridgeStart limit =>
    obtain ⟨_, _, _, rfl⟩ := bridgeStart_cases hs
    exact { h with }

theorem once_of_reach {s : Runtime} (h : Reach Runtime.step OnceGuard Runtime.init s) : s.Once := by
  have hboth : s.Wf ∧ s.Once := by
    apply h.invariant (I := fun s => s.Wf ∧ s.Once) ⟨wf_init, once_init⟩
    intro s label t hinv hok hs
    exact ⟨hinv.1.step hs, hinv.2.step hinv.1 hok hs⟩
  exact hboth.2

/-- Along every run without those three events, every call returns its first completion and no
thread uses a freed request. -/
theorem exactlyOnce_of_reach {s : Runtime} (h : Reach Runtime.step OnceGuard Runtime.init s) :
    s.ExactlyOnce := by
  have honce := once_of_reach h
  refine ⟨honce.untouched, ?_⟩
  intro r status len hpc
  have hfaithful := honce.faithful r
  simp only [Request.Faithful, hpc] at hfaithful
  exact hfaithful

/-! ## Schedules -/

-- The bridge is up and one request is published.
def oneRequest : List RequestStep :=
  [.bridgeOpen, .bridgeStart 8, .allocRequest [0, 0], .publish 0 true false]

-- One reply with its completion, and the waiter up to its return.
def oneReply : List RequestStep :=
  [.cmdReply 1 0 0 [42], .completeReply 0, .wake 0, .readOutcome 0, .unlink 0, .freeRequest 0]

theorem exactlyOnce_one_reply :
    ∃ s : Runtime, (s.heap 0).pc = .returned 0 1 ∧ s.ExactlyOnce := by
  have hrun : (exec (guarded Runtime.step OnceGuard) Runtime.init (oneRequest ++ oneReply)).map
      (fun s => (s.heap 0).pc) = some (.returned 0 1) := by decide
  obtain ⟨s, hexec, hpc⟩ := Option.map_eq_some_iff.mp hrun
  exact ⟨s, hpc, exactlyOnce_of_reach (reach_of_exec hexec)⟩

-- A second reply, with another status, arrives before the waiter has read the first.
def duplicateReply : List RequestStep :=
  [.cmdReply 1 0 0 [42], .completeReply 0, .wake 0, .cmdReply 1 0 (-5) [], .readOutcome 0,
    .unlink 0, .completeReply 0, .freeRequest 0]

/-- The caller gets `-EIO` although the first accepted reply carried status 0. -/
theorem exactlyOnce_fails_on_duplicate :
    ¬ ∀ s, Reach Runtime.step anyStep Runtime.init s → s.ExactlyOnce := by
  intro h
  have hrun : (exec (guarded Runtime.step anyStep) Runtime.init (oneRequest ++ duplicateReply)).map
      (fun s => ((s.heap 0).pc, (s.heap 0).first)) =
        some (.returned (-5) 0, some ⟨0, [42]⟩) := by decide
  obtain ⟨s, hexec, hview⟩ := Option.map_eq_some_iff.mp hrun
  simp only [Prod.mk.injEq] at hview
  have hfirst := (h s (reach_of_exec hexec)).2 0 (-5) 0 hview.1
  rw [hview.2] at hfirst
  simp [outcomeOf] at hfirst

-- A reply that is accepted after the timeout completes the request after it is freed.
example : (exec (guarded Runtime.step anyStep) Runtime.init (oneRequest ++
    [.expire 0, .cmdReply 1 0 0 [], .unlink 0, .freeRequest 0, .completeReply 0])).map
      touchedFreed = some true := by decide

-- A timeout between the fill and `complete_all` returns `-ETIMEDOUT` for an accepted reply.
example : (exec (guarded Runtime.step anyStep) Runtime.init (oneRequest ++
    [.cmdReply 1 0 0 [42], .expire 0, .completeReply 0, .unlink 0, .freeRequest 0])).map
      (fun s => ((s.heap 0).pc, (s.heap 0).first)) =
        some (.returned eTimedOut 0, some ⟨0, [42]⟩) := by decide

end Runtime

end Sensorium.Kernel

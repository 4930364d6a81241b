import Mathlib.Data.List.Count
import Sensorium.Kernel.RequestSteps

/-!
# Inflight credits

`inflight_in_use` goes up when a request is queued and down on a reply, on a timeout and in
`fail_all_locked`.  The reply and the timeout path do not look at `replied`, so a request can give
its credit back twice.  Runs in which neither acts on a replied request keep the counter equal to
the number of listed requests without a reply.
-/

namespace Sensorium.Kernel

open Lib

namespace Runtime

/-- The requests that are on the list, hence queued on the transport ring, and neither replied to
nor failed.  A timeout takes effect in its lock section, which takes the request off the list. -/
def outstanding (s : Runtime) : Nat := s.requests.countP fun r => !(s.heap r).replied

/-- With the lock free, the credit counter is the number of outstanding requests and within the
limit; without a control page nothing is outstanding. -/
def CreditsExact (s : Runtime) : Prop :=
  s.lock = none →
    match s.controlPage with
    | some inflight => inflight = s.outstanding ∧ s.outstanding ≤ s.inflightCreditLimit
    | none => s.outstanding = 0

/-- No accepted reply and no timeout section acts on a request that is already replied. -/
def CreditGuard (s : Runtime) : RequestStep → Prop
  | .cmdReply id generation _ _ =>
    match s.requestIndex id with
    | some r => (s.heap r).generation = generation → (s.heap r).replied = false
    | none => True
  | .unlink r => (s.heap r).pc = .timedOut → (s.heap r).replied = false
  | _ => True

instance (s : Runtime) (label : RequestStep) : Decidable (s.CreditGuard label) := by
  unfold CreditGuard
  split
  · split <;> infer_instance
  all_goals infer_instance

/-- The invariant: exact credits, nothing outstanding before the bridge is started, and every
outstanding request still ahead of a `fail_all_locked` in progress. -/
structure Credits (s : Runtime) : Prop where
  exact : s.CreditsExact
  stopped : s.lock = none → s.v5Started = false → s.outstanding = 0
  closed : s.daemonOpen = false → s.v5Started = false
  failing : ∀ f, s.lock = some f → ∀ r ∈ s.requests, (s.heap r).replied = false → r ∈ f.pending

theorem credits_init : Runtime.init.Credits where
  exact := fun _ => rfl
  stopped := fun _ _ => rfl
  closed := fun _ => rfl
  failing := by simp [Runtime.init]

/-! ## Counting -/

-- A request off the list, or one whose `replied` stays, does not move the count.
theorem outstanding_put {s : Runtime} {r : Nat} {q : Request}
    (hsame : r ∈ s.requests → q.replied = (s.heap r).replied) :
    (s.put r q).outstanding = s.outstanding := by
  apply List.countP_congr
  intro r' hr'
  by_cases hr : r' = r
  · rw [hr, put_heap_self, hsame (hr ▸ hr')]
  · rw [put_heap_of_ne s q hr]

-- Off the list, an outstanding request takes one from the count.
theorem outstanding_erase {s : Runtime} {r : Nat} (hmem : r ∈ s.requests)
    (hreplied : (s.heap r).replied = false) :
    s.outstanding = (s.requests.erase r).countP (fun r' => !(s.heap r').replied) + 1 := by
  unfold outstanding
  rw [(List.perm_cons_erase hmem).countP_eq, List.countP_cons_of_pos (by simp [hreplied])]

-- Marking an outstanding request takes one from the count.
theorem outstanding_reply {s : Runtime} (h : s.Wf) {r : Nat} {q : Request} (hmem : r ∈ s.requests)
    (hreplied : (s.heap r).replied = false) (hq : q.replied = true) :
    s.outstanding = (s.put r q).outstanding + 1 := by
  rw [outstanding_erase hmem hreplied]
  unfold outstanding
  rw [(List.perm_cons_erase (show r ∈ (s.put r q).requests from hmem)).countP_eq,
    List.countP_cons_of_neg (by rw [put_heap_self, hq]; simp)]
  apply congrArg (· + 1)
  apply List.countP_congr
  intro r' hr'
  rw [put_heap_of_ne s q (h.nodup.mem_erase_iff.mp hr').1]

-- A new listed request adds one.
theorem outstanding_append {s : Runtime} {r : Nat} {q : Request}
    (hold : (s.heap r).replied = false) (hnew : q.replied = false) :
    ({ s.put r q with requests := s.requests ++ [r] } : Runtime).outstanding =
      s.outstanding + 1 := by
  change (s.requests ++ [r]).countP (fun r' => !((s.put r q).heap r').replied) = _
  rw [List.countP_append, List.countP_cons_of_pos (by rw [put_heap_self, hnew]; rfl),
    List.countP_nil, Nat.zero_add]
  exact congrArg (· + 1) (outstanding_put fun _ => hnew.trans hold.symm)

theorem outstanding_eq_zero {s : Runtime} (h : ∀ r ∈ s.requests, (s.heap r).replied = true) :
    s.outstanding = 0 := by
  unfold outstanding
  rw [List.countP_eq_zero]
  intro r hr
  rw [h r hr]
  simp

/-! ## Steps -/

-- Steps that move no credit.
theorem Credits.put {s : Runtime} (h : s.Credits) {r : Nat} {q : Request}
    (hsame : r ∈ s.requests → q.replied = (s.heap r).replied) : (s.put r q).Credits where
  exact := by
    intro hlock
    rw [outstanding_put hsame]
    exact h.exact hlock
  stopped := by
    intro hlock hstarted
    rw [outstanding_put hsame]
    exact h.stopped hlock hstarted
  closed := h.closed
  failing := by
    intro f hf r' hr' hreplied
    apply h.failing f hf r' hr'
    by_cases hr : r' = r
    · subst hr
      rw [put_heap_self, hsame hr'] at hreplied
      exact hreplied
    · rw [put_heap_of_ne s q hr] at hreplied
      exact hreplied

theorem Credits.allocRequest {s t : Runtime} {buf : List UInt8} (h : s.Credits) (hwf : s.Wf)
    (hs : s.allocRequest buf = some t) : t.Credits := by
  cases hs
  have hput := h.put (r := s.allocated)
    (q := { Request.blank with generation := s.generation, responseBuf := buf, pc := .allocated })
    fun _ => ((hwf.request _).early (.inl (hwf.fresh _ (Nat.le_refl _)))).1.symm
  exact { hput with }

theorem Credits.publish {s t : Runtime} {r : Nat} {stored full : Bool} (h : s.Credits)
    (hwf : s.Wf) (hs : s.publish r stored full = some t) : t.Credits := by
  obtain ⟨hlock, hpc, ⟨inflight, hstarted, hpage, hroom, rfl⟩ | ⟨status, _, _, rfl⟩⟩ :=
    publish_cases hs
  · have hreplied := ((hwf.request r).early (.inr hpc)).1
    have hcount := outstanding_append (s := s) (r := r) (q := { s.heap r with
      id := u32 (s.nextRequestId + 1), listed := true, pc := .waiting }) hreplied hreplied
    have hexact := h.exact hlock
    rw [hpage] at hexact
    obtain ⟨rfl, _⟩ := hexact
    constructor
    · intro _
      exact ⟨hcount.symm, Nat.le_trans (Nat.le_of_eq hcount) hroom⟩
    · intro _ hstopped
      change s.v5Started = false at hstopped
      rw [hstarted] at hstopped
      cases hstopped
    · exact h.closed
    · intro f hf
      change s.lock = some f at hf
      rw [hlock] at hf
      cases hf
  · have hput := h.put (r := r)
      (q := { s.heap r with id := u32 (s.nextRequestId + 1), pc := .refusing status })
      fun _ => rfl
    exact { hput with }

theorem delist_outstanding {s : Runtime} (hwf : s.Wf) {r : Nat} {pc : SendPc}
    (hlisted : (s.heap r).listed = true) :
    (s.delist r pc).outstanding =
      (s.requests.erase r).countP fun r' => !(s.heap r').replied := by
  rw [Runtime.delist, if_pos hlisted]
  apply List.countP_congr
  intro r' hr'
  change (!((s.put r _).heap r').replied) = true ↔ _
  rw [put_heap_of_ne s _ (hwf.nodup.mem_erase_iff.mp hr').1]

-- The request leaves the list, and the page after it counts what is left.
theorem Credits.delist {s : Runtime} (h : s.Credits) (hwf : s.Wf) (hlock : s.lock = none)
    {r : Nat} {pc : SendPc} (hlisted : (s.heap r).listed = true) {page : Option Nat}
    (hpage : match page with
      | some inflight => inflight = (s.delist r pc).outstanding ∧
          inflight ≤ s.inflightCreditLimit
      | none => (s.delist r pc).outstanding = 0) :
    ({ s.delist r pc with controlPage := page } : Runtime).Credits := by
  have hle : (s.delist r pc).outstanding ≤ s.outstanding := by
    rw [delist_outstanding hwf hlisted]
    exact List.Sublist.countP_le List.erase_sublist
  have hfields : (s.delist r pc).lock = s.lock ∧ (s.delist r pc).v5Started = s.v5Started ∧
      (s.delist r pc).daemonOpen = s.daemonOpen ∧
      (s.delist r pc).inflightCreditLimit = s.inflightCreditLimit := by
    rw [Runtime.delist, if_pos hlisted]
    exact ⟨rfl, rfl, rfl, rfl⟩
  obtain ⟨hl, hv, hd, hlim⟩ := hfields
  constructor
  · intro _
    cases page with
    | none => exact hpage
    | some inflight =>
      change inflight = (s.delist r pc).outstanding ∧
        (s.delist r pc).outstanding ≤ (s.delist r pc).inflightCreditLimit
      rw [hlim]
      exact ⟨hpage.1, hpage.1 ▸ hpage.2⟩
  · intro _ hstarted
    change (s.delist r pc).v5Started = false at hstarted
    change (s.delist r pc).outstanding = 0
    rw [hv] at hstarted
    have := h.stopped hlock hstarted
    omega
  · change (s.delist r pc).daemonOpen = false → (s.delist r pc).v5Started = false
    rw [hd, hv]
    exact h.closed
  · intro f hf
    change (s.delist r pc).lock = some f at hf
    rw [hl, hlock] at hf
    cases hf

theorem Credits.unlink {s t : Runtime} {r : Nat} (h : s.Credits) (hwf : s.Wf)
    (hok : s.CreditGuard (.unlink r)) (hs : s.unlink r = some t) : t.Credits := by
  obtain ⟨hlock, ⟨hpc, rfl⟩ | ⟨status, len, hpc, rfl⟩⟩ := unlink_cases hs
  · have hlisted : (s.heap r).listed = true := by rw [(hwf.request r).listed_eq, hpc]; rfl
    have hcount := outstanding_erase ((hwf.mem_requests r).mpr hlisted) (hok hpc)
    rw [if_pos hlisted]
    apply h.delist hwf hlock hlisted
    have hexact := h.exact hlock
    rw [delist_outstanding hwf hlisted]
    cases hpage : s.controlPage with
    | none =>
      simp only [hpage] at hexact
      omega
    | some inflight =>
      simp only [hpage] at hexact
      change inflight - 1 = _ ∧ inflight - 1 ≤ _
      omega
  · have hlisted : (s.heap r).listed = true := by rw [(hwf.request r).listed_eq, hpc]; rfl
    -- A woken request was replied to, so its credit is already back.
    have hreplied := (hwf.request r).woken_replied (.inr ⟨status, len, hpc⟩)
    have hcount : s.outstanding =
        (s.requests.erase r).countP fun r' => !(s.heap r').replied := by
      unfold outstanding
      rw [(List.perm_cons_erase ((hwf.mem_requests r).mpr hlisted)).countP_eq,
        List.countP_cons_of_neg (by rw [hreplied]; simp)]
    have hkeep : s.delist r (.unlinked status len) =
        { s.delist r (.unlinked status len) with controlPage := s.controlPage } := by
      rw [Runtime.delist, if_pos hlisted]
      rfl
    rw [hkeep]
    apply h.delist hwf hlock hlisted
    have hexact := h.exact hlock
    rw [delist_outstanding hwf hlisted, ← hcount]
    cases hpage : s.controlPage with
    | none =>
      simp only [hpage] at hexact
      exact hexact
    | some inflight =>
      simp only [hpage] at hexact
      exact ⟨hexact.1, hexact.1 ▸ hexact.2⟩

theorem Credits.cmdReply {s t : Runtime} {id generation : Nat} {status : Int} {data : List UInt8}
    (h : s.Credits) (hwf : s.Wf) (hok : s.CreditGuard (.cmdReply id generation status data))
    (hs : s.cmdReply id generation status data = some t) : t.Credits := by
  obtain rfl | ⟨hlock, r, hindex, rfl | ⟨hgen, rfl⟩⟩ := cmdReply_cases hs
  · exact h
  · exact { h with }
  · simp only [CreditGuard, hindex] at hok
    have hmem := (hwf.mem_requests r).mpr (hwf.indexed id r hindex).1
    have hcount := outstanding_reply (q := (s.heap r).accept status data) hwf hmem (hok hgen) rfl
    have hexact := h.exact hlock
    constructor
    · intro _
      change match releaseCredit s.controlPage with
        | some inflight => inflight = (s.put r ((s.heap r).accept status data)).outstanding ∧
            (s.put r ((s.heap r).accept status data)).outstanding ≤ s.inflightCreditLimit
        | none => (s.put r ((s.heap r).accept status data)).outstanding = 0
      cases hpage : s.controlPage with
      | none =>
        simp only [hpage] at hexact
        omega
      | some inflight =>
        simp only [hpage] at hexact
        change inflight - 1 = _ ∧ _
        omega
    · intro _ hstarted
      have := h.stopped hlock hstarted
      change (s.put r ((s.heap r).accept status data)).outstanding = 0
      omega
    · exact h.closed
    · intro f hf
      change s.lock = some f at hf
      rw [hlock] at hf
      cases hf

theorem Credits.failBegin {s t : Runtime} {cause : FailCause} (h : s.Credits)
    (hs : s.failBegin cause = some t) : t.Credits := by
  obtain ⟨_, ⟨_, rfl⟩ | ⟨_, rfl⟩⟩ := failBegin_cases hs
  all_goals
    constructor
    · intro hlock
      cases hlock
    · intro hlock
      cases hlock
    · first
      | exact h.closed
      | exact fun _ => rfl
    · intro f hf r hr _
      cases hf
      exact hr

theorem Credits.failFill {s t : Runtime} (h : s.Credits) (hs : s.failFill = some t) :
    t.Credits := by
  obtain ⟨cause, r, pending, hlock, ⟨hreplied, rfl⟩ | ⟨_, rfl⟩⟩ := failFill_cases hs
  · constructor
    · intro hlock'
      cases hlock'
    · intro hlock'
      cases hlock'
    · exact h.closed
    · intro f hf r' hr' hno
      cases hf
      rcases List.mem_cons.mp (h.failing _ hlock r' hr' hno) with rfl | hrest
      · change (s.heap r').replied = false at hno
        rw [hreplied] at hno
        cases hno
      · exact hrest
  · constructor
    · intro hlock'
      cases hlock'
    · intro hlock'
      cases hlock'
    · exact h.closed
    · intro f hf r' hr' hno
      cases hf
      change (((s.touch r).put r _).heap r').replied = false at hno
      by_cases hr : r' = r
      · rw [hr, put_heap_self] at hno
        cases hno
      · rw [put_heap_of_ne _ _ hr] at hno
        exact (List.mem_cons.mp (h.failing _ hlock r' hr' hno)).resolve_left hr

theorem Credits.failComplete {s t : Runtime} (h : s.Credits) (hs : s.failComplete = some t) :
    t.Credits := by
  obtain ⟨cause, pending, r, hlock, rfl⟩ := failComplete_cases hs
  have hput := h.put (r := r) (q := { s.heap r with done := true }) fun _ => rfl
  constructor
  · intro hlock'
    cases hlock'
  · intro hlock'
    cases hlock'
  · exact h.closed
  · intro f hf r' hr' hno
    cases hf
    exact hput.failing _ hlock r' hr' hno

-- The walk is over, so every listed request is replied to.
theorem Credits.walked {s : Runtime} (h : s.Credits) {cause : FailCause}
    (hlock : s.lock = some ⟨cause, [], none⟩) : s.outstanding = 0 := by
  apply outstanding_eq_zero
  intro r hr
  by_contra hno
  exact List.not_mem_nil (h.failing _ hlock r hr (Bool.eq_false_iff.mpr hno))

theorem Credits.failEnd {s t : Runtime} (h : s.Credits) (hs : s.failEnd = some t) : t.Credits := by
  obtain ⟨hlock, rfl⟩ | ⟨hlock, rfl⟩ := failEnd_cases hs
  · have hzero := h.walked hlock
    constructor
    · intro _
      cases hpage : s.controlPage with
      | none => exact hzero
      | some inflight =>
        change 0 = s.outstanding ∧ s.outstanding ≤ s.inflightCreditLimit
        rw [hzero]
        exact ⟨rfl, Nat.zero_le _⟩
    · exact fun _ _ => hzero
    · exact h.closed
    · intro f hf
      cases hf
  · have hzero := h.walked hlock
    constructor
    · exact fun _ => hzero
    · exact fun _ _ => hzero
    · exact h.closed
    · intro f hf
      cases hf

theorem Credits.bridgeOpen {s t : Runtime} (h : s.Credits) (hs : s.bridgeOpen = some t) :
    t.Credits := by
  obtain ⟨hlock, rfl | ⟨hclosed, rfl⟩⟩ := bridgeOpen_cases hs
  · exact h
  · exact { h with
      stopped := fun _ _ => h.stopped hlock (h.closed hclosed)
      closed := fun _ => rfl }

theorem Credits.bridgeStart {s t : Runtime} {limit : Nat} (h : s.Credits)
    (hs : s.bridgeStart limit = some t) : t.Credits := by
  obtain ⟨hlock, hopen, hstopped, rfl⟩ := bridgeStart_cases hs
  have hzero := h.stopped hlock hstopped
  constructor
  · intro _
    change 0 = s.outstanding ∧ s.outstanding ≤ max 1 limit
    rw [hzero]
    exact ⟨rfl, Nat.zero_le _⟩
  · intro _ hno
    cases hno
  · intro hclosed
    change s.daemonOpen = false at hclosed
    rw [hopen] at hclosed
    cases hclosed
  · exact h.failing

theorem Credits.step {s t : Runtime} {label : RequestStep} (h : s.Credits) (hwf : s.Wf)
    (hok : s.CreditGuard label) (hs : s.step label = some t) : t.Credits := by
  cases label with
  | allocRequest buf => exact h.allocRequest hwf hs
  | publish r stored full => exact h.publish hwf hs
  | expire r =>
    obtain ⟨_, _, rfl⟩ := expire_cases hs
    exact h.put fun _ => rfl
  | wake r =>
    obtain ⟨_, _, rfl⟩ := wake_cases hs
    exact h.put fun _ => rfl
  | readOutcome r =>
    obtain ⟨_, rfl⟩ := readOutcome_cases hs
    exact h.put fun _ => rfl
  | unlink r => exact h.unlink hwf hok hs
  | freeRequest r =>
    obtain ⟨_, _, _, rfl⟩ | ⟨_, _, rfl⟩ := freeRequest_cases hs
    · exact h.put fun _ => rfl
    · exact h.put fun _ => rfl
  | cmdReply id generation status data => exact h.cmdReply hwf hok hs
  | completeReply r =>
    obtain ⟨_, rfl⟩ := completeReply_cases hs
    exact { h.put (r := r) (q := { s.heap r with done := true }) fun _ => rfl with }
  | failBegin cause => exact h.failBegin hs
  | failFill => exact h.failFill hs
  | failComplete => exact h.failComplete hs
  | failEnd => exact h.failEnd hs
  | bridgeOpen => exact h.bridgeOpen hs
  | bridgeStart limit => exact h.bridgeStart hs

/-- Along every run in which no accepted reply and no timeout section acts on a replied request, the
credit counter is exact and within its limit whenever the lock is free. -/
theorem creditsExact_of_reach {s : Runtime}
    (h : Reach Runtime.step CreditGuard Runtime.init s) : s.CreditsExact := by
  have hboth : s.Wf ∧ s.Credits := by
    apply h.invariant (I := fun s => s.Wf ∧ s.Credits) ⟨wf_init, credits_init⟩
    intro s label t hinv hok hs
    exact ⟨hinv.1.step hs, hinv.2.step hinv.1 hok hs⟩
  exact hboth.2.exact

/-! ## Schedules -/

-- Two requests are published on a bridge with two credits.
def twoRequests : List RequestStep :=
  [.bridgeOpen, .bridgeStart 2, .allocRequest [], .publish 0 true false, .allocRequest [],
    .publish 1 true false]

theorem creditsExact_two_requests :
    ∃ s : Runtime, s.controlPage = some 2 ∧ s.CreditsExact := by
  have hrun : (exec (guarded Runtime.step CreditGuard) Runtime.init twoRequests).map
      controlPage = some (some 2) := by decide
  obtain ⟨s, hexec, hpage⟩ := Option.map_eq_some_iff.mp hrun
  exact ⟨s, hpage, creditsExact_of_reach (reach_of_exec hexec)⟩

/-- Two replies to the first request give back the credit of the second. -/
theorem creditsExact_fails_on_duplicate :
    ¬ ∀ s, Reach Runtime.step anyStep Runtime.init s → s.CreditsExact := by
  intro h
  have hrun : (exec (guarded Runtime.step anyStep) Runtime.init
      (twoRequests ++ [.cmdReply 1 0 0 [], .cmdReply 1 0 0 []])).map
        (fun s => (s.lock.isNone, s.controlPage, s.outstanding)) = some (true, some 0, 1) := by
    decide
  obtain ⟨s, hexec, hview⟩ := Option.map_eq_some_iff.mp hrun
  simp only [Prod.mk.injEq] at hview
  obtain ⟨hlock, hpage, hcount⟩ := hview
  have hexact := h s (reach_of_exec hexec) (Option.isNone_iff_eq_none.mp hlock)
  rw [hpage, hcount] at hexact
  exact absurd hexact.1 (by decide)

end Runtime

end Sensorium.Kernel

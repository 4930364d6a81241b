import Sensorium.Camera.ReadMode

/-!
# The timestamps of a capture session

A frame is stamped with the time for which it was scheduled, and then the schedule moves on by at
least one interval, so that the stamps of a session increase as long as the schedule does.  A
frame may be delivered before the time of its stamp, since the delay of the work is rounded down
to jiffies; and five operations set the schedule to the clock, which then lies behind the stamp.
-/

namespace Sensorium.Camera

open Lib

namespace Device

variable (cfg : Config) (s : Device)

/-- The work has tried to deliver a frame and has not yet moved the schedule on. -/
def midRun : Bool := s.work.any fun run => run.tried

/-- What the next stamp may be after a stamp: in the middle of a run the schedule is still that of
the last frame. -/
def MayFollow (timestamp next : Nat) : Prop :=
  if s.midRun = true then timestamp ≤ next else timestamp < next

instance (timestamp next : Nat) : Decidable (s.MayFollow timestamp next) :=
  inferInstanceAs (Decidable (if s.midRun = true then timestamp ≤ next else timestamp < next))

/-- The clock has passed the stamps of the session. -/
def ClockAhead : Prop := ∀ f ∈ s.delivered, s.MayFollow f.timestamp s.now

/-- The step sets the schedule of a session to the clock, or stamps a frame with it. -/
def readsClock : Act → Bool
  | .startStreaming .inject => s.capture.streaming
  | .vblank value => s.canRun && max 1 (min value 16384) ≠ s.vblank
  | .sStream enable => s.canRun && enable
  | .qBuf k _ =>
    s.canRun && s.nextFrame = 0 && (s.node k).list.isEmpty &&
      (k = .capture || !s.capture.list.isEmpty)
  | .deliver => s.canRun && s.nextFrame = 0 && !s.capture.list.isEmpty
  | .advance _ => s.canRun && s.nextFrame = 0
  | _ => false

/-- The next scheduled time has 64 bits. -/
def Fits : Act → Prop
  | .advance _ => s.canRun = true → max s.nextFrame s.now + s.interval cfg < 2 ^ 64
  | _ => True

end Device

/-- Where a step reads the clock into the schedule or a stamp, the clock has passed the last stamp
of the session, and the schedule does not overflow. -/
def InTime (cfg : Config) (s : Device) (a : Act) : Prop :=
  (s.readsClock a = true → s.ClockAhead) ∧ s.Fits cfg a

instance (cfg : Config) (s : Device) (a : Act) : Decidable (InTime cfg s a) :=
  have : Decidable s.ClockAhead :=
    inferInstanceAs (Decidable (∀ f ∈ s.delivered, s.MayFollow f.timestamp s.now))
  have : Decidable (s.Fits cfg a) :=
    match a with
    | .advance _ =>
      inferInstanceAs (Decidable (s.canRun = true → max s.nextFrame s.now + s.interval cfg < 2 ^ 64))
    | .injectSFmt _ _ _ | .captureSFmt _ _ | .setFmt _ _ _ _ | .reqBufs _ _ | .createBufs _ _
    | .prepareBuf _ _ _ _ | .qBuf _ _ | .dqBuf _ _ | .streamOn _ | .give _ _ | .startStreaming _
    | .streamOff _ | .cancelWork _ | .workCancelled _ | .clearClock _ | .returnBuffers _
    | .startWork | .deliver | .vblank _ | .sStream _ | .tick _ => .isTrue trivial
  inferInstanceAs (Decidable (_ ∧ _))

/-! ## The schedule -/

theorem frameNs_pos (cfg : Config) (s : Device) : 0 < s.frameNs cfg := by
  have hdefault : ∀ n : Nat, 0 < if n = 0 then 1000000000 / 30 else n := fun n => by
    split
    · decide
    · exact Nat.pos_of_ne_zero (by assumption)
  exact hdefault _

theorem interval_pos (cfg : Config) (s : Device) : 0 < s.interval cfg := by
  unfold Device.interval
  split
  · exact frameNs_pos cfg s
  · rename_i h
    exact Nat.pos_of_ne_zero h

/-- The loop ends after the time at which it started, and after the clock. -/
theorem catchUp_after {interval now next next' : Nat} (fuel : Nat) (hpos : 0 < interval)
    (hfits : max next now + interval < 2 ^ 64)
    (h : Device.catchUp interval now fuel next = some next') : next < next' ∧ now < next' := by
  induction fuel generalizing next with
  | zero => cases h
  | succ fuel ih =>
    have hsum : (next + interval) % 2 ^ 64 = next + interval := Nat.mod_eq_of_lt (by omega)
    rw [Device.catchUp] at h
    simp only [hsum] at h
    split at h
    · rename_i hbehind
      obtain ⟨hnext, hnow⟩ := ih (by omega) h
      exact ⟨by omega, hnow⟩
    · rename_i hahead
      cases h
      omega

/-! ## The invariant -/

/-- The stamps increase, and while both nodes stream the schedule is ahead of them. -/
structure Stamped (s : Device) : Prop where
  increasing : s.delivered.Pairwise fun f g => f.timestamp < g.timestamp
  ahead : s.canRun = true → s.nextFrame ≠ 0 →
    ∀ f ∈ s.delivered, s.MayFollow f.timestamp s.nextFrame

/-- A step that leaves the frames, and the schedule too, or sets it to a clock that is ahead. -/
structure Rescheduled (s t : Device) : Prop where
  threads : s.SameThreads t
  delivered : t.delivered = s.delivered
  nextFrame : s.canRun = true →
    t.nextFrame = s.nextFrame ∨ t.nextFrame = s.now ∧ s.ClockAhead

section Steps

variable {cfg : Config} {s t u : Device}

theorem mayFollow_of_threads (h : s.SameThreads t) {timestamp next : Nat} :
    t.MayFollow timestamp next ↔ s.MayFollow timestamp next := by
  have hmid : t.midRun = s.midRun := congrArg (Option.any _) h.work
  rw [Device.MayFollow, Device.MayFollow, hmid]

theorem Stamped.rescheduled (h : Stamped s) (hr : Rescheduled s t) : Stamped t := by
  constructor
  · rw [hr.delivered]
    exact h.increasing
  · intro hrun hne f hf
    rw [hr.threads.canRun] at hrun
    rw [hr.delivered] at hf
    rw [mayFollow_of_threads hr.threads]
    rcases hr.nextFrame hrun with heq | ⟨heq, hclock⟩
    · rw [heq] at hne ⊢
      exact h.ahead hrun hne f hf
    · rw [heq]
      exact hclock f hf

/-- A step that stops the delivery, or leaves it and the schedule. -/
theorem Stamped.of_stopped (h : Stamped s) (hdelivered : t.delivered = s.delivered)
    (hrun : t.canRun = true → s.canRun = true) (hwork : t.midRun = s.midRun)
    (hnext : t.canRun = true → t.nextFrame = s.nextFrame ∨ t.nextFrame = 0) : Stamped t := by
  constructor
  · rw [hdelivered]
    exact h.increasing
  · intro hc hne f hf
    rw [hdelivered] at hf
    rcases hnext hc with heq | hzero
    · rw [heq] at hne ⊢
      simp only [Device.MayFollow, hwork]
      exact h.ahead (hrun hc) hne f hf
    · exact absurd hzero hne

theorem nextFrame_resetClock (cfg : Config) (s : Device) : (s.resetClock cfg).nextFrame = s.now := by
  unfold Device.resetClock
  simp only
  split <;> rfl

theorem nextFrame_modDelayedWork (cfg : Config) (s : Device) (delay : Nat) :
    (s.modDelayedWork cfg delay).nextFrame = s.nextFrame := by
  unfold Device.modDelayedWork
  split <;> rfl

theorem nextFrame_armClock (cfg : Config) (s : Device) :
    (s.armClock cfg).nextFrame = s.nextFrame ∨ s.capture.list.isEmpty = false ∧ s.nextFrame = 0 ∧
      (s.armClock cfg).nextFrame = s.now := by
  unfold Device.armClock
  split
  · exact .inl rfl
  · rename_i hrun
    simp only
    rw [nextFrame_modDelayedWork]
    split
    · rename_i hzero
      rw [Bool.or_eq_true, not_or, Bool.not_eq_true] at hrun
      exact .inr ⟨by simpa using hrun.2, hzero, nextFrame_resetClock cfg s⟩
    · exact .inl rfl

/-- `sensorium_reset_clock_locked` and `sensorium_arm_clock_locked`, one after the other. -/
theorem nextFrame_resetArm (cfg : Config) (s : Device) :
    ((s.resetClock cfg).armClock cfg).nextFrame = s.now := by
  rcases nextFrame_armClock cfg (s.resetClock cfg) with heq | ⟨-, -, heq⟩
  · exact heq.trans (nextFrame_resetClock cfg s)
  · exact heq.trans (sameButClock (timeless_resetClock cfg s)).now

theorem rescheduled_resetArm (hclock : s.canRun = true → s.ClockAhead) :
    Rescheduled s ((s.resetClock cfg).armClock cfg) where
  threads := (requested_resetArm cfg s).threads
  delivered :=
    (sameButClock ((timeless_armClock cfg _).trans (timeless_resetClock cfg s))).delivered
  nextFrame hrun := .inr ⟨nextFrame_resetArm cfg s, hclock hrun⟩

theorem rescheduled_of_eq (hthreads : s.SameThreads t) (hdelivered : t.delivered = s.delivered)
    (hnext : t.nextFrame = s.nextFrame) : Rescheduled s t :=
  ⟨hthreads, hdelivered, fun _ => .inl hnext⟩

theorem rescheduled_setVblank {value : Nat}
    (h : s.readsClock (.vblank value) = true → s.ClockAhead) :
    Rescheduled s (s.setVblank cfg value) := by
  have hsame := sameButClock (timeless_setVblank cfg s value)
  refine ⟨.of_timeless (timeless_setVblank cfg s value), hsame.delivered, fun hrun => ?_⟩
  unfold Device.setVblank
  simp only
  split
  · exact .inl rfl
  · rename_i hne
    exact .inr ⟨nextFrame_resetArm cfg _, h (by simp [Device.readsClock, hrun, hne])⟩

theorem rescheduled_setNode {k : NodeId} {n : Node} (h : n.phase = (s.node k).phase) :
    Rescheduled s (s.setNode k n) := by
  refine rescheduled_of_eq (setNode_threads h) ?_ ?_
  · cases k <;> rfl
  · cases k <;> rfl

theorem rescheduled_bufQueue {k : NodeId} {i : Nat} (h : s.canRun = true → s.nextFrame = 0 →
    (s.node k).list.isEmpty = true → k = .capture ∨ s.capture.list.isEmpty = false → s.ClockAhead) :
    Rescheduled s (s.bufQueue cfg k i) := by
  have hgiven : Rescheduled s (s.setNode k ((s.node k).addTail i)) := rescheduled_setNode rfl
  refine ⟨bufQueue_threads s k i, ?_, fun hrun => ?_⟩
  · unfold Device.bufQueue
    simp only
    split
    · exact (sameButClock (timeless_armClock cfg _)).delivered.trans hgiven.delivered
    · exact hgiven.delivered
  · have hnext : (s.setNode k ((s.node k).addTail i)).nextFrame = s.nextFrame := by
      cases k <;> rfl
    unfold Device.bufQueue
    simp only
    split
    · rename_i hsingular
      rcases nextFrame_armClock cfg (s.setNode k ((s.node k).addTail i)) with
        heq | ⟨hcapture, hzero, heq⟩
      · exact .inl (heq.trans hnext)
      · have hempty : (s.node k).list.isEmpty = true := by
          cases k <;> simpa [Device.node, Device.setNode, Node.addTail, Node.modify] using hsingular
        have hlist : k = .capture ∨ s.capture.list.isEmpty = false := by
          cases k with
          | inject => exact .inr hcapture
          | capture => exact .inl rfl
        refine .inr ⟨heq.trans ?_, h hrun (hnext.symm.trans hzero) hempty hlist⟩
        cases k <;> rfl
    · exact .inl hnext

theorem rescheduled_setInjectFormat (cfg : Config) (s : Device) (pixelformat : PixelFormat) :
    Rescheduled s (s.setInjectFormat cfg pixelformat).2 := by
  unfold Device.setInjectFormat
  split <;> exact rescheduled_of_eq ⟨rfl, rfl, rfl, rfl⟩ rfl rfl

theorem delivered_releaseHeld (s : Device) (state : BufferState) :
    (s.releaseHeld state).delivered = s.delivered := by
  unfold Device.releaseHeld
  split <;> rfl

/-- A mode is applied while nothing is delivered, so that the schedule does not matter. -/
theorem Granted.rescheduled (h : Granted cfg s t) : Rescheduled s t := by
  have hmode : ∀ mode, (s.applyMode cfg mode).delivered = s.delivered := fun mode =>
    calc (s.applyMode cfg mode).delivered = (s.changeMode cfg mode).delivered :=
          (sameButClock (timeless_applyMode cfg s mode)).delivered
      _ = _ := (rescheduled_setInjectFormat cfg _ _).delivered
      _ = s.delivered := delivered_releaseHeld _ .error
  cases h with
  | unchanged => exact rescheduled_of_eq (.refl s) rfl rfl
  | format pixelformat => exact rescheduled_setInjectFormat cfg s pixelformat
  | mode mode hstopped =>
    refine ⟨applyMode_threads cfg s mode, hmode mode, fun hrun => ?_⟩
    rw [hstopped] at hrun
    cases hrun
  | modeAndFormat mode pixelformat hstopped =>
    have hformat := rescheduled_setInjectFormat cfg (s.applyMode cfg mode) pixelformat
    refine ⟨(applyMode_threads cfg s mode).trans hformat.threads,
      hformat.delivered.trans (hmode mode), fun hrun => ?_⟩
    rw [hstopped] at hrun
    cases hrun

/-! ## Delivery -/

/-- A try leaves the schedule, and delivers at most one frame, with the next stamp. -/
structure Tried (s t : Device) : Prop where
  nextFrame : t.nextFrame = s.nextFrame
  now : t.now = s.now
  frame : t.delivered = s.delivered ∨ ∃ n : Nat, t.delivered =
    s.delivered ++ [{ sequence := n, timestamp := s.timestamp }]

theorem Tried.of_eq (hnext : t.nextFrame = s.nextFrame) (hnow : t.now = s.now)
    (hdelivered : t.delivered = s.delivered) : Tried s t := ⟨hnext, hnow, .inl hdelivered⟩

theorem tried_finishFrame (mode : Mode) (c : Nat) (hnext : t.nextFrame = s.nextFrame)
    (hnow : t.now = s.now) (hdelivered : t.delivered = s.delivered) :
    Tried s (t.finishFrame mode c) := by
  refine ⟨hnext, hnow, .inr ⟨t.sequence, ?_⟩⟩
  have hstamp : t.timestamp = s.timestamp := by
    rw [Device.timestamp, Device.timestamp, hnext, hnow]
  show t.delivered ++ [{ sequence := t.sequence, timestamp := t.timestamp }] = _
  rw [hdelivered, hstamp]

theorem tried_deliverFrom (mode : Mode) (c i : Nat) : Tried s (s.deliverFrom cfg mode c i) := by
  unfold Device.deliverFrom
  cases cfg.repeatLastFrame with
  | true =>
    have hheld : (s.holdInject i).nextFrame = s.nextFrame ∧ (s.holdInject i).now = s.now ∧
        (s.holdInject i).delivered = s.delivered := by
      unfold Device.holdInject Device.releaseHeld
      cases s.held <;> exact ⟨rfl, rfl, rfl⟩
    exact tried_finishFrame mode c hheld.1 hheld.2.1 hheld.2.2
  | false => exact tried_finishFrame mode c rfl rfl rfl

theorem tried_repeatFrame (mode : Mode) (c : Nat) : Tried s (s.repeatFrame cfg mode c) := by
  unfold Device.repeatFrame
  split
  · exact .of_eq rfl rfl rfl
  · split
    · exact tried_finishFrame mode c rfl rfl rfl
    · exact .of_eq rfl rfl rfl

theorem tried_tryDeliverFrame (cfg : Config) (s : Device) (mode : Mode) :
    Tried s (s.tryDeliverFrame cfg mode) := by
  have hdropped : ∀ {t}, Tried { s with
      inject := s.inject.dropUndersized s.layout.sizeImage s.inject.list } t → Tried s t :=
    fun h => ⟨h.nextFrame, h.now, h.frame⟩
  unfold Device.tryDeliverFrame
  split
  · exact .of_eq rfl rfl rfl
  · split
    · exact .of_eq rfl rfl rfl
    · split
      · exact .of_eq rfl rfl rfl
      · simp only
        split
        · exact hdropped (tried_deliverFrom _ _ _)
        · split
          · exact hdropped (tried_repeatFrame _ _)
          · exact .of_eq rfl rfl rfl

/-- Without both nodes and a capture buffer there is no frame. -/
theorem tryDeliverFrame_idle {mode : Mode} (h : s.canRun = false ∨ s.capture.list.isEmpty = true) :
    s.tryDeliverFrame cfg mode = s := by
  rcases h with hstopped | hempty
  · simp [Device.tryDeliverFrame, hstopped]
  · have hnil : s.capture.list = [] := List.isEmpty_iff.mp hempty
    simp [Device.tryDeliverFrame, hnil]

theorem le_of_mayFollow {timestamp next : Nat} (h : s.MayFollow timestamp next) :
    timestamp ≤ next := by
  unfold Device.MayFollow at h
  split at h
  · exact h
  · exact Nat.le_of_lt h

/-- The stamp of the next frame comes after all stamps of the session. -/
theorem stamp_after (h : Stamped s) (hrun : s.canRun = true) (hmid : s.midRun = false)
    (hclock : s.nextFrame = 0 → s.ClockAhead) : ∀ f ∈ s.delivered, f.timestamp < s.timestamp := by
  have hstrict : ∀ {a b : Nat}, s.MayFollow a b → a < b := fun hm => by
    rw [Device.MayFollow, hmid] at hm
    exact hm
  intro f hf
  unfold Device.timestamp
  split
  · rename_i hne
    exact hstrict (h.ahead hrun hne f hf)
  · rename_i hzero
    exact hstrict (hclock (not_not.mp hzero) f hf)

theorem Stamped.deliver (h : Stamped s) {run : Run} (hwork : s.work = some run)
    (htried : run.tried = false) (mode : Mode) (hclock : s.readsClock .deliver = true → s.ClockAhead) :
    Stamped { s.tryDeliverFrame cfg mode with work := some { run with tried := true } } := by
  have hmid : s.midRun = false := by
    simp [Device.midRun, hwork, htried]
  by_cases hidle : s.canRun = false ∨ s.capture.list.isEmpty = true
  · rw [tryDeliverFrame_idle hidle]
    constructor
    · exact h.increasing
    · intro hrun hne f hf
      exact le_of_mayFollow (h.ahead hrun hne f hf)
  · rw [not_or, Bool.not_eq_false, Bool.not_eq_true] at hidle
    have ht := tried_tryDeliverFrame cfg s mode
    have hstamp := stamp_after h hidle.1 hmid fun hzero => hclock (by
      simp [Device.readsClock, hidle.1, hzero, hidle.2])
    constructor
    · show (s.tryDeliverFrame cfg mode).delivered.Pairwise _
      rcases ht.frame with hsame | ⟨n, hsame⟩
      · rw [hsame]
        exact h.increasing
      · rw [hsame, List.pairwise_append]
        refine ⟨h.increasing, List.pairwise_singleton _ _, fun f hf g hg => ?_⟩
        rw [List.mem_singleton.mp hg]
        exact hstamp f hf
    · intro hrun hne f hf
      have hne : s.nextFrame ≠ 0 := ht.nextFrame ▸ hne
      have hnext : s.timestamp = s.nextFrame := if_pos hne
      -- the schedule is still that of the frame
      show f.timestamp ≤ (s.tryDeliverFrame cfg mode).nextFrame
      rw [ht.nextFrame, ← hnext]
      have hf : f ∈ (s.tryDeliverFrame cfg mode).delivered := hf
      rcases ht.frame with hsame | ⟨n, hsame⟩
      · rw [hsame] at hf
        exact Nat.le_of_lt (hstamp f hf)
      · rw [hsame] at hf
        rcases List.mem_append.mp hf with hf | hf
        · exact Nat.le_of_lt (hstamp f hf)
        · rw [List.mem_singleton.mp hf]

theorem Stamped.advance (h : Stamped s) {elapsed : Nat}
    (hschedule : s.canRun = true → (s.schedule cfg).isSome = true)
    (hclock : s.readsClock (.advance elapsed) = true → s.ClockAhead)
    (hfits : s.Fits cfg (.advance elapsed)) :
    Stamped { s.advance cfg elapsed with work := none } := by
  have hthreads := (requested_advance cfg s elapsed).threads
  have hdelivered : (s.advance cfg elapsed).delivered = s.delivered := by
    unfold Device.advance
    split
    · rfl
    · simp only
      split
      · rfl
      · exact (sameButClock (timeless_modDelayedWork cfg _ _)).delivered
  constructor
  · show (s.advance cfg elapsed).delivered.Pairwise _
    rw [hdelivered]
    exact h.increasing
  · intro hrun hne f hf
    have hrun : s.canRun = true := hthreads.canRun.symm.trans hrun
    have hf : f ∈ s.delivered := hdelivered ▸ hf
    obtain ⟨next, hnext⟩ := Option.isSome_iff_exists.mp (hschedule hrun)
    have hscheduled : (s.advance cfg elapsed).nextFrame = next := by
      unfold Device.advance
      simp only [hrun, Bool.not_true, Bool.false_eq_true, if_false]
      split
      · rw [hnext]
        rfl
      · rw [nextFrame_modDelayedWork, hnext]
        rfl
    have hmax : max (if s.nextFrame = 0 then s.now else s.nextFrame) s.now + s.interval cfg <
        2 ^ 64 := by
      have hbound := hfits hrun
      split <;> omega
    obtain ⟨hafter, hnow⟩ := catchUp_after _ (interval_pos cfg s) hmax hnext
    show f.timestamp < (s.advance cfg elapsed).nextFrame
    rw [hscheduled]
    by_cases hzero : s.nextFrame = 0
    · have hclock := hclock (by simp [Device.readsClock, hrun, hzero])
      exact Nat.lt_of_le_of_lt (le_of_mayFollow (hclock f hf)) hnow
    · rw [if_neg hzero] at hafter
      exact Nat.lt_of_le_of_lt (le_of_mayFollow (h.ahead hrun hzero f hf)) hafter

/-! ## Every run -/

theorem canRun_setPhase {k : NodeId} {p : Phase} (hp : p ≠ .streaming) :
    (s.setPhase (.node k) p).canRun = false := by
  refine canRun_of_phase (k := k) ?_
  cases k <;> exact hp

/-- A node goes on to a point at which it does not stream. -/
theorem Stamped.setPhase (h : Stamped s) (k : NodeId) (p : Phase) (hp : p ≠ .streaming) :
    Stamped (s.setPhase (.node k) p) := by
  have hdelivered : (s.setPhase (.node k) p).delivered = s.delivered := by
    cases k <;> rfl
  have hstopped : ∀ {q : Prop}, (s.setPhase (.node k) p).canRun = true → q := fun hrun => by
    rw [canRun_setPhase hp] at hrun
    cases hrun
  refine h.of_stopped hdelivered hstopped ?_ hstopped
  cases k <;> rfl

theorem Stamped.returnBuffers (h : Stamped s) (k : NodeId) : Stamped (s.returnBuffers k) := by
  have hstopped : (s.returnBuffers k).canRun = false := by
    refine canRun_of_phase (k := k) ?_
    cases k <;> exact fun hp => by cases hp
  have hrun : ∀ {q : Prop}, (s.returnBuffers k).canRun = true → q := fun hrun => by
    rw [hstopped] at hrun
    cases hrun
  refine h.of_stopped ?_ hrun ?_ hrun
  · cases k with
    | inject => exact delivered_releaseHeld s .error
    | capture => rfl
  · cases k with
    | inject => exact congrArg (Option.any _) (releaseHeld_threads s .error).work
    | capture => rfl

theorem Stamped.startStreaming (h : Stamped s) {k : NodeId}
    (hclock : s.readsClock (.startStreaming k) = true → s.ClockAhead) :
    Stamped (s.startStreaming cfg k) := by
  cases k with
  | capture =>
    -- a new session has no frames yet
    have hnone : (s.startStreaming cfg .capture).delivered = [] := by
      unfold Device.startStreaming
      rw [(sameButClock (timeless_armClock cfg _)).delivered,
        (sameButClock (timeless_resetClock cfg _)).delivered]
      rfl
    constructor
    · rw [hnone]
      exact .nil
    · intro _ _ f hf
      rw [hnone] at hf
      exact (List.not_mem_nil hf).elim
  | inject =>
    have hr := (requested_resetArm cfg (s.setPhase (.node .inject) .streaming)).threads
    have hdelivered : (s.startStreaming cfg .inject).delivered = s.delivered := by
      unfold Device.startStreaming
      rw [(sameButClock (timeless_armClock cfg _)).delivered,
        (sameButClock (timeless_resetClock cfg _)).delivered]
      rfl
    constructor
    · rw [hdelivered]
      exact h.increasing
    · intro hrun _ f hf
      have hcapture : s.capture.streaming = true := by
        have hrun := hr.canRun.symm.trans hrun
        rw [Device.canRun, Bool.and_eq_true] at hrun
        exact hrun.2
      rw [hdelivered] at hf
      rw [show (s.startStreaming cfg .inject).nextFrame = s.now from nextFrame_resetArm cfg _]
      exact (mayFollow_of_threads hr).mpr (hclock hcapture f hf)

theorem Stamped.next {a : Act} (h : Stamped s) (ha : s.enabled cfg a = true)
    (htime : InTime cfg s a) : Stamped (s.next cfg a) := by
  obtain ⟨hclock, hfits⟩ := htime
  cases a with
  | injectSFmt width height pixelformat =>
    exact h.rescheduled (granted_injectSFmt _ _ _).rescheduled
  | captureSFmt width height => exact h.rescheduled (granted_captureSFmt _ _).rescheduled
  | setFmt pad tried width height => exact h.rescheduled (granted_setFmt _ _ _ _).rescheduled
  | reqBufs | createBufs | dqBuf => exact h.rescheduled (rescheduled_setNode rfl)
  | prepareBuf =>
    simp only [Device.next, Device.bufPrepare]
    split
    · exact h
    · exact h.rescheduled (rescheduled_setNode rfl)
  | qBuf k i =>
    simp only [Device.next]
    split
    · exact h.rescheduled (rescheduled_bufQueue fun hrun hzero hempty hlist =>
        hclock (by simpa [Device.readsClock, hrun, hzero, hempty] using hlist))
    · exact h.rescheduled (rescheduled_setNode rfl)
  | streamOn k => exact h.setPhase k .starting fun hp => by cases hp
  | give k i =>
    -- one node is still starting, so that nothing is scheduled and the clock is not read
    have hphase : (s.node k).phase = .starting := by
      simp only [Device.enabled, Bool.and_eq_true, decide_eq_true_eq] at ha
      exact ha.1
    have hstopped : s.canRun = false := canRun_of_phase (k := k) (by
      rw [hphase]
      exact fun hp => by cases hp)
    refine h.rescheduled (rescheduled_bufQueue fun hrun => ?_)
    rw [hstopped] at hrun
    cases hrun
  | startStreaming k => exact h.startStreaming hclock
  | streamOff k =>
    simp only [Device.next]
    split
    · exact h.setPhase k .stopping fun hp => by cases hp
    · exact h.rescheduled (rescheduled_setNode rfl)
  | cancelWork c =>
    cases c with
    | node k =>
      have hphase := h.setPhase k .cancelling fun hp => by cases hp
      exact ⟨hphase.increasing, hphase.ahead⟩
    | sensor => exact ⟨h.increasing, h.ahead⟩
  | workCancelled c =>
    cases c with
    | node k => exact h.setPhase k .clearing fun hp => by cases hp
    | sensor => exact ⟨h.increasing, h.ahead⟩
  | clearClock c =>
    -- nothing is scheduled any more
    refine ⟨?_, fun _ hne => absurd rfl hne⟩
    cases c with
    | node k => cases k <;> exact h.increasing
    | sensor => exact h.increasing
  | returnBuffers k => exact h.returnBuffers k
  | startWork =>
    simp only [Device.enabled, Bool.and_eq_true, Option.isNone_iff_eq_none] at ha
    -- before the work has tried, the same frames may follow as before it started
    have hmid : s.midRun = false := by simp [Device.midRun, ha.1]
    refine ⟨h.increasing, fun hrun hne f hf => ?_⟩
    have hold := h.ahead hrun hne f hf
    rw [Device.MayFollow, hmid] at hold
    exact hold
  | deliver =>
    simp only [Device.next]
    split
    · exact h
    · rename_i run hwork
      have htried : run.tried = false := by simpa [Device.enabled, hwork] using ha
      exact h.deliver hwork htried _ hclock
  | advance elapsed =>
    simp only [Device.enabled, Bool.and_eq_true, Bool.or_eq_true, Bool.not_eq_true'] at ha
    refine h.advance (fun hrun => ha.2.resolve_left ?_) hclock hfits
    rw [hrun]
    exact fun hp => by cases hp
  | vblank value => exact h.rescheduled (rescheduled_setVblank hclock)
  | sStream enable =>
    cases enable with
    | true =>
      exact h.rescheduled (rescheduled_resetArm fun hrun =>
        hclock (by simp [Device.readsClock, hrun]))
    | false => exact ⟨h.increasing, h.ahead⟩
  | tick elapsed => exact ⟨h.increasing, h.ahead⟩

end Steps

theorem stamped_initial (cfg : Config) (now : Nat) : Stamped (cfg.initial now) := by
  refine Stamped.rescheduled ?_ (Granted.mode 0 rfl).rescheduled
  exact ⟨.nil, fun hrun => by cases hrun⟩

/-- In every run in which the clock has passed the stamps of the session whenever it is read into
the schedule or a stamp, and in which the schedule does not overflow, the stamps of a session
increase. -/
theorem timestamps_increase {cfg : Config} {now : Nat} {s : Device}
    (hr : Reach (step cfg) (InTime cfg) (cfg.initial now) s) :
    s.delivered.Pairwise fun f g => f.timestamp < g.timestamp := by
  have h : Stamped s := hr.invariant (stamped_initial cfg now) fun s a t hs htime hstep => by
    obtain ⟨ha, rfl⟩ := step_eq_some.mp hstep
    exact hs.next ha htime
  exact h.increasing

/-- Both nodes stream, with one inject and three capture buffers, and the first two frames are
delivered; the second is delivered at 32 ms with the stamp 33.3 ms, since the delay is rounded
down. -/
def twoFrames : List Act :=
  [.reqBufs .inject 1, .prepareBuf .inject 0 32 true, .qBuf .inject 0, .reqBufs .capture 3,
    .prepareBuf .capture 0 16 true, .qBuf .capture 0, .prepareBuf .capture 1 16 true,
    .qBuf .capture 1, .prepareBuf .capture 2 16 true, .qBuf .capture 2, .streamOn .capture,
    .give .capture 0, .give .capture 1, .give .capture 2, .startStreaming .capture,
    .streamOn .inject, .give .inject 0, .startStreaming .inject,
    .startWork, .deliver, .advance 0, .tick 32000000, .startWork, .deliver, .advance 0]

/-- A `VBLANK` write after the clock has passed the second stamp. -/
theorem timestamps_increase_vblank : ∃ s : Device,
    s.delivered.map Frame.timestamp = [1000000000, 1033333333, 1034000000] ∧
    s.delivered.Pairwise fun f g => f.timestamp < g.timestamp := by
  have hrun : (exec (guarded (step .twoModes) (InTime .twoModes)) (Config.twoModes.initial 1000000000)
      (twoFrames ++ [.tick 2000000, .vblank 2, .startWork, .deliver, .advance 0])).map
      (fun s => s.delivered.map Frame.timestamp) = some [1000000000, 1033333333, 1034000000] := by
    decide +kernel
  obtain ⟨s, hs, hview⟩ := Option.map_eq_some_iff.mp hrun
  exact ⟨s, hview, timestamps_increase (reach_of_exec hs)⟩

/-- A `VBLANK` write right after the second frame sets the schedule to a time before its stamp. -/
theorem timestamp_goes_back : ∃ s : Device,
    Reach (step .twoModes) anyStep (Config.twoModes.initial 1000000000) s ∧
    s.delivered.map Frame.timestamp = [1000000000, 1033333333, 1032000000] ∧
    ¬s.delivered.Pairwise fun f g => f.timestamp < g.timestamp := by
  have hrun : (exec (guarded (step .twoModes) anyStep) (Config.twoModes.initial 1000000000)
      (twoFrames ++ [.vblank 2, .startWork, .deliver, .advance 0])).map
      (fun s => s.delivered.map Frame.timestamp) = some [1000000000, 1033333333, 1032000000] := by
    decide +kernel
  obtain ⟨s, hs, hview⟩ := Option.map_eq_some_iff.mp hrun
  refine ⟨s, reach_of_exec hs, hview, fun hincreasing => ?_⟩
  have hstamps : (s.delivered.map Frame.timestamp).Pairwise (· < ·) :=
    List.pairwise_map.mpr hincreasing
  rw [hview] at hstamps
  revert hstamps
  decide

end Sensorium.Camera

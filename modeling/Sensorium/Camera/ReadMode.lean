import Sensorium.Camera.Steps

/-!
# The mode that the work has read

`sensorium_try_deliver_frame` reads the active mode before it takes the lock.  A mode change in
between needs a node that does not stream, and a node that streamed when the work was armed stops
only after it has waited for the work.  So a delivery that finds both nodes streaming has the
active mode.
-/

namespace Sensorium.Camera

open Lib

/-- A node whose `STREAMOFF` has not yet waited for the work. -/
def Phase.beforeWait (p : Phase) : Prop := p = .stopping ∨ p = .cancelling

namespace Device

def Waits (s : Device) : Prop := s.inject.phase.beforeWait ∨ s.capture.phase.beforeWait

/-- The threads of two devices are at the same points. -/
structure SameThreads (s t : Device) : Prop where
  inject : t.inject.phase = s.inject.phase
  capture : t.capture.phase = s.capture.phase
  sensor : t.sensorPhase = s.sensorPhase
  work : t.work = s.work

/-- The work is armed only while both nodes stream and nobody cancels it. -/
def Arms (s t : Device) : Prop :=
  t.pending = s.pending ∨ s.canRun = true ∧ s.cancelling = false

/-- What is known of the work in every state. -/
structure Live (s : Device) : Prop where
  armed : s.pending.isSome ∨ s.work.isSome → s.canRun = true ∨ s.Waits
  cancelled : s.cancelling = true → s.pending = none
  mode : ∀ run, s.work = some run → run.mode = s.active ∨ s.Waits

end Device

/-! ## Threads and arming of the functions -/

section Frames

variable {cfg : Config} {s t u : Device}

namespace Device.SameThreads

theorem refl (s : Device) : s.SameThreads s := ⟨rfl, rfl, rfl, rfl⟩

theorem trans (h : s.SameThreads t) (h' : t.SameThreads u) : s.SameThreads u :=
  ⟨h'.inject.trans h.inject, h'.capture.trans h.capture, h'.sensor.trans h.sensor,
    h'.work.trans h.work⟩

theorem of_timeless (h : t.timeless = s.timeless) : s.SameThreads t :=
  have hsame := sameButClock h
  ⟨congrArg Node.phase hsame.inject, congrArg Node.phase hsame.capture, hsame.sensorPhase, hsame.work⟩

theorem canRun (h : s.SameThreads t) : t.canRun = s.canRun := by
  simp only [Device.canRun, Node.streaming, h.inject, h.capture]

theorem cancelling (h : s.SameThreads t) : t.cancelling = s.cancelling := by
  simp only [Device.cancelling, h.inject, h.capture, h.sensor]

theorem waits (h : s.SameThreads t) : t.Waits ↔ s.Waits := by
  rw [Device.Waits, Device.Waits, h.inject, h.capture]

end Device.SameThreads

theorem Device.Arms.trans (hs : s.SameThreads t) (h : s.Arms t) (h' : t.Arms u) : s.Arms u := by
  rcases h' with heq | hrun
  · rcases h with heq' | hrun'
    · exact .inl (heq.trans heq')
    · exact .inr hrun'
  · rw [hs.canRun, hs.cancelling] at hrun
    exact .inr hrun

theorem pending_resetClock (s : Device) : (s.resetClock cfg).pending = s.pending := by
  unfold Device.resetClock
  split <;> rfl

theorem arms_modDelayedWork (delay : Nat) (h : s.canRun = true) :
    s.Arms (s.modDelayedWork cfg delay) := by
  unfold Device.modDelayedWork
  split
  · exact .inl rfl
  · rename_i hcancel
    exact .inr ⟨h, by simpa using hcancel⟩

theorem arms_armClock (s : Device) : s.Arms (s.armClock cfg) := by
  unfold Device.armClock
  split
  · exact .inl rfl
  · rename_i hrun
    have hrun : s.canRun = true := by
      cases hc : s.canRun with
      | true => rfl
      | false => simp [hc] at hrun
    simp only
    split
    · have hthreads := Device.SameThreads.of_timeless (timeless_resetClock cfg s)
      exact .trans hthreads (.inl (pending_resetClock s))
        (arms_modDelayedWork _ (hthreads.canRun.trans hrun))
    · exact arms_modDelayedWork _ hrun

theorem arms_setVblank (cfg : Config) (s : Device) (value : Nat) :
    s.Arms (s.setVblank cfg value) := by
  unfold Device.setVblank
  simp only
  split
  · exact .inl rfl
  · refine .trans ?_ (.inl ?_) (arms_armClock _)
    · exact .of_timeless (timeless_resetClock cfg _)
    · exact pending_resetClock _

theorem releaseHeld_threads (s : Device) (state : BufferState) :
    s.SameThreads (s.releaseHeld state) := by
  unfold Device.releaseHeld
  split
  · exact .refl s
  · exact ⟨rfl, rfl, rfl, rfl⟩

theorem pending_releaseHeld (s : Device) (state : BufferState) :
    (s.releaseHeld state).pending = s.pending := by
  unfold Device.releaseHeld
  split <;> rfl

theorem setInjectFormat_threads (s : Device) (pixelformat : PixelFormat) :
    s.SameThreads (s.setInjectFormat cfg pixelformat).2 := by
  unfold Device.setInjectFormat
  split
  · exact .refl s
  · exact ⟨rfl, rfl, rfl, rfl⟩

theorem pending_setInjectFormat (s : Device) (pixelformat : PixelFormat) :
    (s.setInjectFormat cfg pixelformat).2.pending = s.pending := by
  unfold Device.setInjectFormat
  split <;> rfl

theorem changeMode_threads (cfg : Config) (s : Device) (mode : Nat) :
    s.SameThreads (s.changeMode cfg mode) := by
  have hactive : s.SameThreads { s with active := mode } := ⟨rfl, rfl, rfl, rfl⟩
  exact (hactive.trans (releaseHeld_threads _ .error)).trans (setInjectFormat_threads _ _)

theorem pending_changeMode (s : Device) (mode : Nat) :
    (s.changeMode cfg mode).pending = s.pending :=
  (pending_setInjectFormat _ _).trans (pending_releaseHeld { s with active := mode } .error)

theorem applyMode_threads (cfg : Config) (s : Device) (mode : Nat) :
    s.SameThreads (s.applyMode cfg mode) :=
  (changeMode_threads cfg s mode).trans (.of_timeless (timeless_applyMode cfg s mode))

theorem arms_applyMode (s : Device) (mode : Nat) : s.Arms (s.applyMode cfg mode) := by
  have hthreads := changeMode_threads cfg s mode
  have harms := Device.Arms.trans hthreads (.inl (pending_changeMode s mode))
    (arms_setVblank cfg _ ((s.changeMode cfg mode).mode cfg).vblank)
  rw [applyMode_eq]
  exact harms.imp_left fun heq => (pending_resetClock _).trans heq

theorem setNode_threads {s : Device} {k : NodeId} {n : Node} (h : n.phase = (s.node k).phase) :
    s.SameThreads (s.setNode k n) := by
  cases k with
  | inject => exact ⟨h, rfl, rfl, rfl⟩
  | capture => exact ⟨rfl, h, rfl, rfl⟩

theorem pending_setNode (s : Device) (k : NodeId) (n : Node) :
    (s.setNode k n).pending = s.pending := by
  cases k <;> rfl

theorem bufQueue_threads (s : Device) (k : NodeId) (i : Nat) :
    s.SameThreads (s.bufQueue cfg k i) := by
  have hgiven : s.SameThreads (s.setNode k ((s.node k).addTail i)) := setNode_threads rfl
  unfold Device.bufQueue
  simp only
  split
  · exact hgiven.trans (.of_timeless (timeless_armClock cfg _))
  · exact hgiven

theorem arms_bufQueue (s : Device) (k : NodeId) (i : Nat) : s.Arms (s.bufQueue cfg k i) := by
  have hgiven : s.SameThreads (s.setNode k ((s.node k).addTail i)) := setNode_threads rfl
  unfold Device.bufQueue
  simp only
  split
  · exact .trans hgiven (.inl (pending_setNode s k _)) (arms_armClock _)
  · exact .inl (pending_setNode s k _)

end Frames

/-! ## Steps that leave the threads where they are -/

section Requests

variable {cfg : Config} {s : Device}

theorem canRun_eq_false_of_inject (h : s.inject.streaming = false) : s.canRun = false := by
  simp [Device.canRun, h]

theorem canRun_eq_false_of_capture (h : s.capture.streaming = false) : s.canRun = false := by
  simp [Device.canRun, h]

/-- A request for a mode that changes it comes while a node does not stream. -/
structure Requested (s t : Device) : Prop where
  threads : s.SameThreads t
  arms : s.Arms t
  active : t.active = s.active ∨ s.canRun = false

theorem Requested.refl (s : Device) : Requested s s := ⟨.refl s, .inl rfl, .inl rfl⟩

theorem requested_setNode {s : Device} {k : NodeId} {n : Node} (h : n.phase = (s.node k).phase) :
    Requested s (s.setNode k n) :=
  ⟨setNode_threads h, .inl (pending_setNode s k n), .inl (by cases k <;> rfl)⟩

/-- What a request for a format or a mode can do: a mode that is not the active one is applied only
while some node does not stream. -/
inductive Granted (cfg : Config) (s : Device) : Device → Prop
  | unchanged : Granted cfg s s
  | format (pixelformat : PixelFormat) : Granted cfg s (s.setInjectFormat cfg pixelformat).2
  | mode (mode : Nat) (hstopped : s.canRun = false) : Granted cfg s (s.applyMode cfg mode)
  | modeAndFormat (mode : Nat) (pixelformat : PixelFormat) (hstopped : s.canRun = false) :
    Granted cfg s ((s.applyMode cfg mode).setInjectFormat cfg pixelformat).2

theorem granted_injectSFmt (width height : Nat) (pixelformat : PixelFormat) :
    Granted cfg s (s.injectSFmt cfg width height pixelformat).2 := by
  unfold Device.injectSFmt
  simp only
  split
  · exact .unchanged
  · rename_i hpass
    split
    · rename_i hmode
      refine .modeAndFormat _ _ (canRun_eq_false_of_inject ?_)
      cases hstreaming : s.inject.streaming with
      | false => rfl
      | true => simp [hstreaming, hmode] at hpass
    · exact .format _

theorem granted_captureSFmt (width height : Nat) :
    Granted cfg s (s.captureSFmt cfg width height).2 := by
  unfold Device.captureSFmt
  simp only
  split
  · exact .unchanged
  · rename_i hpass
    split
    · rename_i hmode
      refine .mode _ (canRun_eq_false_of_capture ?_)
      cases hstreaming : s.capture.streaming with
      | false => rfl
      | true => simp [hstreaming, hmode] at hpass
    · exact .unchanged

theorem granted_setFmt (pad : Nat) (tried : Bool) (width height : Nat) :
    Granted cfg s (s.setFmt cfg pad tried width height).2 := by
  unfold Device.setFmt
  split
  · exact .unchanged
  · split
    · exact .unchanged
    · simp only
      split
      · exact .unchanged
      · split
        · exact .unchanged
        · rename_i hpass
          split
          · rename_i hmode
            refine .mode _ (canRun_eq_false_of_capture ?_)
            cases hstreaming : s.capture.streaming with
            | false => rfl
            | true => simp [hstreaming, hmode] at hpass
          · exact .unchanged

theorem requested_setInjectFormat (cfg : Config) (s : Device) (pixelformat : PixelFormat) :
    Requested s (s.setInjectFormat cfg pixelformat).2 := by
  unfold Device.setInjectFormat
  split
  · exact .refl s
  · exact ⟨⟨rfl, rfl, rfl, rfl⟩, .inl rfl, .inl rfl⟩

theorem Granted.requested {t : Device} (h : Granted cfg s t) : Requested s t := by
  cases h with
  | unchanged => exact .refl s
  | format pixelformat => exact requested_setInjectFormat cfg s pixelformat
  | mode mode hstopped => exact ⟨applyMode_threads cfg s mode, arms_applyMode s mode, .inr hstopped⟩
  | modeAndFormat mode pixelformat hstopped =>
    have hthreads := applyMode_threads cfg s mode
    have hformat := requested_setInjectFormat cfg (s.applyMode cfg mode) pixelformat
    exact ⟨hthreads.trans hformat.threads, .trans hthreads (arms_applyMode s mode) hformat.arms,
      .inr hstopped⟩

theorem requested_releaseHeld (s : Device) (state : BufferState) :
    Requested s (s.releaseHeld state) := by
  unfold Device.releaseHeld
  split
  · exact .refl s
  · exact ⟨⟨rfl, rfl, rfl, rfl⟩, .inl rfl, .inl rfl⟩

theorem requested_bufQueue (s : Device) (k : NodeId) (i : Nat) :
    Requested s (s.bufQueue cfg k i) := by
  refine ⟨bufQueue_threads s k i, arms_bufQueue s k i, .inl ?_⟩
  unfold Device.bufQueue
  simp only
  split
  · rw [(sameButClock (timeless_armClock cfg _)).active]
    cases k <;> rfl
  · cases k <;> rfl

theorem requested_resetArm (cfg : Config) (s : Device) :
    Requested s ((s.resetClock cfg).armClock cfg) where
  threads := .of_timeless ((timeless_armClock cfg _).trans (timeless_resetClock cfg s))
  arms := .trans (.of_timeless (timeless_resetClock cfg s)) (.inl (pending_resetClock s))
    (arms_armClock _)
  active := .inl (sameButClock ((timeless_armClock cfg _).trans (timeless_resetClock cfg s))).active

theorem Device.Live.requested {t : Device} (h : s.Live) (hr : Requested s t) : t.Live := by
  constructor
  · intro harmed
    rw [hr.threads.canRun, hr.threads.waits]
    rw [hr.threads.work] at harmed
    rcases hr.arms with heq | hrun
    · rw [heq] at harmed
      exact h.armed harmed
    · exact .inl hrun.1
  · intro hcancel
    rw [hr.threads.cancelling] at hcancel
    rcases hr.arms with heq | hrun
    · exact heq.trans (h.cancelled hcancel)
    · rw [hrun.2] at hcancel
      cases hcancel
  · intro run hrun
    rw [hr.threads.waits]
    rw [hr.threads.work] at hrun
    rcases hr.active with heq | hstopped
    · rw [heq]
      exact h.mode run hrun
    · -- the mode changes, so a node has stopped since the work was armed
      rcases h.armed (.inr (by rw [hrun]; rfl)) with hc | hwaits
      · rw [hstopped] at hc
        cases hc
      · exact .inr hwaits

end Requests

/-! ## Steps of the threads -/

section Threads

variable {cfg : Config} {s t : Device}

/-- A thread goes on, and no node that the work waits for is past its wait. -/
theorem Device.Live.rephase (h : s.Live) (hpending : t.pending = s.pending) (hwork : t.work = s.work)
    (hactive : t.active = s.active) (hrun : s.canRun = true → t.canRun = true ∨ t.Waits)
    (hwaits : s.Waits → t.Waits) (hcancel : t.cancelling = true → s.cancelling = true) : t.Live where
  armed harmed := by
    rw [hpending, hwork] at harmed
    exact (h.armed harmed).elim hrun fun hw => .inr (hwaits hw)
  cancelled hc := hpending.trans (h.cancelled (hcancel hc))
  mode run hr := by
    rw [hwork] at hr
    rw [hactive]
    exact (h.mode run hr).imp_right hwaits

/-- The node of a thread that is not in `streaming` keeps the work from running. -/
theorem canRun_of_phase {k : NodeId} (h : (s.node k).phase ≠ .streaming) : s.canRun = false := by
  cases k with
  | inject => exact canRun_eq_false_of_inject (decide_eq_false h)
  | capture => exact canRun_eq_false_of_capture (decide_eq_false h)

theorem live_setNode {k : NodeId} {n : Node} (h : s.Live)
    (hfrom : (s.node k).phase ≠ .streaming) (hwait : (s.node k).phase.beforeWait → n.phase.beforeWait)
    (hcancel : n.phase ≠ .cancelling) : (s.setNode k n).Live := by
  cases k with
  | inject =>
    refine h.rephase rfl rfl rfl (fun hrun => ?_) (Or.imp_left hwait) fun hc => ?_
    · rw [canRun_of_phase (k := .inject) hfrom] at hrun
      cases hrun
    · simp only [Device.cancelling, Bool.or_eq_true, decide_eq_true_eq] at hc ⊢
      exact hc.imp_left (Or.imp_left fun hcancelling => absurd hcancelling hcancel)
  | capture =>
    refine h.rephase rfl rfl rfl (fun hrun => ?_) (Or.imp_right hwait) fun hc => ?_
    · rw [canRun_of_phase (k := .capture) hfrom] at hrun
      cases hrun
    · simp only [Device.cancelling, Bool.or_eq_true, decide_eq_true_eq] at hc ⊢
      exact hc.imp_left (Or.imp_right fun hcancelling => absurd hcancelling hcancel)

/-- `STREAMOFF` of a node that streams: from here on the node waits for the work. -/
theorem live_stopping {k : NodeId} (h : s.Live) (hfrom : (s.node k).phase = .streaming) :
    (s.setPhase (.node k) .stopping).Live := by
  cases k with
  | inject =>
    refine h.rephase rfl rfl rfl (fun _ => .inr (.inl (.inl rfl))) (fun _ => .inl (.inl rfl))
      fun hc => ?_
    simp only [Device.cancelling, Bool.or_eq_true, decide_eq_true_eq] at hc ⊢
    exact hc.imp_left (Or.imp_left fun hcancelling => (by cases hcancelling))
  | capture =>
    refine h.rephase rfl rfl rfl (fun _ => .inr (.inr (.inl rfl))) (fun _ => .inr (.inl rfl))
      fun hc => ?_
    simp only [Device.cancelling, Bool.or_eq_true, decide_eq_true_eq] at hc ⊢
    exact hc.imp_left (Or.imp_right fun hcancelling => (by cases hcancelling))

/-- `cancel_delayed_work_sync` takes the armed work away and keeps it from being armed. -/
theorem live_cancelWork {c : Caller} (h : s.Live) (hfrom : s.phase c = .stopping) :
    Device.Live { s.setPhase c .cancelling with pending := none } where
  armed harmed := by
    have hwork : s.work.isSome := by
      rcases harmed with hp | hw
      · cases hp
      · cases c with
        | node k => cases k <;> exact hw
        | sensor => exact hw
    have hold := h.armed (.inr hwork)
    cases c with
    | node k =>
      cases k with
      | inject => exact .inr (.inl (.inr rfl))
      | capture => exact .inr (.inr (.inr rfl))
    | sensor => exact hold
  cancelled _ := rfl
  mode run hr := by
    cases c with
    | node k =>
      cases k with
      | inject => exact .inr (.inl (.inr rfl))
      | capture => exact .inr (.inr (.inr rfl))
    | sensor => exact h.mode run hr

/-- The wait is over: the work neither runs nor is armed. -/
theorem live_workCancelled {c : Caller} (h : s.Live) (hfrom : s.phase c = .cancelling)
    (hwork : s.work = none) : (s.setPhase c .clearing).Live := by
  have hcancel : s.cancelling = true := by
    cases c with
    | node k =>
      cases k with
      | inject => simp [Device.cancelling, show s.inject.phase = .cancelling from hfrom]
      | capture => simp [Device.cancelling, show s.capture.phase = .cancelling from hfrom]
    | sensor => simp [Device.cancelling, show s.sensorPhase = .cancelling from hfrom]
  have hpending : (s.setPhase c .clearing).pending = none := by
    cases c with
    | node k => exact (pending_setNode s k _).trans (h.cancelled hcancel)
    | sensor => exact h.cancelled hcancel
  have hnone : (s.setPhase c .clearing).work = none := by
    cases c with
    | node k => cases k <;> exact hwork
    | sensor => exact hwork
  constructor
  · intro harmed
    rw [hpending, hnone] at harmed
    exact harmed.elim (fun hp => by cases hp) fun hw => by cases hw
  · exact fun _ => hpending
  · intro run hr
    rw [hnone] at hr
    cases hr

/-- A call of `s_stream` that is not in its wait. -/
theorem live_sensorPhase {p : Phase} (h : s.Live) (hp : p ≠ .cancelling) :
    (s.setPhase .sensor p).Live := by
  refine h.rephase rfl rfl rfl .inl id fun hc => ?_
  rw [Device.cancelling, Bool.or_eq_true] at hc ⊢
  exact hc.imp_right fun hcancelling => absurd (of_decide_eq_true hcancelling) hp

/-- Once both nodes stream, no node waits for the work. -/
theorem live_startStreaming {k : NodeId} (h : s.Live) (hfrom : (s.node k).phase = .starting) :
    (s.startStreaming cfg k).Live := by
  have hphase : (s.setNode k { s.node k with phase := .streaming }).Live := by
    refine live_setNode h ?_ (fun hwait => ?_) fun hc => by cases hc
    · rw [hfrom]
      exact fun hp => by cases hp
    · rw [hfrom] at hwait
      exact hwait.elim (fun hp => by cases hp) fun hp => by cases hp
  unfold Device.startStreaming
  refine Device.Live.requested ?_ (requested_resetArm cfg _)
  cases k with
  | inject => exact hphase
  | capture => exact ⟨hphase.armed, hphase.cancelled, hphase.mode⟩

theorem live_returnBuffers {k : NodeId} (h : s.Live) (hfrom : (s.node k).phase = .returning) :
    (s.returnBuffers k).Live := by
  have hne : (s.node k).phase ≠ .streaming := by
    rw [hfrom]
    exact fun hp => by cases hp
  have hwait : (s.node k).phase.beforeWait → Phase.idle.beforeWait := fun hw => by
    rw [hfrom] at hw
    exact hw.elim (fun hp => by cases hp) fun hp => by cases hp
  cases k with
  | inject =>
    have hr := requested_releaseHeld s .error
    have hreleased := h.requested hr
    refine live_setNode (k := .inject) hreleased ?_ ?_ fun hc => by cases hc
    · exact hr.threads.inject ▸ hne
    · exact hr.threads.inject ▸ hwait
  | capture => exact live_setNode (k := .capture) h hne hwait fun hc => by cases hc

theorem live_clearClock {c : Caller} (h : s.Live) (hfrom : s.phase c = .clearing) :
    Device.Live { s.setPhase c c.after with nextFrame := 0 } := by
  have hphase : (s.setPhase c c.after).Live := by
    cases c with
    | node k =>
      refine live_setNode h ?_ (fun hwait => ?_) (fun hc => by cases hc)
      · rw [show (s.node k).phase = .clearing from hfrom]
        exact fun hp => by cases hp
      · rw [show (s.node k).phase = .clearing from hfrom] at hwait
        exact hwait.elim (fun hp => by cases hp) fun hp => by cases hp
    | sensor => exact live_sensorPhase h fun hp => by cases hp
  exact ⟨hphase.armed, hphase.cancelled, hphase.mode⟩

end Threads

/-! ## The work -/

section Work

variable {cfg : Config} {s t u : Device}

theorem Requested.trans (h : Requested s t) (h' : Requested t u) : Requested s u where
  threads := h.threads.trans h'.threads
  arms := .trans h.threads h.arms h'.arms
  active := by
    rcases h'.active with heq | hstopped
    · rcases h.active with heq' | hstopped'
      · exact .inl (heq.trans heq')
      · exact .inr hstopped'
    · rw [h.threads.canRun] at hstopped
      exact .inr hstopped

/-- A step of the delivery, which neither moves a thread nor arms the work. -/
theorem requested_of_eq (hinject : t.inject.phase = s.inject.phase)
    (hcapture : t.capture.phase = s.capture.phase) (hsensor : t.sensorPhase = s.sensorPhase)
    (hwork : t.work = s.work) (hpending : t.pending = s.pending) (hactive : t.active = s.active) :
    Requested s t :=
  ⟨⟨hinject, hcapture, hsensor, hwork⟩, .inl hpending, .inl hactive⟩

theorem phase_dropUndersized (size : Nat) (l : List Nat) (n : Node) :
    (n.dropUndersized size l).phase = n.phase := by
  induction l generalizing n with
  | nil => rfl
  | cons i l ih =>
    rw [Node.dropUndersized]
    split
    · exact ih _
    · rfl

theorem requested_holdInject (s : Device) (i : Nat) : Requested s (s.holdInject i) :=
  (requested_releaseHeld s .done).trans (requested_of_eq rfl rfl rfl rfl rfl rfl)

theorem requested_finishFrame (s : Device) (mode : Mode) (c : Nat) :
    Requested s (s.finishFrame mode c) :=
  requested_of_eq rfl rfl rfl rfl rfl rfl

theorem requested_deliverFrom (s : Device) (mode : Mode) (c i : Nat) :
    Requested s (s.deliverFrom cfg mode c i) := by
  unfold Device.deliverFrom
  refine Requested.trans ?_ (requested_finishFrame _ mode c)
  cases cfg.repeatLastFrame with
  | true => exact (requested_holdInject s i).trans (requested_of_eq rfl rfl rfl rfl rfl rfl)
  | false => exact requested_of_eq rfl rfl rfl rfl rfl rfl

theorem requested_repeatFrame (s : Device) (mode : Mode) (c : Nat) :
    Requested s (s.repeatFrame cfg mode c) := by
  unfold Device.repeatFrame
  split
  · exact .refl s
  · split
    · exact requested_of_eq rfl rfl rfl rfl rfl rfl
    · exact .refl s

theorem requested_tryDeliverFrame (cfg : Config) (s : Device) (mode : Mode) :
    Requested s (s.tryDeliverFrame cfg mode) := by
  have hdropped : Requested s { s with
      inject := s.inject.dropUndersized s.layout.sizeImage s.inject.list } :=
    requested_of_eq (phase_dropUndersized _ _ _) rfl rfl rfl rfl rfl
  unfold Device.tryDeliverFrame
  split
  · exact .refl s
  · split
    · exact .refl s
    · split
      · exact requested_of_eq rfl rfl rfl rfl rfl rfl
      · simp only
        split
        · exact hdropped.trans (requested_deliverFrom _ _ _ _)
        · split
          · exact hdropped.trans (requested_repeatFrame _ _ _)
          · exact hdropped

theorem requested_modDelayedWork {s : Device} (delay : Nat) (h : s.canRun = true) :
    Requested s (s.modDelayedWork cfg delay) :=
  ⟨.of_timeless (timeless_modDelayedWork cfg s delay), arms_modDelayedWork delay h,
    .inl (sameButClock (timeless_modDelayedWork cfg s delay)).active⟩

theorem requested_advance (cfg : Config) (s : Device) (elapsed : Nat) :
    Requested s (s.advance cfg elapsed) := by
  unfold Device.advance
  split
  · exact .refl s
  · rename_i hrun
    have hrun : s.canRun = true := by simpa using hrun
    simp only
    split
    · exact requested_of_eq rfl rfl rfl rfl rfl rfl
    · refine Requested.trans ?_ (requested_modDelayedWork _ ?_)
      · exact requested_of_eq rfl rfl rfl rfl rfl rfl
      · exact hrun

end Work

/-! ## Every run -/

section Runs

variable {cfg : Config} {s t : Device} {a : Act}

theorem Device.Live.next (h : s.Live) (ha : s.enabled cfg a = true) : (s.next cfg a).Live := by
  cases a with
  | injectSFmt width height pixelformat => exact h.requested (granted_injectSFmt _ _ _).requested
  | captureSFmt width height => exact h.requested (granted_captureSFmt _ _).requested
  | setFmt pad tried width height => exact h.requested (granted_setFmt _ _ _ _).requested
  | reqBufs k | createBufs k | dqBuf k =>
    exact h.requested (requested_setNode rfl)
  | prepareBuf k =>
    simp only [Device.next, Device.bufPrepare]
    split
    · exact h
    · exact h.requested (requested_setNode rfl)
  | qBuf k i =>
    simp only [Device.next]
    split
    · exact h.requested (requested_bufQueue s k i)
    · exact h.requested (requested_setNode rfl)
  | streamOn k =>
    -- a node starts from idle, where no arming is waited for
    have hphase : (s.node k).phase = .idle := by
      simp only [Device.enabled, Bool.and_eq_true, decide_eq_true_eq] at ha
      exact ha.1
    refine live_setNode h ?_ (fun hwait => ?_) fun hc => by cases hc
    · rw [hphase]
      exact fun hp => by cases hp
    · rw [hphase] at hwait
      exact hwait.elim (fun hp => by cases hp) fun hp => by cases hp
  | give k i => exact h.requested (requested_bufQueue s k i)
  | startStreaming k =>
    have hphase : (s.node k).phase = .starting := by
      simp only [Device.enabled, Bool.and_eq_true, decide_eq_true_eq] at ha
      exact ha.1
    exact live_startStreaming h hphase
  | streamOff k =>
    simp only [Device.next]
    split
    · rename_i hstreaming
      exact live_stopping h (of_decide_eq_true hstreaming)
    · exact h.requested (requested_setNode rfl)
  | cancelWork c => exact live_cancelWork h (of_decide_eq_true ha)
  | workCancelled c =>
    simp only [Device.enabled, Bool.and_eq_true, decide_eq_true_eq, Option.isNone_iff_eq_none] at ha
    exact live_workCancelled h ha.1 ha.2
  | clearClock c => exact live_clearClock h (of_decide_eq_true ha)
  | returnBuffers k => exact live_returnBuffers h (of_decide_eq_true ha)
  | startWork =>
    simp only [Device.enabled, Bool.and_eq_true] at ha
    have hpending : s.pending.isSome := by
      cases hp : s.pending with
      | none => simp [hp] at ha
      | some => rfl
    -- the run takes the mode that is active as it starts
    exact {
      armed := fun _ => h.armed (.inl hpending)
      cancelled := fun _ => rfl
      mode := fun run hrun => .inl (by cases hrun; rfl) }
  | deliver =>
    simp only [Device.next]
    split
    · exact h
    · rename_i run hrun
      have hr := requested_tryDeliverFrame cfg s (cfg.modeAt run.mode)
      have ht := h.requested hr
      -- the delivery keeps the mode of its run
      have hwork := hr.threads.work.trans hrun
      exact {
        armed := fun _ => ht.armed (.inr (by rw [hwork]; rfl))
        cancelled := ht.cancelled
        mode := fun run' hrun' => by
          cases hrun'
          exact ht.mode run hwork }
  | advance elapsed =>
    have ht := h.requested (requested_advance cfg s elapsed)
    exact {
      armed := fun harmed => ht.armed (.inl (harmed.elim id fun hw => by cases hw))
      cancelled := ht.cancelled
      mode := fun _ hrun => by cases hrun }
  | vblank value =>
    exact h.requested ⟨.of_timeless (timeless_setVblank cfg s value), arms_setVblank cfg s value,
      .inl (sameButClock (timeless_setVblank cfg s value)).active⟩
  | sStream enable =>
    cases enable with
    | true => exact h.requested (requested_resetArm cfg s)
    | false => exact live_sensorPhase h fun hp => by cases hp
  | tick elapsed => exact ⟨h.armed, h.cancelled, h.mode⟩

theorem live_initial (cfg : Config) (now : Nat) : (cfg.initial now).Live := by
  refine Device.Live.requested ?_ (Granted.mode 0 rfl).requested
  exact {
    armed := fun harmed => harmed.elim (fun hp => by cases hp) fun hw => by cases hw
    cancelled := fun _ => rfl
    mode := fun _ hrun => by cases hrun }

theorem live_of_reach {now : Nat} (hr : Reach (step cfg) anyStep (cfg.initial now) s) : s.Live := by
  refine hr.invariant (live_initial cfg now) fun s a t hs _ hstep => ?_
  obtain ⟨ha, rfl⟩ := step_eq_some.mp hstep
  exact hs.next ha

/-- A delivery that finds both nodes streaming has read the mode that is active. -/
theorem Device.Live.readMode (h : s.Live) (hrun : s.canRun = true) {run : Run}
    (hwork : s.work = some run) : run.mode = s.active := by
  simp only [Device.canRun, Node.streaming, Bool.and_eq_true, decide_eq_true_eq] at hrun
  rcases h.mode run hwork with heq | hinject | hcapture
  · exact heq
  · rw [hrun.1] at hinject
    exact hinject.elim (fun hp => by cases hp) fun hp => by cases hp
  · rw [hrun.2] at hcapture
    exact hcapture.elim (fun hp => by cases hp) fun hp => by cases hp

end Runs

end Sensorium.Camera

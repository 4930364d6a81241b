import Sensorium.Camera.Steps

/-!
# The active mode while queues are busy

Three requests can change the active mode, one for each node and one for the sensor, and each looks
at one node only: a request is refused where its own test says so, and the test does not see the
queue of the other node.
-/

namespace Sensorium.Camera

open Lib

namespace Device

variable (cfg : Config) (s : Device)

/-- The request names a mode that is not the active one. -/
def asksOther : Act → Bool
  | .injectSFmt width height _ | .captureSFmt width height => cfg.findMode width height ≠ s.active
  | .setFmt pad tried width height => pad = 1 && !tried && cfg.findMode width height ≠ s.active
  | _ => false

/-- The test that the request makes before it changes the mode: whether its own queue is busy or
streams, and on the source pad whether the capture queue streams. -/
def refuses : Act → Bool
  | .injectSFmt _ _ _ => s.inject.streaming || s.inject.isBusy
  | .captureSFmt _ _ => s.capture.streaming || s.capture.isBusy
  | .setFmt _ _ _ _ => s.capture.streaming
  | _ => true

end Device

/-- While a queue is busy or streams, a step leaves the active mode, and a request for another one
is answered with `-EBUSY` and changes nothing. -/
def Frozen (cfg : Config) (s : Device) (a : Act) (t : Device) : Prop :=
  s.queuesBusy = true → t.active = s.active ∧
    (s.asksOther cfg a = true → s.answer cfg a = some Device.eBusy ∧ t = s)

/-- A request for another mode comes while no queue is busy, or its own test refuses it. -/
def InIdle (cfg : Config) (s : Device) (a : Act) : Prop :=
  s.asksOther cfg a = true → s.queuesBusy = false ∨ s.refuses a = true

/-! ## The active mode -/

section Active

variable (cfg : Config) (s : Device)

theorem active_releaseHeld (state : BufferState) : (s.releaseHeld state).active = s.active := by
  unfold Device.releaseHeld
  split <;> rfl

theorem active_setInjectFormat (pixelformat : PixelFormat) :
    (s.setInjectFormat cfg pixelformat).2.active = s.active := by
  unfold Device.setInjectFormat
  split <;> rfl

theorem active_changeMode (mode : Nat) : (s.changeMode cfg mode).active = mode :=
  (active_setInjectFormat cfg _ _).trans (active_releaseHeld _ _)

theorem active_applyMode (mode : Nat) : (s.applyMode cfg mode).active = mode :=
  (sameButClock (timeless_applyMode cfg s mode)).active.trans (active_changeMode cfg s mode)

theorem active_finishFrame (mode : Mode) (c : Nat) : (s.finishFrame mode c).active = s.active := rfl

theorem active_repeatFrame (mode : Mode) (c : Nat) :
    (s.repeatFrame cfg mode c).active = s.active := by
  unfold Device.repeatFrame
  split
  · rfl
  · split <;> rfl

theorem active_deliverFrom (mode : Mode) (c i : Nat) :
    (s.deliverFrom cfg mode c i).active = s.active := by
  unfold Device.deliverFrom
  simp only [active_finishFrame]
  split
  · exact active_releaseHeld _ _
  · rfl

theorem active_tryDeliverFrame (mode : Mode) :
    (s.tryDeliverFrame cfg mode).active = s.active := by
  unfold Device.tryDeliverFrame
  split
  · rfl
  · split
    · rfl
    · split
      · rfl
      · simp only
        split
        · exact active_deliverFrom cfg _ _ _ _
        · split
          · exact active_repeatFrame cfg _ _ _
          · rfl

theorem active_setNode (k : NodeId) (n : Node) : (s.setNode k n).active = s.active := by
  cases k <;> rfl

theorem active_setPhase (c : Caller) (p : Phase) : (s.setPhase c p).active = s.active := by
  cases c with
  | node k => exact active_setNode s k _
  | sensor => rfl

theorem active_armClock : (s.armClock cfg).active = s.active :=
  (sameButClock (timeless_armClock cfg s)).active

theorem active_resetClock : (s.resetClock cfg).active = s.active :=
  (sameButClock (timeless_resetClock cfg s)).active

theorem active_bufPrepare (k : NodeId) (i planeSize : Nat) (mapped : Bool) :
    (s.bufPrepare cfg k i planeSize mapped).active = s.active := by
  unfold Device.bufPrepare
  split
  · rfl
  · exact active_setNode s k _

theorem active_bufQueue (k : NodeId) (i : Nat) : (s.bufQueue cfg k i).active = s.active := by
  unfold Device.bufQueue
  simp only
  split
  · exact (active_armClock cfg _).trans (active_setNode s k _)
  · exact active_setNode s k _

theorem active_startStreaming (k : NodeId) : (s.startStreaming cfg k).active = s.active := by
  unfold Device.startStreaming
  simp only [active_armClock, active_resetClock, active_setNode]
  cases k <;> rfl

theorem active_returnBuffers (k : NodeId) : (s.returnBuffers k).active = s.active := by
  cases k with
  | inject => exact active_releaseHeld s _
  | capture => rfl

theorem active_advance (elapsed : Nat) : (s.advance cfg elapsed).active = s.active := by
  unfold Device.advance
  split
  · rfl
  · simp only
    split
    · rfl
    · exact (sameButClock (timeless_modDelayedWork cfg _ _)).active

end Active

section Requests

variable {cfg : Config} {s : Device} {a : Act}

/-- Nothing else changes the active mode. -/
theorem active_next (h : s.asksOther cfg a = false) : (s.next cfg a).active = s.active := by
  cases a with
  | injectSFmt width height pixelformat =>
    have hmode : cfg.findMode width height = s.active := by simpa [Device.asksOther] using h
    simp only [Device.next, Device.injectSFmt, hmode]
    split
    · rfl
    · simp [active_setInjectFormat]
  | captureSFmt width height =>
    have hmode : cfg.findMode width height = s.active := by simpa [Device.asksOther] using h
    simp [Device.next, Device.captureSFmt, hmode]
  | setFmt pad tried width height =>
    simp only [Device.next, Device.setFmt]
    split
    · rfl
    · split
      · rfl
      · rename_i hpad hsink
        -- only the active format of the source pad sets the mode
        have hsource : pad = 1 := by omega
        cases tried with
        | true => rfl
        | false =>
          have hmode : cfg.findMode width height = s.active := by
            simpa [Device.asksOther, hsource] using h
          simp [hmode]
  | reqBufs k | createBufs k | dqBuf k => exact active_setNode s k _
  | prepareBuf k i planeSize mapped => exact active_bufPrepare cfg s k i planeSize mapped
  | qBuf k i =>
    simp only [Device.next]
    split
    · exact active_bufQueue cfg s k i
    · exact active_setNode s k _
  | streamOn k => exact active_setPhase s _ _
  | give k i => exact active_bufQueue cfg s k i
  | startStreaming k => exact active_startStreaming cfg s k
  | streamOff k =>
    simp only [Device.next]
    split
    · exact active_setPhase s _ _
    · exact active_setNode s k _
  | cancelWork c | workCancelled c | clearClock c => exact active_setPhase s _ _
  | returnBuffers k => exact active_returnBuffers s k
  | startWork | tick => rfl
  | deliver =>
    simp only [Device.next]
    split
    · rfl
    · exact active_tryDeliverFrame cfg s _
  | advance elapsed => exact active_advance cfg s elapsed
  | vblank value => exact (sameButClock (timeless_setVblank cfg s value)).active
  | sStream enable =>
    cases enable with
    | true => exact (active_armClock cfg _).trans (active_resetClock cfg s)
    | false => rfl

/-- A request whose own test refuses it has no effect. -/
theorem next_of_refuses (hasks : s.asksOther cfg a = true) (h : s.refuses a = true) :
    s.answer cfg a = some Device.eBusy ∧ s.next cfg a = s := by
  cases a with
  | injectSFmt width height pixelformat =>
    have hmode : cfg.findMode width height ≠ s.active := by simpa [Device.asksOther] using hasks
    have hbusy : (s.inject.streaming || s.inject.isBusy) = true := h
    simp [Device.answer, Device.next, Device.injectSFmt, hmode, hbusy]
  | captureSFmt width height =>
    have hmode : cfg.findMode width height ≠ s.active := by simpa [Device.asksOther] using hasks
    have hbusy : (s.capture.streaming || s.capture.isBusy) = true := h
    simp [Device.answer, Device.next, Device.captureSFmt, hmode, hbusy]
  | setFmt pad tried width height =>
    simp only [Device.asksOther, Bool.and_eq_true, decide_eq_true_eq, Bool.not_eq_true'] at hasks
    obtain ⟨⟨hpad, htried⟩, hmode⟩ := hasks
    have hbusy : s.capture.streaming = true := h
    simp [Device.answer, Device.next, Device.setFmt, hpad, htried, hmode, hbusy]
  | _ => cases hasks

/-- A request for another mode that its own test lets pass changes the mode. -/
theorem active_of_passes (hasks : s.asksOther cfg a = true) (h : s.refuses a = false) :
    (s.next cfg a).active ≠ s.active := by
  cases a with
  | injectSFmt width height pixelformat =>
    have hmode : cfg.findMode width height ≠ s.active := by simpa [Device.asksOther] using hasks
    have hidle : (s.inject.streaming || s.inject.isBusy) = false := h
    simp [Device.next, Device.injectSFmt, hmode, hidle, active_setInjectFormat, active_applyMode]
  | captureSFmt width height =>
    have hmode : cfg.findMode width height ≠ s.active := by simpa [Device.asksOther] using hasks
    have hidle : (s.capture.streaming || s.capture.isBusy) = false := h
    simp [Device.next, Device.captureSFmt, hmode, hidle, active_applyMode]
  | setFmt pad tried width height =>
    simp only [Device.asksOther, Bool.and_eq_true, decide_eq_true_eq, Bool.not_eq_true'] at hasks
    obtain ⟨⟨hpad, htried⟩, hmode⟩ := hasks
    have hidle : s.capture.streaming = false := h
    simp [Device.next, Device.setFmt, hpad, htried, hmode, hidle, active_applyMode]
  | _ => cases hasks

end Requests

/-- In a run every step leaves the mode frozen, if and only if every request for another mode comes
while no queue is busy or meets a test of its own that sees the busy queue. -/
theorem mode_frozen (cfg : Config) (now : Nat) (as : List Act) :
    EveryStep (step cfg) (Frozen cfg) (cfg.initial now) as ↔
      EveryStep (step cfg) (fun s a _ => InIdle cfg s a) (cfg.initial now) as := by
  refine everyStep_congr (fun s a t hstep => ?_) _ _
  obtain ⟨-, ht⟩ := step_eq_some.mp hstep
  subst ht
  unfold Frozen InIdle
  cases hasks : s.asksOther cfg a with
  | false => simp [active_next hasks]
  | true =>
    cases hbusy : s.queuesBusy with
    | false => simp
    | true =>
      cases hrefuses : s.refuses a with
      | false => simp [active_of_passes hasks hrefuses]
      | true =>
        obtain ⟨hanswer, hnext⟩ := next_of_refuses hasks hrefuses
        simp [hanswer, hnext]

/-- The inject node streams, and `S_FMT` on the capture node changes the mode. -/
theorem mode_changes_while_streaming : ∃ s t : Device,
    Reach (step .twoModes) anyStep (Config.twoModes.initial 1) s ∧ s.inject.streaming = true ∧
    step .twoModes s (.captureSFmt 2 2) = some t ∧ t.active ≠ s.active ∧
    ¬Frozen .twoModes s (.captureSFmt 2 2) t := by
  have hrun : ((exec (guarded (step .twoModes) anyStep) (Config.twoModes.initial 1)
      [.reqBufs .inject 1, .prepareBuf .inject 0 32 true, .qBuf .inject 0, .streamOn .inject,
        .give .inject 0, .startStreaming .inject]).bind fun s =>
      (step .twoModes s (.captureSFmt 2 2)).map fun t =>
        (s.inject.streaming, s.queuesBusy, s.active, t.active)) = some (true, true, 0, 1) := by
    decide +kernel
  obtain ⟨s, hs, hrun⟩ := Option.bind_eq_some_iff.mp hrun
  obtain ⟨t, ht, hview⟩ := Option.map_eq_some_iff.mp hrun
  simp only [Prod.mk.injEq] at hview
  obtain ⟨hstreaming, hbusy, hs0, ht1⟩ := hview
  have hne : t.active ≠ s.active := by
    rw [hs0, ht1]
    decide
  exact ⟨s, t, reach_of_exec hs, hstreaming, ht, hne, fun hfrozen => hne (hfrozen hbusy).1⟩

end Sensorium.Camera

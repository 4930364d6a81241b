import Sensorium.Camera.Device
import Sensorium.Lib.Runs

/-!
# The steps of a camera

A step is an ioctl, a section under the lock of the instance, a call of vb2, or a tick of the clock.
`STREAMON` and `STREAMOFF` hold the lock of their node from their first step to their last; calls of
`s_stream` come one after another.  Requests for modes and formats have an answer.
-/

namespace Sensorium.Camera

open Lib

/-- The threads that may be in `sensorium_stop_streaming`. -/
inductive Caller
  | node (k : NodeId)
  | sensor

/-- What follows `sensorium_stop_streaming`. -/
def Caller.after : Caller → Phase
  | .node _ => .returning
  | .sensor => .idle

inductive Act
  | injectSFmt (width height : Nat) (pixelformat : PixelFormat)
  | captureSFmt (width height : Nat)
  | setFmt (pad : Nat) (tried : Bool) (width height : Nat)
  | reqBufs (k : NodeId) (count : Nat)
  | createBufs (k : NodeId) (count : Nat)
  | prepareBuf (k : NodeId) (i planeSize : Nat) (mapped : Bool)
  | qBuf (k : NodeId) (i : Nat)
  | dqBuf (k : NodeId) (i : Nat)
  | streamOn (k : NodeId)
  -- vb2 gives a queued buffer to the driver before `start_streaming`
  | give (k : NodeId) (i : Nat)
  | startStreaming (k : NodeId)
  | streamOff (k : NodeId)
  | cancelWork (c : Caller)
  | workCancelled (c : Caller)
  | clearClock (c : Caller)
  | returnBuffers (k : NodeId)
  | startWork
  | deliver
  | advance (elapsed : Nat)
  | vblank (value : Nat)
  | sStream (enable : Bool)
  | tick (elapsed : Nat)

namespace Device

variable (cfg : Config) (s : Device)

def phase : Caller → Phase
  | .node k => (s.node k).phase
  | .sensor => s.sensorPhase

def setPhase (c : Caller) (p : Phase) : Device :=
  match c with
  | .node k => s.setNode k { s.node k with phase := p }
  | .sensor => { s with sensorPhase := p }

/-- The buffer exists and vb2 has it in this state. -/
def hasBuffer (k : NodeId) (i : Nat) (state : BufferState) : Bool :=
  i < (s.node k).buffers.length && ((s.node k).buffer i).state = state

def enabled : Act → Bool
  | .injectSFmt _ _ _ => s.inject.phase.unlocked
  | .captureSFmt _ _ => s.capture.phase.unlocked
  | .setFmt _ _ _ _ => true
  | .reqBufs k _ => (s.node k).phase = .idle
  | .createBufs k _ => (s.node k).phase.unlocked
  | .prepareBuf k i _ _ =>
    (s.node k).phase.unlocked && s.hasBuffer k i .dequeued && !((s.node k).buffer i).prepared
  | .qBuf k i =>
    (s.node k).phase.unlocked && s.hasBuffer k i .dequeued && ((s.node k).buffer i).prepared
  | .dqBuf k i =>
    (s.node k).phase.unlocked && (s.hasBuffer k i .done || s.hasBuffer k i .error)
  | .streamOn k => (s.node k).phase = .idle && (s.node k).isBusy
  | .give k i => (s.node k).phase = .starting && s.hasBuffer k i .queued
  | .startStreaming k =>
    (s.node k).phase = .starting && (s.node k).buffers.all fun b => b.state ≠ .queued
  | .streamOff k => (s.node k).phase.unlocked
  | .cancelWork c => s.phase c = .stopping
  | .workCancelled c => s.phase c = .cancelling && s.work.isNone
  | .clearClock c => s.phase c = .clearing
  | .returnBuffers k => (s.node k).phase = .returning
  | .startWork => s.work.isNone && s.pending.any fun due => due ≤ s.now
  | .deliver => s.work.any fun run => !run.tried
  | .advance _ => (s.work.any fun run => run.tried) && (!s.canRun || (s.schedule cfg).isSome)
  | .vblank _ => true
  | .sStream _ => s.sensorPhase = .idle
  | .tick _ => true

def next : Act → Device
  | .injectSFmt width height pixelformat => (s.injectSFmt cfg width height pixelformat).2
  | .captureSFmt width height => (s.captureSFmt cfg width height).2
  | .setFmt pad tried width height => (s.setFmt cfg pad tried width height).2
  | .reqBufs k count => s.setNode k { s.node k with buffers := List.replicate count {} }
  | .createBufs k count =>
    s.setNode k { s.node k with buffers := (s.node k).buffers ++ List.replicate count {} }
  | .prepareBuf k i planeSize mapped => s.bufPrepare cfg k i planeSize mapped
  | .qBuf k i =>
    if (s.node k).streaming then s.bufQueue cfg k i
    else s.setNode k ((s.node k).modify i fun b => { b with state := .queued })
  | .dqBuf k i =>
    s.setNode k ((s.node k).modify i fun b => { b with state := .dequeued, prepared := false })
  | .streamOn k => s.setPhase (.node k) .starting
  | .give k i => s.bufQueue cfg k i
  | .startStreaming k => s.startStreaming cfg k
  | .streamOff k =>
    if (s.node k).streaming then s.setPhase (.node k) .stopping
    else s.setNode k (s.node k).dequeueAll
  | .cancelWork c => { s.setPhase c .cancelling with pending := none }
  | .workCancelled c => s.setPhase c .clearing
  | .clearClock c => { s.setPhase c c.after with nextFrame := 0 }
  | .returnBuffers k => s.returnBuffers k
  | .startWork => { s with pending := none, work := some { mode := s.active, tried := false } }
  | .deliver =>
    match s.work with
    | none => s
    | some run =>
      { s.tryDeliverFrame cfg (cfg.modeAt run.mode) with work := some { run with tried := true } }
  | .advance elapsed => { s.advance cfg elapsed with work := none }
  | .vblank value => s.setVblank cfg value
  | .sStream enable =>
    if enable then (s.resetClock cfg).armClock cfg else { s with sensorPhase := .stopping }
  | .tick elapsed => { s with now := s.now + elapsed }

/-- What a request for a mode answers. -/
def answer : Act → Option Int
  | .injectSFmt width height pixelformat => some (s.injectSFmt cfg width height pixelformat).1
  | .captureSFmt width height => some (s.captureSFmt cfg width height).1
  | .setFmt pad tried width height => some (s.setFmt cfg pad tried width height).1
  | _ => none

end Device

def step (cfg : Config) (s : Device) (a : Act) : Option Device :=
  if s.enabled cfg a then some (s.next cfg a) else none

/-- After the registration of the instance, at the time `now`. -/
def Config.initial (cfg : Config) (now : Nat) : Device :=
  Device.applyMode cfg
    { active := 0, layout := updateInjectLayout cfg.firstMode .bgr32,
      frameInterval := cfg.firstMode.frameIntervalMs * 1000000, vblank := cfg.firstMode.vblank,
      now := now } 0

/-- A mode of 4 by 2 pixels and one of 2 by 2. -/
def Config.twoModes : Config where
  firstMode := { width := 4, height := 2, bytesPerLine := 8, frameSize := 16, pixelRate := 360,
                 hblank := 0, vblank := 1, frameIntervalMs := 33 }
  otherModes := [{ width := 2, height := 2, bytesPerLine := 4, frameSize := 8, pixelRate := 360,
                   hblank := 0, vblank := 1, frameIntervalMs := 33 }]
  repeatLastFrame := true
  jiffy := 4000000

theorem step_eq_some {cfg : Config} {s t : Device} {a : Act} :
    step cfg s a = some t ↔ s.enabled cfg a = true ∧ t = s.next cfg a := by
  unfold step
  split
  · rename_i h
    simp [h, eq_comm]
  · rename_i h
    simp [h]

/-! ## What the clock functions leave -/

/-- The device without what the clock functions write. -/
def Device.timeless (s : Device) : Device :=
  { s with frameInterval := 0, nextFrame := 0, vblank := 0, pending := none }

/-- Two devices that differ in what the clock functions write. -/
structure Device.SameButClock (s t : Device) : Prop where
  active : t.active = s.active
  layout : t.layout = s.layout
  inject : t.inject = s.inject
  capture : t.capture = s.capture
  held : t.held = s.held
  sequence : t.sequence = s.sequence
  sensorPhase : t.sensorPhase = s.sensorPhase
  work : t.work = s.work
  now : t.now = s.now
  delivered : t.delivered = s.delivered
  copies : t.copies = s.copies

theorem sameButClock {s t : Device} (h : t.timeless = s.timeless) : s.SameButClock t where
  active := (congrArg Device.active h :)
  layout := (congrArg Device.layout h :)
  inject := (congrArg Device.inject h :)
  capture := (congrArg Device.capture h :)
  held := (congrArg Device.held h :)
  sequence := (congrArg Device.sequence h :)
  sensorPhase := (congrArg Device.sensorPhase h :)
  work := (congrArg Device.work h :)
  now := (congrArg Device.now h :)
  delivered := (congrArg Device.delivered h :)
  copies := (congrArg Device.copies h :)

section Timeless

variable (cfg : Config) (s : Device)

theorem timeless_updateTiming : (s.updateTiming cfg).timeless = s.timeless := rfl

theorem timeless_resetClock : (s.resetClock cfg).timeless = s.timeless := by
  unfold Device.resetClock
  split <;> rfl

theorem timeless_modDelayedWork (delay : Nat) :
    (s.modDelayedWork cfg delay).timeless = s.timeless := by
  unfold Device.modDelayedWork
  split <;> rfl

theorem timeless_armClock : (s.armClock cfg).timeless = s.timeless := by
  unfold Device.armClock
  split
  · rfl
  · refine (timeless_modDelayedWork cfg _ _).trans ?_
    split
    · exact timeless_resetClock cfg s
    · rfl

theorem timeless_setVblank (value : Nat) : (s.setVblank cfg value).timeless = s.timeless := by
  unfold Device.setVblank
  simp only
  split
  · rfl
  · exact (timeless_armClock cfg _).trans (timeless_resetClock cfg _)

/-- What `sensorium_sensor_apply_mode` does besides the controls and the clock. -/
def Device.changeMode (mode : Nat) : Device :=
  let s := Device.releaseHeld { s with active := mode } .error
  (s.setInjectFormat cfg s.layout.pixelformat).2

theorem applyMode_eq (mode : Nat) : s.applyMode cfg mode =
    (((s.changeMode cfg mode).setVblank cfg ((s.changeMode cfg mode).mode cfg).vblank).updateTiming
      cfg).resetClock cfg := rfl

theorem timeless_applyMode (mode : Nat) :
    (s.applyMode cfg mode).timeless = (s.changeMode cfg mode).timeless := by
  rw [applyMode_eq, timeless_resetClock, timeless_updateTiming, timeless_setVblank]

end Timeless

end Sensorium.Camera

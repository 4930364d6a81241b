import Mathlib.Algebra.Order.Ring.Nat
import Mathlib.Data.List.Basic

/-!
# The camera instance

A camera has an inject node, whose buffers hold the frames of userspace, a capture node, whose
buffers receive them, and a sensor with the active mode.  A delayed work delivers the frames at
the cadence of the mode.  Machine integers are numbers, with the wraparound written out where the
code computes; the clock is a number of nanoseconds.
-/

namespace Sensorium.Camera

/-! ## Modes and formats -/

/-- An entry of the mode table. -/
structure Mode where
  width : Nat
  height : Nat
  bytesPerLine : Nat
  frameSize : Nat
  pixelRate : Nat
  hblank : Nat
  vblank : Nat
  frameIntervalMs : Nat
deriving DecidableEq

/-- The profile of the sensor, the module parameter, and the length of a jiffy. -/
structure Config where
  firstMode : Mode
  otherModes : List Mode
  repeatLastFrame : Bool
  jiffy : Nat

namespace Config

variable (cfg : Config)

def modes : List Mode := cfg.firstMode :: cfg.otherModes

/-- A mode is known by its place in the table, as the code compares pointers to entries. -/
def modeAt (i : Nat) : Mode := cfg.modes.getD i cfg.firstMode

/-- `sensorium_find_mode`. -/
def findMode (width height : Nat) : Nat :=
  (cfg.modes.findIdx? fun m => m.width = width && m.height = height).getD 0

end Config

inductive PixelFormat
  | bgr32 | rgb32 | bgr24 | rgb24 | srggb10
  | other (fourcc : Nat)
deriving DecidableEq

/-- `S_FMT` of the inject node replaces a format that it does not support. -/
def PixelFormat.supported : PixelFormat → PixelFormat
  | .other _ => .bgr32
  | format => format

structure IngressFormat where
  pixelStride : Nat
  redOffset : Nat
  greenOffset : Nat
  blueOffset : Nat
  rawPassthrough : Bool := false

/-- `sensorium_find_ingress_format`. -/
def findIngressFormat : PixelFormat → Option IngressFormat
  | .bgr32 => some { pixelStride := 4, redOffset := 2, greenOffset := 1, blueOffset := 0 }
  | .rgb32 => some { pixelStride := 4, redOffset := 0, greenOffset := 1, blueOffset := 2 }
  | .bgr24 => some { pixelStride := 3, redOffset := 2, greenOffset := 1, blueOffset := 0 }
  | .rgb24 => some { pixelStride := 3, redOffset := 0, greenOffset := 1, blueOffset := 2 }
  | .srggb10 =>
    some { pixelStride := 2, redOffset := 0, greenOffset := 0, blueOffset := 0,
           rawPassthrough := true }
  | .other _ => none

/-- The pixel format and the layout fields of the inject node. -/
structure Layout where
  pixelformat : PixelFormat
  bytesPerLine : Nat
  sizeImage : Nat
  pixelStride : Nat
  redOffset : Nat
  greenOffset : Nat
  blueOffset : Nat
deriving DecidableEq

def rawLayout (mode : Mode) : Layout where
  pixelformat := .srggb10
  bytesPerLine := mode.bytesPerLine
  sizeImage := mode.frameSize
  pixelStride := 2
  redOffset := 0
  greenOffset := 0
  blueOffset := 0

/-- `sensorium_update_inject_layout`. -/
def updateInjectLayout (mode : Mode) (pixelformat : PixelFormat) : Layout :=
  match findIngressFormat pixelformat with
  | none => rawLayout mode
  | some format =>
    if format.rawPassthrough then rawLayout mode
    else
      { pixelformat := pixelformat
        bytesPerLine := mode.width * format.pixelStride % 2 ^ 32
        sizeImage := mode.width * mode.height % 2 ^ 32 * format.pixelStride % 2 ^ 32
        pixelStride := format.pixelStride
        redOffset := format.redOffset
        greenOffset := format.greenOffset
        blueOffset := format.blueOffset }

/-! ## Copies -/

/-- The two samples of `sensorium_convert_rgb_to_rggb10` at row `y` and columns `x`, `x + 1`: the
offset of the byte that is read in the source, and the index of the sample that is written. -/
def convertPair (mode : Mode) (layout : Layout) (y x : Nat) : List (Nat × Nat) :=
  let row := y * layout.bytesPerLine % 2 ^ 32
  let dstRow := y * mode.width % 2 ^ 32
  let pixel0 := row + x * layout.pixelStride % 2 ^ 32
  let pixel1 := pixel0 + layout.pixelStride
  if y % 2 = 0 then
    [(pixel0 + layout.redOffset, dstRow + x), (pixel1 + layout.greenOffset, dstRow + (x + 1))]
  else
    [(pixel0 + layout.greenOffset, dstRow + x), (pixel1 + layout.blueOffset, dstRow + (x + 1))]

/-- The loops of `sensorium_convert_rgb_to_rggb10`; `x` goes up by two while `x + 1 < width`. -/
def convertSamples (mode : Mode) (layout : Layout) : List (Nat × Nat) :=
  (List.range mode.height).flatMap fun y =>
    (List.range (mode.width / 2)).flatMap fun k => convertPair mode layout y (2 * k)

/-- What a delivery copies, with the sizes of the two planes. -/
inductive Copy
  | raw (source target : Nat) (size : Nat)
  | rgb (source target : Nat) (mode : Mode) (layout : Layout)
deriving DecidableEq

/-- A copy reads within the source plane and writes within the capture plane; samples have 16
bits. -/
def Copy.InBounds : Copy → Prop
  | .raw source target size => size ≤ source ∧ size ≤ target
  | .rgb source target mode layout =>
    ∀ p ∈ convertSamples mode layout, p.1 < source ∧ 2 * p.2 + 2 ≤ target

/-! ## Buffers and nodes -/

/-- The state that vb2 keeps of a buffer; `active` is with the driver. -/
inductive BufferState
  | dequeued | queued | active | done | error
deriving DecidableEq

/-- A vb2 buffer; `given` and `returned` count the calls of `buf_queue` and of `vb2_buffer_done`. -/
structure Buffer where
  planeSize : Nat := 0
  payload : Nat := 0
  -- whether `vb2_plane_vaddr` has an address
  mapped : Bool := true
  prepared : Bool := false
  state : BufferState := .dequeued
  given : Nat := 0
  returned : Nat := 0
deriving DecidableEq

/-- How far `STREAMON` and `STREAMOFF` of a node are.  `node->streaming` is set in `streaming`,
which `start_streaming` enters and the first lock section of `stop_streaming` leaves. -/
inductive Phase
  | idle | starting | streaming | stopping | cancelling | clearing | returning
deriving DecidableEq

/-- No thread is in `STREAMON` or `STREAMOFF`, which hold the lock of the node. -/
def Phase.unlocked (p : Phase) : Bool := p = .idle || p = .streaming

structure Node where
  buffers : List Buffer := []
  list : List Nat := []
  phase : Phase := .idle

namespace Node

variable (n : Node) (i : Nat) (state : BufferState)

def streaming : Bool := n.phase = .streaming

/-- `vb2_is_busy`. -/
def isBusy : Bool := 0 < n.buffers.length

def buffer : Buffer := n.buffers.getD i {}

def modify (f : Buffer → Buffer) : Node := { n with buffers := n.buffers.modify i f }

/-- `vb2_buffer_done`. -/
def bufferDone : Node :=
  n.modify i fun b => { b with state := state, returned := b.returned + 1 }

/-- `sensorium_complete_buffer`. -/
def completeBuffer : Node := Node.bufferDone { n with list := n.list.erase i } i state

/-- `list_add_tail` of `buf_queue`, after vb2 has marked the buffer. -/
def addTail : Node :=
  Node.modify { n with list := n.list ++ [i] } i fun b =>
    { b with state := .active, given := b.given + 1 }

/-- `sensorium_capture_return_all` and `sensorium_return_all_buffers`. -/
def returnAll : Node := n.list.foldl (fun n i => n.completeBuffer i state) n

/-- `__vb2_queue_cancel` after `stop_streaming`. -/
def dequeueAll : Node :=
  { n with buffers := n.buffers.map fun b => { b with state := .dequeued, prepared := false } }

/-- The test of `sensorium_try_deliver_frame` on the first inject buffer. -/
def undersized (size : Nat) : Bool := (n.buffer i).planeSize < size || (n.buffer i).payload < size

/-- The loop of `sensorium_try_deliver_frame` that drops inject buffers which are too small. -/
def dropUndersized (size : Nat) : List Nat → Node → Node
  | [], n => n
  | i :: rest, n =>
    if n.undersized i size then dropUndersized size rest (n.completeBuffer i .error) else n

end Node

inductive NodeId
  | inject | capture
deriving DecidableEq

/-- A run of `sensorium_frame_work`, with the mode that it read before it took the lock, and whether
it has left `sensorium_try_deliver_frame`. -/
structure Run where
  mode : Nat
  tried : Bool
deriving DecidableEq

structure Frame where
  sequence : Nat
  timestamp : Nat
deriving DecidableEq

/-- `pending` is the time from which on the armed work may run.  `delivered` are the frames of the
capture session, and `copies` all copies so far. -/
structure Device where
  active : Nat
  layout : Layout
  inject : Node := {}
  capture : Node := {}
  held : Option Nat := none
  sequence : Nat := 0
  frameInterval : Nat := 0
  nextFrame : Nat := 0
  vblank : Nat := 0
  -- `s_stream` in `sensorium_stop_streaming`
  sensorPhase : Phase := .idle
  pending : Option Nat := none
  work : Option Run := none
  now : Nat
  delivered : List Frame := []
  copies : List Copy := []

namespace Device

variable (cfg : Config) (s : Device)

def mode : Mode := cfg.modeAt s.active

def node : NodeId → Node
  | .inject => s.inject
  | .capture => s.capture

def setNode (k : NodeId) (n : Node) : Device :=
  match k with
  | .inject => { s with inject := n }
  | .capture => { s with capture := n }

/-- `sensorium_can_run`. -/
def canRun : Bool := s.inject.streaming && s.capture.streaming

/-- `sensorium_queues_busy`, or one of the nodes streams. -/
def queuesBusy : Bool :=
  s.inject.isBusy || s.capture.isBusy || s.inject.streaming || s.capture.streaming

/-! ## The clock -/

/-- What `sensorium_update_timing_locked` computes. -/
def frameNs : Nat :=
  let mode := s.mode cfg
  let vblank := if 0 < s.vblank then s.vblank else mode.vblank
  let framePixels := (mode.width + mode.hblank) * (mode.height + vblank) % 2 ^ 64
  let frameNs :=
    if mode.pixelRate = 0 ∨ framePixels = 0 then mode.frameIntervalMs * 1000000
    else framePixels * 1000000000 % 2 ^ 64 / mode.pixelRate
  if frameNs = 0 then 1000000000 / 30 else frameNs

/-- `sensorium_update_timing_locked`. -/
def updateTiming : Device := { s with frameInterval := s.frameNs cfg }

/-- `sensorium_reset_clock_locked`. -/
def resetClock : Device :=
  let s := if s.frameInterval = 0 then s.updateTiming cfg else s
  { s with nextFrame := s.now }

/-- `sensorium_delay_to_next_frame_locked`, in jiffies. -/
def delayToNextFrame : Nat :=
  if s.nextFrame = 0 ∨ s.nextFrame ≤ s.now then 0 else (s.nextFrame - s.now) / cfg.jiffy

/-- Some thread is in `cancel_delayed_work_sync`. -/
def cancelling : Bool :=
  s.inject.phase = .cancelling || s.capture.phase = .cancelling || s.sensorPhase = .cancelling

/-- `mod_delayed_work`, which does not arm a work that is being cancelled. -/
def modDelayedWork (delay : Nat) : Device :=
  if s.cancelling then s else { s with pending := some (s.now + delay * cfg.jiffy) }

/-- `sensorium_arm_clock_locked`. -/
def armClock : Device :=
  if !s.canRun || s.capture.list.isEmpty then s
  else
    let s := if s.nextFrame = 0 then s.resetClock cfg else s
    s.modDelayedWork cfg (s.delayToNextFrame cfg)

/-- `sensorium_s_ctrl` for `V4L2_CID_VBLANK`, which the control framework calls where the value, cut
to the range of the control, differs from the current one. -/
def setVblank (value : Nat) : Device :=
  let value := max 1 (min value 16384)
  if value = s.vblank then s
  else ((Device.updateTiming cfg { s with vblank := value }).resetClock cfg).armClock cfg

/-! ## Modes -/

/-- `sensorium_release_held_inject`. -/
def releaseHeld (state : BufferState) : Device :=
  match s.held with
  | none => s
  | some i => { s with inject := s.inject.bufferDone i state, held := none }

def eBusy : Int := -16
def eInval : Int := -22

/-- `sensorium_set_inject_format`. -/
def setInjectFormat (pixelformat : PixelFormat) : Int × Device :=
  match findIngressFormat pixelformat with
  | none => (eInval, s)
  | some _ => (0, { s with layout := updateInjectLayout (s.mode cfg) pixelformat })

/-- `sensorium_sensor_apply_mode`. -/
def applyMode (mode : Nat) : Device :=
  let s := Device.releaseHeld { s with active := mode } .error
  let s := (s.setInjectFormat cfg s.layout.pixelformat).2
  let s := s.setVblank cfg (s.mode cfg).vblank
  (s.updateTiming cfg).resetClock cfg

/-- `sensorium_inject_s_fmt`. -/
def injectSFmt (width height : Nat) (pixelformat : PixelFormat) : Int × Device :=
  let mode := cfg.findMode width height
  let pixelformat := pixelformat.supported
  if (s.inject.streaming || s.inject.isBusy) &&
      (mode ≠ s.active || pixelformat ≠ s.layout.pixelformat) then (eBusy, s)
  else
    let s := if mode ≠ s.active then s.applyMode cfg mode else s
    s.setInjectFormat cfg pixelformat

/-- `sensorium_capture_s_fmt`. -/
def captureSFmt (width height : Nat) : Int × Device :=
  let mode := cfg.findMode width height
  if (s.capture.streaming || s.capture.isBusy) && mode ≠ s.active then (eBusy, s)
  else if mode ≠ s.active then (0, s.applyMode cfg mode)
  else (0, s)

/-- `sensorium_sensor_set_fmt`; pad 0 is the sink, pad 1 the source. -/
def setFmt (pad : Nat) (tried : Bool) (width height : Nat) : Int × Device :=
  if 2 ≤ pad then (eInval, s)
  else if pad = 0 then (0, s)
  else
    let mode := cfg.findMode width height
    if tried then (0, s)
    else if s.capture.streaming && mode ≠ s.active then (eBusy, s)
    else if mode ≠ s.active then (0, s.applyMode cfg mode)
    else (0, s)

/-! ## Delivery -/

/-- The copy from a source buffer to a capture buffer: `memcpy` has the mode that the work read, the
conversion the active one. -/
def copy (mode : Mode) (i c : Nat) : Copy :=
  let source := (s.inject.buffer i).planeSize
  let target := (s.capture.buffer c).planeSize
  if s.layout.pixelformat = .srggb10 then .raw source target mode.frameSize
  else .rgb source target (s.mode cfg) s.layout

/-- The scheduled time, or the clock where nothing is scheduled. -/
def timestamp : Nat := if s.nextFrame ≠ 0 then s.nextFrame else s.now

/-- The end of `sensorium_try_deliver_frame`. -/
def finishFrame (mode : Mode) (c : Nat) : Device :=
  let capture := s.capture.modify c fun b => { b with payload := mode.frameSize }
  { s with
    capture := capture.completeBuffer c .done
    sequence := (s.sequence + 1) % 2 ^ 32
    delivered := s.delivered ++ [{ sequence := s.sequence, timestamp := s.timestamp }] }

/-- The newest inject frame becomes the held one. -/
def holdInject (i : Nat) : Device :=
  let s := s.releaseHeld .done
  { s with inject := { s.inject with list := s.inject.list.erase i }, held := some i }

/-- A frame from the inject buffer at the head of the list. -/
def deliverFrom (mode : Mode) (c i : Nat) : Device :=
  let s := if cfg.repeatLastFrame then s.holdInject i else s
  let s := { s with copies := s.copies ++ [s.copy cfg mode i c] }
  let s := if cfg.repeatLastFrame then s
    else { s with inject := s.inject.completeBuffer i .done }
  s.finishFrame mode c

/-- The held frame once more. -/
def repeatFrame (mode : Mode) (c : Nat) : Device :=
  match s.held with
  | none => s
  | some i =>
    if (s.inject.buffer i).mapped then
      Device.finishFrame { s with copies := s.copies ++ [s.copy cfg mode i c] } mode c
    else s

/-- `sensorium_try_deliver_frame`. -/
def tryDeliverFrame (mode : Mode) : Device :=
  if !s.canRun then s
  else
    match s.capture.list with
    | [] => s
    | c :: _ =>
      if (s.capture.buffer c).planeSize < mode.frameSize || !(s.capture.buffer c).mapped then
        { s with capture := s.capture.completeBuffer c .error }
      else
        let s := { s with
          inject := s.inject.dropUndersized s.layout.sizeImage s.inject.list }
        match s.inject.list.head?.filter fun i => (s.inject.buffer i).mapped with
        | some i => s.deliverFrom cfg mode c i
        | none => if cfg.repeatLastFrame then s.repeatFrame cfg mode c else s

/-- The loop of `sensorium_frame_work`.  Within `2 ^ 64` rounds it comes back to where it was, so
that a loop that has not ended by then does not end. -/
def catchUp (interval now : Nat) : Nat → Nat → Option Nat
  | 0, _ => none
  | fuel + 1, next =>
    let next := (next + interval) % 2 ^ 64
    if next ≤ now then catchUp interval now fuel next else some next

/-- The interval that the second lock section of `sensorium_frame_work` adds. -/
def interval : Nat := if s.frameInterval = 0 then s.frameNs cfg else s.frameInterval

def schedule : Option Nat :=
  catchUp (s.interval cfg) s.now (2 ^ 64) (if s.nextFrame = 0 then s.now else s.nextFrame)

/-- The second lock section of `sensorium_frame_work`; `elapsed` is the time from its first reading
of the clock to the second. -/
def advance (elapsed : Nat) : Device :=
  if !s.canRun then s
  else
    let s := { s with
      frameInterval := s.interval cfg
      nextFrame := (s.schedule cfg).getD 0
      now := s.now + elapsed }
    if s.capture.list.isEmpty then s else s.modDelayedWork cfg (s.delayToNextFrame cfg)

/-! ## Buffers and streams -/

/-- The size that `buf_prepare` asks for. -/
def needed : NodeId → Nat
  | .inject => s.layout.sizeImage
  | .capture => (s.mode cfg).frameSize

/-- `sensorium_inject_buf_prepare` and `sensorium_capture_buf_prepare`. -/
def bufPrepare (k : NodeId) (i planeSize : Nat) (mapped : Bool) : Device :=
  if planeSize < s.needed cfg k then s
  else s.setNode k ((s.node k).modify i fun b =>
    { b with planeSize := planeSize, payload := s.needed cfg k, mapped := mapped, prepared := true })

/-- `sensorium_inject_buf_queue` and `sensorium_capture_buf_queue`. -/
def bufQueue (k : NodeId) (i : Nat) : Device :=
  let s := s.setNode k ((s.node k).addTail i)
  if (s.node k).list.length = 1 then s.armClock cfg else s

/-- `sensorium_inject_start_streaming` and `sensorium_capture_start_streaming`. -/
def startStreaming (k : NodeId) : Device :=
  let s := match k with
    | .inject => s
    | .capture => { s with sequence := 0, delivered := [] }
  let s := s.setNode k { s.node k with phase := .streaming }
  (s.resetClock cfg).armClock cfg

/-- The last lock section of `stop_streaming`, and the end of `STREAMOFF`. -/
def returnBuffers : NodeId → Device
  | .inject =>
    let s := s.releaseHeld .error
    { s with inject := { (s.inject.returnAll .error).dequeueAll with phase := .idle } }
  | .capture => { s with capture := { (s.capture.returnAll .error).dequeueAll with phase := .idle } }

end Device

end Sensorium.Camera

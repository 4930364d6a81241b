import Sensorium.Camera.Buffers
import Sensorium.Camera.FrozenMode

/-!
# The formats of a camera

Both nodes and the sensor have a format, and each of them can be asked for another one.  There is
one active mode behind all of these formats, which the sensor keeps a second time with the format of
its source pad.  The fields that every mode of the table has alike are left out: the pixel format of
the capture node, the media bus code and the field order.
-/

namespace Sensorium.Camera

open Lib

/-- The colorspace, the encoding, the quantization and the transfer function, which have one of two
combinations. -/
inductive Colour
  | raw | srgb
deriving DecidableEq

structure PixFormat where
  width : Nat
  height : Nat
  pixelformat : PixelFormat
  bytesPerLine : Nat
  sizeImage : Nat
  colour : Colour
deriving DecidableEq

structure MbusFormat where
  width : Nat
  height : Nat
deriving DecidableEq

structure Rect where
  left : Nat
  top : Nat
  width : Nat
  height : Nat
deriving DecidableEq

/-- `sensorium_fill_pix_format`. -/
def fillPixFormat (mode : Mode) : PixFormat where
  width := mode.width
  height := mode.height
  pixelformat := .srggb10
  bytesPerLine := mode.bytesPerLine
  sizeImage := mode.frameSize
  colour := .raw

/-- `sensorium_fill_mbus_format`. -/
def fillMbusFormat (mode : Mode) : MbusFormat := { width := mode.width, height := mode.height }

/-- `sensorium_sensor_fill_selection`. -/
def fillSelection (mode : Mode) : Rect :=
  { left := 0, top := 0, width := mode.width, height := mode.height }

/-- `sensor->mode` and `sensor->fmt`. -/
structure Sensor where
  mode : Nat
  fmt : MbusFormat
deriving DecidableEq

/-- A device with the state of its sensor. -/
structure Rig where
  dev : Device
  sensor : Sensor

namespace Device

variable (cfg : Config) (s : Device)

/-- `sensorium_fill_inject_pix_format`. -/
def fillInjectPixFormat : PixFormat where
  width := (s.mode cfg).width
  height := (s.mode cfg).height
  pixelformat := s.layout.pixelformat
  bytesPerLine := s.layout.bytesPerLine
  sizeImage := s.layout.sizeImage
  colour := if s.layout.pixelformat = .srggb10 then .raw else .srgb

/-- `sensorium_inject_g_fmt`. -/
def injectGFmt : PixFormat := s.fillInjectPixFormat cfg

/-- `sensorium_capture_g_fmt`. -/
def captureGFmt : PixFormat := fillPixFormat (s.mode cfg)

/-- The mode that a request passes to `sensorium_sensor_apply_mode`. -/
def applied : Act → Option Nat
  | .injectSFmt width height pixelformat =>
    let mode := cfg.findMode width height
    if (s.inject.streaming || s.inject.isBusy) &&
        (mode ≠ s.active || pixelformat.supported ≠ s.layout.pixelformat) then none
    else if mode ≠ s.active then some mode else none
  | .captureSFmt width height =>
    let mode := cfg.findMode width height
    if (s.capture.streaming || s.capture.isBusy) && mode ≠ s.active then none
    else if mode ≠ s.active then some mode else none
  | .setFmt pad tried width height =>
    let mode := cfg.findMode width height
    if pad = 1 && !tried && !(s.capture.streaming && mode ≠ s.active) && mode ≠ s.active then
      some mode
    else none
  | _ => none

end Device

section Tries

variable (cfg : Config) (width height : Nat)

/-- `sensorium_inject_try_fmt`. -/
def injectTryFmt (pixelformat : PixelFormat) : PixFormat :=
  let mode := cfg.modeAt (cfg.findMode width height)
  let pixelformat := pixelformat.supported
  if pixelformat = .srggb10 then
    { width := mode.width, height := mode.height, pixelformat := pixelformat
      bytesPerLine := mode.bytesPerLine, sizeImage := mode.frameSize, colour := .raw }
  else
    let pixelStride := if pixelformat = .bgr32 ∨ pixelformat = .rgb32 then 4 else 3
    { width := mode.width, height := mode.height, pixelformat := pixelformat
      bytesPerLine := mode.width * pixelStride % 2 ^ 32
      sizeImage := mode.width * mode.height % 2 ^ 32 * pixelStride % 2 ^ 32
      colour := .srgb }

/-- `sensorium_capture_try_fmt`. -/
def captureTryFmt : PixFormat := fillPixFormat (cfg.modeAt (cfg.findMode width height))

/-- What `sensorium_sensor_set_fmt` answers for the source pad. -/
def sourceTryFmt : MbusFormat := fillMbusFormat (cfg.modeAt (cfg.findMode width height))

end Tries

/-- The sensor part of `sensorium_sensor_apply_mode`. -/
def Sensor.applyMode (cfg : Config) (mode : Nat) : Sensor :=
  { mode := mode, fmt := fillMbusFormat (cfg.modeAt mode) }

/-- `sensorium_sensor_get_fmt`. -/
def Sensor.getFmt (cfg : Config) (s : Sensor) (pad : Nat) : Option MbusFormat :=
  if 2 ≤ pad then none
  else if pad = 0 then some (fillMbusFormat (cfg.modeAt 0))
  else some s.fmt

/-- The targets of `sensorium_sensor_get_selection`. -/
inductive SelectionTarget
  | nativeSize | cropBounds | cropDefault | crop | other
deriving DecidableEq

/-- `sensorium_sensor_get_selection`. -/
def Sensor.getSelection (cfg : Config) (s : Sensor) (pad : Nat) :
    SelectionTarget → Option Rect
  | .nativeSize | .cropBounds | .cropDefault =>
    if 2 ≤ pad then none else some (fillSelection (cfg.modeAt 0))
  | .crop => if 2 ≤ pad then none else some (fillSelection (cfg.modeAt s.mode))
  | .other => none

namespace Rig

def next (cfg : Config) (c : Rig) (a : Act) : Rig where
  dev := c.dev.next cfg a
  sensor := match c.dev.applied cfg a with
    | some mode => .applyMode cfg mode
    | none => c.sensor

def step (cfg : Config) (c : Rig) (a : Act) : Option Rig :=
  if c.dev.enabled cfg a then some (c.next cfg a) else none

/-- `sensorium_sensor_register` applies the first mode. -/
def initial (cfg : Config) (now : Nat) : Rig :=
  { dev := cfg.initial now, sensor := .applyMode cfg 0 }

end Rig

/-- The formats that a camera answers: of the inject node, of the capture node, of the source pad,
and the crop rectangle. -/
structure Formats where
  inject : PixFormat
  capture : PixFormat
  source : Option MbusFormat
  crop : Option Rect
deriving DecidableEq

def Rig.formats (cfg : Config) (c : Rig) : Formats where
  inject := c.dev.injectGFmt cfg
  capture := c.dev.captureGFmt cfg
  source := c.sensor.getFmt cfg 1
  crop := c.sensor.getSelection cfg 1 .crop

/-- What the three `TRY` requests answer, with the crop rectangle of the mode that they find. -/
def formatsOf (cfg : Config) (width height : Nat) (pixelformat : PixelFormat) : Formats where
  inject := injectTryFmt cfg width height pixelformat
  capture := captureTryFmt cfg width height
  source := some (sourceTryFmt cfg width height)
  crop := some (fillSelection (cfg.modeAt (cfg.findMode width height)))

/-- The size and the pixel format that a request sets; only the inject node has a choice of pixel
formats. -/
def Rig.asked (c : Rig) : Act → Option (Nat × Nat × PixelFormat)
  | .injectSFmt width height pixelformat => some (width, height, pixelformat)
  | .captureSFmt width height => some (width, height, c.dev.layout.pixelformat)
  | .setFmt 1 false width height => some (width, height, c.dev.layout.pixelformat)
  | _ => none

/-- Two formats agree in the part that a request is about. -/
def Formats.AgreeOn (f g : Formats) : Act → Prop
  | .injectSFmt _ _ _ => f.inject = g.inject
  | .captureSFmt _ _ => f.capture = g.capture
  | .setFmt _ _ _ _ => f.source = g.source
  | _ => True

/-! ## The mode table -/

/-- A mode that a search for its own size finds. -/
def Config.Found (cfg : Config) (i : Nat) : Prop :=
  cfg.findMode (cfg.modeAt i).width (cfg.modeAt i).height = i

theorem found_zero (cfg : Config) : cfg.Found 0 := by
  simp [Config.Found, Config.findMode, Config.modes, Config.modeAt, List.findIdx?_cons]

theorem found_findMode (cfg : Config) (width height : Nat) :
    cfg.Found (cfg.findMode width height) := by
  cases hfind : cfg.modes.findIdx? fun m => m.width = width && m.height = height with
  | none =>
    have hzero : cfg.findMode width height = 0 := by simp [Config.findMode, hfind]
    rw [hzero]
    exact found_zero cfg
  | some i =>
    have hi : cfg.findMode width height = i := by simp [Config.findMode, hfind]
    obtain ⟨hlt, hsize, -⟩ := List.findIdx?_eq_some_iff_getElem.mp hfind
    simp only [Bool.and_eq_true, decide_eq_true_eq] at hsize
    have hat : cfg.modeAt i = cfg.modes[i] := by
      rw [Config.modeAt, List.getD_eq_getElem?_getD, List.getElem?_eq_getElem hlt]
      rfl
    rw [Config.Found, hi, hat, hsize.1, hsize.2]
    exact hi

/-- Modes that are found are told apart by their size. -/
theorem eq_of_size {cfg : Config} {i j : Nat} (hi : cfg.Found i) (hj : cfg.Found j)
    (hwidth : (cfg.modeAt i).width = (cfg.modeAt j).width)
    (hheight : (cfg.modeAt i).height = (cfg.modeAt j).height) : i = j := by
  rw [← hi, ← hj, hwidth, hheight]

/-! ## The layout of the inject node -/

theorem find_supported (pixelformat : PixelFormat) :
    findIngressFormat pixelformat.supported ≠ none := by
  cases pixelformat <;> exact fun h => by cases h

theorem pixelformat_updateInjectLayout (mode : Mode) {pixelformat : PixelFormat}
    (h : findIngressFormat pixelformat ≠ none) :
    (updateInjectLayout mode pixelformat).pixelformat = pixelformat := by
  cases pixelformat with
  | other => exact absurd rfl h
  | _ => rfl

theorem injectTryFmt_size (cfg : Config) (width height : Nat) (pixelformat : PixelFormat) :
    (injectTryFmt cfg width height pixelformat).width =
        (cfg.modeAt (cfg.findMode width height)).width ∧
      (injectTryFmt cfg width height pixelformat).height =
        (cfg.modeAt (cfg.findMode width height)).height ∧
      (injectTryFmt cfg width height pixelformat).pixelformat = pixelformat.supported := by
  unfold injectTryFmt
  simp only
  split <;> exact ⟨rfl, rfl, rfl⟩

/-- `TRY_FMT` computes what the layout of the found mode has. -/
theorem injectTryFmt_eq (cfg : Config) (width height : Nat) {pixelformat : PixelFormat}
    (h : findIngressFormat pixelformat ≠ none) {s : Device}
    (hactive : s.active = cfg.findMode width height)
    (hlayout : s.layout = updateInjectLayout (s.mode cfg) pixelformat) :
    injectTryFmt cfg width height pixelformat = s.injectGFmt cfg := by
  have hmode : s.mode cfg = cfg.modeAt (cfg.findMode width height) := congrArg cfg.modeAt hactive
  unfold Device.injectGFmt Device.fillInjectPixFormat injectTryFmt
  rw [hlayout, hmode]
  cases pixelformat with
  | other => exact absurd rfl h
  | _ => rfl

section Layout

variable (cfg : Config) (s : Device)

theorem layout_setInjectFormat {pixelformat : PixelFormat}
    (h : findIngressFormat pixelformat ≠ none) :
    (s.setInjectFormat cfg pixelformat).1 = 0 ∧
      (s.setInjectFormat cfg pixelformat).2.layout =
        updateInjectLayout (s.mode cfg) pixelformat := by
  unfold Device.setInjectFormat
  split
  · rename_i hnone
    exact absurd hnone h
  · exact ⟨rfl, rfl⟩

/-- Another mode keeps the pixel format of the inject node. -/
theorem layout_applyMode (h : findIngressFormat s.layout.pixelformat ≠ none) (mode : Nat) :
    (s.applyMode cfg mode).layout = updateInjectLayout (cfg.modeAt mode) s.layout.pixelformat := by
  rw [(sameButClock (timeless_applyMode cfg s mode)).layout]
  unfold Device.changeMode
  have hlayout : (Device.releaseHeld { s with active := mode } .error).layout = s.layout :=
    Sound.layout_releaseHeld _ _
  have hactive : (Device.releaseHeld { s with active := mode } .error).active = mode :=
    active_releaseHeld _ _
  simp only [hlayout]
  rw [(layout_setInjectFormat cfg _ h).2]
  exact congrArg (fun i => updateInjectLayout (cfg.modeAt i) _) hactive

theorem layout_setNode (k : NodeId) (n : Node) : (s.setNode k n).layout = s.layout := by
  cases k <;> rfl

theorem layout_setPhase (c : Caller) (p : Phase) : (s.setPhase c p).layout = s.layout := by
  cases c with
  | node k => exact layout_setNode s k _
  | sensor => rfl

theorem layout_armClock : (s.armClock cfg).layout = s.layout :=
  (sameButClock (timeless_armClock cfg s)).layout

theorem layout_resetClock : (s.resetClock cfg).layout = s.layout :=
  (sameButClock (timeless_resetClock cfg s)).layout

theorem layout_bufQueue (k : NodeId) (i : Nat) : (s.bufQueue cfg k i).layout = s.layout := by
  unfold Device.bufQueue
  simp only
  split
  · exact (layout_armClock cfg _).trans (layout_setNode s k _)
  · exact layout_setNode s k _

theorem layout_tryDeliverFrame (mode : Mode) :
    (s.tryDeliverFrame cfg mode).layout = s.layout := by
  have hfinish : ∀ (t : Device) c, (t.finishFrame mode c).layout = t.layout := fun _ _ => rfl
  unfold Device.tryDeliverFrame
  split
  · rfl
  · split
    · rfl
    · split
      · rfl
      · simp only
        split
        · unfold Device.deliverFrom
          simp only [hfinish]
          split
          · exact Sound.layout_releaseHeld _ _
          · rfl
        · split
          · unfold Device.repeatFrame
            split
            · rfl
            · split
              · exact hfinish _ _
              · rfl
          · rfl

/-- Only requests for a format change the layout. -/
theorem layout_next {a : Act} (h : s.answer cfg a = none) :
    (s.next cfg a).layout = s.layout := by
  cases a with
  | injectSFmt | captureSFmt | setFmt => cases h
  | reqBufs k | createBufs k | dqBuf k => exact layout_setNode s k _
  | prepareBuf k i planeSize mapped =>
    simp only [Device.next, Device.bufPrepare]
    split
    · rfl
    · exact layout_setNode s k _
  | qBuf k i =>
    simp only [Device.next]
    split
    · exact layout_bufQueue cfg s k i
    · exact layout_setNode s k _
  | streamOn k => exact layout_setPhase s _ _
  | give k i => exact layout_bufQueue cfg s k i
  | startStreaming k =>
    simp only [Device.next, Device.startStreaming, layout_armClock, layout_resetClock,
      layout_setNode]
    cases k <;> rfl
  | streamOff k =>
    simp only [Device.next]
    split
    · exact layout_setPhase s _ _
    · exact layout_setNode s k _
  | cancelWork c | workCancelled c | clearClock c => exact layout_setPhase s _ _
  | returnBuffers k =>
    cases k with
    | inject => exact Sound.layout_releaseHeld s _
    | capture => rfl
  | startWork | tick => rfl
  | deliver =>
    simp only [Device.next]
    split
    · rfl
    · exact layout_tryDeliverFrame cfg s _
  | advance elapsed =>
    simp only [Device.next, Device.advance]
    split
    · rfl
    · split
      · rfl
      · exact (sameButClock (timeless_modDelayedWork cfg _ _)).layout
  | vblank value => exact (sameButClock (timeless_setVblank cfg s value)).layout
  | sStream enable =>
    cases enable with
    | true => exact (layout_armClock cfg _).trans (layout_resetClock cfg s)
    | false => rfl

end Layout

/-! ## The invariant -/

/-- The sensor has the active mode, which a search for its size finds, and the layout is that of the
active mode with a pixel format that the driver knows. -/
structure Coherent (cfg : Config) (c : Rig) : Prop where
  found : cfg.Found c.dev.active
  sensor : c.sensor = .applyMode cfg c.dev.active
  supported : findIngressFormat c.dev.layout.pixelformat ≠ none
  layout : c.dev.layout = updateInjectLayout (c.dev.mode cfg) c.dev.layout.pixelformat

section Coherent

variable {cfg : Config} {c : Rig} {a : Act} {width height : Nat} {pixelformat : PixelFormat}

/-- The formats of a coherent camera are those of its mode. -/
theorem Coherent.formats_eq (h : Coherent cfg c) (hactive : c.dev.active = cfg.findMode width height)
    (hformat : c.dev.layout.pixelformat = pixelformat) :
    c.formats cfg = formatsOf cfg width height pixelformat := by
  subst hformat
  have hmode : c.dev.mode cfg = cfg.modeAt (cfg.findMode width height) :=
    congrArg cfg.modeAt hactive
  unfold Rig.formats formatsOf
  rw [injectTryFmt_eq cfg width height h.supported hactive h.layout, h.sensor, hactive]
  simp [Device.captureGFmt, hmode, captureTryFmt, Sensor.getFmt, Sensor.getSelection,
    Sensor.applyMode, sourceTryFmt]

/-- A camera that a request leaves in the found mode, with a supported pixel format. -/
theorem Coherent.of_request {t : Device} (hactive : t.active = cfg.findMode width height)
    (hsupported : findIngressFormat pixelformat ≠ none)
    (hlayout : t.layout = updateInjectLayout (cfg.modeAt (cfg.findMode width height)) pixelformat) :
    Coherent cfg { dev := t, sensor := .applyMode cfg (cfg.findMode width height) } := by
  have hmode : t.mode cfg = cfg.modeAt (cfg.findMode width height) := congrArg cfg.modeAt hactive
  have hformat : t.layout.pixelformat = pixelformat := by
    rw [hlayout, pixelformat_updateInjectLayout _ hsupported]
  exact {
    found := hactive ▸ found_findMode cfg width height
    sensor := congrArg (Sensor.applyMode cfg) hactive.symm
    supported := hformat ▸ hsupported
    layout := by rw [hmode, hformat, hlayout] }

/-- Another mode keeps the pixel format of the inject node. -/
theorem Coherent.applyMode (h : Coherent cfg c) (width height : Nat) :
    Coherent cfg { dev := c.dev.applyMode cfg (cfg.findMode width height),
                   sensor := .applyMode cfg (cfg.findMode width height) } ∧
      Rig.formats cfg { dev := c.dev.applyMode cfg (cfg.findMode width height),
                        sensor := .applyMode cfg (cfg.findMode width height) } =
        formatsOf cfg width height c.dev.layout.pixelformat := by
  have hactive := active_applyMode cfg c.dev (cfg.findMode width height)
  have hlayout := layout_applyMode cfg c.dev h.supported (cfg.findMode width height)
  have hcoherent := Coherent.of_request hactive h.supported hlayout
  refine ⟨hcoherent, hcoherent.formats_eq hactive ?_⟩
  rw [hlayout, pixelformat_updateInjectLayout _ h.supported]

/-- What a request leaves: the found mode everywhere, or `-EBUSY` and everything as it was. -/
def Settles (cfg : Config) (c : Rig) (a : Act) (width height : Nat) (pixelformat : PixelFormat) :
    Prop :=
  (c.dev.answer cfg a = some 0 ∧ Coherent cfg (c.next cfg a) ∧
    (c.next cfg a).formats cfg = formatsOf cfg width height pixelformat ∧
    (c.dev.refuses a = false ∨ (formatsOf cfg width height pixelformat).AgreeOn (c.formats cfg) a)) ∨
  (c.dev.answer cfg a = some Device.eBusy ∧ c.next cfg a = c ∧ c.dev.refuses a = true ∧
    ¬(formatsOf cfg width height pixelformat).AgreeOn (c.formats cfg) a)

theorem formatsOf_supported (cfg : Config) (width height : Nat) (pixelformat : PixelFormat) :
    formatsOf cfg width height pixelformat.supported = formatsOf cfg width height pixelformat := by
  cases pixelformat <;> rfl

/-- The three formats agree with the wanted ones where the found mode is the active one. -/
theorem Coherent.active_of_agree (h : Coherent cfg c)
    (hasked : c.asked a = some (width, height, pixelformat))
    (hagree : (formatsOf cfg width height pixelformat).AgreeOn (c.formats cfg) a) :
    cfg.findMode width height = c.dev.active := by
  have hfound := found_findMode cfg width height
  have hmode : c.dev.mode cfg = cfg.modeAt c.dev.active := rfl
  unfold Rig.asked at hasked
  split at hasked
  · cases hasked
    have hagree : injectTryFmt cfg width height pixelformat = c.dev.injectGFmt cfg := hagree
    have hsize := injectTryFmt_size cfg width height pixelformat
    rw [hagree] at hsize
    exact eq_of_size hfound h.found hsize.1.symm hsize.2.1.symm
  · cases hasked
    have hagree : captureTryFmt cfg width height = c.dev.captureGFmt cfg := hagree
    exact eq_of_size hfound h.found (congrArg PixFormat.width hagree :)
      (congrArg PixFormat.height hagree :)
  · cases hasked
    have hagree : some (sourceTryFmt cfg width height) = c.sensor.getFmt cfg 1 := hagree
    rw [h.sensor] at hagree
    have hagree : sourceTryFmt cfg width height = fillMbusFormat (cfg.modeAt c.dev.active) :=
      Option.some_inj.mp hagree
    exact eq_of_size hfound h.found (congrArg MbusFormat.width hagree :)
      (congrArg MbusFormat.height hagree :)
  · cases hasked

theorem Coherent.settles_injectSFmt (h : Coherent cfg c) (width height : Nat)
    (pixelformat : PixelFormat) :
    Settles cfg c (.injectSFmt width height pixelformat) width height pixelformat := by
  have hsupported := find_supported pixelformat
  by_cases hrefused : ((c.dev.inject.streaming || c.dev.inject.isBusy) &&
      (cfg.findMode width height ≠ c.dev.active ||
        pixelformat.supported ≠ c.dev.layout.pixelformat)) = true
  · -- the node is busy, and its format would change
    refine .inr ⟨?_, ?_, ?_, fun hagree => ?_⟩
    · simp only [Device.answer, Device.injectSFmt, if_pos hrefused]
    · simp only [Rig.next, Device.next, Device.injectSFmt, Device.applied, if_pos hrefused]
    · exact (Bool.and_eq_true_iff.mp hrefused).1
    · have hmode := h.active_of_agree rfl hagree
      have hsize := injectTryFmt_size cfg width height pixelformat
      rw [show injectTryFmt cfg width height pixelformat = c.dev.injectGFmt cfg from hagree] at hsize
      have hformat : pixelformat.supported = c.dev.layout.pixelformat := hsize.2.2.symm
      simp [hmode, hformat] at hrefused
  · have hset : ∀ t : Device, t.active = cfg.findMode width height →
        Coherent cfg { dev := (t.setInjectFormat cfg pixelformat.supported).2,
                       sensor := .applyMode cfg (cfg.findMode width height) } := by
      intro t hactive
      refine .of_request ((active_setInjectFormat cfg t _).trans hactive) hsupported ?_
      rw [(layout_setInjectFormat cfg t hsupported).2]
      exact congrArg (fun i => updateInjectLayout (cfg.modeAt i) _) hactive
    have hnext : c.next cfg (.injectSFmt width height pixelformat) =
        { dev := ((if cfg.findMode width height ≠ c.dev.active then
              c.dev.applyMode cfg (cfg.findMode width height) else c.dev).setInjectFormat cfg
                pixelformat.supported).2,
          sensor := .applyMode cfg (cfg.findMode width height) } := by
      simp only [Rig.next, Device.next, Device.injectSFmt, Device.applied, if_neg hrefused]
      by_cases hmode : cfg.findMode width height = c.dev.active
      · simp [hmode, h.sensor]
      · simp [hmode]
    have hcoherent := hset (if cfg.findMode width height ≠ c.dev.active then
        c.dev.applyMode cfg (cfg.findMode width height) else c.dev) (by
      split
      · exact active_applyMode cfg _ _
      · rename_i hmode
        exact (not_not.mp hmode).symm)
    rw [← hnext] at hcoherent
    have hformats : (c.next cfg (.injectSFmt width height pixelformat)).formats cfg =
        formatsOf cfg width height pixelformat := by
      rw [← formatsOf_supported]
      refine hcoherent.formats_eq ?_ ?_
      · rw [hnext]
        refine (active_setInjectFormat cfg _ _).trans ?_
        split
        · exact active_applyMode cfg _ _
        · rename_i hmode
          exact (not_not.mp hmode).symm
      · rw [hnext, (layout_setInjectFormat cfg _ hsupported).2,
          pixelformat_updateInjectLayout _ hsupported]
    refine .inl ⟨?_, hcoherent, hformats, ?_⟩
    · simp only [Device.answer, Device.injectSFmt, if_neg hrefused]
      exact congrArg some (layout_setInjectFormat cfg _ hsupported).1
    · cases hbusy : c.dev.inject.streaming || c.dev.inject.isBusy with
      | false => exact .inl hbusy
      | true =>
        simp only [hbusy, Bool.true_and, Bool.or_eq_true, decide_eq_true_eq, not_or,
          not_not] at hrefused
        refine .inr (congrArg Formats.inject (?_ : formatsOf cfg _ _ _ = _))
        rw [← formatsOf_supported]
        exact (h.formats_eq hrefused.1.symm hrefused.2.symm).symm

theorem Coherent.settles_captureSFmt (h : Coherent cfg c) (width height : Nat) :
    Settles cfg c (.captureSFmt width height) width height c.dev.layout.pixelformat := by
  by_cases hmode : cfg.findMode width height = c.dev.active
  · have hnext : c.next cfg (.captureSFmt width height) = c := by
      simp [Rig.next, Device.next, Device.captureSFmt, Device.applied, hmode]
    have hformats := h.formats_eq hmode.symm rfl
    refine .inl ⟨?_, by rw [hnext]; exact h, by rw [hnext]; exact hformats, .inr ?_⟩
    · simp [Device.answer, Device.captureSFmt, hmode]
    · exact congrArg Formats.capture hformats.symm
  · cases hbusy : c.dev.capture.streaming || c.dev.capture.isBusy with
    | true =>
      refine .inr ⟨?_, ?_, hbusy, fun hagree => hmode (h.active_of_agree rfl hagree)⟩
      · simp [Device.answer, Device.captureSFmt, hmode, hbusy]
      · simp [Rig.next, Device.next, Device.captureSFmt, Device.applied, hmode, hbusy]
    | false =>
      have hnext : c.next cfg (.captureSFmt width height) =
          { dev := c.dev.applyMode cfg (cfg.findMode width height),
            sensor := .applyMode cfg (cfg.findMode width height) } := by
        simp [Rig.next, Device.next, Device.captureSFmt, Device.applied, hmode, hbusy]
      obtain ⟨hcoherent, hformats⟩ := h.applyMode width height
      rw [← hnext] at hcoherent hformats
      refine .inl ⟨?_, hcoherent, hformats, .inl hbusy⟩
      simp [Device.answer, Device.captureSFmt, hmode, hbusy]

theorem Coherent.settles_setFmt (h : Coherent cfg c) (width height : Nat) :
    Settles cfg c (.setFmt 1 false width height) width height c.dev.layout.pixelformat := by
  by_cases hmode : cfg.findMode width height = c.dev.active
  · have hnext : c.next cfg (.setFmt 1 false width height) = c := by
      simp [Rig.next, Device.next, Device.setFmt, Device.applied, hmode]
    have hformats := h.formats_eq hmode.symm rfl
    refine .inl ⟨?_, by rw [hnext]; exact h, by rw [hnext]; exact hformats, .inr ?_⟩
    · simp [Device.answer, Device.setFmt, hmode]
    · exact congrArg Formats.source hformats.symm
  · cases hbusy : c.dev.capture.streaming with
    | true =>
      refine .inr ⟨?_, ?_, hbusy, fun hagree => hmode (h.active_of_agree rfl hagree)⟩
      · simp [Device.answer, Device.setFmt, hmode, hbusy]
      · simp [Rig.next, Device.next, Device.setFmt, Device.applied, hmode, hbusy]
    | false =>
      have hnext : c.next cfg (.setFmt 1 false width height) =
          { dev := c.dev.applyMode cfg (cfg.findMode width height),
            sensor := .applyMode cfg (cfg.findMode width height) } := by
        simp [Rig.next, Device.next, Device.setFmt, Device.applied, hmode, hbusy]
      obtain ⟨hcoherent, hformats⟩ := h.applyMode width height
      rw [← hnext] at hcoherent hformats
      refine .inl ⟨?_, hcoherent, hformats, .inl hbusy⟩
      simp [Device.answer, Device.setFmt, hmode, hbusy]

theorem Coherent.settles (h : Coherent cfg c) (hasked : c.asked a = some (width, height, pixelformat)) :
    Settles cfg c a width height pixelformat := by
  unfold Rig.asked at hasked
  split at hasked
  · cases hasked
    exact h.settles_injectSFmt _ _ _
  · cases hasked
    exact h.settles_captureSFmt _ _
  · cases hasked
    exact h.settles_setFmt _ _
  · cases hasked

/-! ## Every run -/

/-- Steps that ask for no format leave all of them. -/
theorem Coherent.keeps (h : Coherent cfg c) (hactive : (c.dev.next cfg a).active = c.dev.active)
    (hlayout : (c.dev.next cfg a).layout = c.dev.layout) (happlied : c.dev.applied cfg a = none) :
    Coherent cfg (c.next cfg a) := by
  have hsensor : (c.next cfg a).sensor = c.sensor := by simp [Rig.next, happlied]
  have hmode : (c.dev.next cfg a).mode cfg = c.dev.mode cfg := congrArg cfg.modeAt hactive
  exact {
    found := hactive.symm ▸ h.found
    sensor := by
      rw [hsensor, h.sensor]
      exact congrArg (Sensor.applyMode cfg) hactive.symm
    supported := hlayout.symm ▸ h.supported
    layout := by
      show (c.dev.next cfg a).layout = updateInjectLayout ((c.dev.next cfg a).mode cfg)
        (c.dev.next cfg a).layout.pixelformat
      rw [hlayout, hmode]
      exact h.layout }

theorem Coherent.next (h : Coherent cfg c) : Coherent cfg (c.next cfg a) := by
  cases hasked : c.asked a with
  | some wanted =>
    obtain ⟨width, height, pixelformat⟩ := wanted
    rcases h.settles hasked with ⟨-, hcoherent, -⟩ | ⟨-, hsame, -⟩
    · exact hcoherent
    · rw [hsame]
      exact h
  | none =>
    cases a with
    | injectSFmt | captureSFmt => cases hasked
    | setFmt pad tried width height =>
      -- the sink pad, a pad that does not exist, or `TRY`
      have hother : pad = 1 → tried = true := by
        intro hpad
        subst hpad
        cases tried with
        | true => rfl
        | false => cases hasked
      have hsame : c.dev.next cfg (.setFmt pad tried width height) = c.dev := by
        simp only [Device.next, Device.setFmt]
        split
        · rfl
        · split
          · rfl
          · rw [hother (by omega)]
            rfl
      have happlied : c.dev.applied cfg (.setFmt pad tried width height) = none := by
        simp only [Device.applied]
        by_cases hpad : pad = 1
        · simp [hother hpad]
        · simp [hpad]
      exact h.keeps (congrArg _ hsame) (congrArg _ hsame) happlied
    | _ => exact h.keeps (active_next rfl) (layout_next cfg c.dev rfl) rfl

theorem layout_initial (cfg : Config) (now : Nat) :
    (cfg.initial now).layout = updateInjectLayout (cfg.modeAt 0) .bgr32 := by
  have hbgr : findIngressFormat .bgr32 ≠ none := by simp [findIngressFormat]
  have hformat := pixelformat_updateInjectLayout cfg.firstMode hbgr
  unfold Config.initial
  rw [layout_applyMode]
  · exact congrArg (updateInjectLayout _) hformat
  · show findIngressFormat (updateInjectLayout cfg.firstMode .bgr32).pixelformat ≠ none
    rw [hformat]
    exact hbgr

theorem Coherent.initial (cfg : Config) (now : Nat) : Coherent cfg (Rig.initial cfg now) := by
  have hzero : cfg.findMode (cfg.modeAt 0).width (cfg.modeAt 0).height = 0 := found_zero cfg
  have hbgr : findIngressFormat .bgr32 ≠ none := by simp [findIngressFormat]
  have hactive : (cfg.initial now).active = 0 := active_applyMode cfg _ 0
  have hcoherent := Coherent.of_request (hactive.trans hzero.symm) hbgr
    (by rw [hzero]; exact layout_initial cfg now)
  rw [hzero] at hcoherent
  exact hcoherent

end Coherent

/-- In every reachable state the formats of both nodes, the source pad and the crop rectangle are
those of one mode, and are what `TRY` answers for them.  A request for another format is granted
unless its node is busy and the format of the node would change; a granted request leaves everywhere
what `TRY` answers for it, and a refused one leaves all as it was. -/
theorem formats_negotiated {cfg : Config} {now : Nat} {c : Rig}
    (hr : Reach (Rig.step cfg) anyStep (Rig.initial cfg now) c) :
    c.formats cfg = formatsOf cfg (c.dev.mode cfg).width (c.dev.mode cfg).height
      c.dev.layout.pixelformat ∧
    ∀ a width height pixelformat, c.asked a = some (width, height, pixelformat) →
      (c.dev.answer cfg a = some 0 ∧
          (c.next cfg a).formats cfg = formatsOf cfg width height pixelformat ∨
        c.dev.answer cfg a = some Device.eBusy ∧ c.next cfg a = c) ∧
      (c.dev.answer cfg a = some Device.eBusy ↔
        c.dev.refuses a = true ∧
          ¬(formatsOf cfg width height pixelformat).AgreeOn (c.formats cfg) a) := by
  have h : Coherent cfg c := by
    refine hr.invariant (Coherent.initial cfg now) fun c a t hc _ hstep => ?_
    unfold Rig.step at hstep
    split at hstep
    · cases hstep
      exact hc.next
    · cases hstep
  refine ⟨h.formats_eq h.found.symm rfl, fun a width height pixelformat hasked => ?_⟩
  rcases h.settles hasked with ⟨hanswer, -, hformats, hpasses⟩ | ⟨hanswer, hsame, hrefused⟩
  · refine ⟨.inl ⟨hanswer, hformats⟩, fun hbusy => ?_, fun hrefused => ?_⟩
    · rw [hanswer] at hbusy
      exact absurd hbusy (by decide)
    · rcases hpasses with hidle | hagree
      · rw [hrefused.1] at hidle
        cases hidle
      · exact absurd hagree hrefused.2
  · exact ⟨.inr ⟨hanswer, hsame⟩, fun _ => hrefused, fun _ => hanswer⟩

/-- A stream on the capture node keeps its format against a request of the sensor for another size,
and lets one for the same size pass. -/
theorem formats_negotiated_streaming : ∃ c : Rig,
    c.dev.capture.streaming = true ∧
    c.dev.answer .twoModes (.setFmt 1 false 2 2) = some Device.eBusy ∧
    c.next .twoModes (.setFmt 1 false 2 2) = c ∧
    (c.next .twoModes (.setFmt 1 false 4 2)).formats .twoModes = formatsOf .twoModes 4 2 .bgr32 := by
  have hrun : (exec (guarded (Rig.step .twoModes) anyStep) (Rig.initial .twoModes 1)
      (streamingBoth 32 16)).map (fun c => (c.dev.capture.streaming, c.dev.layout.pixelformat,
        c.dev.answer .twoModes (.setFmt 1 false 2 2),
        c.dev.answer .twoModes (.setFmt 1 false 4 2))) =
      some (true, .bgr32, some Device.eBusy, some 0) := by
    decide +kernel
  obtain ⟨c, hc, hview⟩ := Option.map_eq_some_iff.mp hrun
  simp only [Prod.mk.injEq] at hview
  obtain ⟨hstreaming, hformat, hrefused, hgranted⟩ := hview
  have hall := (formats_negotiated (reach_of_exec hc)).2
  have hsmall := (hall (.setFmt 1 false 2 2) 2 2 .bgr32 (by rw [← hformat]; rfl)).1
  have hsame := (hall (.setFmt 1 false 4 2) 4 2 .bgr32 (by rw [← hformat]; rfl)).1
  refine ⟨c, hstreaming, hrefused, ?_, ?_⟩
  · rcases hsmall with ⟨hzero, -⟩ | ⟨-, hkept⟩
    · rw [hrefused] at hzero
      exact absurd hzero (by decide)
    · exact hkept
  · rcases hsame with ⟨-, hformats⟩ | ⟨hbusy, -⟩
    · exact hformats
    · rw [hgranted] at hbusy
      exact absurd hbusy (by decide)

end Sensorium.Camera

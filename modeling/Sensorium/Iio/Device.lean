import Sensorium.Lib.Runs
import Sensorium.Lib.Text

/-!
# The environment device

The channels of `sensorium-iio.c`, their update work and the callbacks of `sensorium_iio_info`, as
they compute under the lock.  An `int` is an `Int32`: its sums wrap around, as the kernel is
compiled.
-/

namespace Sensorium.Iio

open Lib

def eInval : Int := -22

def eTimedOut : Int := -110

/-! ## Data -/

/-- `enum sensorium_fault_mode`. -/
inductive FaultMode
  | none
  | staleData
  | timeout
  deriving DecidableEq

/-- `sensorium_find_fault_mode`. -/
def findFaultMode (name : Text) : FaultMode :=
  if name = [] ∨ name = text "none" then .none
  else if name = text "stale-data" then .staleData
  else if name = text "timeout" then .timeout
  else .none

/-- The fields of `sensorium_iio_state` for one quantity. -/
structure Channel where
  value : Int32
  step : Int32
  minimum : Int32
  maximum : Int32
  bias : Int32
  deriving DecidableEq

/-- `sensorium_iio_state`; `indio_dev` is whether it is set. -/
structure State where
  indioDev : Bool
  temperature : Channel
  pressure : Channel
  humidity : Channel
  temperatureThreshRising : Int32
  lastTemperatureReported : Int32
  humidityEnabled : Bool
  temperatureEventEnabled : Bool
  updateIntervalMs : UInt32
  deriving DecidableEq

inductive ChanType
  | temp
  | pressure
  | humidityRelative
  | other
  deriving DecidableEq

inductive ChanInfo
  | processed
  | calibbias
  | other
  deriving DecidableEq

inductive EventType
  | thresh
  | other
  deriving DecidableEq

inductive EventDirection
  | rising
  | other
  deriving DecidableEq

inductive EventInfo
  | value
  | other
  deriving DecidableEq

/-- What an event callback is asked about. -/
structure EventSpec where
  chan : ChanType
  type : EventType
  dir : EventDirection
  deriving DecidableEq

/-- `sensorium_iio_temp_event_spec` of the temperature channel. -/
def risingTemperature : EventSpec := ⟨.temp, .thresh, .rising⟩

/-- `sensorium_iio_channels_basic` or `sensorium_iio_channels_plus`. -/
def State.hasChannel (s : State) : ChanType → Bool
  | .temp | .pressure => true
  | .humidityRelative => s.humidityEnabled
  | .other => false

/-- Only `sensorium_iio_channels_plus` refers to an event. -/
def State.hasEvent (s : State) (e : EventSpec) : Bool :=
  s.humidityEnabled && decide (e = risingTemperature)

/-! ## Updates -/

/-- The `clamp` of the kernel. -/
def clamp (value lo hi : Int32) : Int32 :=
  if hi ≤ value then hi else if value ≤ lo then lo else value

/-- `sensorium_iio_bounce_channel`. -/
def Channel.bounce (c : Channel) : Channel :=
  let next := c.value + c.step
  if c.maximum < next ∨ next < c.minimum then
    let step := -c.step
    { c with step := step, value := clamp (c.value + step) c.minimum c.maximum }
  else { c with value := clamp next c.minimum c.maximum }

/-- `sensorium_iio_maybe_push_events`, with whether an event is pushed. -/
def State.maybePushEvents (s : State) : State × Bool :=
  if !s.indioDev || !s.temperatureEventEnabled then (s, false)
  else
    let previousValue := s.lastTemperatureReported + s.temperature.bias
    let currentValue := s.temperature.value + s.temperature.bias
    let s := { s with lastTemperatureReported := s.temperature.value }
    if s.temperatureThreshRising ≤ previousValue ∨ currentValue < s.temperatureThreshRising then
      (s, false)
    else (s, true)

/-- `sensorium_device`, as far as the environment goes; `queued` is whether the update work is
pending. -/
structure Device where
  faultMode : FaultMode
  iio : State
  queued : Bool
  deriving DecidableEq

/-- The part of `sensorium_iio_update_work` under the lock. -/
def Device.update (d : Device) : Device × Bool :=
  if d.faultMode ≠ .staleData then
    let iio := { d.iio with temperature := d.iio.temperature.bounce,
                            pressure := d.iio.pressure.bounce }
    let iio := if iio.humidityEnabled then { iio with humidity := iio.humidity.bounce } else iio
    let (iio, pushed) := iio.maybePushEvents
    ({ d with iio := iio }, pushed)
  else (d, false)

/-- `sensorium_iio_update_work`. -/
def Device.updateWork (d : Device) : Device × Bool :=
  let (d, pushed) := d.update
  ({ d with queued := d.iio.updateIntervalMs ≠ 0 }, pushed)

/-! ## Callbacks -/

/-- The channel of a type. -/
def State.channel (s : State) : ChanType → Option Channel
  | .temp => some s.temperature
  | .pressure => some s.pressure
  | .humidityRelative => some s.humidity
  | .other => none

/-- `sensorium_iio_read_raw`: the value, of type `IIO_VAL_INT`. -/
def Device.readRaw (d : Device) (chan : ChanType) (mask : ChanInfo) : Except Int Int32 :=
  if d.faultMode = .timeout then .error eTimedOut
  else
    match mask, d.iio.channel chan with
    | .processed, some c => .ok (c.value + c.bias)
    | .calibbias, some c => .ok c.bias
    | _, _ => .error eInval

/-- `sensorium_iio_write_raw`. -/
def Device.writeRaw (d : Device) (chan : ChanType) (val val2 : Int32) (mask : ChanInfo) :
    Except Int Device :=
  if mask ≠ .calibbias ∨ val2 ≠ 0 then .error eInval
  else
    match chan with
    | .temp =>
      .ok { d with iio := { d.iio with temperature := { d.iio.temperature with bias := val } } }
    | .pressure =>
      .ok { d with iio := { d.iio with pressure := { d.iio.pressure with bias := val } } }
    | .humidityRelative =>
      .ok { d with iio := { d.iio with humidity := { d.iio.humidity with bias := val } } }
    | .other => .error eInval

/-- `sensorium_iio_read_event_config`. -/
def Device.readEventConfig (d : Device) (e : EventSpec) : Except Int Bool :=
  if e.chan ≠ .temp ∨ e.type ≠ .thresh ∨ e.dir ≠ .rising then .error eInval
  else .ok d.iio.temperatureEventEnabled

/-- `sensorium_iio_write_event_config`. -/
def Device.writeEventConfig (d : Device) (e : EventSpec) (state : Bool) : Except Int Device :=
  if e.chan ≠ .temp ∨ e.type ≠ .thresh ∨ e.dir ≠ .rising then .error eInval
  else .ok { d with iio := { d.iio with temperatureEventEnabled := state } }

/-- `sensorium_iio_read_event_value`. -/
def Device.readEventValue (d : Device) (e : EventSpec) (info : EventInfo) : Except Int Int32 :=
  if e.chan ≠ .temp ∨ e.type ≠ .thresh ∨ e.dir ≠ .rising ∨ info ≠ .value then .error eInval
  else .ok d.iio.temperatureThreshRising

/-- `sensorium_iio_write_event_value`. -/
def Device.writeEventValue (d : Device) (e : EventSpec) (info : EventInfo) (val val2 : Int32) :
    Except Int Device :=
  if e.chan ≠ .temp ∨ e.type ≠ .thresh ∨ e.dir ≠ .rising ∨ info ≠ .value ∨ val2 ≠ 0 then
    .error eInval
  else .ok { d with iio := { d.iio with temperatureThreshRising := val } }

/-! ## Registration -/

/-- The module parameters that the probe reads for the environment. -/
structure Params where
  faultMode : Text := text "none"
  profileName : Text := text "environment-basic"
  temperatureMillic : Int32 := 21500
  pressurePascal : Int32 := 101325
  humidityMillipercent : Int32 := 45500
  temperatureStepMillic : Int32 := 250
  pressureStepPascal : Int32 := 120
  humidityStepMillipercent : Int32 := 350
  temperatureThreshRisingMillic : Int32 := 26000
  updateIntervalMs : UInt32 := 1000

/-- What `sensorium_probe` stores before it registers the environment. -/
def probe (p : Params) : Except Int Device :=
  if p.faultMode ≠ text "none" ∧ p.faultMode ≠ text "stale-data" ∧ p.faultMode ≠ text "timeout" then
    .error eInval
  else
    let plus : Bool := p.profileName = text "environment-plus"
    .ok
      { faultMode := findFaultMode p.faultMode
        queued := false
        iio :=
          { indioDev := false
            temperature := ⟨p.temperatureMillic, p.temperatureStepMillic, -40000, 125000, 0⟩
            pressure := ⟨p.pressurePascal, p.pressureStepPascal, 80000, 120000, 0⟩
            humidity := ⟨p.humidityMillipercent, p.humidityStepMillipercent, 0, 100000, 0⟩
            temperatureThreshRising := p.temperatureThreshRisingMillic
            lastTemperatureReported := p.temperatureMillic
            humidityEnabled := plus
            temperatureEventEnabled := plus
            updateIntervalMs := p.updateIntervalMs } }

/-- The end of `sensorium_iio_register`, behind `iio_device_register`. -/
def Device.registered (d : Device) : Device :=
  { d with iio := { d.iio with indioDev := true }, queued := d.iio.updateIntervalMs ≠ 0 }

/-- `cancel_delayed_work_sync` in `sensorium_iio_unregister`. -/
def Device.cancelled (d : Device) : Device := { d with queued := false }

/-- The end of `sensorium_iio_unregister`. -/
def Device.unregistered (d : Device) : Device :=
  { d with iio := { d.iio with indioDev := false } }

/-! ## What the functions do -/

section Updates

variable (c : Channel) (s : State) (d : Device)

theorem clamp_within {lo hi : Int32} (h : lo ≤ hi) (value : Int32) :
    lo ≤ clamp value lo hi ∧ clamp value lo hi ≤ hi := by
  rw [Int32.le_iff_toInt_le] at h
  unfold clamp
  repeat' split
  all_goals simp only [Int32.le_iff_toInt_le] at *
  all_goals omega

@[simp] theorem Channel.bounce_bias : c.bounce.bias = c.bias := by
  unfold Channel.bounce
  dsimp only
  split <;> rfl

/-- A channel stays inside its limits, which it keeps. -/
theorem Channel.bounce_within (h : c.minimum ≤ c.maximum) :
    (c.bounce.minimum = c.minimum ∧ c.bounce.maximum = c.maximum) ∧
      c.minimum ≤ c.bounce.value ∧ c.bounce.value ≤ c.maximum := by
  unfold Channel.bounce
  dsimp only
  split <;> exact ⟨⟨rfl, rfl⟩, clamp_within h _⟩

/-- An event is judged by the remembered temperature, and only then that is set. -/
theorem State.maybePushEvents_eq (h : s.indioDev = true) : s.maybePushEvents =
    ({ s with lastTemperatureReported := if s.temperatureEventEnabled then s.temperature.value
                                         else s.lastTemperatureReported },
      s.temperatureEventEnabled &&
        decide (s.lastTemperatureReported + s.temperature.bias < s.temperatureThreshRising ∧
          s.temperatureThreshRising ≤ s.temperature.value + s.temperature.bias)) := by
  obtain ⟨dev, temperature, pressure, humidity, thresh, last, humid, enabled, interval⟩ := s
  obtain rfl : dev = true := h
  unfold State.maybePushEvents
  cases enabled with
  | false => rfl
  | true =>
    simp only [Bool.not_true, Bool.or_self, Bool.false_eq_true, if_false, if_true, Bool.true_and]
    split
    · rename_i hnone
      refine Prod.ext rfl (decide_eq_false fun hcross => ?_).symm
      rcases hnone with hpast | hnow
      · exact Int32.not_le.mpr hcross.1 hpast
      · exact Int32.not_le.mpr hnow hcross.2
    · rename_i hcross
      obtain ⟨hpast, hnow⟩ := not_or.mp hcross
      exact Prod.ext rfl (decide_eq_true ⟨Int32.not_le.mp hpast, Int32.not_lt.mp hnow⟩).symm

/-- The device after an update that is not skipped. -/
def Device.after : Device :=
  { d with iio := { d.iio with
      temperature := d.iio.temperature.bounce
      pressure := d.iio.pressure.bounce
      humidity := if d.iio.humidityEnabled then d.iio.humidity.bounce else d.iio.humidity
      lastTemperatureReported :=
        if d.iio.temperatureEventEnabled then d.iio.temperature.bounce.value
        else d.iio.lastTemperatureReported } }

theorem Device.update_eq (hfault : d.faultMode ≠ .staleData) (hdev : d.iio.indioDev = true) :
    d.update = (d.after, d.iio.temperatureEventEnabled &&
      decide (
        d.iio.lastTemperatureReported + d.iio.temperature.bias < d.iio.temperatureThreshRising ∧
        d.iio.temperatureThreshRising ≤
          d.iio.temperature.bounce.value + d.iio.temperature.bias)) := by
  unfold Device.update Device.after
  rw [if_pos hfault]
  dsimp only
  split
  · rw [State.maybePushEvents_eq]
    · dsimp only
      rw [Channel.bounce_bias]
    · exact hdev
  · rw [State.maybePushEvents_eq]
    · dsimp only
      rw [Channel.bounce_bias]
    · exact hdev

/-- A tick that the fault skips changes no value and pushes nothing. -/
theorem Device.update_stale (hfault : d.faultMode = .staleData) : d.update = (d, false) :=
  if_neg (not_not.mpr hfault)

end Updates

/-! What a callback has written is what the other one reads. -/

section Callbacks

variable {d d' : Device} {e : EventSpec} {info : EventInfo} {val val2 : Int32} {state : Bool}

theorem Device.readEventConfig_write (h : d.writeEventConfig e state = .ok d') :
    d'.readEventConfig e = .ok state := by
  unfold Device.writeEventConfig at h
  split at h
  · cases h
  · rename_i hspec
    cases h
    exact if_neg hspec

theorem Device.readEventValue_write (h : d.writeEventValue e info val val2 = .ok d') :
    d'.readEventValue e info = .ok val := by
  unfold Device.writeEventValue at h
  split at h
  · cases h
  · rename_i hspec
    cases h
    exact if_neg fun hbad => hspec (by tauto)

/-- What is reported of the temperature is the value with the bias. -/
theorem Device.readRaw_temp (hfault : d.faultMode ≠ .timeout) :
    d.readRaw .temp .processed = .ok (d.iio.temperature.value + d.iio.temperature.bias) :=
  if_neg hfault

theorem Device.readRaw_write {chan : ChanType} {mask : ChanInfo}
    (h : d.writeRaw chan val val2 mask = .ok d') (hfault : d.faultMode ≠ .timeout) :
    d'.readRaw chan mask = .ok val := by
  unfold Device.writeRaw at h
  split at h
  · cases h
  · rename_i hargs
    obtain ⟨hmask, _⟩ := not_or.mp hargs
    rw [not_not.mp hmask]
    cases chan with
    | other => cases h
    | temp | pressure | humidityRelative =>
      cases h
      exact if_neg hfault

end Callbacks

end Sensorium.Iio

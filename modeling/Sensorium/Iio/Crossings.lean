import Sensorium.Iio.Device
import Sensorium.Lib.Dict
import Sensorium.Lib.Histories

/-!
# Events on crossings

The registration of the environment, its updates and the writes of user space, in any order.  What
each update was given and did is recorded, so that an event can be compared with the temperature
after the update before it.
-/

namespace Sensorium.Iio

open Lib

/-! ## The system -/

/-- What an update that is not skipped found, the temperature it left, and whether it pushed an
event. -/
structure Update where
  enabled : Bool
  channel : Channel
  threshold : Int32
  temperature : Int32
  pushed : Bool
  deriving DecidableEq

/-- How far `sensorium_iio_register` and `sensorium_iio_unregister` are. -/
inductive Phase
  | probed
  | exposed
  | live
  | cancelled
  | removed
  deriving DecidableEq

structure World where
  device : Device
  phase : Phase
  updates : List Update

inductive Act
  | iioDeviceRegister (ret : Int)
  | registered
  | tick
  | writeRaw (chan : ChanType) (val val2 : Int32) (mask : ChanInfo)
  | writeEventConfig (e : EventSpec) (state : Bool)
  | writeEventValue (e : EventSpec) (info : EventInfo) (val val2 : Int32)
  | cancelWork
  | iioDeviceUnregister

/-- The attributes exist between the two calls of the IIO core. -/
def Phase.writable : Phase → Bool
  | .exposed | .live | .cancelled => true
  | .probed | .removed => false

namespace World

/-- A callback that fails changes nothing. -/
def after (w : World) (r : Except Int Device) : World :=
  match r with
  | .ok d => { w with device := d }
  | .error _ => w

/-- The update work runs. -/
def tick (w : World) : World :=
  let (d, pushed) := w.device.updateWork
  let iio := w.device.iio
  { w with
    device := d
    updates := if w.device.faultMode = .staleData then w.updates
      else w.updates ++ [⟨iio.temperatureEventEnabled, iio.temperature,
        iio.temperatureThreshRising, d.iio.temperature.value, pushed⟩] }

end World

def step (w : World) : Act → Option World
  | .iioDeviceRegister ret =>
    if w.phase = .probed then
      some { w with phase := if ret = 0 then .exposed else .removed }
    else none
  | .registered =>
    if w.phase = .exposed then
      some { w with phase := .live, device := w.device.registered }
    else none
  | .tick => if w.device.queued then some w.tick else none
  | .writeRaw chan val val2 mask =>
    if w.phase.writable && w.device.iio.hasChannel chan then
      some (w.after (w.device.writeRaw chan val val2 mask))
    else none
  | .writeEventConfig e state =>
    if w.phase.writable && w.device.iio.hasEvent e then
      some (w.after (w.device.writeEventConfig e state))
    else none
  | .writeEventValue e info val val2 =>
    if w.phase.writable && w.device.iio.hasEvent e then
      some (w.after (w.device.writeEventValue e info val val2))
    else none
  | .cancelWork =>
    if w.phase = .live then
      some { w with phase := .cancelled, device := w.device.cancelled }
    else none
  | .iioDeviceUnregister =>
    if w.phase = .cancelled then
      some { w with phase := .removed, device := w.device.unregistered }
    else none

/-! ## Crossings -/

/-- A temperature as it is reported under the bias of an update. -/
def Update.reading (u : Update) (temperature : Int32) : Int32 := temperature + u.channel.bias

/-- From a temperature below the threshold to one at or above it. -/
def Update.Crosses (u : Update) (before : Int32) : Prop :=
  u.reading before < u.threshold ∧ u.threshold ≤ u.reading u.temperature

/-- The temperature after the last of some updates. -/
def previous (initial : Int32) (past : List Update) : Int32 :=
  latest initial Update.temperature past

/-- The temperature after the last of them that found the events enabled. -/
def remembered (initial : Int32) (past : List Update) : Int32 :=
  previous initial (past.filter Update.enabled)

/-- An event is pushed exactly at the updates that cross the threshold while events are enabled. -/
def FiresOnCrossings (initial : Int32) (updates : List Update) : Prop :=
  AtEach (fun past u => u.pushed = true ↔ u.enabled = true ∧ u.Crosses (previous initial past))
    updates

/-- At each enabled update whose channel moves to the threshold or above it, the temperature after
the last enabled update lies below the threshold if and only if the one after the last update
does. -/
def MemoryAgrees (initial : Int32) (updates : List Update) : Prop :=
  AtEach (fun past u => u.enabled = true → u.threshold ≤ u.reading u.channel.bounce.value →
    (u.reading (remembered initial past) < u.threshold ↔
      u.reading (previous initial past) < u.threshold)) updates

/-- Where the sum has 32 bits, a reading is the sum. -/
theorem Update.toInt_reading (u : Update) {t : Int32}
    (hlo : -2 ^ 31 ≤ t.toInt + u.channel.bias.toInt)
    (hhi : t.toInt + u.channel.bias.toInt < 2 ^ 31) :
    (u.reading t).toInt = t.toInt + u.channel.bias.toInt := by
  rw [Update.reading, Int32.toInt_add]
  exact Int.bmod_eq_of_le (by omega) (by omega)

/-! ## What a run keeps -/

/-- The updates that have been made, as the device remembers them. -/
structure World.Sound (initial : Int32) (w : World) : Prop where
  queued : w.device.queued = true → w.phase = .live
  attached : w.phase = .live → w.device.iio.indioDev = true
  limits : w.device.iio.temperature.minimum = -40000 ∧ w.device.iio.temperature.maximum = 125000
  moved : ∀ u ∈ w.updates, u.temperature = u.channel.bounce.value
  within : ∀ u ∈ w.updates, -40000 ≤ u.temperature ∧ u.temperature ≤ 125000
  temperature : w.device.iio.temperature.value = previous initial w.updates
  last : w.device.iio.lastTemperatureReported = remembered initial w.updates
  judged : AtEach (fun past u => u.pushed = true ↔
    u.enabled = true ∧ u.Crosses (remembered initial past)) w.updates

/-- What the callbacks leave as it is. -/
structure Device.Kept (d d' : Device) : Prop where
  queued : d'.queued = d.queued
  attached : d'.iio.indioDev = d.iio.indioDev
  temperature : ∃ bias, d'.iio.temperature = { d.iio.temperature with bias := bias }
  last : d'.iio.lastTemperatureReported = d.iio.lastTemperatureReported

section Callbacks

variable {d d' : Device} {e : EventSpec} {val val2 : Int32}

theorem kept_writeRaw {chan : ChanType} {mask : ChanInfo}
    (h : d.writeRaw chan val val2 mask = .ok d') : d.Kept d' := by
  unfold Device.writeRaw at h
  split at h
  · cases h
  · cases chan with
    | temp =>
      cases h
      exact ⟨rfl, rfl, ⟨val, rfl⟩, rfl⟩
    | pressure | humidityRelative =>
      cases h
      exact ⟨rfl, rfl, ⟨_, rfl⟩, rfl⟩
    | other => cases h

theorem kept_writeEventConfig {state : Bool} (h : d.writeEventConfig e state = .ok d') :
    d.Kept d' := by
  unfold Device.writeEventConfig at h
  split at h
  · cases h
  · cases h
    exact ⟨rfl, rfl, ⟨_, rfl⟩, rfl⟩

theorem kept_writeEventValue {info : EventInfo} (h : d.writeEventValue e info val val2 = .ok d') :
    d.Kept d' := by
  unfold Device.writeEventValue at h
  split at h
  · cases h
  · cases h
    exact ⟨rfl, rfl, ⟨_, rfl⟩, rfl⟩

end Callbacks

variable {initial : Int32} {w w' : World}

theorem World.Sound.after (hs : w.Sound initial) {r : Except Int Device}
    (hr : ∀ d, r = .ok d → w.device.Kept d) : (w.after r).Sound initial := by
  cases r with
  | error _ => exact hs
  | ok d =>
    obtain ⟨hqueued, hattached, ⟨bias, htemp⟩, hlast⟩ := hr d rfl
    refine ⟨?_, ?_, ?_, hs.moved, hs.within, ?_, hlast.trans hs.last, hs.judged⟩
    · exact fun hq => hs.queued (hqueued ▸ hq)
    · exact fun hlive => hattached.trans (hs.attached hlive)
    · show d.iio.temperature.minimum = _ ∧ d.iio.temperature.maximum = _
      rw [htemp]
      exact hs.limits
    · show d.iio.temperature.value = _
      rw [htemp]
      exact hs.temperature

/-- What an update that is not skipped finds and does. -/
def Device.record (d : Device) : Update where
  enabled := d.iio.temperatureEventEnabled
  channel := d.iio.temperature
  threshold := d.iio.temperatureThreshRising
  temperature := d.iio.temperature.bounce.value
  pushed := d.iio.temperatureEventEnabled &&
    decide (d.iio.lastTemperatureReported + d.iio.temperature.bias < d.iio.temperatureThreshRising ∧
      d.iio.temperatureThreshRising ≤ d.iio.temperature.bounce.value + d.iio.temperature.bias)

theorem Device.record_pushed (d : Device) : d.record.pushed = true ↔
    d.record.enabled = true ∧ d.record.Crosses d.iio.lastTemperatureReported := by
  rw [Device.record, Bool.and_eq_true, decide_eq_true_eq]
  exact Iff.rfl

theorem World.tick_of_stale (hfault : w.device.faultMode = .staleData) : w.tick =
    { w with device := { w.device with queued := w.device.iio.updateIntervalMs ≠ 0 } } := by
  unfold World.tick Device.updateWork
  rw [Device.update_stale _ hfault]
  dsimp only
  rw [if_pos hfault]

theorem World.tick_eq (hfault : w.device.faultMode ≠ .staleData)
    (hdev : w.device.iio.indioDev = true) : w.tick =
      { w with
        device := { w.device.after with queued := w.device.iio.updateIntervalMs ≠ 0 }
        updates := w.updates ++ [w.device.record] } := by
  unfold World.tick Device.updateWork
  rw [Device.update_eq _ hfault hdev]
  dsimp only
  rw [if_neg hfault]
  rfl

/-- The update compares with the temperature it remembers, and remembers the new one if events are
enabled. -/
theorem World.Sound.tick (hs : w.Sound initial) (hq : w.device.queued = true) :
    w.tick.Sound initial := by
  have hlive := hs.queued hq
  by_cases hfault : w.device.faultMode = .staleData
  · rw [World.tick_of_stale hfault]
    exact ⟨fun _ => hlive, hs.attached, hs.limits, hs.moved, hs.within, hs.temperature, hs.last,
      hs.judged⟩
  · rw [World.tick_eq hfault (hs.attached hlive)]
    obtain ⟨hmin, hmax⟩ := hs.limits
    obtain ⟨⟨hmin', hmax'⟩, hwithin⟩ := w.device.iio.temperature.bounce_within (by
      rw [hmin, hmax]
      decide)
    rw [hmin, hmax] at hwithin
    refine ⟨fun _ => hlive, hs.attached, ⟨hmin'.trans hmin, hmax'.trans hmax⟩, ?_, ?_, ?_, ?_, ?_⟩
    · intro u hu
      rcases List.mem_append.mp hu with hu | hu
      · exact hs.moved u hu
      · cases List.mem_singleton.mp hu
        rfl
    · intro u hu
      rcases List.mem_append.mp hu with hu | hu
      · exact hs.within u hu
      · cases List.mem_singleton.mp hu
        exact hwithin
    · exact (latest_concat initial Update.temperature w.updates w.device.record).symm
    · rw [remembered, previous, latest_filter_concat]
      show (if w.device.iio.temperatureEventEnabled = true then _ else _) = _
      exact if_congr Iff.rfl rfl hs.last
    · refine atEach_concat.mpr ⟨hs.judged, ?_⟩
      rw [← hs.last]
      exact w.device.record_pushed

theorem World.Sound.step {a : Act} (hs : w.Sound initial) (h : step w a = some w') :
    w'.Sound initial := by
  cases a with
  | iioDeviceRegister ret =>
    obtain ⟨hphase, h⟩ := Option.ite_none_right_eq_some.mp h
    cases h
    refine ⟨fun hq => ?_, fun hlive => ?_, hs.limits, hs.moved, hs.within, hs.temperature, hs.last,
      hs.judged⟩
    · cases hphase.symm.trans (hs.queued hq)
    · dsimp only at hlive
      split at hlive <;> cases hlive
  | registered =>
    obtain ⟨_, h⟩ := Option.ite_none_right_eq_some.mp h
    cases h
    exact ⟨fun _ => rfl, fun _ => rfl, hs.limits, hs.moved, hs.within, hs.temperature, hs.last,
      hs.judged⟩
  | tick =>
    obtain ⟨hq, h⟩ := Option.ite_none_right_eq_some.mp h
    cases h
    exact hs.tick hq
  | writeRaw chan val val2 mask =>
    obtain ⟨_, h⟩ := Option.ite_none_right_eq_some.mp h
    cases h
    exact hs.after fun d => kept_writeRaw
  | writeEventConfig e state =>
    obtain ⟨_, h⟩ := Option.ite_none_right_eq_some.mp h
    cases h
    exact hs.after fun d => kept_writeEventConfig
  | writeEventValue e info val val2 =>
    obtain ⟨_, h⟩ := Option.ite_none_right_eq_some.mp h
    cases h
    exact hs.after fun d => kept_writeEventValue
  | cancelWork =>
    obtain ⟨_, h⟩ := Option.ite_none_right_eq_some.mp h
    cases h
    exact ⟨nofun, nofun, hs.limits, hs.moved, hs.within, hs.temperature, hs.last, hs.judged⟩
  | iioDeviceUnregister =>
    obtain ⟨hphase, h⟩ := Option.ite_none_right_eq_some.mp h
    cases h
    refine ⟨fun hq => ?_, nofun, hs.limits, hs.moved, hs.within, hs.temperature, hs.last, hs.judged⟩
    cases hphase.symm.trans (hs.queued hq)

/-- The world before the registration. -/
def start (d : Device) : World := ⟨d, .probed, []⟩

theorem sound_start {p : Params} {d : Device} (h : probe p = .ok d) :
    (start d).Sound p.temperatureMillic := by
  unfold probe at h
  split at h
  · cases h
  · cases h
    exact ⟨nofun, nofun, ⟨rfl, rfl⟩, nofun, nofun, rfl, rfl, atEach_nil _⟩

theorem sound_of_reach {p : Params} {d : Device} (hp : probe p = .ok d)
    (hr : Reach step anyStep (start d) w) : w.Sound p.temperatureMillic :=
  hr.invariant (sound_start hp) fun _ _ _ hs _ h => hs.step h

/-! ## Events -/

section Runs

variable {p : Params} {d : Device} (hp : probe p = .ok d)
  (hr : Reach step anyStep (start d) w)

include hp hr

/-- In every run, the events are the crossings if and only if what is remembered lies on the same
side of the threshold as the previous temperature wherever it decides; and skipped ticks change
nothing. -/
theorem events_fire_on_crossings_iff :
    (w.device.faultMode = .staleData → w.device.update = (w.device, false)) ∧
      (FiresOnCrossings p.temperatureMillic w.updates ↔
        MemoryAgrees p.temperatureMillic w.updates) := by
  have hs := sound_of_reach hp hr
  refine ⟨Device.update_stale _, (hs.judged.and_mem hs.moved).congr fun past u hu => ?_⟩
  obtain ⟨hpushed, hmoved⟩ := hu
  rw [hpushed, Update.Crosses, Update.Crosses, hmoved]
  constructor
  · intro hiff hon hreached
    exact ⟨fun hlast => (hiff.mp ⟨hon, hlast, hreached⟩).2.1,
      fun hprevious => (hiff.mpr ⟨hon, hprevious, hreached⟩).2.1⟩
  · intro hagree
    exact and_congr_right fun hon => and_congr_left fun hreached => hagree hon hreached

/-- The readings after the updates are sums of integers, unless the bias is close to the ends of its
type. -/
theorem reading_eq_sum {u : Update} (hu : u ∈ w.updates)
    (hlo : -2 ^ 31 + 40000 ≤ u.channel.bias.toInt) (hhi : u.channel.bias.toInt < 2 ^ 31 - 125000) :
    (u.reading u.temperature).toInt = u.temperature.toInt + u.channel.bias.toInt := by
  obtain ⟨hmin, hmax⟩ := (sound_of_reach hp hr).within u hu
  rw [Int32.le_iff_toInt_le] at hmin hmax
  have hmin : -40000 ≤ u.temperature.toInt := hmin
  have hmax : u.temperature.toInt ≤ 125000 := hmax
  exact u.toInt_reading (by omega) (by omega)

end Runs

/-- Events that are never disabled fire on the crossings. -/
theorem memoryAgrees_of_enabled {initial : Int32} {updates : List Update}
    (h : ∀ u ∈ updates, u.enabled = true) : MemoryAgrees initial updates := by
  rintro past u rest rfl - -
  have hsame : remembered initial past = previous initial past :=
    latest_filter_of_all (fun v hv => h v (List.mem_append_left _ hv)) _ _
  rw [hsame]

/-- 21.5 degrees that climb by a quarter of a degree to a threshold at 22. -/
def climbing : Params :=
  { profileName := text "environment-plus", temperatureThreshRisingMillic := 22000 }

/-- The temperature channel of `climbing` at some value. -/
def quarterDegrees (value : Int32) : Channel := ⟨value, 250, -40000, 125000, 0⟩

theorem events_fire_while_enabled : ∃ d w, probe climbing = .ok d ∧
    Reach step anyStep (start d) w ∧ w.updates.map Update.pushed = [false, true, false] ∧
      FiresOnCrossings 21500 w.updates := by
  have hrun : ((probe climbing).toOption.bind fun d => (exec (guarded step anyStep) (start d)
      [.iioDeviceRegister 0, .registered, .tick, .tick, .tick]).map World.updates) =
      some [⟨true, quarterDegrees 21500, 22000, 21750, false⟩,
        ⟨true, quarterDegrees 21750, 22000, 22000, true⟩,
        ⟨true, quarterDegrees 22000, 22000, 22250, false⟩] := by decide +kernel
  obtain ⟨d, hd, hrun⟩ := Option.bind_eq_some_iff.mp hrun
  obtain ⟨w, hw, hupdates⟩ := Option.map_eq_some_iff.mp hrun
  have hp : probe climbing = .ok d := ok_of_toOption hd
  have hr := reach_of_exec hw
  refine ⟨d, w, hp, hr, by rw [hupdates]; rfl, ?_⟩
  refine (events_fire_on_crossings_iff hp hr).2.mpr (memoryAgrees_of_enabled ?_)
  rw [hupdates]
  decide

/-- Events that are enabled behind a crossing report it with the next update. -/
theorem enabling_reports_past_crossing : ¬ ∀ p d w, probe p = .ok d →
    Reach step anyStep (start d) w → FiresOnCrossings p.temperatureMillic w.updates := by
  intro h
  have hrun : ((probe climbing).toOption.bind fun d => (exec (guarded step anyStep) (start d)
      [.iioDeviceRegister 0, .registered, .writeEventConfig risingTemperature false, .tick, .tick,
        .writeEventConfig risingTemperature true, .tick]).map World.updates) =
      some ([⟨false, quarterDegrees 21500, 22000, 21750, false⟩,
        ⟨false, quarterDegrees 21750, 22000, 22000, false⟩] ++
        [⟨true, quarterDegrees 22000, 22000, 22250, true⟩]) := by decide +kernel
  obtain ⟨d, hd, hrun⟩ := Option.bind_eq_some_iff.mp hrun
  obtain ⟨w, hw, hupdates⟩ := Option.map_eq_some_iff.mp hrun
  have hcrosses := (h climbing d w (ok_of_toOption hd) (reach_of_exec hw) _ _ _ hupdates).mp rfl
  exact absurd hcrosses.2.1 (by decide)

end Sensorium.Iio

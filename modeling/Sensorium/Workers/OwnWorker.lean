import Sensorium.Workers.Degraded

/-!
# What a monitor restarts

After the exit of its worker a monitor gives up the entry, sleeps for the backoff without the
lock, and then launches by the id of the device: it stops and replaces whatever runs there, on
whatever record and with whatever configuration the device has by then.  In runs whose operations
give no worker to a device while a monitor of it is about to relaunch, a monitor restarts only its
own worker.
-/

namespace Sensorium.Workers

open Lib Function
open Sensorium.Model (Worker)
open Sensorium.Inventory (BackendId RuntimeState)

/-- The last launch of a device that started a worker. -/
def lastStarted (attempts : List Attempt) (id : Text) : Option Attempt :=
  attempts.find? fun a => a.deviceId = id && a.started.isSome

/-- A launch by the monitor of `x` stops nothing, the last worker of the device is `x`, and the
record and the configuration are those that `x` was launched with. -/
def Attempt.Own (older : List Attempt) (a : Attempt) (x : Nat) : Prop :=
  a.stopped = none ∧ ∃ b, lastStarted older a.deviceId = some b ∧ b.started = some x ∧
    b.record = a.record ∧ b.config = a.config

namespace Manager

def OwnWorkers (m : Manager) : Prop :=
  ∀ a older, a :: older <:+ m.attempts → ∀ x, a.monitor = some x → a.Own older x

/-- The monitor of `x` has read the configuration after the exit and is going to launch. -/
def relaunches (m : Manager) (x : Nat) : Bool :=
  !m.stopEvent &&
    match m.monitors x with
    | .backoff => true
    | .deciding configured => configured && (m.states x).restartCount + 1 ≤ (m.states x).restartLimit
    | .waiting | .failing | .over => false

/-- `x` was launched for the record `r` with the configuration `w`. -/
def LaunchedFor (m : Manager) (x r : Nat) (w : Worker) : Prop :=
  r = (m.states x).record ∧ w = (m.states x).config

/-- No monitor of the device is going to launch. -/
def Free (m : Manager) (id : Text) : Prop :=
  ∀ x < m.statesMade, m.relaunches x = true → (m.states x).deviceId ≠ id

/-- A rebuild adds no device with a worker while a monitor of that device is going to launch. -/
def RebuildsFree (m : Manager) (model : List DeviceSpec) (o : Outside) : Prop :=
  ∀ d ∈ model.take o.added, d.backend.managedWorkerConfig.isSome = true → m.Free d.id

/-- An update gives a worker configuration to a device while a monitor of it is going to launch only
where it raises before its own launch and leaves the record and the configuration that the monitor's
worker was launched with; and where it raises for an attachment, the same of a worker that runs. -/
def UpdatesFree (m : Manager) (id : Text) (backend : Backend) (spawn : Option Text) : Prop :=
  ∀ r ∈ dictGet m.devices id, ∀ w ∈ backend.managedWorkerConfig,
    ((m.records r).attached = true → ∀ x ∈ dictGet m.managed id, m.LaunchedFor x r w) ∧
    ∀ x < m.statesMade, m.relaunches x = true → (m.states x).deviceId = id →
      m.LaunchedFor x r w ∧ ((m.records r).attached = true ∨ spawn.isSome = true)

end Manager

def OpPc.Apart (m : Manager) (o : Outside) : OpPc → Prop
  | .applyRebuild model _ | .resyncRebuild model => o.writes = true → m.RebuildsFree model o
  | .rollback model => o.restores = true → m.RebuildsFree model o
  | _ => True

def apart (m : Manager) : Act → Prop
  | .op t o => ∀ pc ∈ m.ops[t]?, pc.Apart m o
  | .updateDevice id backend _ spawn => m.UpdatesFree id backend spawn
  | _ => True

/-! ## Launches -/

theorem lastStarted_cons_of_none {a : Attempt} (h : a.started = none) (older : List Attempt)
    (id : Text) : lastStarted (a :: older) id = lastStarted older id := by
  rw [lastStarted, List.find?_cons_of_neg (by simp [h]), lastStarted]

theorem lastStarted_cons_of_ne {a : Attempt} {id : Text} (h : a.deviceId ≠ id)
    (older : List Attempt) : lastStarted (a :: older) id = lastStarted older id := by
  rw [lastStarted, List.find?_cons_of_neg (by simp [h]), lastStarted]

theorem lastStarted_cons_self {a : Attempt} {x : Nat} (h : a.started = some x)
    (older : List Attempt) : lastStarted (a :: older) a.deviceId = some a := by
  rw [lastStarted, List.find?_cons_of_pos (by simp [h])]

namespace Manager

variable {m m' : Manager} {id : Text} {r x : Nat}

theorem OwnWorkers.cons {a : Attempt} {older : List Attempt} (h : m.OwnWorkers)
    (hm : m.attempts = older) (ha : ∀ x, a.monitor = some x → a.Own older x)
    (hm' : m'.attempts = a :: older) : m'.OwnWorkers := by
  intro b rest hsuffix x hx
  rw [hm', List.suffix_cons_iff] at hsuffix
  rcases hsuffix with heq | hsuffix
  · cases heq
    exact ha x hx
  · exact h b rest (hm ▸ hsuffix) x hx

/-! ## What a worker was launched for -/

/-- `x` is the last worker that was launched for its device. -/
def Latest (m : Manager) (x : Nat) : Prop :=
  ∃ b, lastStarted m.attempts (m.states x).deviceId = some b ∧ b.started = some x ∧
    b.record = (m.states x).record ∧ b.config = (m.states x).config

/-- Where the device of `x` has a worker configuration, its record and the configuration are those
that `x` was launched with. -/
def Unchanged (m : Manager) (x : Nat) : Prop :=
  ∀ r ∈ dictGet m.devices (m.states x).deviceId, ∀ w ∈ (m.records r).config, m.LaunchedFor x r w

/-- The workers that run and the monitors that are going to launch are the last ones of their
devices and the devices are unchanged; where a monitor is going to launch, no worker runs. -/
structure Watched (m : Manager) : Prop where
  made : ∀ e ∈ m.devices, e.2 < m.recordsMade
  distinct : ∀ e ∈ m.devices, ∀ e' ∈ m.devices, e.2 = e'.2 → e.1 = e'.1
  keys : (keys m.managed).Nodup
  running : ∀ e ∈ m.managed, e.2 < m.statesMade ∧ (m.states e.2).deviceId = e.1 ∧
    m.monitors e.2 = .waiting ∧ m.Latest e.2 ∧ m.Unchanged e.2
  relaunching : ∀ x < m.statesMade, m.relaunches x = true →
    (∀ y, ((m.states x).deviceId, y) ∉ m.managed) ∧ m.Latest x ∧ m.Unchanged x
  own : m.OwnWorkers

/-! ## Frames -/

theorem relaunches_congr {x : Nat} (hstop : m'.stopEvent = m.stopEvent)
    (hpc : m'.monitors x = m.monitors x)
    (hstate : (m'.states x).restartCount = (m.states x).restartCount ∧
      (m'.states x).restartLimit = (m.states x).restartLimit) : m'.relaunches x = m.relaunches x := by
  rw [relaunches, relaunches, hstop, hpc, hstate.1, hstate.2]

/-- Devices and their configurations, workers, monitors and launches are the same. -/
structure SameWorkers (m m' : Manager) : Prop where
  devices : m'.devices = m.devices
  config : ∀ r, (m'.records r).config = (m.records r).config
  recordsMade : m'.recordsMade = m.recordsMade
  managed : m'.managed = m.managed
  deviceId : ∀ x, (m'.states x).deviceId = (m.states x).deviceId
  record : ∀ x, (m'.states x).record = (m.states x).record
  launched : ∀ x, (m'.states x).config = (m.states x).config
  count : ∀ x, (m'.states x).restartCount = (m.states x).restartCount
  limit : ∀ x, (m'.states x).restartLimit = (m.states x).restartLimit
  monitors : m'.monitors = m.monitors
  statesMade : m'.statesMade = m.statesMade
  stopEvent : m'.stopEvent = m.stopEvent
  attempts : m'.attempts = m.attempts

namespace SameWorkers

theorem refl (m : Manager) : m.SameWorkers m :=
  ⟨rfl, fun _ => rfl, rfl, rfl, fun _ => rfl, fun _ => rfl, fun _ => rfl, fun _ => rfl,
    fun _ => rfl, rfl, rfl, rfl, rfl⟩

theorem trans {m₁ m₂ m₃ : Manager} (h : m₁.SameWorkers m₂) (h' : m₂.SameWorkers m₃) :
    m₁.SameWorkers m₃ where
  devices := h'.devices.trans h.devices
  config := fun r => (h'.config r).trans (h.config r)
  recordsMade := h'.recordsMade.trans h.recordsMade
  managed := h'.managed.trans h.managed
  deviceId := fun x => (h'.deviceId x).trans (h.deviceId x)
  record := fun x => (h'.record x).trans (h.record x)
  launched := fun x => (h'.launched x).trans (h.launched x)
  count := fun x => (h'.count x).trans (h.count x)
  limit := fun x => (h'.limit x).trans (h.limit x)
  monitors := h'.monitors.trans h.monitors
  statesMade := h'.statesMade.trans h.statesMade
  stopEvent := h'.stopEvent.trans h.stopEvent
  attempts := h'.attempts.trans h.attempts

theorem latest (h : m.SameWorkers m') (hl : m.Latest x) : m'.Latest x := by
  rw [Latest, h.attempts, h.deviceId, h.record, h.launched]
  exact hl

theorem unchanged (h : m.SameWorkers m') (hu : m.Unchanged x) : m'.Unchanged x := by
  intro r hr w hw
  rw [h.devices, h.deviceId] at hr
  rw [h.config] at hw
  rw [LaunchedFor, h.record, h.launched]
  exact hu r hr w hw

theorem relaunches (h : m.SameWorkers m') (x : Nat) : m'.relaunches x = m.relaunches x :=
  relaunches_congr h.stopEvent (congrFun h.monitors x) ⟨h.count x, h.limit x⟩

theorem free (h : m.SameWorkers m') (hf : m.Free id) : m'.Free id := by
  intro x hx hr
  rw [h.statesMade] at hx
  rw [h.relaunches] at hr
  rw [h.deviceId]
  exact hf x hx hr

/-- A state that changes and keeps what its launch fixed. -/
theorem setState {state : WorkerState} (hd : state.deviceId = (m.states x).deviceId)
    (hr : state.record = (m.states x).record) (hc : state.config = (m.states x).config)
    (hn : state.restartCount = (m.states x).restartCount)
    (hl : state.restartLimit = (m.states x).restartLimit) : m.SameWorkers (m.setState x state) := by
  have hsame {α : Type} (f : WorkerState → α) (hf : f state = f (m.states x)) (y : Nat) :
      f ((m.setState x state).states y) = f (m.states y) := by
    by_cases hy : y = x
    · subst hy
      exact (congrArg f (update_self ..)).trans hf
    · exact congrArg f (update_of_ne hy ..)
  exact ⟨rfl, fun _ => rfl, rfl, rfl, hsame _ hd, hsame _ hr, hsame _ hc, hsame _ hn, hsame _ hl, rfl,
    rfl, rfl, rfl⟩

/-- A record that changes and keeps its backend. -/
theorem setRecord {record : Record} (hc : record.config = (m.records r).config) :
    m.SameWorkers (m.setRecord r record) := by
  refine { refl m with config := fun r' => ?_ }
  by_cases hr : r' = r
  · rw [hr, records_setRecord_self, hc]
  · rw [records_setRecord_of_ne hr]

theorem setRuntimeState (m : Manager) (state : RuntimeState) (reason : Option Text) :
    m.SameWorkers (m.setRuntimeState state reason) :=
  { refl m with }

theorem setOp (m : Manager) (t : Nat) (pc : OpPc) : m.SameWorkers (m.setOp t pc) :=
  { refl m with }

theorem refresh (m : Manager) : m.SameWorkers m.refreshManagedWorkerRuntimeState := by
  obtain ⟨state, reason, heq⟩ := m.refresh_eq
  rw [heq]
  exact setRuntimeState m state reason

theorem setDegradedReason (m : Manager) (id : Text) (reason : Option Text) :
    m.SameWorkers (m.setDegradedReason id reason) := by
  unfold Manager.setDegradedReason
  split
  · exact refl m
  · exact setRecord rfl

theorem recordFailure (m : Manager) (id message : Text) :
    m.SameWorkers (m.recordManagedWorkerFailure id message) :=
  (setDegradedReason m id _).trans (refresh _)

theorem attach (m : Manager) (id : Text) (backend : Option BackendId) :
    m.SameWorkers (m.attach id backend) := by
  unfold Manager.attach
  split
  · exact refl m
  · exact setRecord rfl

end SameWorkers

theorem Watched.congr (h : m.Watched) (hs : m.SameWorkers m') : m'.Watched where
  made := by
    rw [hs.devices, hs.recordsMade]
    exact h.made
  distinct := by
    rw [hs.devices]
    exact h.distinct
  keys := by
    rw [hs.managed]
    exact h.keys
  running := by
    rw [hs.managed, hs.statesMade, hs.monitors]
    intro e he
    obtain ⟨hlt, hid, hpc, hlatest, hun⟩ := h.running e he
    exact ⟨hlt, (hs.deviceId e.2).trans hid, hpc, hs.latest hlatest, hs.unchanged hun⟩
  relaunching := by
    rw [hs.managed, hs.statesMade]
    intro x hx hr
    rw [hs.relaunches] at hr
    obtain ⟨hnone, hlatest, hun⟩ := h.relaunching x hx hr
    rw [hs.deviceId]
    exact ⟨hnone, hs.latest hlatest, hs.unchanged hun⟩
  own := by
    rw [OwnWorkers, hs.attempts]
    exact h.own

/-! ## Stop -/

theorem mem_popWorker {e : Text × Nat} : e ∈ (m.popWorker id).managed ↔ e ∈ m.managed ∧ e.1 ≠ id := by
  show e ∈ m.managed.filter _ ↔ _
  rw [List.mem_filter, decide_eq_true_eq]

theorem Watched.popWorker (h : m.Watched) (id : Text) : (m.popWorker id).Watched where
  made := h.made
  distinct := h.distinct
  keys := h.keys.sublist (List.filter_sublist.map _)
  running := fun e he => h.running e (mem_popWorker.mp he).1
  relaunching := by
    intro x hx hr
    obtain ⟨hnone, hrest⟩ := h.relaunching x hx hr
    exact ⟨fun y hy => hnone y (mem_popWorker.mp hy).1, hrest⟩
  own := h.own

/-- What a stop leaves: the entry is gone and the rest is the same. -/
theorem sameWorkers_stop (m : Manager) (id : Text) :
    (m.popWorker id).SameWorkers (m.stopManagedWorker id) := by
  unfold stopManagedWorker
  split
  · rename_i hget
    have hmanaged : m.managed = (m.popWorker id).managed := by
      refine (List.filter_eq_self.mpr fun e he => ?_).symm
      rw [decide_eq_true_eq]
      rintro rfl
      exact notMem_of_dictGet hget e.2 he
    exact { SameWorkers.refl (m.popWorker id) with managed := hmanaged }
  · exact SameWorkers.setState rfl rfl rfl rfl rfl

theorem mem_stopManagedWorker {e : Text × Nat} :
    e ∈ (m.stopManagedWorker id).managed ↔ e ∈ m.managed ∧ e.1 ≠ id := by
  rw [(m.sameWorkers_stop id).managed]
  exact mem_popWorker

theorem Watched.stop (h : m.Watched) (id : Text) : (m.stopManagedWorker id).Watched :=
  (h.popWorker id).congr (m.sameWorkers_stop id)

theorem free_stop (h : m.Free id) (id' : Text) : (m.stopManagedWorker id').Free id :=
  (m.sameWorkers_stop id').free (m := m.popWorker id') h

/-! ## Launch -/

/-- A launch that raises is only recorded. -/
theorem Watched.spawnRaises (h : m.Watched) {a : Attempt} (ha : a.started = none)
    (hown : ∀ x, a.monitor = some x → a.Own m.attempts x) :
    Watched { m with attempts := a :: m.attempts } := by
  have hlatest {x : Nat} (hl : m.Latest x) : Latest { m with attempts := a :: m.attempts } x := by
    obtain ⟨b, hb, hrest⟩ := hl
    exact ⟨b, (lastStarted_cons_of_none ha _ _).trans hb, hrest⟩
  refine ⟨h.made, h.distinct, h.keys, ?_, ?_, h.own.cons rfl hown rfl⟩
  · intro e he
    obtain ⟨hlt, hid, hpc, hl, hun⟩ := h.running e he
    exact ⟨hlt, hid, hpc, hlatest hl, hun⟩
  · intro x hx hr
    obtain ⟨hnone, hl, hun⟩ := h.relaunching x hx hr
    exact ⟨hnone, hlatest hl, hun⟩

/-- The worker of a launch is in the tables, with its monitor. -/
def registered (m : Manager) (state : WorkerState) (a : Attempt) : Manager :=
  { m with
    states := update m.states m.statesMade state
    monitors := update m.monitors m.statesMade .waiting
    statesMade := m.statesMade + 1
    managed := dictSet m.managed state.deviceId m.statesMade
    attempts := a :: m.attempts }

theorem states_registered {state : WorkerState} {a : Attempt} (hx : x < m.statesMade) :
    (m.registered state a).states x = m.states x :=
  update_of_ne (Nat.ne_of_lt hx) ..

theorem monitors_registered {state : WorkerState} {a : Attempt} (hx : x < m.statesMade) :
    (m.registered state a).monitors x = m.monitors x :=
  update_of_ne (Nat.ne_of_lt hx) ..

/-- The new monitor waits; the monitors that are going to launch are those of before. -/
theorem relaunches_registered {state : WorkerState} {a : Attempt} (hx : x < m.statesMade + 1)
    (hr : (m.registered state a).relaunches x = true) : x < m.statesMade ∧ m.relaunches x = true := by
  rcases Nat.lt_succ_iff_lt_or_eq.mp hx with hlt | rfl
  · refine ⟨hlt, ?_⟩
    rw [← hr]
    symm
    refine relaunches_congr rfl (monitors_registered hlt) ?_
    rw [states_registered hlt]
    exact ⟨rfl, rfl⟩
  · rw [relaunches, show (m.registered state a).monitors m.statesMade = .waiting from update_self ..,
      Bool.and_false] at hr
    cases hr

theorem free_registered {state : WorkerState} {a : Attempt} (h : m.Free id) :
    (m.registered state a).Free id := by
  intro x hx hr
  obtain ⟨hlt, hr⟩ := relaunches_registered hx hr
  rw [states_registered hlt]
  exact h x hlt hr

/-- A worker is registered for a device that has none and that no monitor is going to launch for. -/
theorem Watched.register (h : m.Watched) {state : WorkerState} {a : Attempt}
    (hget : dictGet m.devices state.deviceId = some r) (hconfig : (m.records r).config = some a.config)
    (hterms : state.record = r ∧ state.config = a.config)
    (hattempt : a.deviceId = state.deviceId ∧ a.record = r ∧ a.started = some m.statesMade)
    (hnone : ∀ y, (state.deviceId, y) ∉ m.managed) (hfree : m.Free state.deviceId)
    (hown : ∀ x, a.monitor = some x → a.Own m.attempts x) : (m.registered state a).Watched := by
  obtain ⟨hid, hrecord, hstarted⟩ := hattempt
  have hnew : (m.registered state a).states m.statesMade = state := update_self ..
  -- A worker of another device keeps its place in the history.
  have hother {x : Nat} (hx : x < m.statesMade) (hne : (m.states x).deviceId ≠ state.deviceId)
      (hl : m.Latest x) : (m.registered state a).Latest x := by
    obtain ⟨b, hb, hrest⟩ := hl
    rw [Latest, states_registered hx]
    exact ⟨b, (lastStarted_cons_of_ne (fun he => hne (he.symm.trans hid)) _).trans hb, hrest⟩
  have hsame {x : Nat} (hx : x < m.statesMade) (hun : m.Unchanged x) :
      (m.registered state a).Unchanged x := by
    rw [Unchanged, states_registered hx]
    intro r hr w hw
    rw [LaunchedFor, states_registered hx]
    exact hun r hr w hw
  refine ⟨h.made, h.distinct, nodup_keys_dictSet h.keys _ _, ?_, ?_, h.own.cons rfl hown rfl⟩
  · intro e he
    rcases mem_of_mem_dictSet he with rfl | he
    · refine ⟨Nat.lt_succ_self _, congrArg (·.deviceId) hnew, update_self ..,
        ⟨a, ?_, hstarted, ?_, ?_⟩, ?_⟩
      · rw [hnew, ← hid]
        exact lastStarted_cons_self hstarted _
      · rw [hnew]
        exact hrecord.trans hterms.1.symm
      · rw [hnew]
        exact hterms.2.symm
      · intro r' hr' w hw
        rw [hnew] at hr'
        cases hget.symm.trans hr'
        cases hconfig.symm.trans hw
        rw [LaunchedFor, hnew]
        exact ⟨hterms.1.symm, hterms.2.symm⟩
    · obtain ⟨hlt, hid', hwait, hl, hun⟩ := h.running e he
      have hne : (m.states e.2).deviceId ≠ state.deviceId := by
        rw [hid']
        exact fun heq => hnone e.2 (heq ▸ he)
      refine ⟨Nat.lt_succ_of_lt hlt, ?_, (monitors_registered hlt).trans hwait, hother hlt hne hl,
        hsame hlt hun⟩
      rw [states_registered hlt, hid']
  · intro x hx hr
    obtain ⟨hlt, hr⟩ := relaunches_registered hx hr
    obtain ⟨hnone', hl, hun⟩ := h.relaunching x hlt hr
    have hne := hfree x hlt hr
    refine ⟨fun y hy => ?_, hother hlt hne hl, hsame hlt hun⟩
    rw [states_registered hlt] at hy
    rcases mem_of_mem_dictSet hy with heq | hy
    · exact hne (congrArg Prod.fst heq)
    · exact hnone' y hy

/-- A launch that returns registers its worker and takes the reason away. -/
theorem sameWorkers_spawn (m : Manager) (id : Text) (r : Nat) (worker : Worker)
    (monitor stopped : Option Nat) (count : Nat) :
    (m.registered ⟨id, false, none, worker.restartLimit, count, none, r, worker⟩
      ⟨id, monitor, r, worker, stopped, some m.statesMade⟩).SameWorkers
      (m.spawnWorker id r worker monitor stopped count none) := by
  refine SameWorkers.trans ?_ (SameWorkers.refresh _)
  exact SameWorkers.setRecord rfl

theorem Watched.spawnWorker (h : m.Watched) {worker : Worker} {monitor stopped : Option Nat}
    {count : Nat} {spawn : Option Text} (hget : dictGet m.devices id = some r)
    (hconfig : (m.records r).config = some worker) (hnone : ∀ y, (id, y) ∉ m.managed)
    (hfree : spawn = none → m.Free id)
    (hown : ∀ started x, monitor = some x →
      Attempt.Own m.attempts ⟨id, monitor, r, worker, stopped, started⟩ x) :
    (m.spawnWorker id r worker monitor stopped count spawn).Watched := by
  cases spawn with
  | some exc => exact h.spawnRaises rfl (hown none)
  | none =>
    refine Watched.congr ?_ (m.sameWorkers_spawn id r worker monitor stopped count)
    exact h.register hget hconfig ⟨rfl, rfl⟩ ⟨rfl, rfl, rfl⟩ hnone (hfree rfl) (hown _)

/-- A launch with a configuration, on what its stop leaves. -/
theorem Watched.launch_of_config {worker : Worker} {monitor : Option Nat} {count : Nat}
    {spawn : Option Text} (h : (m.stopManagedWorker id).Watched)
    (hget : dictGet m.devices id = some r) (hconfig : (m.records r).config = some worker)
    (hfree : spawn = none → m.Free id)
    (hown : ∀ x, monitor = some x → dictGet m.managed id = none ∧ (m.states x).deviceId = id ∧
      m.Latest x ∧ m.Unchanged x) :
    (m.launchManagedWorker id monitor count spawn).Watched := by
  have hsame := m.sameWorkers_stop id
  rw [Manager.launchManagedWorker, hget]
  dsimp only
  rw [hconfig]
  refine h.spawnWorker (hsame.devices ▸ hget) ((hsame.config r).trans hconfig) ?_ ?_ ?_
  · exact fun y hy => (mem_stopManagedWorker.mp hy).2 rfl
  · exact fun hspawn => free_stop (hfree hspawn) id
  · intro started x hx
    obtain ⟨hmanaged, hid, ⟨b, hlast, hstarted, hrecord, hlaunched⟩, hun⟩ := hown x hx
    obtain ⟨hr, hw⟩ := hun r (hid ▸ hget) worker hconfig
    rw [hsame.attempts]
    rw [hid] at hlast
    exact ⟨hmanaged, b, hlast, hstarted, hrecord.trans hr.symm, hlaunched.trans hw.symm⟩

theorem Watched.launchManagedWorker (h : m.Watched) {monitor : Option Nat} {spawn : Option Text}
    (count : Nat) (hfree : spawn = none → m.Free id)
    (hown : ∀ x, monitor = some x → dictGet m.managed id = none ∧ (m.states x).deviceId = id ∧
      m.Latest x ∧ m.Unchanged x) :
    (m.launchManagedWorker id monitor count spawn).Watched := by
  cases hget : dictGet m.devices id with
  | none =>
    rw [Manager.launchManagedWorker, hget]
    exact h
  | some r =>
    cases hconfig : (m.records r).config with
    | none =>
      rw [Manager.launchManagedWorker, hget]
      dsimp only
      rw [hconfig]
      exact h
    | some worker => exact (h.stop id).launch_of_config hget hconfig hfree hown

/-! ## Monitors -/

theorem relaunches_setMonitor_of_ne {y : Nat} (hne : y ≠ x) (pc : MonitorPc) :
    (m.setMonitor x pc).relaunches y = m.relaunches y :=
  relaunches_congr rfl (update_of_ne hne ..) ⟨rfl, rfl⟩

theorem relaunches_setMonitor_over (m : Manager) (x : Nat) :
    (m.setMonitor x .over).relaunches x = false := by
  rw [relaunches, show (m.setMonitor x .over).monitors x = .over from update_self .., Bool.and_false]

theorem relaunches_setMonitor_failing (m : Manager) (x : Nat) :
    (m.setMonitor x .failing).relaunches x = false := by
  rw [relaunches, show (m.setMonitor x .failing).monitors x = .failing from update_self ..,
    Bool.and_false]

/-- The monitor of a worker that does not run moves on. -/
theorem Watched.setMonitor (h : m.Watched) {pc : MonitorPc} (hrun : ∀ e ∈ m.managed, e.2 ≠ x)
    (hrelaunch : (m.setMonitor x pc).relaunches x = true →
      (∀ y, ((m.states x).deviceId, y) ∉ m.managed) ∧ m.Latest x ∧ m.Unchanged x) :
    (m.setMonitor x pc).Watched := by
  refine ⟨h.made, h.distinct, h.keys, ?_, ?_, h.own⟩
  · intro e he
    obtain ⟨hlt, hid, hpc, hrest⟩ := h.running e he
    exact ⟨hlt, hid, (update_of_ne (hrun e he) ..).trans hpc, hrest⟩
  · intro y hy hr
    by_cases hyx : y = x
    · subst hyx
      exact hrelaunch hr
    · rw [relaunches_setMonitor_of_ne hyx] at hr
      exact h.relaunching y hy hr

theorem Watched.notMem_of_monitor (h : m.Watched) (hpc : m.monitors x ≠ .waiting) :
    ∀ e ∈ m.managed, e.2 ≠ x := by
  rintro e he rfl
  exact hpc (h.running e he).2.2.1

/-- At most one monitor of a device is going to launch. -/
theorem Watched.relaunches_unique (h : m.Watched) {y : Nat} (hx : x < m.statesMade)
    (hrx : m.relaunches x = true) (hy : y < m.statesMade) (hry : m.relaunches y = true)
    (hid : (m.states y).deviceId = (m.states x).deviceId) : y = x := by
  obtain ⟨b, hb, hbx, _⟩ := (h.relaunching x hx hrx).2.1
  obtain ⟨c, hc, hcy, _⟩ := (h.relaunching y hy hry).2.1
  rw [hid, hb] at hc
  cases hc
  exact Option.some.inj (hcy.symm.trans hbx)

theorem Watched.setMonitor_over (h : m.Watched) (hrun : ∀ e ∈ m.managed, e.2 ≠ x) :
    (m.setMonitor x .over).Watched := by
  refine h.setMonitor hrun fun hr => ?_
  rw [relaunches_setMonitor_over] at hr
  cases hr

/-- The monitor of the current worker has given up its entry: nothing runs for the device, and the
worker is its last one. -/
theorem Watched.setMonitor_popped (h : m.Watched)
    (hcurrent : dictGet m.managed (m.states x).deviceId = some x)
    (hs : (m.popWorker (m.states x).deviceId).SameWorkers m') (pc : MonitorPc) :
    (m'.setMonitor x pc).Watched := by
  obtain ⟨_, _, _, hlatest, hun⟩ := h.running _ (mem_of_dictGet hcurrent)
  have hother {e : Text × Nat} (he : e ∈ m'.managed) :
      e ∈ m.managed ∧ e.1 ≠ (m.states x).deviceId := by
    rw [hs.managed] at he
    exact mem_popWorker.mp he
  refine ((h.popWorker _).congr hs).setMonitor ?_ fun _ => ⟨?_, hs.latest hlatest, hs.unchanged hun⟩
  · rintro e he rfl
    exact (hother he).2 (h.running e (hother he).1).2.1.symm
  · intro y hy
    exact (hother hy).2 (hs.deviceId x)

theorem Watched.workerExited (h : m.Watched) (x : Nat) (code : Int) :
    (m.workerExited x code).Watched := by
  unfold Manager.workerExited
  dsimp only
  split
  · rename_i hne
    apply h.setMonitor_over
    rintro e he rfl
    rw [(h.running e he).2.1] at hne
    exact hne (dictGet_of_mem h.keys he)
  · rename_i hcurrent
    rw [not_not] at hcurrent
    split
    · exact h.setMonitor_popped hcurrent
        ((SameWorkers.setDegradedReason ..).trans (SameWorkers.refresh _)) _
    · exact h.setMonitor_popped hcurrent (SameWorkers.recordFailure ..) _

/-- After the backoff nothing runs for the device, and no other monitor of it is going to launch. -/
theorem Watched.relaunch (h : m.Watched) (hx : x < m.statesMade) (hpc : m.monitors x = .backoff)
    (hstop : m.stopEvent = false) (count : Nat) (spawn : Option Text) :
    ((m.setMonitor x .over).launchManagedWorker (m.states x).deviceId (some x) count spawn).Watched := by
  have hr : m.relaunches x = true := by
    rw [relaunches, hpc, hstop]
    rfl
  obtain ⟨hnone, hlatest, hun⟩ := h.relaunching x hx hr
  have hover := h.setMonitor_over (h.notMem_of_monitor (x := x) (by simp [hpc]))
  apply hover.launchManagedWorker
  · intro _ y hy hry hid
    have hyx : y ≠ x := by
      rintro rfl
      rw [relaunches_setMonitor_over] at hry
      cases hry
    rw [relaunches_setMonitor_of_ne hyx] at hry
    exact hyx (h.relaunches_unique hx hr hy hry hid)
  · rintro y ⟨⟩
    refine ⟨?_, rfl, hlatest, hun⟩
    cases hget : dictGet m.managed (m.states x).deviceId with
    | none => exact hget
    | some y => exact absurd (mem_of_dictGet hget) (hnone y)

theorem Watched.monitorStep (h : m.Watched) {spawn : Option Text} (hx : x < m.statesMade)
    (hs : m.monitorStep x spawn = some m') : m'.Watched := by
  unfold Manager.monitorStep at hs
  dsimp only at hs
  split at hs
  · obtain ⟨code, _, rfl⟩ := Option.map_eq_some_iff.mp hs
    exact h.workerExited x code
  · rename_i configured hpc
    have hrun := h.notMem_of_monitor (x := x) (by simp [hpc])
    split at hs
    · cases hs
      refine h.setMonitor hrun fun hr => ?_
      rw [relaunches_setMonitor_failing] at hr
      cases hr
    · rename_i hgo
      cases hs
      apply h.setMonitor hrun
      -- Going to sleep is going to launch: the limit was checked, and the event as well.
      intro _
      apply h.relaunching x hx
      rw [relaunches, hpc]
      simpa [Nat.not_lt, and_assoc, and_comm, and_left_comm] using hgo
  · rename_i hpc
    cases hs
    have hsame := SameWorkers.refresh m
    apply (h.congr hsame).setMonitor_over
    apply (h.congr hsame).notMem_of_monitor
    rw [hsame.monitors, hpc]
    decide
  · rename_i hpc
    split at hs <;> cases hs
    · exact h.setMonitor_over (h.notMem_of_monitor (by simp [hpc]))
    · rename_i hgo
      simp only [Bool.or_eq_true, not_or, Bool.not_eq_true] at hgo
      exact h.relaunch hx hpc hgo.1 _ _
  · cases hs

/-! ## Rebuilds -/

theorem SameWorkers.foldl {α : Type} {f : Manager → α → Manager} (hf : ∀ m a, SameWorkers m (f m a))
    (m : Manager) (as : List α) : m.SameWorkers (as.foldl f m) := by
  induction as generalizing m with
  | nil => exact SameWorkers.refl m
  | cons a as ih => exact (hf m a).trans (ih _)

theorem free_launch {monitor : Option Nat} {count : Nat} {spawn : Option Text} {id' : Text}
    (h : m.Free id) : (m.launchManagedWorker id' monitor count spawn).Free id := by
  unfold Manager.launchManagedWorker
  split
  · exact h
  · split
    · exact h
    · have hstop := free_stop h id'
      cases spawn with
      | some exc => exact hstop
      | none =>
        exact (sameWorkers_spawn ..).free (free_registered hstop)

theorem config_launch (m : Manager) (id : Text) (monitor : Option Nat) (count : Nat)
    (spawn : Option Text) (r : Nat) :
    ((m.launchManagedWorker id monitor count spawn).records r).config = (m.records r).config := by
  unfold Manager.launchManagedWorker
  split
  · rfl
  · split
    · rfl
    · have hstop := (m.sameWorkers_stop id).config r
      cases spawn with
      | some exc => exact hstop
      | none => exact ((sameWorkers_spawn ..).config r).trans hstop

theorem mem_foldl_stop (m : Manager) (es : List (Text × Nat)) {e : Text × Nat} :
    e ∈ (es.foldl (fun m e => m.stopManagedWorker e.1) m).managed ↔
      e ∈ m.managed ∧ ∀ e' ∈ es, e.1 ≠ e'.1 := by
  induction es generalizing m with
  | nil => simp
  | cons e' es ih =>
    rw [List.foldl_cons, ih, mem_stopManagedWorker, List.forall_mem_cons, and_assoc]

theorem managed_stopAll (m : Manager) : (m.stopAllManagedWorkers none).managed = [] := by
  apply List.eq_nil_iff_forall_not_mem.mpr
  intro e he
  obtain ⟨hmem, hne⟩ := (mem_foldl_stop m _).mp he
  have hall : e ∈ m.managed.take m.managed.length := by
    rw [List.take_length]
    exact hmem
  exact hne e hall rfl

theorem Watched.stopAll (h : m.Watched) (stuck : Option Nat) :
    (m.stopAllManagedWorkers stuck).Watched := by
  unfold stopAllManagedWorkers
  generalize m.managed.take _ = es
  induction es generalizing m with
  | nil => exact h
  | cons e es ih => exact ih (h.stop e.1)

theorem free_stopAll (h : m.Free id) : (m.stopAllManagedWorkers none).Free id := by
  unfold stopAllManagedWorkers
  generalize m.managed.take _ = es
  induction es generalizing m with
  | nil => exact h
  | cons e es ih => exact ih (free_stop h e.1)

theorem Watched.clearState (h : m.Watched) : m.clearState.Watched := by
  have hstop := h.stopAll none
  have hmanaged : m.clearState.managed = [] := m.managed_stopAll
  refine ⟨fun _ he => (List.not_mem_nil he).elim, fun _ he => (List.not_mem_nil he).elim,
    hstop.keys, ?_, ?_, hstop.own⟩
  · rw [hmanaged]
    exact fun _ he => (List.not_mem_nil he).elim
  · intro x hx hr
    obtain ⟨hnone, hlatest, _⟩ := hstop.relaunching x hx hr
    exact ⟨hnone, hlatest, fun _ hr => by cases hr⟩

theorem Watched.addDevice (h : m.Watched) (hmanaged : m.managed = []) {d : DeviceSpec}
    (hfree : d.backend.managedWorkerConfig.isSome = true → m.Free d.id) : (m.addDevice d).Watched := by
  have hlt {e : Text × Nat} (he : e ∈ dictSet m.devices d.id m.recordsMade) :
      e = (d.id, m.recordsMade) ∨ e ∈ m.devices ∧ e.2 < m.recordsMade :=
    (mem_of_mem_dictSet he).imp_right fun he => ⟨he, h.made e he⟩
  refine ⟨?_, ?_, h.keys, ?_, ?_, h.own⟩
  · intro e he
    rcases hlt he with rfl | ⟨_, hlt⟩
    · exact Nat.lt_succ_self _
    · exact Nat.lt_succ_of_lt hlt
  · -- The record of the new device is fresh.
    intro e he e' he' heq
    rcases hlt he with rfl | ⟨hmem, hlt₁⟩ <;> rcases hlt he' with rfl | ⟨hmem', hlt₂⟩
    · rfl
    · exact absurd heq.symm (Nat.ne_of_lt hlt₂)
    · exact absurd heq (Nat.ne_of_lt hlt₁)
    · exact h.distinct e hmem e' hmem' heq
  · show ∀ e ∈ m.managed, _
    rw [hmanaged]
    exact fun _ he => (List.not_mem_nil he).elim
  · intro x hx hr
    obtain ⟨hnone, hlatest, hun⟩ := h.relaunching x hx hr
    refine ⟨hnone, hlatest, ?_⟩
    intro r hget w hw
    rw [show (m.addDevice d).devices = dictSet m.devices d.id m.recordsMade from rfl,
      dictGet_dictSet] at hget
    split at hget
    · rename_i hid
      cases hget
      rw [show (m.addDevice d).records m.recordsMade = ⟨d.backend, none, none⟩
        from update_self ..] at hw
      have hsome : d.backend.managedWorkerConfig.isSome = true := Option.isSome_iff_exists.mpr ⟨w, hw⟩
      exact absurd hid.symm (hfree hsome x hx hr)
    · have hne : r ≠ m.recordsMade := Nat.ne_of_lt (h.made _ (mem_of_dictGet hget))
      rw [show (m.addDevice d).records r = m.records r from update_of_ne hne ..] at hw
      exact hun r hget w hw

/-- Devices with a worker configuration are devices that no monitor is going to launch for. -/
structure Rebuilding (m : Manager) : Prop extends Watched m where
  free : ∀ e ∈ m.devices, (m.records e.2).config.isSome = true → m.Free e.1

namespace Rebuilding

theorem congr (h : Rebuilding m) (hs : m.SameWorkers m') : Rebuilding m' := by
  refine ⟨h.toWatched.congr hs, ?_⟩
  rw [hs.devices]
  intro e he hc
  rw [hs.config] at hc
  exact hs.free (h.free e he hc)

theorem addDevice (h : Rebuilding m) (hmanaged : m.managed = []) {d : DeviceSpec}
    (hfree : d.backend.managedWorkerConfig.isSome = true → m.Free d.id) :
    Rebuilding (m.addDevice d) := by
  refine ⟨h.toWatched.addDevice hmanaged hfree, ?_⟩
  intro e he hc
  rcases mem_of_mem_dictSet he with rfl | he
  · rw [show (m.addDevice d).records m.recordsMade = ⟨d.backend, none, none⟩ from update_self ..] at hc
    exact hfree hc
  · have hne : e.2 ≠ m.recordsMade := Nat.ne_of_lt (h.made e he)
    rw [show (m.addDevice d).records e.2 = m.records e.2 from update_of_ne hne ..] at hc
    exact h.free e he hc

theorem addDevices (h : Rebuilding m) (hmanaged : m.managed = []) {ds : List DeviceSpec}
    (hfree : ∀ d ∈ ds, d.backend.managedWorkerConfig.isSome = true → m.Free d.id) :
    Rebuilding (m.addDevices ds) := by
  unfold Manager.addDevices
  induction ds generalizing m with
  | nil => exact h
  | cons d ds ih =>
    exact ih (h.addDevice hmanaged (hfree d (.head _))) hmanaged
      fun d' hd' => hfree d' (.tail _ hd')

theorem launch (h : Rebuilding m) {e : Text × Nat} (he : e ∈ m.devices)
    (hc : (m.records e.2).config.isSome = true) (spawn : Option Text) :
    Rebuilding (m.launchManagedWorker e.1 none 0 spawn) := by
  refine ⟨h.toWatched.launchManagedWorker 0 (fun _ => h.free e he hc) fun x hx => (by cases hx), ?_⟩
  rw [devices_launchManagedWorker]
  intro e' he' hc'
  rw [config_launch] at hc'
  exact free_launch (h.free e' he' hc')

theorem startManagedWorker (h : Rebuilding m) (spawn : Text → Option Text) {e : Text × Nat}
    (he : e ∈ m.devices) : Rebuilding (m.startManagedWorker spawn e) := by
  unfold Manager.startManagedWorker
  split
  · exact h
  · rename_i hc
    rw [Option.isNone_iff_eq_none, ← ne_eq, Option.ne_none_iff_isSome] at hc
    split
    · exact h.launch he hc none
    · exact (h.launch he hc _).congr (SameWorkers.recordFailure ..)

theorem startManagedWorkers (h : Rebuilding m) (spawn : Text → Option Text) :
    Rebuilding (m.startManagedWorkers spawn) := by
  unfold Manager.startManagedWorkers
  have hmem : ∀ e ∈ m.sortedDevices, e ∈ m.devices := fun e he => mem_sortedDevices.mp he
  generalize m.sortedDevices = es at hmem
  induction es generalizing m with
  | nil => exact h
  | cons e es ih =>
    apply ih (h.startManagedWorker spawn (hmem e (.head _)))
    intro e' he'
    rw [devices_startManagedWorker]
    exact hmem e' (.tail _ he')

end Rebuilding

theorem SameWorkers.attachAll (m : Manager) (ds : List DeviceSpec) : m.SameWorkers (m.attachAll ds) := by
  apply SameWorkers.foldl
  intro m d
  split
  · exact SameWorkers.refl m
  · exact SameWorkers.attach ..

/-- A rebuild starts from no device and no worker. -/
theorem Watched.rebuild (h : m.Watched) {model : List DeviceSpec} {o : Outside}
    (hok : m.RebuildsFree model o) (hs : m.clearState.SameWorkers m') :
    (m'.applyModelLocked model o.added o.spawn).Watched := by
  have hempty : Rebuilding { m' with loaded := true } := by
    refine Rebuilding.congr (m := m.clearState) ?_ { hs with }
    exact ⟨h.clearState, fun _ he => (List.not_mem_nil he).elim⟩
  have hadded : Rebuilding ({ m' with loaded := true }.addDevices (model.take o.added)) := by
    refine hempty.addDevices (hs.managed.trans m.managed_stopAll) fun d hd hc => ?_
    exact hs.free (m := m.clearState) (free_stopAll (hok d hd hc))
  unfold Manager.applyModelLocked
  dsimp only
  split
  · exact hadded.toWatched
  · have hready := (hadded.startManagedWorkers o.spawn).congr (SameWorkers.attachAll _ model)
    exact hready.toWatched.congr (SameWorkers.setRuntimeState ..)

/-! ## Operations -/

theorem Watched.opStep (h : m.Watched) {t : Nat} {o : Outside} {pc : OpPc} (hok : pc.Apart m o)
    (hs : m.opStep t o pc = some m') : m'.Watched := by
  cases opMoves_of_opStep hs with
  | stays => exact h.congr (SameWorkers.setOp ..)
  | unstopped => exact (h.stopAll o.stuck).congr (SameWorkers.setOp ..)
  | desynced => exact (h.congr (SameWorkers.setRuntimeState ..)).congr (SameWorkers.setOp ..)
  | cleared =>
    exact (h.clearState.congr (SameWorkers.setRuntimeState ..)).congr (SameWorkers.setOp ..)
  | applied hw => exact (h.rebuild (hok hw) (SameWorkers.refl _)).congr (SameWorkers.setOp ..)
  | restored hr => exact (h.rebuild (hok hr) (SameWorkers.refl _)).congr (SameWorkers.setOp ..)
  | resynced hw =>
    exact (h.rebuild (hok hw) (SameWorkers.setRuntimeState ..)).congr (SameWorkers.setOp ..)

/-- A record that gets a configuration which the workers of its device were launched with. -/
theorem Watched.setRecord (h : m.Watched) {record : Record} (hget : dictGet m.devices id = some r)
    (hrun : ∀ e ∈ m.managed, e.1 = id → ∀ w ∈ record.config, m.LaunchedFor e.2 r w)
    (hrelaunch : ∀ x < m.statesMade, m.relaunches x = true → (m.states x).deviceId = id →
      ∀ w ∈ record.config, m.LaunchedFor x r w) : (m.setRecord r record).Watched := by
  have hun {x : Nat} (hu : m.Unchanged x)
      (hnew : (m.states x).deviceId = id → ∀ w ∈ record.config, m.LaunchedFor x r w) :
      (m.setRecord r record).Unchanged x := by
    intro r' hr' w hw
    by_cases heq : r' = r
    · subst heq
      rw [records_setRecord_self] at hw
      exact hnew (h.distinct _ (mem_of_dictGet hr') _ (mem_of_dictGet hget) rfl) w hw
    · rw [records_setRecord_of_ne heq] at hw
      exact hu r' hr' w hw
  refine ⟨h.made, h.distinct, h.keys, ?_, ?_, h.own⟩
  · intro e he
    obtain ⟨hlt, hid, hpc, hl, hu⟩ := h.running e he
    exact ⟨hlt, hid, hpc, hl, hun hu fun heq => hrun e he (hid.symm.trans heq)⟩
  · intro x hx hr
    obtain ⟨hnone, hl, hu⟩ := h.relaunching x hx hr
    exact ⟨hnone, hl, hun hu (hrelaunch x hx hr)⟩

theorem stop_setRecord (m : Manager) (id : Text) (r : Nat) (record : Record) :
    (m.setRecord r record).stopManagedWorker id = (m.stopManagedWorker id).setRecord r record := by
  have hmanaged : (m.setRecord r record).managed = m.managed := rfl
  rw [stopManagedWorker, stopManagedWorker, hmanaged]
  cases dictGet m.managed id <;> rfl

/-- An update that takes the worker configuration away, or leaves the device without. -/
theorem Watched.updateDevice_none (h : m.Watched) {backend : Backend} (builds : Bool)
    (spawn : Option Text) (hc : backend.managedWorkerConfig = none) :
    (m.updateDevice id backend builds spawn).Watched := by
  unfold Manager.updateDevice
  split
  · exact h
  · rename_i r hget
    have hnone : Record.config { m.records r with backend := backend } = none := hc
    have hset : (m.setRecord r { m.records r with backend := backend }).Watched := by
      refine h.setRecord hget (fun _ _ _ w hw => ?_) fun _ _ _ _ w hw => ?_
      all_goals
        rw [hnone] at hw
        cases hw
    dsimp only
    rw [hc]
    split
    · exact hset
    · rw [if_neg (by simp), if_neg (by simp)]
      split
      · exact hset.stop id
      · exact hset

/-- An update that raises for an attachment: the record has the configuration already. -/
theorem Watched.updateDevice_attached (h : m.Watched) {backend : Backend} {worker : Worker}
    (hget : dictGet m.devices id = some r) (hc : backend.managedWorkerConfig = some worker)
    (hrun : ∀ x ∈ dictGet m.managed id, m.LaunchedFor x r worker)
    (hrelaunch : ∀ x < m.statesMade, m.relaunches x = true → (m.states x).deviceId = id →
      m.LaunchedFor x r worker) :
    (m.setRecord r { m.records r with backend := backend }).Watched := by
  have hsome : Record.config { m.records r with backend := backend } = some worker := hc
  refine h.setRecord hget (fun e he hid w hw => ?_) fun x hx hr hid w hw => ?_
  all_goals
    rw [hsome] at hw
    cases hw
  · subst hid
    exact hrun _ (dictGet_of_mem h.keys he)
  · exact hrelaunch x hx hr hid

/-- An update that launches: a worker that ran is stopped, so only the monitors that are going to
launch matter for the new configuration. -/
theorem Watched.updateDevice_launches (h : m.Watched) {backend : Backend} {worker : Worker}
    {spawn : Option Text} (hget : dictGet m.devices id = some r)
    (hc : backend.managedWorkerConfig = some worker)
    (hrelaunch : ∀ x < m.statesMade, m.relaunches x = true → (m.states x).deviceId = id →
      m.LaunchedFor x r worker ∧ spawn.isSome = true) :
    ((m.setRecord r { m.records r with backend := backend }).launchManagedWorker id none 0
      spawn).Watched := by
  have hsome : Record.config { m.records r with backend := backend } = some worker := hc
  have hsame := m.sameWorkers_stop id
  have hstop :
      ((m.setRecord r { m.records r with backend := backend }).stopManagedWorker id).Watched := by
    rw [stop_setRecord]
    refine (h.stop id).setRecord (hsame.devices ▸ hget) (fun e he hid => ?_) ?_
    · exact absurd hid (mem_stopManagedWorker.mp he).2
    · intro x hx hr hid w hw
      rw [hsame.statesMade] at hx
      rw [hsame.relaunches] at hr
      rw [hsame.deviceId] at hid
      rw [hsome] at hw
      cases hw
      rw [LaunchedFor, hsame.record, hsame.launched]
      exact (hrelaunch x hx hr hid).1
  have hconfig : ((m.setRecord r { m.records r with backend := backend }).records r).config =
      some worker := by
    rw [records_setRecord_self]
    exact hsome
  refine hstop.launch_of_config hget hconfig ?_ fun x hx => (by cases hx)
  rintro rfl x hx hr hid
  cases (hrelaunch x hx hr hid).2

theorem Watched.updateDevice (h : m.Watched) {backend : Backend} (builds : Bool)
    {spawn : Option Text} (hok : m.UpdatesFree id backend spawn) :
    (m.updateDevice id backend builds spawn).Watched := by
  cases hc : backend.managedWorkerConfig with
  | none => exact h.updateDevice_none builds spawn hc
  | some worker =>
    unfold Manager.updateDevice
    split
    · exact h
    · rename_i r hget
      obtain ⟨hrun, hrelaunch⟩ := hok r hget worker hc
      have hcontroller : ¬ (backend = .template ∧ (!builds) = true) := by
        rintro ⟨rfl, _⟩
        cases hc
      dsimp only
      rw [if_neg hcontroller, hc, records_setRecord_self, Option.isSome_some, Bool.true_and]
      split
      · rename_i hat
        exact h.updateDevice_attached hget hc (hrun hat) fun x hx hr hid => (hrelaunch x hx hr hid).1
      · rename_i hat
        rw [if_pos rfl, if_neg (by simp)]
        refine h.updateDevice_launches hget hc fun x hx hr hid => ?_
        obtain ⟨hfor, hat' | hspawn⟩ := hrelaunch x hx hr hid
        · exact absurd hat' hat
        · exact ⟨hfor, hspawn⟩

theorem SameWorkers.attachBackend (m : Manager) (backend : BackendId) (ids : List Text) :
    m.SameWorkers (m.attachBackend backend ids) := by
  unfold Manager.attachBackend
  split
  · exact SameWorkers.foldl (fun m id => SameWorkers.attach m id _) m ids
  · exact SameWorkers.refl m

theorem SameWorkers.detachBackend (m : Manager) (backend : BackendId) (ids : List Text) :
    m.SameWorkers (m.detachBackend backend ids) := by
  apply SameWorkers.foldl
  intro m id
  unfold detachOne
  split
  · exact SameWorkers.refl m
  · split
    · exact SameWorkers.attach ..
    · exact SameWorkers.refl m

/-- Where the daemon stops, no monitor is going to launch. -/
theorem Watched.setStopEvent (h : m.Watched) : Watched { m with stopEvent := true } := by
  refine ⟨h.made, h.distinct, h.keys, h.running, ?_, h.own⟩
  intro x _ hr
  cases hr

theorem Watched.step (h : m.Watched) {a : Act} (hok : apart m a)
    (hs : Workers.step m a = some m') : m'.Watched := by
  have hbegin {t : Nat} {blocked : Bool} {next : Manager} (hnext : next.Watched)
      (hs : m.begin t blocked next = some m') : m'.Watched := by
    unfold Manager.begin at hs
    split at hs
    · split at hs <;> cases hs
      exact hnext
    · cases hs
  cases a with
  | applyModel t model =>
    refine hbegin ?_ hs
    exact (h.congr (SameWorkers.setRuntimeState ..)).congr (SameWorkers.setOp ..)
  | resetRuntime t => exact hbegin (h.congr (SameWorkers.setOp ..)) hs
  | resyncRuntime t restores =>
    refine hbegin ?_ hs
    split
    · exact h.congr (SameWorkers.setOp ..)
    · exact h
  | op t o =>
    obtain ⟨pc, hpc, hs⟩ := Option.bind_eq_some_iff.mp hs
    exact h.opStep (hok pc hpc) hs
  | updateDevice id backend builds spawn =>
    simp only [Workers.step, Option.ite_none_left_eq_some, Option.some.injEq] at hs
    exact hs.2 ▸ h.updateDevice builds hok
  | attachBackend backend ids =>
    simp only [Workers.step, Option.ite_none_left_eq_some, Option.some.injEq] at hs
    exact hs.2 ▸ h.congr (SameWorkers.attachBackend ..)
  | detachBackend backend ids =>
    simp only [Workers.step, Option.ite_none_left_eq_some, Option.some.injEq] at hs
    exact hs.2 ▸ h.congr (SameWorkers.detachBackend ..)
  | workerExits x code =>
    simp only [Workers.step, Option.ite_none_right_eq_some, Option.some.injEq] at hs
    exact hs.2 ▸ h.congr (SameWorkers.setState rfl rfl rfl rfl rfl)
  | sendFails x =>
    simp only [Workers.step, Option.ite_none_right_eq_some, Option.some.injEq] at hs
    exact hs.2 ▸ h.congr (SameWorkers.setState rfl rfl rfl rfl rfl)
  | monitor x spawn =>
    simp only [Workers.step, Option.ite_none_right_eq_some] at hs
    exact h.monitorStep hs.1 hs.2
  | desync reason =>
    cases hs
    exact h.congr (SameWorkers.setRuntimeState ..)
  | setStopEvent =>
    cases hs
    exact h.setStopEvent
  | stopAll stuck =>
    cases hs
    exact h.stopAll stuck

theorem watched_start (n : Nat) : (start n).Watched where
  made := fun _ he => (List.not_mem_nil he).elim
  distinct := fun _ he => (List.not_mem_nil he).elim
  keys := List.nodup_nil
  running := fun _ he => (List.not_mem_nil he).elim
  relaunching := fun x hx => (Nat.not_lt_zero x hx).elim
  own := fun _ _ hsuffix => by cases List.suffix_nil.mp hsuffix

end Manager

/-- In every run in which no operation gives a device a worker configuration, other than by
leaving the one there, while a monitor of the device is going to launch, and no update that raises
changes the configuration under a worker that runs, every launch of a monitor restarts the
monitor's own worker: it stops nothing, the worker is the last one of the device, and the record
and the configuration are those of its own launch. -/
theorem monitor_restarts_own {n : Nat} {m : Manager} (h : Reach step apart (start n) m) :
    m.OwnWorkers := by
  have hwatched : m.Watched :=
    h.invariant (I := Manager.Watched) (Manager.watched_start n) fun m a m' hm hok hs =>
      hm.step hok hs
  exact hwatched.own

/-! ## Schedules -/

instance (m : Manager) (id : Text) : Decidable (m.Free id) :=
  inferInstanceAs (Decidable (∀ x < m.statesMade, m.relaunches x = true → (m.states x).deviceId ≠ id))

instance (m : Manager) (x r : Nat) (w : Worker) : Decidable (m.LaunchedFor x r w) :=
  inferInstanceAs (Decidable (_ ∧ _))

instance (m : Manager) (model : List DeviceSpec) (o : Outside) :
    Decidable (m.RebuildsFree model o) :=
  inferInstanceAs (Decidable
    (∀ d ∈ model.take o.added, d.backend.managedWorkerConfig.isSome = true → m.Free d.id))

instance (m : Manager) (id : Text) (backend : Backend) (spawn : Option Text) :
    Decidable (m.UpdatesFree id backend spawn) :=
  inferInstanceAs (Decidable (∀ r ∈ dictGet m.devices id, ∀ w ∈ backend.managedWorkerConfig,
    ((m.records r).attached = true → ∀ x ∈ dictGet m.managed id, m.LaunchedFor x r w) ∧
    ∀ x < m.statesMade, m.relaunches x = true → (m.states x).deviceId = id →
      m.LaunchedFor x r w ∧ ((m.records r).attached = true ∨ spawn.isSome = true)))

instance (m : Manager) (o : Outside) (pc : OpPc) : Decidable (pc.Apart m o) :=
  match pc with
  | .applyRebuild model _ => inferInstanceAs (Decidable (o.writes = true → m.RebuildsFree model o))
  | .rollback model => inferInstanceAs (Decidable (o.restores = true → m.RebuildsFree model o))
  | .resyncRebuild model => inferInstanceAs (Decidable (o.writes = true → m.RebuildsFree model o))
  | .idle | .discard _ | .applyDesync | .resetClear | .resyncFailed => .isTrue trivial

instance (m : Manager) (a : Act) : Decidable (apart m a) :=
  match a with
  | .op t o => inferInstanceAs (Decidable (∀ pc ∈ m.ops[t]?, pc.Apart m o))
  | .updateDevice id backend _ spawn => inferInstanceAs (Decidable (m.UpdatesFree id backend spawn))
  | .applyModel _ _ | .resetRuntime _ | .resyncRuntime _ _ | .attachBackend _ _ | .detachBackend _ _
  | .workerExits _ _ | .sendFails _ | .monitor _ _ | .desync _ | .setStopEvent | .stopAll _ =>
    .isTrue trivial

/-- A worker that exits, until its monitor sleeps. -/
def exitSensor : List Act :=
  applySensor none ++ [.workerExits 0 1, .monitor 0 none, .monitor 0 none]

/-- The monitor starts the next worker after its sleep. -/
theorem monitor_restarts_own_exit :
    ∃ m : Manager, (m.attempts.head?.any fun a => a.monitor = some 0 && a.started = some 1) = true ∧
      m.OwnWorkers := by
  have hrun : (exec (guarded step apart) (start 1) (exitSensor ++ [.monitor 0 none])).map
      (fun m => m.attempts.head?.any fun a => a.monitor = some 0 && a.started = some 1) =
      some true := by
    decide +kernel
  obtain ⟨m, hexec, hview⟩ := Option.map_eq_some_iff.mp hrun
  exact ⟨m, hview, monitor_restarts_own (reach_of_exec hexec)⟩

/-- The device is updated during the sleep: the monitor stops the worker of the update. -/
theorem monitor_stops_later_worker :
    ∃ m : Manager, Reach step anyStep (start 1) m ∧ ¬ m.OwnWorkers := by
  have hrun : (exec (guarded step anyStep) (start 1) (exitSensor ++
      [.updateDevice (text "sensor0") sensorSpec.backend true none, .monitor 0 none])).map
      (fun m => m.attempts.head?.any fun a => a.monitor = some 0 && a.stopped = some 1) =
      some true := by
    decide +kernel
  obtain ⟨m, hexec, hview⟩ := Option.map_eq_some_iff.mp hrun
  refine ⟨m, reach_of_exec hexec, fun h => ?_⟩
  cases hattempts : m.attempts with
  | nil =>
    rw [hattempts] at hview
    cases hview
  | cons a older =>
    rw [hattempts, List.head?_cons, Option.any_some, Bool.and_eq_true, decide_eq_true_eq,
      decide_eq_true_eq] at hview
    have hown := h a older (hattempts ▸ List.suffix_refl _) 0 hview.1
    rw [hown.1] at hview
    cases hview.2

end Sensorium.Workers

import Sensorium.Inventory.State
import Sensorium.Lib.Runs

/-!
# Managed workers

The launch, the stop and the monitor of a managed worker, the operations that launch and stop
workers (`apply_model` with its rollback, `reset_runtime`, `resync_runtime`, `update_device`) and
the runtime state that sums the workers up.  A step is a section under the manager's lock, or what
a thread does between two of them.
-/

namespace Sensorium.Workers

open Lib Function
open Sensorium.Model (Worker)
open Sensorium.Inventory (BackendId RuntimeState)

/-! ## Devices -/

inductive Backend
  | template
  | controller (worker : Option Worker)
  deriving DecidableEq, Repr

/-- `_managed_worker_config`. -/
def Backend.managedWorkerConfig : Backend → Option Worker
  | .template => none
  | .controller worker => worker

structure Record where
  backend : Backend
  attachedBackend : Option BackendId
  degradedReason : Option Text

namespace Record

def config (r : Record) : Option Worker := r.backend.managedWorkerConfig

/-- `device.get("degraded_reason")` is true. -/
def failing (r : Record) : Bool := r.degradedReason.any (· ≠ [])

/-- `device.get("attached_backend")` is true. -/
def attached (r : Record) : Bool := r.attachedBackend.any BackendId.truthy

end Record

/-- A device of a model or of a snapshot, with the backend that it is attached to. -/
structure DeviceSpec where
  id : Text
  backend : Backend
  attachedBackend : Option BackendId
  deriving DecidableEq, Repr

/-- What `_validate_backend_attachments_for_devices` asks of an attached device. -/
def DeviceSpec.attachable (d : DeviceSpec) : Bool :=
  !d.attachedBackend.any BackendId.truthy || d.backend = .controller none

/-! ## Workers and their monitors -/

/-- The dictionary of a launched worker.  `record` and `config` are history: the device that it was
launched for and the configuration that it was launched with. -/
structure WorkerState where
  deviceId : Text
  stopRequested : Bool
  failureReason : Option Text
  restartLimit : Nat
  restartCount : Nat
  exitCode : Option Int
  record : Nat
  config : Worker

/-- Where the monitor of a worker is; `configured` is what it found under the lock after the exit.
-/
inductive MonitorPc
  | waiting
  | deciding (configured : Bool)
  | failing
  | backoff
  | over
  deriving DecidableEq, Repr

/-- `_launch_managed_worker_locked` for a device with a worker configuration: for which monitor, the
worker that it stopped and the one that it started. -/
structure Attempt where
  deviceId : Text
  monitor : Option Nat
  record : Nat
  config : Worker
  stopped : Option Nat
  started : Option Nat
  deriving DecidableEq, Repr

/-- Where an operation is.  Between the steps the lock is free. -/
inductive OpPc
  | idle
  | applyRebuild (model : List DeviceSpec) (previous : Option (List DeviceSpec))
  | discard (previous : Option (List DeviceSpec))
  | rollback (previous : List DeviceSpec)
  | applyDesync
  | resetClear
  | resyncRebuild (model : List DeviceSpec)
  | resyncFailed
  deriving DecidableEq, Repr

/-- `loaded` is whether there are buses, devices or a model name; `attempts` is history, the latest
first. -/
structure Manager where
  loaded : Bool
  devices : List (Text × Nat)
  records : Nat → Record
  recordsMade : Nat
  managed : List (Text × Nat)
  states : Nat → WorkerState
  monitors : Nat → MonitorPc
  statesMade : Nat
  runtimeState : RuntimeState
  desyncReason : Option Text
  stopEvent : Bool
  ops : List OpPc
  attempts : List Attempt

namespace Manager

variable (m : Manager)

def setRecord (r : Nat) (record : Record) : Manager :=
  { m with records := update m.records r record }

def setState (x : Nat) (state : WorkerState) : Manager :=
  { m with states := update m.states x state }

def setMonitor (x : Nat) (pc : MonitorPc) : Manager :=
  { m with monitors := update m.monitors x pc }

def setRuntimeState (state : RuntimeState) (reason : Option Text) : Manager :=
  { m with runtimeState := state, desyncReason := reason }

def setOp (t : Nat) (pc : OpPc) : Manager := { m with ops := m.ops.set t pc }

/-- `managed_workers.pop(device_id, None)`. -/
def popWorker (id : Text) : Manager :=
  { m with managed := m.managed.filter fun e => e.1 ≠ id }

/-- `sorted(self.devices.items())`. -/
def sortedDevices : List (Text × Nat) := m.devices.insertionSort fun a b => a.1 ≤ b.1

/-! ## The summary -/

/-- The texts of the devices with a reason. -/
def reasons : List Text :=
  m.sortedDevices.filterMap fun e =>
    if (m.records e.2).failing then
      some (e.1 ++ text ":" ++ (m.records e.2).degradedReason.getD [])
    else none

def managedWorkersPrefix : Text := text "managed workers:"

/-- `_refresh_managed_worker_runtime_state_locked`. -/
def refreshManagedWorkerRuntimeState : Manager :=
  if m.runtimeState = .desynced then m
  else if m.reasons ≠ [] then
    m.setRuntimeState .degraded
      (some (managedWorkersPrefix ++ text " " ++ (text ", ").intercalate m.reasons))
  else if m.runtimeState = .degraded ∧ managedWorkersPrefix <+: m.desyncReason.getD [] then
    m.setRuntimeState .ready none
  else m

/-- `device["degraded_reason"] = reason`, for a device that is there. -/
def setDegradedReason (id : Text) (reason : Option Text) : Manager :=
  match dictGet m.devices id with
  | none => m
  | some r => m.setRecord r { m.records r with degradedReason := reason }

/-- `_record_managed_worker_failure_locked`. -/
def recordManagedWorkerFailure (id message : Text) : Manager :=
  (m.setDegradedReason id (some message)).refreshManagedWorkerRuntimeState

/-! ## Launch and stop -/

/-- `_stop_managed_worker_locked`; the process that is told to stop exits on its own. -/
def stopManagedWorker (id : Text) : Manager :=
  match dictGet m.managed id with
  | none => m
  | some x => (m.popWorker id).setState x { m.states x with stopRequested := true }

/-- `_stop_all_managed_workers_locked`.  `stuck` is the place of the first worker whose process
outlives being killed: its stop raises, and the workers behind it are not stopped. -/
def stopAllManagedWorkers (stuck : Option Nat) : Manager :=
  (m.managed.take (stuck.elim m.managed.length Nat.succ)).foldl
    (fun m e => m.stopManagedWorker e.1) m

/-- The part of a launch after the stop: `spawn` is the exception of the launch, if there is one. -/
def spawnWorker (id : Text) (r : Nat) (worker : Worker) (monitor stopped : Option Nat)
    (restartCount : Nat) (spawn : Option Text) : Manager :=
  match spawn with
  | some _ => { m with attempts := ⟨id, monitor, r, worker, stopped, none⟩ :: m.attempts }
  | none =>
    let x := m.statesMade
    let m :=
      { m with
        states := update m.states x
          ⟨id, false, none, worker.restartLimit, restartCount, none, r, worker⟩
        monitors := update m.monitors x .waiting
        statesMade := x + 1
        managed := dictSet m.managed id x
        attempts := ⟨id, monitor, r, worker, stopped, some x⟩ :: m.attempts }
    (m.setRecord r { m.records r with degradedReason := none }).refreshManagedWorkerRuntimeState

/-- `_launch_managed_worker_locked`. -/
def launchManagedWorker (id : Text) (monitor : Option Nat) (restartCount : Nat)
    (spawn : Option Text) : Manager :=
  match dictGet m.devices id with
  | none => m
  | some r =>
    match (m.records r).config with
    | none => m
    | some worker =>
      (m.stopManagedWorker id).spawnWorker id r worker monitor (dictGet m.managed id) restartCount
        spawn

/-- One device of `_start_managed_workers_locked`. -/
def startManagedWorker (spawn : Text → Option Text) (e : Text × Nat) : Manager :=
  if (m.records e.2).config.isNone then m
  else
    match spawn e.1 with
    | none => m.launchManagedWorker e.1 none 0 none
    | some exc =>
      (m.launchManagedWorker e.1 none 0 (some exc)).recordManagedWorkerFailure e.1
        (text "worker start failed: " ++ exc)

/-- `_start_managed_workers_locked`. -/
def startManagedWorkers (spawn : Text → Option Text) : Manager :=
  m.sortedDevices.foldl (fun m e => m.startManagedWorker spawn e) m

/-! ## Operations -/

/-- What `_clear_state` does to devices and workers where it returns. -/
def clearState : Manager :=
  { m.stopAllManagedWorkers none with
    devices := []
    loaded := false }

def addDevice (d : DeviceSpec) : Manager :=
  { m with
    devices := dictSet m.devices d.id m.recordsMade
    records := update m.records m.recordsMade ⟨d.backend, none, none⟩
    recordsMade := m.recordsMade + 1 }

def addDevices (ds : List DeviceSpec) : Manager := ds.foldl addDevice m

/-- `device["attached_backend"] = backend_id`. -/
def attach (id : Text) (backend : Option BackendId) : Manager :=
  match dictGet m.devices id with
  | none => m
  | some r => m.setRecord r { m.records r with attachedBackend := backend }

def attachAll (ds : List DeviceSpec) : Manager :=
  ds.foldl (fun m d => if d.attachedBackend.isNone then m else m.attach d.id d.attachedBackend) m

/-- `_apply_model_locked` on what `_clear_state` left; `added` devices are added, and if these are
not all the next one raises.  The attachments have been validated. -/
def applyModelLocked (model : List DeviceSpec) (added : Nat) (spawn : Text → Option Text) : Manager :=
  let m := { m with loaded := true }.addDevices (model.take added)
  if added < model.length then m
  else ((m.startManagedWorkers spawn).attachAll model).setRuntimeState .ready none

/-- The devices that a snapshot keeps. -/
def snapshot : List DeviceSpec :=
  m.devices.map fun e => ⟨e.1, (m.records e.2).backend, (m.records e.2).attachedBackend⟩

/-- `update_device` from the assignment of the normalised fields on.  `builds` is whether
`_build_template` returns. -/
def updateDevice (id : Text) (backend : Backend) (builds : Bool) (spawn : Option Text) : Manager :=
  match dictGet m.devices id with
  | none => m
  | some r =>
    let hadManagedWorker := (m.records r).config.isSome
    let hasManagedWorker := backend.managedWorkerConfig.isSome
    let m := m.setRecord r { m.records r with backend := backend }
    if backend = .template ∧ !builds then m
    else if hasManagedWorker && (m.records r).attached then m
    else
      let m := if hadManagedWorker && !hasManagedWorker then m.stopManagedWorker id else m
      if hasManagedWorker then m.launchManagedWorker id none 0 spawn else m

/-- The check of `_attach_backend_locked`. -/
def attaches (id : Text) : Bool :=
  match dictGet m.devices id with
  | none => false
  | some r => (m.records r).backend = .controller none

def attachBackend (backend : BackendId) (ids : List Text) : Manager :=
  if ids.all m.attaches then ids.foldl (fun m id => m.attach id (some backend)) m else m

def detachOne (backend : BackendId) (id : Text) : Manager :=
  match dictGet m.devices id with
  | none => m
  | some r => if (m.records r).attachedBackend = some backend then m.attach id none else m

def detachBackend (backend : BackendId) (ids : List Text) : Manager :=
  ids.foldl (fun m id => m.detachOne backend id) m

/-! ## Monitors -/

/-- `f"worker exited with code {exit_code}"`. -/
def exitMessage (code : Int) : Text :=
  text "worker exited with code " ++
    if code < 0 then text "-" ++ decimal code.natAbs else decimal code.natAbs

/-- The section of a monitor after the exit of its worker `x`. -/
def workerExited (x : Nat) (code : Int) : Manager :=
  let state := m.states x
  if dictGet m.managed state.deviceId ≠ some x then m.setMonitor x .over
  else
    let m := m.popWorker state.deviceId
    if state.stopRequested || m.stopEvent then
      (m.setDegradedReason state.deviceId none).refreshManagedWorkerRuntimeState.setMonitor x .over
    else
      let message := (state.failureReason.filter (· ≠ [])).getD (exitMessage code)
      let m := m.recordManagedWorkerFailure state.deviceId message
      let config := (dictGet m.devices state.deviceId).bind fun r => (m.records r).config
      m.setMonitor x (.deciding config.isSome)

/-- The next step of the monitor of `x`. -/
def monitorStep (x : Nat) (spawn : Option Text) : Option Manager :=
  let state := m.states x
  match m.monitors x with
  | .waiting => state.exitCode.map fun code => m.workerExited x code
  | .deciding configured =>
    if !configured || decide (state.restartLimit < state.restartCount + 1) || m.stopEvent then
      some (m.setMonitor x .failing)
    else some (m.setMonitor x .backoff)
  | .failing => some (m.refreshManagedWorkerRuntimeState.setMonitor x .over)
  | .backoff =>
    if m.stopEvent || (dictGet m.devices state.deviceId).isNone then some (m.setMonitor x .over)
    else
      some ((m.setMonitor x .over).launchManagedWorker state.deviceId (some x)
        (state.restartCount + 1) spawn)
  | .over => none

/-! ## Steps -/

end Manager

/-- What an operation meets outside: whether the write of `CMD_RESET` returns and a snapshot is read
back, how many devices the kernel takes, the exception of each launch, the text that the exceptions of a
failed operation make, and the place of the first managed worker that cannot be stopped. -/
structure Outside where
  writes : Bool
  restores : Bool
  added : Nat
  spawn : Text → Option Text
  error : Text
  stuck : Option Nat

namespace Manager

variable (m : Manager)

/-- Whether `_clear_state` raises. -/
def sticks (o : Outside) : Bool := o.stuck.any (· < m.managed.length)

/-- A section whose `_clear_state` raises; the devices stay. -/
def unstopped (o : Outside) (t : Nat) (next : OpPc) : Manager :=
  (m.stopAllManagedWorkers o.stuck).setOp t next

/-- The next step of the operation of thread `t`. -/
def opStep (t : Nat) (o : Outside) : OpPc → Option Manager
  | .idle => none
  | .applyRebuild model previous =>
    if !o.writes then some (m.setOp t (.discard previous))
    else if m.sticks o then some (m.unstopped o t (.discard previous))
    else
      some ((m.clearState.applyModelLocked model o.added o.spawn).setOp t
        (if o.added < model.length then .discard previous else .idle))
  | .discard previous =>
    if !o.writes then
      some ((m.setRuntimeState .desynced
        (some (text "runtime reset after apply failure failed: " ++ o.error))).setOp t .applyDesync)
    else if m.sticks o then some (m.unstopped o t .idle)
    else
      some ((m.clearState.setRuntimeState .empty none).setOp t
        ((previous.map OpPc.rollback).getD .idle))
  | .rollback previous =>
    if !o.restores || !previous.all DeviceSpec.attachable then some (m.setOp t .applyDesync)
    else if m.sticks o then some (m.unstopped o t .applyDesync)
    else
      some ((m.clearState.applyModelLocked previous o.added o.spawn).setOp t
        (if o.added < previous.length then .applyDesync else .idle))
  | .applyDesync =>
    some ((m.setRuntimeState .desynced (some o.error)).setOp t .idle)
  | .resetClear =>
    if !o.writes then some (m.setOp t .idle)
    else if m.sticks o then some (m.unstopped o t .idle)
    else some ((m.clearState.setRuntimeState .empty none).setOp t .idle)
  | .resyncRebuild model =>
    if !o.writes then some (m.setOp t .resyncFailed)
    else if m.sticks o then some (m.unstopped o t .resyncFailed)
    else
      some (((m.clearState.setRuntimeState .applying none).applyModelLocked model o.added
        o.spawn).setOp t (if o.added < model.length then .resyncFailed else .idle))
  | .resyncFailed =>
    some ((m.setRuntimeState .desynced (some (text "resync failed: " ++ o.error))).setOp t .idle)

end Manager

inductive Act
  | applyModel (t : Nat) (model : List DeviceSpec)
  | resetRuntime (t : Nat)
  | resyncRuntime (t : Nat) (restores : Bool)
  | op (t : Nat) (o : Outside)
  | updateDevice (id : Text) (backend : Backend) (builds : Bool) (spawn : Option Text)
  | attachBackend (backend : BackendId) (ids : List Text)
  | detachBackend (backend : BackendId) (ids : List Text)
  | workerExits (x : Nat) (code : Int)
  | sendFails (x : Nat)
  | monitor (x : Nat) (spawn : Option Text)
  | desync (reason : Text)
  | setStopEvent
  | stopAll (stuck : Option Nat)

/-- The first section of an operation, on a thread that is free. -/
def Manager.begin (m : Manager) (t : Nat) (blocked : Bool) (next : Manager) : Option Manager :=
  match m.ops[t]? with
  | some .idle => if blocked && m.runtimeState = .desynced then none else some next
  | _ => none

def step (m : Manager) : Act → Option Manager
  | .applyModel t model =>
    let previous := if m.loaded then some m.snapshot else none
    m.begin t true ((m.setRuntimeState .applying none).setOp t (.applyRebuild model previous))
  | .resetRuntime t => m.begin t true (m.setOp t .resetClear)
  | .resyncRuntime t restores =>
    m.begin t false
      (if restores && m.snapshot.all DeviceSpec.attachable then
        m.setOp t (.resyncRebuild m.snapshot)
      else m)
  | .op t o => (m.ops[t]?).bind (m.opStep t o)
  | .updateDevice id backend builds spawn =>
    if m.runtimeState = .desynced then none else some (m.updateDevice id backend builds spawn)
  | .attachBackend backend ids =>
    if m.runtimeState = .desynced then none else some (m.attachBackend backend ids)
  | .detachBackend backend ids =>
    if m.runtimeState = .desynced then none else some (m.detachBackend backend ids)
  | .workerExits x code =>
    if x < m.statesMade ∧ (m.states x).exitCode = none then
      some (m.setState x { m.states x with exitCode := some code })
    else none
  | .sendFails x =>
    if dictGet m.managed (m.states x).deviceId = some x then
      some (m.setState x
        { m.states x with failureReason := some (text "worker event send failed") })
    else none
  | .monitor x spawn => if x < m.statesMade then m.monitorStep x spawn else none
  | .desync reason => some (m.setRuntimeState .desynced (some reason))
  | .setStopEvent => some { m with stopEvent := true }
  | .stopAll stuck => some (m.stopAllManagedWorkers stuck)

def blankWorker : Worker := ⟨[], 0, 0, none, []⟩

/-- A daemon with `n` operation threads, before its first operation. -/
def start (n : Nat) : Manager where
  loaded := false
  devices := []
  records := fun _ => ⟨.template, none, none⟩
  recordsMade := 0
  managed := []
  states := fun _ => ⟨[], false, none, 0, 0, none, 0, blankWorker⟩
  monitors := fun _ => .over
  statesMade := 0
  runtimeState := .empty
  desyncReason := none
  stopEvent := false
  ops := List.replicate n .idle
  attempts := []

/-! ## Frames -/

namespace Manager

variable {m : Manager} {r : Nat}

theorem mem_sortedDevices {e : Text × Nat} : e ∈ m.sortedDevices ↔ e ∈ m.devices :=
  List.mem_insertionSort _

theorem records_setRecord_self (record : Record) : (m.setRecord r record).records r = record :=
  update_self ..

theorem records_setRecord_of_ne {r' : Nat} (h : r' ≠ r) (record : Record) :
    (m.setRecord r record).records r' = m.records r' :=
  update_of_ne h ..

/-- The summary changes only the state and its reason. -/
theorem refresh_eq (m : Manager) :
    ∃ state reason, m.refreshManagedWorkerRuntimeState = m.setRuntimeState state reason := by
  unfold refreshManagedWorkerRuntimeState
  split
  · exact ⟨m.runtimeState, m.desyncReason, rfl⟩
  · split
    · exact ⟨_, _, rfl⟩
    · split
      · exact ⟨_, _, rfl⟩
      · exact ⟨m.runtimeState, m.desyncReason, rfl⟩

theorem devices_refresh (m : Manager) : m.refreshManagedWorkerRuntimeState.devices = m.devices := by
  obtain ⟨state, reason, heq⟩ := m.refresh_eq
  rw [heq]
  rfl

theorem devices_stopManagedWorker (m : Manager) (id : Text) :
    (m.stopManagedWorker id).devices = m.devices := by
  unfold stopManagedWorker
  split <;> rfl

theorem devices_launchManagedWorker (m : Manager) (id : Text) (monitor : Option Nat) (count : Nat)
    (spawn : Option Text) : (m.launchManagedWorker id monitor count spawn).devices = m.devices := by
  unfold launchManagedWorker
  split
  · rfl
  · split
    · rfl
    · cases spawn with
      | some exc => exact m.devices_stopManagedWorker id
      | none => exact (devices_refresh _).trans (m.devices_stopManagedWorker id)

theorem devices_setDegradedReason (m : Manager) (id : Text) (reason : Option Text) :
    (m.setDegradedReason id reason).devices = m.devices := by
  unfold setDegradedReason
  split <;> rfl

theorem devices_startManagedWorker (m : Manager) (spawn : Text → Option Text) (e : Text × Nat) :
    (m.startManagedWorker spawn e).devices = m.devices := by
  unfold startManagedWorker
  split
  · rfl
  · split
    · exact m.devices_launchManagedWorker ..
    · exact ((devices_refresh _).trans (devices_setDegradedReason ..)).trans
        (m.devices_launchManagedWorker ..)

/-! ### What a section of an operation does -/

/-- A section leaves the devices to a later one, fails to stop the workers, desynchronises the
daemon, clears what it holds, or clears it and rebuilds, where the writes of the operation
succeed. -/
inductive OpMoves (m : Manager) (t : Nat) (o : Outside) : OpPc → Manager → Prop
  | stays {pc : OpPc} {next : OpPc} : OpMoves m t o pc (m.setOp t next)
  | unstopped {pc : OpPc} {next : OpPc} : OpMoves m t o pc (m.unstopped o t next)
  | desynced {pc : OpPc} {reason : Text} {next : OpPc} :
    OpMoves m t o pc ((m.setRuntimeState .desynced (some reason)).setOp t next)
  | cleared {pc : OpPc} {next : OpPc} :
    OpMoves m t o pc ((m.clearState.setRuntimeState .empty none).setOp t next)
  | applied {model : List DeviceSpec} {previous : Option (List DeviceSpec)} {next : OpPc}
    (writes : o.writes = true) : OpMoves m t o (.applyRebuild model previous)
      ((m.clearState.applyModelLocked model o.added o.spawn).setOp t next)
  | restored {model : List DeviceSpec} {next : OpPc} (restores : o.restores = true) :
    OpMoves m t o (.rollback model)
      ((m.clearState.applyModelLocked model o.added o.spawn).setOp t next)
  | resynced {model : List DeviceSpec} {next : OpPc} (writes : o.writes = true) :
    OpMoves m t o (.resyncRebuild model)
      (((m.clearState.setRuntimeState .applying none).applyModelLocked model o.added
        o.spawn).setOp t next)

theorem opMoves_of_opStep {m' : Manager} {t : Nat} {o : Outside} {pc : OpPc}
    (h : m.opStep t o pc = some m') : m.OpMoves t o pc m' := by
  cases pc with
  | idle => cases h
  | applyRebuild model previous =>
    simp only [opStep] at h
    split at h
    · cases h
      exact .stays
    · rename_i hw
      split at h
      · cases h
        exact .unstopped
      · cases h
        exact .applied (by simpa using hw)
  | discard previous =>
    simp only [opStep] at h
    split at h
    · cases h
      exact .desynced
    · split at h
      · cases h
        exact .unstopped
      · cases h
        exact .cleared
  | rollback previous =>
    simp only [opStep] at h
    split at h
    · cases h
      exact .stays
    · rename_i hw
      simp only [Bool.or_eq_true, Bool.not_eq_true', not_or, Bool.not_eq_false] at hw
      split at h
      · cases h
        exact .unstopped
      · cases h
        exact .restored hw.1
  | applyDesync | resyncFailed =>
    cases h
    exact .desynced
  | resetClear =>
    simp only [opStep] at h
    split at h
    · cases h
      exact .stays
    · split at h
      · cases h
        exact .unstopped
      · cases h
        exact .cleared
  | resyncRebuild model =>
    simp only [opStep] at h
    split at h
    · cases h
      exact .stays
    · rename_i hw
      split at h
      · cases h
        exact .unstopped
      · cases h
        exact .resynced (by simpa using hw)

end Manager

end Sensorium.Workers

import Sensorium.Workers.Manager

/-!
# What `degraded` means

The reason is kept with the device and the summary in `runtime_state`.  A rebuild sets `ready`
after the launches, whatever they recorded; a rebuild that raises leaves the state of the
inventory that it cleared; an update that takes the worker configuration away leaves the reason;
and the exit of a worker whose configuration is gone records a reason.  In runs without these,
`degraded` means exactly that a managed worker is failing.
-/

namespace Sensorium.Workers

open Lib Function
open Sensorium.Model (Worker)
open Sensorium.Inventory (BackendId RuntimeState)

namespace Manager

/-- A device with a worker configuration has a reason. -/
def WorkerFailing (m : Manager) : Prop :=
  ∃ e ∈ m.devices, (m.records e.2).config.isSome = true ∧ (m.records e.2).failing = true

/-- Where the state is `ready` or `degraded`, it is `degraded` exactly if a managed worker is
failing, and only devices with a worker configuration have a reason. -/
def DegradedIsFailing (m : Manager) : Prop :=
  m.runtimeState = .ready ∨ m.runtimeState = .degraded →
    (m.runtimeState = .degraded ↔ m.WorkerFailing) ∧
    ∀ e ∈ m.devices, (m.records e.2).config = none → (m.records e.2).failing = false

/-- A rebuild that takes all devices launches all workers, and one that raises does not start from
`degraded`. -/
def Rebuilds (m : Manager) (model : List DeviceSpec) (o : Outside) : Prop :=
  if o.added < model.length then m.runtimeState ≠ .degraded
  else ∀ d ∈ model, d.backend.managedWorkerConfig.isSome = true → o.spawn d.id = none

end Manager

def OpPc.Steady (m : Manager) (o : Outside) : OpPc → Prop
  | .applyRebuild model _ => o.writes = true → m.Rebuilds model o
  | .rollback model => o.restores = true → m.Rebuilds model o
  | .resyncRebuild model => o.writes = true → model.length ≤ o.added →
      ∀ d ∈ model, d.backend.managedWorkerConfig.isSome = true → o.spawn d.id = none
  | _ => True

/-- Rebuilds are as above, an update takes the worker configuration only of a device without a
reason, and a worker that exits is of a device with a worker configuration. -/
def steady (m : Manager) : Act → Prop
  | .op t o => ∀ pc ∈ m.ops[t]?, pc.Steady m o
  | .updateDevice id backend _ _ => backend.managedWorkerConfig = none →
      ∀ r ∈ dictGet m.devices id, (m.records r).failing = false
  | .monitor x _ => m.monitors x = .waiting → dictGet m.managed (m.states x).deviceId = some x →
      m.stopEvent = false →
        ∀ r ∈ dictGet m.devices (m.states x).deviceId, (m.records r).config.isSome = true
  | _ => True

namespace Manager

variable {m : Manager} {id : Text} {r : Nat}

/-! ## The summary -/

theorem reasons_eq_nil_iff :
    m.reasons = [] ↔ ∀ e ∈ m.devices, (m.records e.2).failing = false := by
  rw [reasons, List.filterMap_eq_nil_iff]
  constructor
  · intro h e he
    have hnone := h e (mem_sortedDevices.mpr he)
    by_contra hf
    rw [Bool.not_eq_false] at hf
    rw [if_pos hf] at hnone
    cases hnone
  · intro h e he
    exact if_neg (by rw [h e (mem_sortedDevices.mp he)]; decide)

/-- Only devices with a worker configuration have a reason, and the state is `degraded` only through
the summary. -/
structure Marked (m : Manager) : Prop where
  made : ∀ e ∈ m.devices, e.2 < m.recordsMade
  worker : ∀ e ∈ m.devices, (m.records e.2).failing = true → (m.records e.2).config.isSome = true
  named : m.runtimeState = .degraded → managedWorkersPrefix <+: m.desyncReason.getD []

/-- The state agrees with the reasons. -/
structure Summed (m : Manager) : Prop extends Marked m where
  degraded : m.runtimeState = .degraded → ∃ e ∈ m.devices, (m.records e.2).failing = true
  ready : m.runtimeState = .ready → ∀ e ∈ m.devices, (m.records e.2).failing = false

theorem Summed.degradedIsFailing (h : m.Summed) : m.DegradedIsFailing := by
  intro hstate
  refine ⟨⟨fun hd => ?_, ?_⟩, ?_⟩
  · obtain ⟨e, he, hf⟩ := h.degraded hd
    exact ⟨e, he, h.worker e he hf, hf⟩
  · rintro ⟨e, he, _, hf⟩
    refine hstate.resolve_left fun hready => ?_
    rw [h.ready hready e he] at hf
    cases hf
  · intro e he hnone
    by_contra hf
    have hsome := h.worker e he (by simpa using hf)
    rw [hnone] at hsome
    cases hsome

/-- After the summary the state agrees. -/
theorem Marked.refresh (h : m.Marked) : m.refreshManagedWorkerRuntimeState.Summed := by
  unfold refreshManagedWorkerRuntimeState
  split
  · rename_i hd
    have hne {state : RuntimeState} (hs : m.runtimeState = state) : state = .desynced :=
      hs.symm.trans hd
    exact ⟨h, fun hs => (by cases hne hs), fun hs => (by cases hne hs)⟩
  · split
    · rename_i hr
      refine ⟨⟨h.made, h.worker, fun _ => ?_⟩, fun _ => ?_, fun hs => by cases hs⟩
      · rw [List.append_assoc]
        exact List.prefix_append ..
      · by_contra hno
        refine hr (reasons_eq_nil_iff.mpr fun e he => ?_)
        by_contra hf
        exact hno ⟨e, he, Bool.not_eq_false _ ▸ hf⟩
    · rename_i hr
      have hclean := reasons_eq_nil_iff.mp (not_not.mp hr)
      split
      · exact ⟨⟨h.made, h.worker, fun hs => (by cases hs)⟩, fun hs => (by cases hs), fun _ => hclean⟩
      · rename_i hnot
        exact ⟨h, fun hs => absurd ⟨hs, h.named hs⟩ hnot, fun _ => hclean⟩

/-- Another state than `ready` and `degraded`. -/
theorem Marked.setRuntimeState (h : m.Marked) {state : RuntimeState} (hd : state ≠ .degraded)
    (hr : state ≠ .ready) (reason : Option Text) : (m.setRuntimeState state reason).Summed :=
  ⟨⟨h.made, h.worker, fun hs => absurd hs hd⟩, fun hs => absurd hs hd, fun hs => absurd hs hr⟩

theorem Marked.setRecord (h : m.Marked) {record : Record}
    (hw : record.failing = true → record.config.isSome = true) : (m.setRecord r record).Marked where
  made := h.made
  named := h.named
  worker := by
    intro e he
    by_cases hr : e.2 = r
    · rw [hr, records_setRecord_self]
      exact hw
    · rw [records_setRecord_of_ne hr]
      exact h.worker e he

/-- A record that changes and keeps its reason. -/
theorem Summed.setRecord (h : m.Summed) {record : Record}
    (hw : record.failing = true → record.config.isSome = true)
    (hf : record.failing = (m.records r).failing) : (m.setRecord r record).Summed := by
  have hsame (r' : Nat) : ((m.setRecord r record).records r').failing = (m.records r').failing := by
    by_cases hr : r' = r
    · rw [hr, records_setRecord_self, hf]
    · rw [records_setRecord_of_ne hr]
  refine ⟨h.toMarked.setRecord hw, ?_, ?_⟩
  · intro hd
    obtain ⟨e, he, hfail⟩ := h.degraded hd
    exact ⟨e, he, (hsame e.2).trans hfail⟩
  · intro hready e he
    exact (hsame e.2).trans (h.ready hready e he)

/-! ## Launch and stop -/

/-- What the summary reads. -/
def SameSummary (m m' : Manager) : Prop :=
  m'.devices = m.devices ∧ m'.records = m.records ∧ m'.recordsMade = m.recordsMade ∧
    m'.runtimeState = m.runtimeState ∧ m'.desyncReason = m.desyncReason

theorem SameSummary.trans {m₁ m₂ m₃ : Manager} (h : m₁.SameSummary m₂) (h' : m₂.SameSummary m₃) :
    m₁.SameSummary m₃ :=
  ⟨h'.1.trans h.1, h'.2.1.trans h.2.1, h'.2.2.1.trans h.2.2.1, h'.2.2.2.1.trans h.2.2.2.1,
    h'.2.2.2.2.trans h.2.2.2.2⟩

theorem Marked.congr {m' : Manager} (h : m.Marked) (hs : m.SameSummary m') : m'.Marked := by
  obtain ⟨hd, hr, hm, hst, hre⟩ := hs
  refine ⟨?_, ?_, ?_⟩
  · rw [hd, hm]
    exact h.made
  · rw [hd, hr]
    exact h.worker
  · rw [hst, hre]
    exact h.named

theorem Summed.congr {m' : Manager} (h : m.Summed) (hs : m.SameSummary m') : m'.Summed := by
  refine ⟨h.toMarked.congr hs, ?_, ?_⟩
  · rw [hs.1, hs.2.1, hs.2.2.2.1]
    exact h.degraded
  · rw [hs.1, hs.2.1, hs.2.2.2.1]
    exact h.ready

theorem sameSummary_stopManagedWorker (m : Manager) (id : Text) :
    m.SameSummary (m.stopManagedWorker id) := by
  unfold stopManagedWorker
  split <;> exact ⟨rfl, rfl, rfl, rfl, rfl⟩

theorem sameSummary_stopAll (m : Manager) (stuck : Option Nat) :
    m.SameSummary (m.stopAllManagedWorkers stuck) := by
  unfold stopAllManagedWorkers
  generalize m.managed.take _ = workers
  induction workers generalizing m with
  | nil => exact ⟨rfl, rfl, rfl, rfl, rfl⟩
  | cons e workers ih => exact (sameSummary_stopManagedWorker m e.1).trans (ih _)

theorem Summed.spawnWorker (h : m.Summed) (id : Text) (r : Nat) (worker : Worker)
    (monitor stopped : Option Nat) (count : Nat) (spawn : Option Text) :
    (m.spawnWorker id r worker monitor stopped count spawn).Summed := by
  cases spawn with
  | some exc => exact h.congr ⟨rfl, rfl, rfl, rfl, rfl⟩
  | none =>
    apply Marked.refresh
    apply Marked.setRecord
    · exact h.toMarked.congr ⟨rfl, rfl, rfl, rfl, rfl⟩
    · exact fun hf => by cases hf

theorem Summed.launchManagedWorker (h : m.Summed) (id : Text) (monitor : Option Nat) (count : Nat)
    (spawn : Option Text) : (m.launchManagedWorker id monitor count spawn).Summed := by
  unfold Manager.launchManagedWorker
  split
  · exact h
  · split
    · exact h
    · exact (h.congr (sameSummary_stopManagedWorker m id)).spawnWorker ..

/-! ## Rebuilds -/

/-- No device has a reason. -/
def Clean (m : Manager) : Prop := ∀ e ∈ m.devices, (m.records e.2).failing = false

theorem Clean.summed (h : m.Clean) (hm : m.Marked) (hd : m.runtimeState ≠ .degraded) : m.Summed :=
  ⟨hm, fun hs => absurd hs hd, fun _ => h⟩

/-- The devices of a rebuild are those of the model, new and without a reason. -/
structure Added (m : Manager) (model : List DeviceSpec) : Prop extends Marked m where
  clean : m.Clean
  spec : ∀ e ∈ m.devices, ∃ d ∈ model, d.id = e.1 ∧
    d.backend.managedWorkerConfig = (m.records e.2).config

theorem Marked.clearState (h : m.Marked) (model : List DeviceSpec) :
    Added m.clearState model := by
  have hstop := h.congr (sameSummary_stopAll m none)
  exact ⟨⟨fun _ he => (List.not_mem_nil he).elim, fun _ he => (List.not_mem_nil he).elim,
    hstop.named⟩, fun _ he => (List.not_mem_nil he).elim, fun _ he => (List.not_mem_nil he).elim⟩

theorem Added.addDevice {model : List DeviceSpec} (h : Added m model) {d : DeviceSpec}
    (hd : d ∈ model) : Added (m.addDevice d) model := by
  have hnew : (m.addDevice d).records m.recordsMade = ⟨d.backend, none, none⟩ := update_self ..
  have hold {e : Text × Nat} (he : e ∈ m.devices) :
      (m.addDevice d).records e.2 = m.records e.2 := update_of_ne (Nat.ne_of_lt (h.made e he)) ..
  have hclean : (m.addDevice d).Clean := by
    intro e he
    rcases mem_of_mem_dictSet he with rfl | he
    · rw [hnew]
      rfl
    · rw [hold he]
      exact h.clean e he
  refine ⟨⟨?_, ?_, h.named⟩, hclean, ?_⟩
  · intro e he
    rcases mem_of_mem_dictSet he with rfl | he
    · exact Nat.lt_succ_self _
    · exact Nat.lt_succ_of_lt (h.made e he)
  · intro e he hf
    rw [hclean e he] at hf
    cases hf
  · intro e he
    rcases mem_of_mem_dictSet he with rfl | he
    · rw [hnew]
      exact ⟨d, hd, rfl, rfl⟩
    · rw [hold he]
      exact h.spec e he

theorem Added.addDevices {model ds : List DeviceSpec} (h : Added m model)
    (hds : ∀ d ∈ ds, d ∈ model) : Added (m.addDevices ds) model := by
  unfold Manager.addDevices
  induction ds generalizing m with
  | nil => exact h
  | cons d ds ih =>
    exact ih (h.addDevice (hds d (.head _))) fun d' hd' => hds d' (.tail _ hd')

theorem runtimeState_addDevices (m : Manager) (ds : List DeviceSpec) :
    (m.addDevices ds).runtimeState = m.runtimeState := by
  unfold Manager.addDevices
  induction ds generalizing m with
  | nil => rfl
  | cons d ds ih => exact ih (m.addDevice d)

namespace Added

variable {model : List DeviceSpec}

theorem congr {m' : Manager} (h : Added m model) (hs : m.SameSummary m') : Added m' model := by
  refine ⟨h.toMarked.congr hs, ?_, ?_⟩
  · rw [Clean, hs.1, hs.2.1]
    exact h.clean
  · rw [hs.1, hs.2.1]
    exact h.spec

theorem refresh (h : Added m model) : Added m.refreshManagedWorkerRuntimeState model := by
  have hmarked := h.toMarked.refresh.toMarked
  obtain ⟨state, reason, heq⟩ := m.refresh_eq
  rw [heq] at hmarked ⊢
  exact ⟨hmarked, h.clean, h.spec⟩

theorem setRecord (h : Added m model) {record : Record} (hf : record.failing = false)
    (hc : record.config = (m.records r).config) : Added (m.setRecord r record) model := by
  refine ⟨h.toMarked.setRecord fun hfail => ?_, ?_, ?_⟩
  · rw [hf] at hfail
    cases hfail
  · intro e he
    by_cases hr : e.2 = r
    · rw [hr, records_setRecord_self]
      exact hf
    · rw [records_setRecord_of_ne hr]
      exact h.clean e he
  · intro e he
    obtain ⟨d, hd, hid, hconfig⟩ := h.spec e he
    refine ⟨d, hd, hid, ?_⟩
    by_cases hr : e.2 = r
    · rw [hr, records_setRecord_self, hc, ← hr]
      exact hconfig
    · rw [records_setRecord_of_ne hr]
      exact hconfig

theorem launch (h : Added m model) (id : Text) :
    Added (m.launchManagedWorker id none 0 none) model := by
  unfold Manager.launchManagedWorker
  split
  · exact h
  · split
    · exact h
    · apply Added.refresh
      apply Added.setRecord
      · exact (h.congr (sameSummary_stopManagedWorker m id)).congr ⟨rfl, rfl, rfl, rfl, rfl⟩
      · rfl
      · rfl

/-- A device of the model is started without an exception. -/
theorem startManagedWorker (h : Added m model) {spawn : Text → Option Text}
    (hs : ∀ d ∈ model, d.backend.managedWorkerConfig.isSome = true → spawn d.id = none)
    {e : Text × Nat} (he : e ∈ m.devices) : Added (m.startManagedWorker spawn e) model := by
  unfold Manager.startManagedWorker
  split
  · exact h
  · rename_i hconfig
    obtain ⟨d, hd, hid, hsame⟩ := h.spec e he
    have hnone : spawn e.1 = none := by
      rw [← hid]
      apply hs d hd
      rw [hsame]
      cases hc : (m.records e.2).config with
      | none =>
        rw [hc] at hconfig
        exact absurd rfl hconfig
      | some worker => rfl
    rw [hnone]
    exact h.launch e.1

theorem startManagedWorkers (h : Added m model) {spawn : Text → Option Text}
    (hs : ∀ d ∈ model, d.backend.managedWorkerConfig.isSome = true → spawn d.id = none) :
    Added (m.startManagedWorkers spawn) model := by
  unfold Manager.startManagedWorkers
  have hmem : ∀ e ∈ m.sortedDevices, e ∈ m.devices := fun e he => mem_sortedDevices.mp he
  generalize m.sortedDevices = es at hmem
  induction es generalizing m with
  | nil => exact h
  | cons e es ih =>
    apply ih (h.startManagedWorker hs (hmem e (.head _)))
    intro e' he'
    rw [devices_startManagedWorker]
    exact hmem e' (.tail _ he')

theorem attach (h : Added m model) (id : Text) (backend : Option BackendId) :
    Added (m.attach id backend) model := by
  unfold Manager.attach
  split
  · exact h
  · rename_i r hr
    exact h.setRecord (h.clean _ (mem_of_dictGet hr)) rfl

theorem attachAll (h : Added m model) (ds : List DeviceSpec) : Added (m.attachAll ds) model := by
  unfold Manager.attachAll
  induction ds generalizing m with
  | nil => exact h
  | cons d ds ih =>
    apply ih
    dsimp only
    split
    · exact h
    · exact h.attach _ _

/-- A rebuild ends in `ready` with no reason, or raises outside `degraded`. -/
theorem applyModelLocked (h : Added m model) {added : Nat} {spawn : Text → Option Text}
    (hraise : added < model.length → m.runtimeState ≠ .degraded)
    (hall : ¬ added < model.length →
      ∀ d ∈ model, d.backend.managedWorkerConfig.isSome = true → spawn d.id = none) :
    (m.applyModelLocked model added spawn).Summed := by
  have hloaded : Added { m with loaded := true } model := h.congr ⟨rfl, rfl, rfl, rfl, rfl⟩
  have hadded : Added ({ m with loaded := true }.addDevices (model.take added)) model :=
    hloaded.addDevices fun d hd => List.mem_of_mem_take hd
  unfold Manager.applyModelLocked
  dsimp only
  split
  · rename_i hlt
    refine hadded.clean.summed hadded.toMarked ?_
    rw [runtimeState_addDevices]
    exact hraise hlt
  · rename_i hlt
    have hready := (hadded.startManagedWorkers (hall hlt)).attachAll model
    exact ⟨⟨hready.made, hready.worker, fun hs => (by cases hs)⟩, fun hs => (by cases hs),
      fun _ => hready.clean⟩

end Added

/-! ## Steps -/

theorem runtimeState_clearState (m : Manager) : m.clearState.runtimeState = m.runtimeState :=
  (sameSummary_stopAll m none).2.2.2.1

namespace Summed

theorem setOp (h : m.Summed) (t : Nat) (pc : OpPc) : (m.setOp t pc).Summed :=
  h.congr ⟨rfl, rfl, rfl, rfl, rfl⟩

theorem setMonitor (h : m.Summed) (x : Nat) (pc : MonitorPc) : (m.setMonitor x pc).Summed :=
  h.congr ⟨rfl, rfl, rfl, rfl, rfl⟩

theorem rebuild (h : m.Summed) {model : List DeviceSpec} {o : Outside} (hok : m.Rebuilds model o) :
    (m.clearState.applyModelLocked model o.added o.spawn).Summed := by
  apply (h.toMarked.clearState model).applyModelLocked
  · intro hlt
    rw [Rebuilds, if_pos hlt] at hok
    rw [runtimeState_clearState]
    exact hok
  · intro hlt
    rw [Rebuilds, if_neg hlt] at hok
    exact hok

theorem opStep (h : m.Summed) {m' : Manager} {t : Nat} {o : Outside} {pc : OpPc}
    (hok : pc.Steady m o) (hs : m.opStep t o pc = some m') : m'.Summed := by
  cases opMoves_of_opStep hs with
  | stays => exact h.setOp ..
  | unstopped => exact (h.congr (sameSummary_stopAll m o.stuck)).setOp ..
  | desynced => exact (h.toMarked.setRuntimeState (by decide) (by decide) _).setOp ..
  | cleared =>
    have hclear := (h.toMarked.clearState []).toMarked
    exact (hclear.setRuntimeState (by decide) (by decide) _).setOp ..
  | applied hw => exact (h.rebuild (hok hw)).setOp ..
  | restored hr => exact (h.rebuild (hok hr)).setOp ..
  | @resynced model _ hw =>
    have hcleared := h.toMarked.clearState model
    have happlying : Added (m.clearState.setRuntimeState .applying none) model :=
      ⟨⟨hcleared.made, hcleared.worker, fun hs => (by cases hs)⟩, hcleared.clean, hcleared.spec⟩
    apply Summed.setOp
    apply happlying.applyModelLocked
    · exact fun _ hs => by cases hs
    · exact fun hlt => hok hw (Nat.le_of_not_lt hlt)

theorem updateDevice (h : m.Summed) {backend : Backend} (builds : Bool) (spawn : Option Text)
    (hok : backend.managedWorkerConfig = none →
      ∀ r ∈ dictGet m.devices id, (m.records r).failing = false) :
    (m.updateDevice id backend builds spawn).Summed := by
  unfold Manager.updateDevice
  split
  · exact h
  · rename_i r hr
    have hset : (m.setRecord r { m.records r with backend := backend }).Summed := by
      refine h.setRecord (fun hf => ?_) rfl
      show backend.managedWorkerConfig.isSome = true
      cases hc : backend.managedWorkerConfig with
      | none => exact absurd ((hok hc r hr).symm.trans hf) (by decide)
      | some worker => rfl
    have hstop := hset.congr (sameSummary_stopManagedWorker _ id)
    dsimp only
    split
    · exact hset
    · split
      · exact hset
      · split
        · split
          · exact hstop.launchManagedWorker ..
          · exact hset.launchManagedWorker ..
        · split
          · exact hstop
          · exact hset

theorem attach (h : m.Summed) (id : Text) (backend : Option BackendId) :
    (m.attach id backend).Summed := by
  unfold Manager.attach
  split
  · exact h
  · rename_i r hr
    exact h.setRecord (h.worker _ (mem_of_dictGet hr)) rfl

theorem attachBackend (h : m.Summed) (backend : BackendId) (ids : List Text) :
    (m.attachBackend backend ids).Summed := by
  unfold Manager.attachBackend
  split
  · clear * - h
    induction ids generalizing m with
    | nil => exact h
    | cons id ids ih => exact ih (h.attach id _)
  · exact h

theorem detachBackend (h : m.Summed) (backend : BackendId) (ids : List Text) :
    (m.detachBackend backend ids).Summed := by
  unfold Manager.detachBackend
  induction ids generalizing m with
  | nil => exact h
  | cons id ids ih =>
    apply ih
    show (m.detachOne backend id).Summed
    unfold detachOne
    split
    · exact h
    · split
      · exact h.attach id none
      · exact h

/-- A reason is set, or taken away, and summed up. -/
theorem setDegradedReason (h : m.Marked) (id : Text) {reason : Option Text}
    (hw : ∀ r ∈ dictGet m.devices id, reason ≠ none → (m.records r).config.isSome = true) :
    (m.setDegradedReason id reason).refreshManagedWorkerRuntimeState.Summed := by
  apply Marked.refresh
  unfold Manager.setDegradedReason
  split
  · exact h
  · rename_i r hr
    apply h.setRecord
    intro hf
    cases reason with
    | none => cases hf
    | some message => exact hw r hr (by simp)

theorem monitorStep (h : m.Summed) {m' : Manager} {x : Nat} {spawn : Option Text}
    (hok : steady m (.monitor x spawn)) (hs : m.monitorStep x spawn = some m') : m'.Summed := by
  unfold Manager.monitorStep at hs
  dsimp only at hs
  split at hs
  · rename_i hpc
    obtain ⟨code, _, rfl⟩ := Option.map_eq_some_iff.mp hs
    unfold workerExited
    dsimp only
    split
    · exact h.setMonitor ..
    · rename_i hcurrent
      have hpop : (m.popWorker (m.states x).deviceId).Marked :=
        h.toMarked.congr ⟨rfl, rfl, rfl, rfl, rfl⟩
      split
      · exact (setDegradedReason hpop _ fun _ _ hne => absurd rfl hne).setMonitor ..
      · rename_i hgo
        simp only [Bool.or_eq_true, not_or, Bool.not_eq_true] at hgo
        apply Summed.setMonitor
        exact setDegradedReason hpop _ fun r hr _ => hok hpc (not_not.mp hcurrent) hgo.2 r hr
  · split at hs <;> cases hs <;> exact h.setMonitor ..
  · cases hs
    exact h.toMarked.refresh.setMonitor ..
  · split at hs <;> cases hs
    · exact h.setMonitor ..
    · exact (h.setMonitor ..).launchManagedWorker ..
  · cases hs

theorem step {a : Act} {m' : Manager} (h : m.Summed) (hok : steady m a)
    (hs : Workers.step m a = some m') : m'.Summed := by
  have hbegin {t : Nat} {blocked : Bool} {next : Manager} (hnext : next.Summed)
      (hs : m.begin t blocked next = some m') : m'.Summed := by
    unfold Manager.begin at hs
    split at hs
    · split at hs <;> cases hs
      exact hnext
    · cases hs
  cases a with
  | applyModel t model =>
    exact hbegin ((h.toMarked.setRuntimeState (by decide) (by decide) _).setOp ..) hs
  | resetRuntime t => exact hbegin (h.setOp ..) hs
  | resyncRuntime t restores =>
    refine hbegin ?_ hs
    split
    · exact h.setOp ..
    · exact h
  | op t o =>
    obtain ⟨pc, hpc, hs⟩ := Option.bind_eq_some_iff.mp hs
    exact h.opStep (hok pc hpc) hs
  | updateDevice id backend builds spawn =>
    simp only [Workers.step, Option.ite_none_left_eq_some, Option.some.injEq] at hs
    exact hs.2 ▸ h.updateDevice builds spawn hok
  | attachBackend backend ids =>
    simp only [Workers.step, Option.ite_none_left_eq_some, Option.some.injEq] at hs
    exact hs.2 ▸ h.attachBackend backend ids
  | detachBackend backend ids =>
    simp only [Workers.step, Option.ite_none_left_eq_some, Option.some.injEq] at hs
    exact hs.2 ▸ h.detachBackend backend ids
  | workerExits x code =>
    simp only [Workers.step, Option.ite_none_right_eq_some, Option.some.injEq] at hs
    exact hs.2 ▸ h.congr ⟨rfl, rfl, rfl, rfl, rfl⟩
  | sendFails x =>
    simp only [Workers.step, Option.ite_none_right_eq_some, Option.some.injEq] at hs
    exact hs.2 ▸ h.congr ⟨rfl, rfl, rfl, rfl, rfl⟩
  | monitor x spawn =>
    simp only [Workers.step, Option.ite_none_right_eq_some] at hs
    exact h.monitorStep hok hs.2
  | desync reason =>
    cases hs
    exact h.toMarked.setRuntimeState (by decide) (by decide) _
  | setStopEvent =>
    cases hs
    exact h.congr ⟨rfl, rfl, rfl, rfl, rfl⟩
  | stopAll stuck =>
    cases hs
    exact h.congr (sameSummary_stopAll m stuck)

end Summed

theorem summed_start (n : Nat) : (start n).Summed :=
  ⟨⟨fun _ he => (List.not_mem_nil he).elim, fun _ he => (List.not_mem_nil he).elim,
    fun hs => (by cases hs)⟩, fun hs => (by cases hs), fun hs => (by cases hs)⟩

end Manager

/-- In every run in which a rebuild that takes all devices launches all workers, one that raises
does not start from `degraded`, an update takes a worker configuration only where there is no
reason, and a worker that exits is of a device with a worker configuration, `degraded` means
exactly that a managed worker is failing. -/
theorem degraded_iff_failing {n : Nat} {m : Manager} (h : Reach step steady (start n) m) :
    m.DegradedIsFailing := by
  have hsummed : m.Summed :=
    h.invariant (I := Manager.Summed) (Manager.summed_start n) fun m a m' hm hok hs => hm.step hok hs
  exact hsummed.degradedIsFailing

/-! ## Schedules -/

instance (m : Manager) (model : List DeviceSpec) (o : Outside) : Decidable (m.Rebuilds model o) :=
  inferInstanceAs (Decidable (ite _ _ _))

instance (m : Manager) (o : Outside) (pc : OpPc) : Decidable (pc.Steady m o) :=
  match pc with
  | .applyRebuild model _ => inferInstanceAs (Decidable (o.writes = true → m.Rebuilds model o))
  | .rollback model => inferInstanceAs (Decidable (o.restores = true → m.Rebuilds model o))
  | .resyncRebuild model => inferInstanceAs (Decidable (o.writes = true → model.length ≤ o.added →
      ∀ d ∈ model, d.backend.managedWorkerConfig.isSome = true → o.spawn d.id = none))
  | .idle | .discard _ | .applyDesync | .resetClear | .resyncFailed => .isTrue trivial

instance (m : Manager) (a : Act) : Decidable (steady m a) :=
  match a with
  | .op t o => inferInstanceAs (Decidable (∀ pc ∈ m.ops[t]?, pc.Steady m o))
  | .updateDevice id backend _ _ => inferInstanceAs (Decidable
      (backend.managedWorkerConfig = none →
        ∀ r ∈ dictGet m.devices id, (m.records r).failing = false))
  | .monitor x _ => inferInstanceAs (Decidable
      (m.monitors x = .waiting → dictGet m.managed (m.states x).deviceId = some x →
        m.stopEvent = false →
          ∀ r ∈ dictGet m.devices (m.states x).deviceId, (m.records r).config.isSome = true))
  | .applyModel _ _ | .resetRuntime _ | .resyncRuntime _ _ | .attachBackend _ _ | .detachBackend _ _
  | .workerExits _ _ | .sendFails _ | .desync _ | .setStopEvent | .stopAll _ => .isTrue trivial

def sensorWorker : Worker := ⟨[text "python3", text "sensor.py"], 3, 250, none, []⟩

def sensorSpec : DeviceSpec := ⟨text "sensor0", .controller (some sensorWorker), none⟩

/-- The kernel takes the device, and the launch ends with `exc`. -/
def sensorOutside (exc : Option Text) : Outside := ⟨true, true, 1, fun _ => exc, [], none⟩

def applySensor (exc : Option Text) : List Act :=
  [.applyModel 0 [sensorSpec], .op 0 (sensorOutside exc)]

/-- A worker that exits, until its monitor has noticed. -/
theorem degraded_iff_failing_exit :
    ∃ m : Manager, m.runtimeState = .degraded ∧ m.DegradedIsFailing := by
  have hrun : (exec (guarded step steady) (start 1)
      (applySensor none ++ [.workerExits 0 1, .monitor 0 none])).map Manager.runtimeState =
      some .degraded := by
    decide +kernel
  obtain ⟨m, hexec, hview⟩ := Option.map_eq_some_iff.mp hrun
  exact ⟨m, hview, degraded_iff_failing (reach_of_exec hexec)⟩

/-- A launch that raises in an apply: the state is `ready` and the device has a reason. -/
theorem ready_with_failing_worker :
    ∃ m : Manager, Reach step anyStep (start 1) m ∧ m.runtimeState = .ready ∧ m.WorkerFailing ∧
      ¬ m.DegradedIsFailing := by
  have hrun : (exec (guarded step anyStep) (start 1)
      (applySensor (some (text "No such file or directory")))).map (fun m =>
        decide (m.runtimeState = .ready) && decide (m.devices = [(text "sensor0", 0)]) &&
          (m.records 0).config.isSome && (m.records 0).failing) = some true := by
    decide +kernel
  obtain ⟨m, hexec, hview⟩ := Option.map_eq_some_iff.mp hrun
  simp only [Bool.and_eq_true, decide_eq_true_eq] at hview
  obtain ⟨⟨⟨hready, hdevices⟩, hconfig⟩, hfailing⟩ := hview
  have hworker : m.WorkerFailing := ⟨(text "sensor0", 0), hdevices ▸ .head _, hconfig, hfailing⟩
  refine ⟨m, reach_of_exec hexec, hready, hworker, fun h => ?_⟩
  have hdegraded := (h (.inl hready)).1.mpr hworker
  rw [hready] at hdegraded
  cases hdegraded

end Sensorium.Workers

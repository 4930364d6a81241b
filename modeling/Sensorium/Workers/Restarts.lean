import Sensorium.Lib.Chains
import Sensorium.Workers.OwnWorker

/-!
# How often workers are launched

A worker that exits has one monitor, which launches at most once, with the count of the worker plus
one and only within the limit that the worker was launched with.  So the workers that monitors have
launched stand in chains, one behind each launch by an operation.
-/

namespace Sensorium.Workers

open Lib Function
open Sensorium.Model (Worker)
open Sensorium.Inventory (BackendId RuntimeState)

/-- A launch by an operation that starts a process. -/
def Attempt.startedByOperator (a : Attempt) : Bool := a.monitor.isNone && a.started.isSome

namespace Manager

/-! ## Chains -/

section

variable (m : Manager)

/-- An operation has launched `x`. -/
def ByOperator (x : Nat) : Prop := ∃ a ∈ m.attempts, a.monitor = none ∧ a.started = some x

/-- The monitor of `y` has launched `x`. -/
def Restarted (y x : Nat) : Prop := ∃ a ∈ m.attempts, a.monitor = some y ∧ a.started = some x

/-- How many processes have been launched, and how many of them by operations. -/
def launches : Nat := m.attempts.countP fun a => a.started.isSome

def operatorLaunches : Nat := m.attempts.countP Attempt.startedByOperator

/-- The worker `root` and what monitors have launched behind it, with the counts 1, 2 and so on,
each within the limit of the worker that exited. -/
structure RestartChain (root : Nat) (chain : List Nat) : Prop where
  head : chain[0]? = some root
  restarted : ∀ i y x, chain[i]? = some y → chain[i + 1]? = some x →
    m.Restarted y x ∧ (m.states x).deviceId = (m.states y).deviceId ∧
      (m.states x).restartCount = i + 1 ∧ i + 1 ≤ (m.states y).restartLimit
  all : ∀ y ∈ chain, ∀ x, m.Restarted y x → x ∈ chain

/-! ## The invariant -/

/-- What the history of launches says of the workers and of their monitors. -/
structure Linked : Prop where
  launched : ∀ x < m.statesMade, ∃ a ∈ m.attempts, a.started = some x
  made : ∀ a ∈ m.attempts, ∀ x, a.started = some x → x < m.statesMade
  operator : ∀ a ∈ m.attempts, a.monitor = none → ∀ x, a.started = some x →
    (m.states x).restartCount = 0
  monitor : ∀ a ∈ m.attempts, ∀ y, a.monitor = some y →
    y < m.statesMade ∧ m.monitors y = .over ∧
      (m.states y).restartCount + 1 ≤ (m.states y).restartLimit ∧
      ∀ x, a.started = some x → (m.states x).deviceId = (m.states y).deviceId ∧
        (m.states x).restartCount = (m.states y).restartCount + 1
  once : ∀ a ∈ m.attempts, ∀ b ∈ m.attempts, ∀ y, a.monitor = some y → b.monitor = some y → a = b
  sleeping : ∀ y, m.monitors y = .backoff →
    (m.states y).restartCount + 1 ≤ (m.states y).restartLimit
  launches : m.launches = m.statesMade
  operators : m.operatorLaunches =
    (List.range m.statesMade).countP fun x => (m.states x).restartCount = 0

/-- Workers, monitors and launches are the same, as far as chains go. -/
structure SameChains (m' : Manager) : Prop where
  deviceId : ∀ x, (m'.states x).deviceId = (m.states x).deviceId
  count : ∀ x, (m'.states x).restartCount = (m.states x).restartCount
  limit : ∀ x, (m'.states x).restartLimit = (m.states x).restartLimit
  monitors : m'.monitors = m.monitors
  statesMade : m'.statesMade = m.statesMade
  attempts : m'.attempts = m.attempts

end

variable {m m' : Manager} {id : Text} {r x : Nat}

theorem SameWorkers.sameChains (h : m.SameWorkers m') : m.SameChains m' :=
  ⟨h.deviceId, h.count, h.limit, h.monitors, h.statesMade, h.attempts⟩

theorem SameChains.refl (m : Manager) : m.SameChains m := (SameWorkers.refl m).sameChains

theorem Linked.congr (h : m.Linked) (hs : m.SameChains m') : m'.Linked where
  launched := by
    rw [hs.statesMade, hs.attempts]
    exact h.launched
  made := by
    rw [hs.statesMade, hs.attempts]
    exact h.made
  operator := by
    rw [hs.attempts]
    intro a ha hnone x hx
    rw [hs.count]
    exact h.operator a ha hnone x hx
  monitor := by
    rw [hs.attempts, hs.monitors, hs.statesMade]
    intro a ha y hy
    obtain ⟨hlt, hover, hlimit, hstarted⟩ := h.monitor a ha y hy
    rw [hs.count, hs.limit]
    refine ⟨hlt, hover, hlimit, fun x hx => ?_⟩
    rw [hs.deviceId, hs.deviceId, hs.count]
    exact hstarted x hx
  once := by
    rw [hs.attempts]
    exact h.once
  sleeping := by
    rw [hs.monitors]
    intro y hy
    rw [hs.count, hs.limit]
    exact h.sleeping y hy
  launches := by
    rw [Manager.launches, hs.attempts, hs.statesMade]
    exact h.launches
  operators := by
    rw [operatorLaunches, hs.attempts, hs.statesMade]
    simp only [hs.count]
    exact h.operators

/-! ## Launches -/

/-- What lets a launch into the history: an operation counts from zero, and a monitor counts on. -/
def Admits (m : Manager) (a : Attempt) (count : Nat) : Prop :=
  (a.monitor = none → count = 0) ∧
  ∀ y, a.monitor = some y → y < m.statesMade ∧ m.monitors y = .over ∧
    (m.states y).deviceId = a.deviceId ∧ count = (m.states y).restartCount + 1 ∧
    (m.states y).restartCount + 1 ≤ (m.states y).restartLimit ∧ ∀ b ∈ m.attempts, b.monitor ≠ some y

/-- The monitors of the history are those of before and perhaps a new one. -/
theorem Linked.once_cons (h : m.Linked) {a : Attempt}
    (hnew : ∀ y, a.monitor = some y → ∀ b ∈ m.attempts, b.monitor ≠ some y) :
    ∀ b ∈ a :: m.attempts, ∀ c ∈ a :: m.attempts, ∀ y, b.monitor = some y →
      c.monitor = some y → b = c := by
  intro b hb c hc y hby hcy
  rcases List.mem_cons.mp hb with rfl | hb'
  · rcases List.mem_cons.mp hc with rfl | hc'
    · rfl
    · exact absurd hcy (hnew y hby c hc')
  · rcases List.mem_cons.mp hc with rfl | hc'
    · exact absurd hby (hnew y hcy b hb')
    · exact h.once b hb' c hc' y hby hcy

/-- A launch that raises starts no process. -/
theorem Linked.spawnRaises (h : m.Linked) {a : Attempt} {count : Nat} (ha : a.started = none)
    (hadmits : m.Admits a count) : Linked { m with attempts := a :: m.attempts } where
  launched x hx := by
    obtain ⟨b, hb, hstarted⟩ := h.launched x hx
    exact ⟨b, List.mem_cons_of_mem _ hb, hstarted⟩
  made b hb x hx := by
    rcases List.mem_cons.mp hb with rfl | hb
    · rw [ha] at hx
      cases hx
    · exact h.made b hb x hx
  operator b hb hnone x hx := by
    rcases List.mem_cons.mp hb with rfl | hb
    · rw [ha] at hx
      cases hx
    · exact h.operator b hb hnone x hx
  monitor b hb y hy := by
    rcases List.mem_cons.mp hb with rfl | hb
    · obtain ⟨hlt, hover, -, -, hlimit, -⟩ := hadmits.2 y hy
      refine ⟨hlt, hover, hlimit, fun x hx => ?_⟩
      rw [ha] at hx
      cases hx
    · exact h.monitor b hb y hy
  once := h.once_cons fun y hy => (hadmits.2 y hy).2.2.2.2.2
  sleeping := h.sleeping
  launches := by
    rw [Manager.launches, List.countP_cons_of_neg (by rw [ha]; exact Bool.false_ne_true)]
    exact h.launches
  operators := by
    have hnone : ¬ a.startedByOperator = true := by
      rw [Attempt.startedByOperator, ha, Option.isSome_none, Bool.and_false]
      exact Bool.false_ne_true
    rw [operatorLaunches, List.countP_cons_of_neg hnone]
    exact h.operators

/-- The launches of operations are still as many as the workers with count 0. -/
theorem Linked.operators_register (h : m.Linked) {state : WorkerState} {a : Attempt}
    (hstarted : a.started = some m.statesMade) (hadmits : m.Admits a state.restartCount) :
    (m.registered state a).operatorLaunches = (List.range (m.statesMade + 1)).countP
      fun x => ((m.registered state a).states x).restartCount = 0 := by
  have hnew : (m.registered state a).states m.statesMade = state := update_self ..
  have hold : (List.range m.statesMade).countP
      (fun x => ((m.registered state a).states x).restartCount = 0) = m.operatorLaunches := by
    rw [h.operators]
    refine List.countP_congr fun x hx => ?_
    rw [states_registered (List.mem_range.mp hx)]
  show (a :: m.attempts).countP _ = (List.range (m.statesMade + 1)).countP _
  rw [List.range_succ, List.countP_append, hold, List.countP_singleton, hnew]
  cases hmonitor : a.monitor with
  | none =>
    have hsome : a.startedByOperator = true := by
      rw [Attempt.startedByOperator, hmonitor, hstarted]
      rfl
    rw [List.countP_cons_of_pos hsome, hadmits.1 hmonitor]
    rfl
  | some y =>
    have hcount : ¬ state.restartCount = 0 := by
      rw [(hadmits.2 y hmonitor).2.2.2.1]
      exact Nat.succ_ne_zero _
    have hnone : ¬ a.startedByOperator = true := by
      rw [Attempt.startedByOperator, hmonitor]
      exact Bool.false_ne_true
    rw [List.countP_cons_of_neg hnone, decide_eq_false hcount]
    rfl

/-- A launch that returns starts the next worker. -/
theorem Linked.register (h : m.Linked) {state : WorkerState} {a : Attempt}
    (hid : a.deviceId = state.deviceId) (hstarted : a.started = some m.statesMade)
    (hadmits : m.Admits a state.restartCount) : (m.registered state a).Linked where
  launched x hx := by
    rcases Nat.lt_succ_iff_lt_or_eq.mp hx with hlt | rfl
    · obtain ⟨b, hb, hstarted⟩ := h.launched x hlt
      exact ⟨b, List.mem_cons_of_mem _ hb, hstarted⟩
    · exact ⟨a, List.mem_cons_self, hstarted⟩
  made b hb x hx := by
    rcases List.mem_cons.mp hb with rfl | hb
    · cases hstarted.symm.trans hx
      exact Nat.lt_succ_self _
    · exact Nat.lt_succ_of_lt (h.made b hb x hx)
  operator b hb hnone x hx := by
    rcases List.mem_cons.mp hb with rfl | hb
    · cases hstarted.symm.trans hx
      rw [show (m.registered state b).states m.statesMade = state from update_self ..]
      exact hadmits.1 hnone
    · rw [states_registered (h.made b hb x hx)]
      exact h.operator b hb hnone x hx
  monitor b hb y hy := by
    rcases List.mem_cons.mp hb with rfl | hb
    · -- the new worker counts on from the one whose monitor started it
      obtain ⟨hlt, hover, hdevice, hcount, hlimit, -⟩ := hadmits.2 y hy
      rw [states_registered hlt, monitors_registered hlt]
      refine ⟨Nat.lt_succ_of_lt hlt, hover, hlimit, fun x hx => ?_⟩
      cases hstarted.symm.trans hx
      rw [show (m.registered state b).states m.statesMade = state from update_self ..]
      exact ⟨hid.symm.trans hdevice.symm, hcount⟩
    · obtain ⟨hlt, hover, hlimit, hall⟩ := h.monitor b hb y hy
      rw [states_registered hlt, monitors_registered hlt]
      refine ⟨Nat.lt_succ_of_lt hlt, hover, hlimit, fun x hx => ?_⟩
      rw [states_registered (h.made b hb x hx)]
      exact hall x hx
  once := h.once_cons fun y hy => (hadmits.2 y hy).2.2.2.2.2
  sleeping y hy := by
    by_cases hlast : y = m.statesMade
    · -- the new monitor waits
      rw [hlast, show (m.registered state a).monitors m.statesMade = .waiting from
        update_self ..] at hy
      cases hy
    · rw [show (m.registered state a).monitors y = m.monitors y from update_of_ne hlast ..] at hy
      rw [show (m.registered state a).states y = m.states y from update_of_ne hlast ..]
      exact h.sleeping y hy
  launches := by
    show (a :: m.attempts).countP _ = m.statesMade + 1
    rw [List.countP_cons_of_pos (by rw [hstarted]; rfl), ← h.launches]
    rfl
  operators := h.operators_register hstarted hadmits

theorem sameChains_stop (m : Manager) (id : Text) : m.SameChains (m.stopManagedWorker id) := by
  have h := m.sameWorkers_stop id
  exact ⟨h.deviceId, h.count, h.limit, h.monitors, h.statesMade, h.attempts⟩

theorem Linked.launchManagedWorker (h : m.Linked) {monitor : Option Nat} {count : Nat}
    (spawn : Option Text)
    (hadmits : ∀ r worker stopped started,
      m.Admits ⟨id, monitor, r, worker, stopped, started⟩ count) :
    (m.launchManagedWorker id monitor count spawn).Linked := by
  have hsame := m.sameChains_stop id
  have hstop := h.congr hsame
  have hadmits' (r worker stopped started) :
      (m.stopManagedWorker id).Admits ⟨id, monitor, r, worker, stopped, started⟩ count := by
    refine ⟨(hadmits r worker stopped started).1, fun y hy => ?_⟩
    rw [hsame.statesMade, hsame.monitors, hsame.deviceId, hsame.count, hsame.limit, hsame.attempts]
    exact (hadmits r worker stopped started).2 y hy
  unfold Manager.launchManagedWorker
  split
  · exact h
  · split
    · exact h
    · cases spawn with
      | some exc => exact hstop.spawnRaises rfl (hadmits' ..)
      | none =>
        refine Linked.congr ?_ (sameWorkers_spawn ..).sameChains
        exact hstop.register rfl rfl (hadmits' ..)

theorem Linked.launchByOperator (h : m.Linked) (id : Text) (spawn : Option Text) :
    (m.launchManagedWorker id none 0 spawn).Linked :=
  h.launchManagedWorker spawn fun _ _ _ _ => ⟨fun _ => rfl, fun _ hy => by cases hy⟩

/-! ## Monitors -/

theorem Linked.setMonitor (h : m.Linked) {pc : MonitorPc} (hlive : m.monitors x ≠ .over)
    (hsleeps : pc = .backoff → (m.states x).restartCount + 1 ≤ (m.states x).restartLimit) :
    (m.setMonitor x pc).Linked := by
  refine { h with monitor := fun a ha y hy => ?_, sleeping := fun y hy => ?_ }
  · obtain ⟨hlt, hover, hrest⟩ := h.monitor a ha y hy
    have hne : y ≠ x := by
      rintro rfl
      exact hlive hover
    exact ⟨hlt, (update_of_ne hne ..).trans hover, hrest⟩
  · by_cases hyx : y = x
    · rw [hyx, show (m.setMonitor x pc).monitors x = pc from update_self ..] at hy
      rw [hyx]
      exact hsleeps hy
    · rw [show (m.setMonitor x pc).monitors y = m.monitors y from update_of_ne hyx ..] at hy
      exact h.sleeping y hy

theorem Linked.workerExited (h : m.Linked) (hlive : m.monitors x ≠ .over) (code : Int) :
    (m.workerExited x code).Linked := by
  have hset {m' : Manager} (hs : m.SameChains m') {pc : MonitorPc} (hpc : pc ≠ .backoff) :
      (m'.setMonitor x pc).Linked := by
    refine (h.congr hs).setMonitor ?_ fun hback => absurd hback hpc
    rw [hs.monitors]
    exact hlive
  have hpop {m' : Manager} (hs : (m.popWorker (m.states x).deviceId).SameWorkers m') :
      m.SameChains m' :=
    ⟨hs.deviceId, hs.count, hs.limit, hs.monitors, hs.statesMade, hs.attempts⟩
  unfold Manager.workerExited
  dsimp only
  split
  · exact hset (SameChains.refl m) (by decide)
  · split
    · refine hset (hpop ?_) (by decide)
      exact (SameWorkers.setDegradedReason ..).trans (SameWorkers.refresh _)
    · exact hset (hpop (SameWorkers.recordFailure ..)) MonitorPc.noConfusion

theorem Linked.monitorStep (h : m.Linked) {spawn : Option Text} (hx : x < m.statesMade)
    (hs : m.monitorStep x spawn = some m') : m'.Linked := by
  unfold Manager.monitorStep at hs
  dsimp only at hs
  split at hs
  · rename_i hpc
    obtain ⟨code, -, rfl⟩ := Option.map_eq_some_iff.mp hs
    exact h.workerExited (by rw [hpc]; decide) code
  · rename_i configured hpc
    have hlive : m.monitors x ≠ .over := by
      rw [hpc]
      exact MonitorPc.noConfusion
    split at hs
    · cases hs
      exact h.setMonitor hlive MonitorPc.noConfusion
    · -- the limit was checked
      rename_i hgo
      simp only [Bool.or_eq_true, not_or, decide_eq_true_eq, Nat.not_lt] at hgo
      cases hs
      exact h.setMonitor hlive fun _ => hgo.1.2
  · rename_i hpc
    cases hs
    have hsame := (SameWorkers.refresh m).sameChains
    refine (h.congr hsame).setMonitor ?_ MonitorPc.noConfusion
    rw [hsame.monitors, hpc]
    decide
  · rename_i hpc
    have hover : (m.setMonitor x .over).Linked :=
      h.setMonitor (by rw [hpc]; decide) MonitorPc.noConfusion
    split at hs <;> cases hs
    · exact hover
    · refine hover.launchManagedWorker spawn fun r worker stopped started => ⟨?_, ?_⟩
      · intro hnone
        cases hnone
      · rintro y ⟨⟩
        refine ⟨hx, update_self .., rfl, rfl, h.sleeping x hpc, fun b hb hmonitor => ?_⟩
        -- a monitor that has launched is over
        have hdone := (h.monitor b hb x hmonitor).2.1
        rw [hpc] at hdone
        cases hdone
  · cases hs

/-! ## Operations -/

theorem SameChains.trans {m₁ m₂ m₃ : Manager} (h : m₁.SameChains m₂) (h' : m₂.SameChains m₃) :
    m₁.SameChains m₃ where
  deviceId x := (h'.deviceId x).trans (h.deviceId x)
  count x := (h'.count x).trans (h.count x)
  limit x := (h'.limit x).trans (h.limit x)
  monitors := h'.monitors.trans h.monitors
  statesMade := h'.statesMade.trans h.statesMade
  attempts := h'.attempts.trans h.attempts

theorem SameChains.foldl {α : Type} {f : Manager → α → Manager} (hf : ∀ m a, SameChains m (f m a))
    (m : Manager) (as : List α) : m.SameChains (as.foldl f m) := by
  induction as generalizing m with
  | nil => exact SameChains.refl m
  | cons a as ih => exact (hf m a).trans (ih _)

theorem sameChains_stopAll (m : Manager) (stuck : Option Nat) :
    m.SameChains (m.stopAllManagedWorkers stuck) := by
  apply SameChains.foldl
  intro m e
  exact m.sameChains_stop e.1

theorem sameChains_clearState (m : Manager) : m.SameChains m.clearState := by
  have h := m.sameChains_stopAll none
  exact ⟨h.deviceId, h.count, h.limit, h.monitors, h.statesMade, h.attempts⟩

theorem sameChains_addDevices (m : Manager) (ds : List DeviceSpec) :
    m.SameChains (m.addDevices ds) := by
  refine SameChains.foldl (fun m d => ?_) m ds
  exact ⟨fun _ => rfl, fun _ => rfl, fun _ => rfl, rfl, rfl, rfl⟩

theorem Linked.startManagedWorker (h : m.Linked) (spawn : Text → Option Text) (e : Text × Nat) :
    (m.startManagedWorker spawn e).Linked := by
  unfold Manager.startManagedWorker
  split
  · exact h
  · split
    · exact h.launchByOperator e.1 none
    · exact (h.launchByOperator e.1 _).congr (SameWorkers.recordFailure ..).sameChains

theorem Linked.startManagedWorkers (h : m.Linked) (spawn : Text → Option Text) :
    (m.startManagedWorkers spawn).Linked := by
  unfold Manager.startManagedWorkers
  generalize m.sortedDevices = es
  induction es generalizing m with
  | nil => exact h
  | cons e es ih => exact ih (h.startManagedWorker spawn e)

/-- Every device of a rebuild is launched by the operation. -/
theorem Linked.rebuild (h : m.Linked) (model : List DeviceSpec) (o : Outside)
    (hs : m.SameChains m') : (m'.applyModelLocked model o.added o.spawn).Linked := by
  have hloaded : m'.SameChains { m' with loaded := true } :=
    ⟨fun _ => rfl, fun _ => rfl, fun _ => rfl, rfl, rfl, rfl⟩
  have hadded := h.congr ((hs.trans hloaded).trans (sameChains_addDevices _ (model.take o.added)))
  unfold Manager.applyModelLocked
  dsimp only
  split
  · exact hadded
  · refine (hadded.startManagedWorkers o.spawn).congr ?_
    exact ((SameWorkers.attachAll ..).trans (SameWorkers.setRuntimeState ..)).sameChains

theorem Linked.opStep (h : m.Linked) {t : Nat} {o : Outside} {pc : OpPc}
    (hs : m.opStep t o pc = some m') : m'.Linked := by
  -- of all the sections only a rebuild launches workers
  have hrebuild (model : List DeviceSpec) (next : OpPc) {m₁ : Manager} (hs : m.SameChains m₁) :
      ((m₁.applyModelLocked model o.added o.spawn).setOp t next).Linked :=
    (h.rebuild model o hs).congr (SameWorkers.setOp ..).sameChains
  cases opMoves_of_opStep hs with
  | stays => exact h.congr (SameWorkers.setOp ..).sameChains
  | unstopped =>
    exact (h.congr (m.sameChains_stopAll o.stuck)).congr (SameWorkers.setOp ..).sameChains
  | desynced =>
    exact h.congr ((SameWorkers.setRuntimeState ..).trans (SameWorkers.setOp ..)).sameChains
  | cleared =>
    exact (h.congr m.sameChains_clearState).congr
      ((SameWorkers.setRuntimeState ..).trans (SameWorkers.setOp ..)).sameChains
  | applied | restored => exact hrebuild _ _ m.sameChains_clearState
  | resynced =>
    refine hrebuild _ _ (m.sameChains_clearState.trans ?_)
    exact (SameWorkers.setRuntimeState ..).sameChains

theorem Linked.updateDevice (h : m.Linked) (id : Text) (backend : Backend) (builds : Bool)
    (spawn : Option Text) : (m.updateDevice id backend builds spawn).Linked := by
  have hrecord (r : Nat) (record : Record) : m.SameChains (m.setRecord r record) :=
    ⟨fun _ => rfl, fun _ => rfl, fun _ => rfl, rfl, rfl, rfl⟩
  unfold Manager.updateDevice
  split
  · exact h
  · dsimp only
    split
    · exact h.congr (hrecord ..)
    · split
      · exact h.congr (hrecord ..)
      · have hstop (b : Bool) {m₁ : Manager} (hm : m₁.Linked) :
            (if b then m₁.stopManagedWorker id else m₁).Linked := by
          split
          · exact hm.congr (sameChains_stop m₁ id)
          · exact hm
        split
        · exact (hstop _ (h.congr (hrecord ..))).launchByOperator id spawn
        · exact hstop _ (h.congr (hrecord ..))

theorem Linked.step (h : m.Linked) {a : Act} (hs : Workers.step m a = some m') : m'.Linked := by
  -- the calls that enter an operation change no chain
  have hbegin {t : Nat} {blocked : Bool} {next : Manager} (hnext : m.SameChains next)
      (hs : m.begin t blocked next = some m') : m'.Linked := by
    unfold Manager.begin at hs
    split at hs
    · split at hs <;> cases hs
      exact h.congr hnext
    · cases hs
  cases a with
  | applyModel t model =>
    exact hbegin ((SameWorkers.setRuntimeState ..).trans (SameWorkers.setOp ..)).sameChains hs
  | resetRuntime t => exact hbegin (SameWorkers.setOp ..).sameChains hs
  | resyncRuntime t restores =>
    refine hbegin ?_ hs
    split
    · exact (SameWorkers.setOp ..).sameChains
    · exact SameChains.refl m
  | op t o =>
    obtain ⟨pc, -, hs⟩ := Option.bind_eq_some_iff.mp hs
    exact h.opStep hs
  | updateDevice id backend builds spawn =>
    simp only [Workers.step, Option.ite_none_left_eq_some, Option.some.injEq] at hs
    exact hs.2 ▸ h.updateDevice id backend builds spawn
  | attachBackend backend ids =>
    simp only [Workers.step, Option.ite_none_left_eq_some, Option.some.injEq] at hs
    exact hs.2 ▸ h.congr (SameWorkers.attachBackend ..).sameChains
  | detachBackend backend ids =>
    simp only [Workers.step, Option.ite_none_left_eq_some, Option.some.injEq] at hs
    exact hs.2 ▸ h.congr (SameWorkers.detachBackend ..).sameChains
  | workerExits x code =>
    simp only [Workers.step, Option.ite_none_right_eq_some, Option.some.injEq] at hs
    rw [← hs.2]
    apply h.congr
    apply SameWorkers.sameChains
    exact SameWorkers.setState rfl rfl rfl rfl rfl
  | sendFails x =>
    simp only [Workers.step, Option.ite_none_right_eq_some, Option.some.injEq] at hs
    rw [← hs.2]
    apply h.congr
    apply SameWorkers.sameChains
    exact SameWorkers.setState rfl rfl rfl rfl rfl
  | monitor x spawn =>
    simp only [Workers.step, Option.ite_none_right_eq_some] at hs
    exact h.monitorStep hs.1 hs.2
  | desync reason =>
    cases hs
    exact h.congr (SameWorkers.setRuntimeState ..).sameChains
  | setStopEvent =>
    cases hs
    exact h.congr ⟨fun _ => rfl, fun _ => rfl, fun _ => rfl, rfl, rfl, rfl⟩
  | stopAll stuck =>
    cases hs
    exact h.congr (m.sameChains_stopAll stuck)

theorem linked_start (n : Nat) : (start n).Linked where
  launched x hx := (Nat.not_lt_zero x hx).elim
  made _ ha := (List.not_mem_nil ha).elim
  operator _ ha := (List.not_mem_nil ha).elim
  monitor _ ha := (List.not_mem_nil ha).elim
  once _ ha := (List.not_mem_nil ha).elim
  sleeping _ hy := by cases hy
  launches := rfl
  operators := rfl

theorem linked_of_reach {n : Nat} (h : Reach step anyStep (start n) m) : m.Linked :=
  h.invariant (linked_start n) fun _ _ _ hm _ hs => hm.step hs

/-! ## Chains of a run -/

/-- The workers that have been launched, numbered by their restart counts. -/
theorem Linked.chains (h : m.Linked) :
    Chains m.Restarted (fun x => (m.states x).restartCount) (Finset.range m.statesMade) where
  pred x hx hcount := by
    obtain ⟨a, ha, hstarted⟩ := h.launched x (Finset.mem_range.mp hx)
    cases hmonitor : a.monitor with
    | none => exact absurd (h.operator a ha hmonitor x hstarted) hcount
    | some y =>
      exact ⟨y, Finset.mem_range.mpr (h.monitor a ha y hmonitor).1, a, ha, hmonitor, hstarted⟩
  inside y x hyx := by
    obtain ⟨a, ha, hmonitor, hstarted⟩ := hyx
    exact ⟨Finset.mem_range.mpr (h.monitor a ha y hmonitor).1,
      Finset.mem_range.mpr (h.made a ha x hstarted)⟩
  next y x hyx := by
    obtain ⟨a, ha, hmonitor, hstarted⟩ := hyx
    exact ((h.monitor a ha y hmonitor).2.2.2 x hstarted).2
  once y x x' hyx hyx' := by
    obtain ⟨a, ha, hmonitor, hstarted⟩ := hyx
    obtain ⟨b, hb, hmonitor', hstarted'⟩ := hyx'
    rw [h.once a ha b hb y hmonitor hmonitor', hstarted'] at hstarted
    exact (Option.some.inj hstarted).symm

theorem Linked.restartChain (h : m.Linked) {root : Nat} (hroot : root < m.statesMade)
    (hzero : (m.states root).restartCount = 0) : ∃ chain, m.RestartChain root chain := by
  obtain ⟨chain, hchain, hall⟩ := h.chains.exists_chain (Finset.mem_range.mpr hroot)
  refine ⟨root :: chain, rfl, fun i y x hy hx => ?_, fun y hy x hyx =>
    List.mem_cons_of_mem _ (hall y hy x hyx)⟩
  have hlink : m.Restarted y x := by
    obtain ⟨hi, hx⟩ := List.getElem?_eq_some_iff.mp hx
    obtain ⟨_, hy⟩ := List.getElem?_eq_some_iff.mp hy
    rw [← hx, ← hy]
    exact List.isChain_iff_getElem.mp hchain i hi
  have hcount := h.chains.number_getElem? hchain rfl hy
  have hnext := h.chains.next y x hlink
  obtain ⟨a, ha, hmonitor, hstarted⟩ := hlink
  obtain ⟨-, -, hlimit, hstart⟩ := h.monitor a ha y hmonitor
  exact ⟨⟨a, ha, hmonitor, hstarted⟩, (hstart x hstarted).1, by omega, by omega⟩

theorem Linked.byOperator (h : m.Linked) (hx : x < m.statesMade)
    (hzero : (m.states x).restartCount = 0) : m.ByOperator x := by
  obtain ⟨a, ha, hstarted⟩ := h.launched x hx
  cases hmonitor : a.monitor with
  | none => exact ⟨a, ha, hmonitor, hstarted⟩
  | some y =>
    have hcount := ((h.monitor a ha y hmonitor).2.2.2 x hstarted).2
    omega

end Manager

open Manager in
/-- In every run: each launch by an operation begins a chain of restarts, with the counts 1, 2 and so
on, each within the limit of the worker that exited; every worker stands in one of these chains; and
with limits of at most `limit`, the launches are at most `limit + 1` for each that an operation made.
-/
theorem restarts_bounded {n : Nat} {m : Manager} (h : Reach step anyStep (start n) m) :
    (∀ root, m.ByOperator root →
      (m.states root).restartCount = 0 ∧ ∃ chain, m.RestartChain root chain) ∧
    (∀ x < m.statesMade, ∃ root chain, m.ByOperator root ∧ m.RestartChain root chain ∧ x ∈ chain) ∧
    ∀ limit, (∀ x < m.statesMade, (m.states x).restartLimit ≤ limit) →
      m.launches ≤ m.operatorLaunches * (limit + 1) := by
  have hlinked := linked_of_reach h
  refine ⟨?_, ?_, ?_⟩
  · rintro root ⟨a, ha, hnone, hstarted⟩
    have hzero := hlinked.operator a ha hnone root hstarted
    exact ⟨hzero, hlinked.restartChain (hlinked.made a ha root hstarted) hzero⟩
  · intro x hx
    obtain ⟨root, hroot, hzero, hpath⟩ := hlinked.chains.exists_root (Finset.mem_range.mpr hx)
    rw [Finset.mem_range] at hroot
    obtain ⟨chain, hchain⟩ := hlinked.restartChain hroot hzero
    refine ⟨root, chain, hlinked.byOperator hroot hzero, hchain, ?_⟩
    -- the chain has all that comes after its root
    induction hpath with
    | refl => exact List.mem_of_getElem? hchain.head
    | tail _ hlink ih =>
      exact hchain.all _ (ih (Finset.mem_range.mp (hlinked.chains.inside _ _ hlink).1)) _ hlink
  · intro limit hlimit
    have hbound : ∀ x ∈ Finset.range m.statesMade, (m.states x).restartCount ≤ limit := by
      intro x hx
      -- a restart was within the limit of the worker that exited, which is one of the launched
      by_cases hzero : (m.states x).restartCount = 0
      · omega
      · obtain ⟨y, hy, a, ha, hmonitor, hstarted⟩ := hlinked.chains.pred x hx hzero
        obtain ⟨hlt, -, hle, hstart⟩ := hlinked.monitor a ha y hmonitor
        have hcount := (hstart x hstarted).2
        have hmost := hlimit y hlt
        omega
    have hcard := hlinked.chains.card_le hbound
    rw [Finset.card_range] at hcard
    rw [hlinked.launches, hlinked.operators]
    refine Nat.le_trans hcard (Nat.mul_le_mul_right _ (Nat.le_of_eq ?_))
    rw [List.countP_eq_length_filter]
    rfl

/-- One launch by an apply, and one restart behind it. -/
theorem restarts_bounded_exit :
    ∃ m : Manager, m.launches = 2 ∧ m.operatorLaunches = 1 ∧ ∃ chain, m.RestartChain 0 chain := by
  have hrun : (exec (guarded step anyStep) (start 1) (exitSensor ++ [.monitor 0 none])).map
      (fun m => (m.launches, m.operatorLaunches,
        m.attempts.any fun a => a.monitor = none && a.started = some 0)) = some (2, 1, true) := by
    decide +kernel
  obtain ⟨m, hexec, hview⟩ := Option.map_eq_some_iff.mp hrun
  obtain ⟨hlaunches, hview⟩ := Prod.mk.inj hview
  obtain ⟨hoperator, hroot⟩ := Prod.mk.inj hview
  obtain ⟨a, ha, hroot⟩ := List.any_eq_true.mp hroot
  rw [Bool.and_eq_true, decide_eq_true_eq, decide_eq_true_eq] at hroot
  exact ⟨m, hlaunches, hoperator, ((restarts_bounded (reach_of_exec hexec)).1 0 ⟨a, ha, hroot⟩).2⟩

end Sensorium.Workers

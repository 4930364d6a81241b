import Sensorium.Daemon.Routing

/-!
# What a routing step can do

Every worker step moves one worker, possibly touching the record it works on; every other step
leaves the workers alone.
-/

namespace Sensorium.Daemon

open Lib

-- The request and the record that a worker is serving.
def WorkerPc.target : WorkerPc → Option (Task × Nat)
  | .serving t _ r _ | .calling t _ r | .executing t _ r _ | .dispatching t _ r
  | .contacting t _ r _ | .finalizing t _ r => some (t, r)
  | _ => none

-- The route lock that a worker holds.
def WorkerPc.held : WorkerPc → Option Nat
  | .handling _ lock | .serving _ lock _ _ | .calling _ lock _ | .executing _ lock _ _
  | .dispatching _ lock _ | .contacting _ lock _ _ | .finalizing _ lock _ | .finished lock => lock
  | _ => none

namespace Router

theorem setWorker_self (s : Router) (w : Nat) (pc : WorkerPc) : (s.setWorker w pc).workers w = pc := by
  simp only [setWorker, Function.update_self]

theorem setWorker_of_ne (s : Router) {w w' : Nat} (pc : WorkerPc) (h : w' ≠ w) :
    (s.setWorker w pc).workers w' = s.workers w' := by
  simp only [setWorker, Function.update_of_ne h]

theorem setRecord_self (s : Router) (r : Nat) (d : DeviceRecord) : (s.setRecord r d).records r = d := by
  simp only [setRecord, Function.update_self]

theorem setRecord_of_ne (s : Router) {r r' : Nat} (d : DeviceRecord) (h : r' ≠ r) :
    (s.setRecord r d).records r' = s.records r' := by
  simp only [setRecord, Function.update_of_ne h]

/-! ## Worker steps -/

-- The records whose controller a worker is about to reach.
def contacted (s : Router) (w : Nat) : List Nat :=
  match s.workers w with
  | .contacting _ _ _ controller => s.controlledBy controller
  | _ => []

/-- A worker that serves a record goes on: it keeps its lock, it keeps its record or lets it go, it
may touch the record and some others, and it does not start a template. -/
def ServeStep (s t : Router) (w : Nat) (others : List Nat) : Prop :=
  ∃ (task : Task) (r : Nat) (pc : WorkerPc) (reached : List Nat),
    (s.workers w).target = some (task, r) ∧ pc.held = (s.workers w).held ∧
    (pc.target = some (task, r) ∨ pc.target = none) ∧
    (∀ task' lock' r' object, pc ≠ .executing task' lock' r' object) ∧
    (∀ r' ∈ reached, r' = r ∨ r' ∈ others) ∧
    t = { s.setWorker w pc with touched := reached.map (·, task.taken) ++ s.touched }

-- A move of the worker that touches nothing.
theorem serve_untouched {s : Router} {w : Nat} {task : Task} {r : Nat} {pc : WorkerPc}
    (htarget : (s.workers w).target = some (task, r)) (hheld : pc.held = (s.workers w).held)
    (hpc : pc.target = some (task, r) ∨ pc.target = none)
    (hnot : ∀ task' lock' r' object, pc ≠ .executing task' lock' r' object) :
    ServeStep s (s.setWorker w pc) w [] :=
  ⟨task, r, pc, [], htarget, hheld, hpc, hnot, by simp, rfl⟩

-- A move of the worker with an access to its own record.
theorem serve_touched {s : Router} {w : Nat} {task : Task} {r : Nat} {pc : WorkerPc}
    (htarget : (s.workers w).target = some (task, r)) (hheld : pc.held = (s.workers w).held)
    (hpc : pc.target = some (task, r) ∨ pc.target = none)
    (hnot : ∀ task' lock' r' object, pc ≠ .executing task' lock' r' object) :
    ServeStep s ((s.touch r task).setWorker w pc) w [] :=
  ⟨task, r, pc, [r], htarget, hheld, hpc, hnot,
    fun _ h => .inl (List.mem_singleton.mp h), rfl⟩

theorem checkRequest_serve {s t : Router} {w : Nat} {accepted : Bool}
    (hs : s.checkRequest w accepted = some t) : ServeStep s t w [] := by
  unfold Router.checkRequest at hs
  split at hs
  · rename_i task lock r todo hpc
    split at hs
    · cases hs
      exact serve_untouched (by rw [hpc]; rfl) (by rw [hpc]; rfl) (.inl rfl) (by simp)
    · cases hs
      exact serve_touched (by rw [hpc]; rfl) (by rw [hpc]; rfl) (.inr rfl) (by simp)
  · cases hs

theorem faultPre_serve {s t : Router} {w : Nat} {active : Bool}
    (hs : s.faultPre w active = some t) : ServeStep s t w [] := by
  unfold Router.faultPre at hs
  split at hs
  · rename_i task lock r todo hpc
    split at hs
    · cases hs
      exact serve_touched (by rw [hpc]; rfl) (by rw [hpc]; rfl) (.inl rfl) (by simp)
    · cases hs
      exact serve_untouched (by rw [hpc]; rfl) (by rw [hpc]; rfl) (.inl rfl) (by simp)
  · cases hs

theorem updateSettings_serve {s t : Router} {w : Nat} (hs : s.updateSettings w = some t) :
    ServeStep s t w [] := by
  unfold Router.updateSettings at hs
  split at hs
  · rename_i task lock r todo hpc
    cases hs
    exact serve_touched (by rw [hpc]; rfl) (by rw [hpc]; rfl) (.inl rfl) (by simp)
  · cases hs

theorem runBackend_serve {s t : Router} {w : Nat} (hs : s.runBackend w = some t) :
    ServeStep s t w [] := by
  unfold Router.runBackend at hs
  split at hs
  · rename_i task lock r todo hpc
    split at hs
    · split at hs
      · cases hs
        exact serve_untouched (by rw [hpc]; rfl) (by rw [hpc]; rfl) (.inl rfl) (by simp)
      · cases hs
        exact serve_untouched (by rw [hpc]; rfl) (by rw [hpc]; rfl) (.inl rfl) (by simp)
    · cases hs
      exact serve_untouched (by rw [hpc]; rfl) (by rw [hpc]; rfl) (.inl rfl) (by simp)
  · cases hs

theorem dispatchController_serve {s t : Router} {w : Nat}
    (hs : s.dispatchController w = some t) : ServeStep s t w [] := by
  unfold Router.dispatchController at hs
  split at hs
  · rename_i task lock r hpc
    split at hs
    · cases hs
      exact serve_untouched (by rw [hpc]; rfl) (by rw [hpc]; rfl) (.inl rfl) (by simp)
    · cases hs
      exact serve_untouched (by rw [hpc]; rfl) (by rw [hpc]; rfl) (.inl rfl) (by simp)
    · cases hs
      exact serve_untouched (by rw [hpc]; rfl) (by rw [hpc]; rfl) (.inl rfl) (by simp)
  · cases hs

theorem contactController_serve {s t : Router} {w : Nat}
    (hs : s.contactController w = some t) : ServeStep s t w (s.contacted w) := by
  unfold Router.contactController at hs
  split at hs
  · rename_i task lock r controller hpc _
    cases hs
    have hcontacted : s.contacted w = s.controlledBy controller := by
      unfold contacted
      rw [hpc]
    refine ⟨task, r, .finalizing task lock r, s.controlledBy controller, ?_, ?_, .inl rfl,
      by simp, ?_, rfl⟩
    · rw [hpc]
      rfl
    · rw [hpc]
      rfl
    · intro r' hr
      rw [hcontacted]
      exact .inr hr
  · cases hs

theorem returnTemplate_serve {s t : Router} {w : Nat} (hs : s.returnTemplate w = some t) :
    ServeStep s t w [] := by
  unfold Router.returnTemplate at hs
  split at hs
  · rename_i task lock r object hpc
    cases hs
    exact serve_untouched (by rw [hpc]; rfl) (by rw [hpc]; rfl) (.inl rfl) (by simp)
  · cases hs

theorem finalize_serve {s t : Router} {w : Nat} (hs : s.finalize w = some t) :
    ServeStep s t w [] := by
  unfold Router.finalize at hs
  split at hs
  · rename_i task lock r hpc
    cases hs
    exact serve_touched (by rw [hpc]; rfl) (by rw [hpc]; rfl) (.inr rfl) (by simp)
  · cases hs

theorem callTemplate_cases {s t : Router} {w : Nat} (hs : s.callTemplate w = some t) :
    ∃ task lock r, s.workers w = .calling task lock r ∧
      ((∃ object, (s.records r).template = some object ∧
          t = (s.touch r task).setWorker w (.executing task lock r object)) ∨
        t = s.setWorker w (.finished lock)) := by
  unfold Router.callTemplate at hs
  split at hs
  · rename_i task lock r hpc
    refine ⟨task, lock, r, hpc, ?_⟩
    split at hs
    · rename_i object hobject
      exact .inl ⟨object, hobject, (Option.some.inj hs).symm⟩
    · exact .inr (Option.some.inj hs).symm
  · cases hs

/-- A worker on its way to the handler: it serves no record and holds no lock yet. -/
def RouteStep (s t : Router) (w : Nat) : Prop :=
  ∃ pc queue, (s.workers w).target = none ∧ (s.workers w).held = none ∧ pc.target = none ∧
    pc.held = none ∧ t = { s.setWorker w pc with queue := queue }

theorem pickUp_route {s t : Router} {w : Nat} (hs : s.pickUp w = some t) : RouteStep s t w := by
  unfold Router.pickUp at hs
  split at hs
  · rename_i task rest hpc _
    unfold RouteStep
    rw [hpc]
    exact ⟨_, _, rfl, rfl, rfl, rfl, (Option.some.inj hs).symm⟩
  · cases hs

theorem routeLookup_route {s t : Router} {w : Nat} (hs : s.routeLookup w = some t) :
    RouteStep s t w := by
  unfold Router.routeLookup at hs
  split at hs
  · rename_i task hpc
    unfold RouteStep
    rw [hpc]
    split at hs
    · exact ⟨_, _, rfl, rfl, rfl, rfl, (Option.some.inj hs).symm⟩
    · split at hs
      · exact ⟨_, _, rfl, rfl, rfl, rfl, (Option.some.inj hs).symm⟩
      · exact ⟨_, _, rfl, rfl, rfl, rfl, (Option.some.inj hs).symm⟩
    · cases hs
  · cases hs

theorem readRouteLock_route {s t : Router} {w : Nat} (hs : s.readRouteLock w = some t) :
    RouteStep s t w := by
  unfold Router.readRouteLock at hs
  split at hs
  · rename_i task r hpc
    unfold RouteStep
    rw [hpc]
    split at hs
    · exact ⟨_, _, rfl, rfl, rfl, rfl, (Option.some.inj hs).symm⟩
    · exact ⟨_, _, rfl, rfl, rfl, rfl, (Option.some.inj hs).symm⟩
  · cases hs

theorem acquire_cases {s t : Router} {w : Nat} (hs : s.acquire w = some t) :
    ∃ task lock, s.workers w = .locking task lock ∧ s.lockOwner lock = none ∧
      t = { s.setWorker w (.handling task (some lock)) with
        lockOwner := Function.update s.lockOwner lock (some w) } := by
  unfold Router.acquire at hs
  split at hs
  · rename_i task lock hpc
    split at hs
    · rename_i hfree
      exact ⟨task, lock, hpc, hfree, (Option.some.inj hs).symm⟩
    · cases hs
  · cases hs

theorem handlerLookup_cases {s t : Router} {w : Nat} (hs : s.handlerLookup w = some t) :
    ∃ task lock, s.workers w = .handling task lock ∧
      (t = s.setWorker w (.finished lock) ∨
        ∃ handle r, handlerHandle task = some handle ∧ s.devicesByHandle handle = some r ∧
          t = s.setWorker w (.serving task lock r (handlerPhases task.msgType))) := by
  unfold Router.handlerLookup at hs
  split at hs
  · rename_i task lock hpc
    refine ⟨task, lock, hpc, ?_⟩
    split at hs
    · exact .inl (Option.some.inj hs).symm
    · rename_i handle hhandle _
      split at hs
      · rename_i r hr
        exact .inr ⟨handle, r, hhandle, hr, (Option.some.inj hs).symm⟩
      · exact .inl (Option.some.inj hs).symm
    · cases hs
  · cases hs

theorem release_cases {s t : Router} {w : Nat} (hs : s.release w = some t) :
    (∃ lock, s.workers w = .finished (some lock) ∧
        t = { s.setWorker w .idle with lockOwner := Function.update s.lockOwner lock none }) ∨
      (s.workers w = .finished none ∧ t = s.setWorker w .idle) := by
  unfold Router.release at hs
  split at hs
  · rename_i lock hpc
    exact .inl ⟨lock, hpc, (Option.some.inj hs).symm⟩
  · rename_i hpc
    exact .inr ⟨hpc, (Option.some.inj hs).symm⟩
  · cases hs

/-! ## Steps that leave the workers alone -/

/-- A change of routes, of managed workers, of one record's fields or of the reader: tables, workers
and locks stay, records keep their identity, no registered lock is replaced, and a managed worker is
launched for a device of the table. -/
structure ConfigStep (s t : Router) : Prop where
  epoch : t.epoch = s.epoch
  allocated : t.allocated = s.allocated
  devices : t.devices = s.devices
  devicesByHandle : t.devicesByHandle = s.devicesByHandle
  workers : t.workers = s.workers
  lockOwner : t.lockOwner = s.lockOwner
  touched : t.touched = s.touched
  identity : ∀ r, (t.records r).created = (s.records r).created ∧
    (t.records r).deviceId = (s.records r).deviceId
  template : ∀ r object, (t.records r).template = some object →
    (s.records r).template = some object ∨ object.record = r
  routeLocks : ∀ e key lock, s.routeLocks e key = some lock → t.routeLocks e key = some lock
  managedWorkers : ∀ d r, t.managedWorkers d = some r →
    s.managedWorkers d = some r ∨ s.devices d = some r

theorem ConfigStep.refl (s : Router) : ConfigStep s s where
  epoch := rfl
  allocated := rfl
  devices := rfl
  devicesByHandle := rfl
  workers := rfl
  lockOwner := rfl
  touched := rfl
  identity := fun _ => ⟨rfl, rfl⟩
  template := fun _ _ h => .inl h
  routeLocks := fun _ _ _ h => h
  managedWorkers := fun _ _ h => .inl h

theorem ConfigStep.trans {s t u : Router} (h₁ : ConfigStep s t) (h₂ : ConfigStep t u) :
    ConfigStep s u where
  epoch := h₂.epoch.trans h₁.epoch
  allocated := h₂.allocated.trans h₁.allocated
  devices := h₂.devices.trans h₁.devices
  devicesByHandle := h₂.devicesByHandle.trans h₁.devicesByHandle
  workers := h₂.workers.trans h₁.workers
  lockOwner := h₂.lockOwner.trans h₁.lockOwner
  touched := h₂.touched.trans h₁.touched
  identity := fun r => ⟨(h₂.identity r).1.trans (h₁.identity r).1,
    (h₂.identity r).2.trans (h₁.identity r).2⟩
  template := by
    intro r object h
    rcases h₂.template r object h with h' | h'
    · exact h₁.template r object h'
    · exact .inr h'
  routeLocks := fun e key lock h => h₂.routeLocks e key lock (h₁.routeLocks e key lock h)
  managedWorkers := by
    intro d r h
    rcases h₂.managedWorkers d r h with h' | h'
    · exact h₁.managedWorkers d r h'
    · rw [h₁.devices] at h'
      exact .inr h'

theorem configStep_setRecord (s : Router) {r : Nat} {d : DeviceRecord}
    (hcreated : d.created = (s.records r).created) (hid : d.deviceId = (s.records r).deviceId)
    (htemplate : ∀ object, d.template = some object →
      (s.records r).template = some object ∨ object.record = r) :
    ConfigStep s (s.setRecord r d) :=
  { ConfigStep.refl s with
    identity := by
      intro r'
      by_cases hr : r' = r
      · rw [hr, setRecord_self]
        exact ⟨hcreated, hid⟩
      · rw [setRecord_of_ne s d hr]
        exact ⟨rfl, rfl⟩
    template := by
      intro r' object h
      by_cases hr : r' = r
      · rw [hr, setRecord_self] at h
        rw [hr]
        exact htemplate object h
      · rw [setRecord_of_ne s d hr] at h
        exact .inl h }

theorem registerRoute_config (s : Router) (key : RouteKey) :
    ConfigStep s (s.registerRoute key) := by
  unfold Router.registerRoute
  split
  · exact ConfigStep.refl s
  · rename_i hnone
    exact { ConfigStep.refl s with
      routeLocks := by
        intro e key' lock h
        change Function.update s.routeLocks s.epoch
          (Function.update (s.routeLocks s.epoch) key (some s.nextLock)) e key' = some lock
        by_cases he : e = s.epoch
        · subst he
          rw [Function.update_self]
          by_cases hk : key' = key
          · rw [hk, hnone] at h
            cases h
          · rw [Function.update_of_ne hk]
            exact h
        · rw [Function.update_of_ne he]
          exact h }

theorem registerRoute_records (s : Router) (key : RouteKey) :
    (s.registerRoute key).records = s.records := by
  unfold Router.registerRoute
  split <;> rfl

theorem refreshDeviceRoute_config (s : Router) (r : Nat) :
    ConfigStep s (s.refreshDeviceRoute r) := by
  unfold Router.refreshDeviceRoute
  apply (registerRoute_config s _).trans
  apply configStep_setRecord
  · rw [registerRoute_records]
  · rw [registerRoute_records]
  · intro object h
    rw [registerRoute_records]
    exact .inl h

theorem buildTemplate_template {r : Nat} {d : DeviceRecord} {object : TemplateObject}
    (h : (buildTemplate r d).template = some object) : object.record = r := by
  unfold buildTemplate at h
  split at h
  · cases h
    rfl
  · cases h

theorem buildTemplate_identity (r : Nat) (d : DeviceRecord) :
    (buildTemplate r d).created = d.created ∧ (buildTemplate r d).deviceId = d.deviceId := by
  unfold buildTemplate
  split <;> exact ⟨rfl, rfl⟩

theorem updateBackend_config {s t : Router} {deviceId : String} {backend : Backend}
    (hs : s.updateBackend deviceId backend = some t) : ConfigStep s t := by
  unfold Router.updateBackend at hs
  split at hs
  · rename_i r _ _
    cases hs
    have hset := configStep_setRecord s (r := r) (d := { s.records r with backend := backend })
      rfl rfl fun _ h => .inl h
    exact { hset with }
  · cases hs

theorem updateTemplate_config {s t : Router} {raises : Bool}
    (hs : s.updateTemplate raises = some t) : ConfigStep s t := by
  unfold Router.updateTemplate at hs
  split at hs
  · rename_i r had _
    split at hs
    · cases hs
      exact { ConfigStep.refl s with }
    · cases hs
      have hset := configStep_setRecord s (d := buildTemplate r (s.records r))
        (buildTemplate_identity r _).1 (buildTemplate_identity r _).2
        fun _ h => .inr (buildTemplate_template h)
      exact { hset with }
  · cases hs

theorem stopManagedWorker_config (s : Router) (deviceId : String) :
    ConfigStep s (s.stopManagedWorker deviceId) :=
  { ConfigStep.refl s with
    managedWorkers := by
      intro d r h
      change Function.update s.managedWorkers deviceId none d = some r at h
      by_cases hd : d = deviceId
      · rw [hd, Function.update_self] at h
        cases h
      · rw [Function.update_of_ne hd] at h
        exact .inl h }

theorem launchManagedWorker_config (s : Router) (deviceId : String) (registered : Bool) :
    ConfigStep s (s.launchManagedWorker deviceId registered) := by
  unfold Router.launchManagedWorker
  split
  · rename_i r hdevice
    split
    · split
      · exact { ConfigStep.refl s with
          managedWorkers := by
            intro d r' h
            change Function.update s.managedWorkers deviceId (some r) d = some r' at h
            by_cases hd : d = deviceId
            · rw [hd, Function.update_self] at h
              cases h
              rw [hd]
              exact .inr hdevice
            · rw [Function.update_of_ne hd] at h
              exact .inl h }
      · exact stopManagedWorker_config s deviceId
    · exact ConfigStep.refl s
  · exact ConfigStep.refl s

theorem startManagedWorker_config {s t : Router} {deviceId : String} {registered : Bool}
    (hs : s.startManagedWorker deviceId registered = some t) : ConfigStep s t := by
  unfold Router.startManagedWorker at hs
  split at hs
  · cases hs
    exact launchManagedWorker_config s deviceId registered
  · cases hs
    exact launchManagedWorker_config s deviceId registered
  · cases hs

theorem managedWorkerExit_config {s t : Router} {deviceId : String}
    (hs : s.managedWorkerExit deviceId = some t) : ConfigStep s t := by
  unfold Router.managedWorkerExit at hs
  split at hs
  · cases hs
    exact stopManagedWorker_config s deviceId
  · cases hs

theorem updateRoute_config {s t : Router} {raises registered : Bool}
    (hs : s.updateRoute raises registered = some t) : ConfigStep s t := by
  unfold Router.updateRoute at hs
  split at hs
  · rename_i r had _
    have hstop := stopManagedWorker_config s (s.records r).deviceId
    have hlaunch := launchManagedWorker_config s (s.records r).deviceId
    split at hs
    · split at hs
      · cases hs
        exact { ConfigStep.refl s with }
      · split at hs
        · cases hs
          exact { hlaunch registered with }
        · cases hs
          exact { (hlaunch true).trans (refreshDeviceRoute_config _ r) with }
    · split at hs
      · split at hs
        · cases hs
          exact { hstop with }
        · cases hs
          exact { hstop.trans (refreshDeviceRoute_config _ r) with }
      · cases hs
        exact { refreshDeviceRoute_config s r with }
  · cases hs

theorem clearRaises_config {s t : Router} {stopped : List String}
    (hs : s.clearRaises stopped = some t) : ConfigStep s t := by
  unfold Router.clearRaises at hs
  split at hs
  · cases hs
    exact { ConfigStep.refl s with
      managedWorkers := by
        intro d r h
        simp only at h
        split at h
        · cases h
        · exact .inl h }
  · cases hs

-- Changing what a device is attached to, then its route.
theorem attached_config (s : Router) (r : Nat) (attached : Option String) :
    ConfigStep s ((s.setRecord r
      { s.records r with attachedBackend := attached }).refreshDeviceRoute r) :=
  (configStep_setRecord s (d := { s.records r with attachedBackend := attached }) rfl rfl
    fun _ h => .inl h).trans (refreshDeviceRoute_config _ r)

theorem attachBackend_config {s t : Router} {backendId deviceId : String}
    (hs : s.attachBackend backendId deviceId = some t) : ConfigStep s t := by
  unfold Router.attachBackend at hs
  split at hs
  · cases hs
  · split at hs
    · split at hs
      · cases hs
        exact attached_config s _ _
      · cases hs
        exact ConfigStep.refl s
    · cases hs
      exact ConfigStep.refl s

theorem detachBackend_config {s t : Router} {backendId deviceId : String}
    (hs : s.detachBackend backendId deviceId = some t) : ConfigStep s t := by
  unfold Router.detachBackend at hs
  split at hs
  · cases hs
  · split at hs
    · split at hs
      · cases hs
        exact attached_config s _ _
      · cases hs
        exact ConfigStep.refl s
    · cases hs
      exact ConfigStep.refl s

theorem endRebuild_config {s t : Router} (hs : s.endRebuild = some t) : ConfigStep s t := by
  unfold Router.endRebuild at hs
  split at hs
  · cases hs
    exact { ConfigStep.refl s with }
  · cases hs

theorem takeFrame_config {s t : Router} {msgType : MsgType} {messageId generation : Nat}
    {payload : List UInt8} (hs : s.takeFrame msgType messageId generation payload = some t) :
    ConfigStep s t := by
  unfold Router.takeFrame at hs
  split at hs
  · cases hs
    exact { ConfigStep.refl s with }
  · cases hs

theorem enqueue_config {s t : Router} {full : Bool} (hs : s.enqueue full = some t) :
    ConfigStep s t := by
  unfold Router.enqueue at hs
  split at hs
  · cases hs
    exact { ConfigStep.refl s with }
  · cases hs

/-! ## Clearing and adding -/

theorem clearState_cases {s t : Router} (hs : s.clearState = some t) :
    t = { s with
      epoch := s.epoch + 1
      devices := fun _ => none
      devicesByHandle := fun _ => none
      nextDeviceHandle := 1024
      routeLocks := Function.update s.routeLocks (s.epoch + 1) fun _ => none
      managedWorkers := fun _ => none
      op := .rebuilding } := by
  unfold Router.clearState at hs
  split at hs
  · exact (Option.some.inj hs).symm
  · cases hs

/-- A new record at the next allocation, published under a handle; the others stay. -/
structure AddStep (s t : Router) : Prop where
  epoch : t.epoch = s.epoch
  allocated : t.allocated = s.allocated + 1
  devices : ∀ d r, t.devices d = some r → s.devices d = some r ∨ r = s.allocated
  devicesByHandle : ∀ handle r, t.devicesByHandle handle = some r →
    s.devicesByHandle handle = some r ∨ r = s.allocated
  workers : t.workers = s.workers
  lockOwner : t.lockOwner = s.lockOwner
  touched : t.touched = s.touched
  records : ∀ r, r ≠ s.allocated → (t.records r).created = (s.records r).created ∧
    (t.records r).deviceId = (s.records r).deviceId
  created : (t.records s.allocated).created = s.epoch
  template : ∀ r object, (t.records r).template = some object →
    (s.records r).template = some object ∨ object.record = r
  routeLocks : ∀ e key lock, s.routeLocks e key = some lock → t.routeLocks e key = some lock
  managedWorkers : t.managedWorkers = s.managedWorkers

theorem registerRoute_managedWorkers (s : Router) (key : RouteKey) :
    (s.registerRoute key).managedWorkers = s.managedWorkers := by
  unfold Router.registerRoute
  split <;> rfl

theorem addDevice_add {s t : Router} {deviceId : String} {backend : Backend}
    (hs : s.addDevice deviceId backend = some t) : AddStep s t := by
  unfold Router.addDevice at hs
  split at hs
  · cases hs
    -- The record is stored first, then its route is refreshed.
    have hrefresh := refreshDeviceRoute_config ({ s.setRecord s.allocated
      (buildTemplate s.allocated ⟨s.epoch, deviceId, backend, none, none, 0, none⟩) with
        allocated := s.allocated + 1 }) s.allocated
    have hstored := setRecord_self s s.allocated
      (buildTemplate s.allocated ⟨s.epoch, deviceId, backend, none, none, 0, none⟩)
    exact
      { epoch := hrefresh.epoch
        allocated := hrefresh.allocated
        devices := by
          intro d r h
          change Function.update s.devices deviceId (some s.allocated) d = some r at h
          by_cases hd : d = deviceId
          · rw [hd, Function.update_self] at h
            exact .inr (Option.some.inj h).symm
          · rw [Function.update_of_ne hd] at h
            exact .inl h
        devicesByHandle := by
          intro handle r h
          change Function.update s.devicesByHandle s.nextDeviceHandle (some s.allocated) handle =
            some r at h
          by_cases hh : handle = s.nextDeviceHandle
          · rw [hh, Function.update_self] at h
            exact .inr (Option.some.inj h).symm
          · rw [Function.update_of_ne hh] at h
            exact .inl h
        workers := hrefresh.workers
        lockOwner := hrefresh.lockOwner
        touched := hrefresh.touched
        records := by
          intro r hr
          have hid := hrefresh.identity r
          have hother := setRecord_of_ne s
            (buildTemplate s.allocated ⟨s.epoch, deviceId, backend, none, none, 0, none⟩) hr
          exact ⟨hid.1.trans (congrArg _ hother), hid.2.trans (congrArg _ hother)⟩
        created := by
          have hid := (hrefresh.identity s.allocated).1
          exact hid.trans ((congrArg _ hstored).trans (buildTemplate_identity _ _).1)
        template := by
          intro r object h
          rcases hrefresh.template r object h with h' | h'
          · by_cases hr : r = s.allocated
            · subst hr
              change ((s.setRecord s.allocated _).records s.allocated).template = _ at h'
              rw [hstored] at h'
              exact .inr (buildTemplate_template h')
            · change ((s.setRecord s.allocated _).records r).template = _ at h'
              rw [setRecord_of_ne s _ hr] at h'
              exact .inl h'
          · exact .inr h'
        routeLocks := hrefresh.routeLocks
        managedWorkers := registerRoute_managedWorkers _ _ }
  · cases hs

end Router

end Sensorium.Daemon

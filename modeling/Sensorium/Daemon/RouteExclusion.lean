import Sensorium.Daemon.RoutingSteps

/-!
# Exclusive use of a template object

A worker chooses its lock from the record before it takes the lock and before it looks the device up
again.  Where the device has meanwhile become template-backed, or the inventory has been replaced,
it runs the template under another lock than its other workers, or under none.  In runs that start a
template only under the lock registered for its device, no two workers run one object at once.
-/

namespace Sensorium.Daemon

open Lib

namespace Router

/-- No two workers run a handler of one template object. -/
def Exclusive (s : Router) : Prop :=
  ∀ w₁ w₂ task₁ task₂ lock₁ lock₂ r₁ r₂ object,
    s.workers w₁ = .executing task₁ lock₁ r₁ object →
    s.workers w₂ = .executing task₂ lock₂ r₂ object → w₁ = w₂

/-- The lock registered for a template-backed device in the inventory it was created in. -/
def deviceLock (s : Router) (r : Nat) : Option Nat :=
  s.routeLocks (s.records r).created (.device (s.records r).deviceId)

/-- A template is started only by a worker that holds the lock registered for its device. -/
def LockGuard (s : Router) : Step → Prop
  | .callTemplate w =>
    match s.workers w with
    | .calling _ lock r =>
      (s.records r).template ≠ none → lock ≠ none ∧ s.deviceLock r = lock
    | _ => True
  | _ => True

instance (s : Router) (label : Step) : Decidable (s.LockGuard label) := by
  unfold LockGuard
  split
  · split <;> infer_instance
  · infer_instance

/-- Locks have one owner, template objects belong to one record, and a running template is covered
by the lock of its record. -/
structure Guarded (s : Router) : Prop where
  owned : ∀ w lock, (s.workers w).held = some lock → s.lockOwner lock = some w
  table : ∀ handle r, s.devicesByHandle handle = some r → r < s.allocated
  serving : ∀ w task r, (s.workers w).target = some (task, r) → r < s.allocated
  created_le : ∀ r, r < s.allocated → (s.records r).created ≤ s.epoch
  templates : ∀ r object, (s.records r).template = some object → object.record = r
  running : ∀ w task lock r object, s.workers w = .executing task lock r object →
    object.record = r ∧ lock ≠ none ∧ s.deviceLock r = lock

theorem guarded_init : Router.init.Guarded where
  owned := by simp [Router.init, WorkerPc.held]
  table := by simp [Router.init]
  serving := by simp [Router.init, WorkerPc.target]
  created_le := by simp [Router.init]
  templates := by simp [Router.init]
  running := by simp [Router.init]

-- The lock that covers one object has one owner.
theorem Guarded.exclusive {s : Router} (h : s.Guarded) : s.Exclusive := by
  intro w₁ w₂ task₁ task₂ lock₁ lock₂ r₁ r₂ object h₁ h₂
  obtain ⟨hr₁, hne, hlock₁⟩ := h.running w₁ task₁ lock₁ r₁ object h₁
  obtain ⟨hr₂, _, hlock₂⟩ := h.running w₂ task₂ lock₂ r₂ object h₂
  obtain ⟨lock, hlock⟩ := Option.ne_none_iff_exists'.mp hne
  have hsame : lock₂ = lock₁ := by rw [← hlock₁, ← hlock₂, ← hr₁, ← hr₂]
  have hown₁ := h.owned w₁ lock (by rw [h₁]; exact hlock)
  have hown₂ := h.owned w₂ lock (by rw [h₂]; exact hsame.trans hlock)
  rw [hown₁] at hown₂
  exact Option.some.inj hown₂

/-! ## Steps -/

-- A registered lock is kept by every step that keeps the record's identity.
theorem deviceLock_mono {s t : Router} {r lock : Nat}
    (hid : (t.records r).created = (s.records r).created ∧
      (t.records r).deviceId = (s.records r).deviceId)
    (hlocks : ∀ key lock, s.routeLocks (s.records r).created key = some lock →
      t.routeLocks (s.records r).created key = some lock)
    (h : s.deviceLock r = some lock) : t.deviceLock r = some lock := by
  unfold deviceLock at h ⊢
  rw [hid.1, hid.2]
  exact hlocks _ lock h

theorem Guarded.config {s t : Router} (h : s.Guarded) (hstep : ConfigStep s t) : t.Guarded where
  owned := by
    intro w lock hheld
    rw [hstep.workers] at hheld
    rw [hstep.lockOwner]
    exact h.owned w lock hheld
  table := by
    intro handle r hr
    rw [hstep.devicesByHandle] at hr
    rw [hstep.allocated]
    exact h.table handle r hr
  serving := by
    intro w task r hr
    rw [hstep.workers] at hr
    rw [hstep.allocated]
    exact h.serving w task r hr
  created_le := by
    intro r hr
    rw [hstep.allocated] at hr
    rw [(hstep.identity r).1, hstep.epoch]
    exact h.created_le r hr
  templates := by
    intro r object hobject
    rcases hstep.template r object hobject with hold | hnew
    · exact h.templates r object hold
    · exact hnew
  running := by
    intro w task lock r object hpc
    rw [hstep.workers] at hpc
    obtain ⟨hr, hne, hlock⟩ := h.running w task lock r object hpc
    obtain ⟨l, rfl⟩ := Option.ne_none_iff_exists'.mp hne
    refine ⟨hr, hne, deviceLock_mono (hstep.identity r) ?_ hlock⟩
    exact fun key lock hkey => hstep.routeLocks _ key lock hkey

-- A worker that runs a template serves its record.
theorem Guarded.running_lt {s : Router} (h : s.Guarded) {w : Nat} {task : Task}
    {lock : Option Nat} {r : Nat} {object : TemplateObject}
    (hpc : s.workers w = .executing task lock r object) : r < s.allocated :=
  h.serving w task r (by rw [hpc]; rfl)

theorem Guarded.clearState {s t : Router} (h : s.Guarded) (hs : s.clearState = some t) :
    t.Guarded := by
  rw [clearState_cases hs]
  refine ⟨h.owned, by simp, h.serving, fun r hr => Nat.le_succ_of_le (h.created_le r hr),
    h.templates, ?_⟩
  intro w task lock r object hpc
  obtain ⟨hr, hne, hlock⟩ := h.running w task lock r object hpc
  obtain ⟨l, rfl⟩ := Option.ne_none_iff_exists'.mp hne
  refine ⟨hr, hne, deviceLock_mono (s := s) ⟨rfl, rfl⟩ ?_ hlock⟩
  -- The new registry is not the one of a record that exists.
  intro key lock hkey
  have hle := h.created_le r (h.running_lt hpc)
  change Function.update s.routeLocks (s.epoch + 1) _ (s.records r).created key = some lock
  rw [Function.update_of_ne (by omega)]
  exact hkey

theorem Guarded.add {s t : Router} (h : s.Guarded) (hstep : AddStep s t) : t.Guarded where
  owned := by
    intro w lock hheld
    rw [hstep.workers] at hheld
    rw [hstep.lockOwner]
    exact h.owned w lock hheld
  table := by
    intro handle r hr
    rw [hstep.allocated]
    rcases hstep.devicesByHandle handle r hr with hold | rfl
    · exact Nat.lt_succ_of_lt (h.table handle r hold)
    · exact Nat.lt_succ_self _
  serving := by
    intro w task r hr
    rw [hstep.workers] at hr
    rw [hstep.allocated]
    exact Nat.lt_succ_of_lt (h.serving w task r hr)
  created_le := by
    intro r hr
    rw [hstep.allocated] at hr
    rw [hstep.epoch]
    by_cases hnew : r = s.allocated
    · subst hnew
      exact Nat.le_of_eq hstep.created
    · rw [(hstep.records r hnew).1]
      exact h.created_le r (by omega)
  templates := by
    intro r object hobject
    rcases hstep.template r object hobject with hold | hnew
    · exact h.templates r object hold
    · exact hnew
  running := by
    intro w task lock r object hpc
    rw [hstep.workers] at hpc
    obtain ⟨hr, hne, hlock⟩ := h.running w task lock r object hpc
    obtain ⟨l, rfl⟩ := Option.ne_none_iff_exists'.mp hne
    have hlt := h.running_lt hpc
    refine ⟨hr, hne, deviceLock_mono (hstep.records r (Nat.ne_of_lt hlt)) ?_ hlock⟩
    exact fun key lock hkey => hstep.routeLocks _ key lock hkey

-- Moving one worker, with its lock and its record.
theorem Guarded.setWorker {s : Router} (h : s.Guarded) {w : Nat} (pc : WorkerPc)
    (hheld : ∀ lock, pc.held = some lock → s.lockOwner lock = some w)
    (htarget : ∀ task r, pc.target = some (task, r) → r < s.allocated)
    (hrun : ∀ task lock r object, pc = .executing task lock r object →
      object.record = r ∧ lock ≠ none ∧ s.deviceLock r = lock) : (s.setWorker w pc).Guarded where
  owned := by
    intro w' lock hlock
    by_cases hw : w' = w
    · rw [hw, setWorker_self] at hlock
      rw [hw]
      exact hheld lock hlock
    · rw [setWorker_of_ne s pc hw] at hlock
      exact h.owned w' lock hlock
  table := h.table
  serving := by
    intro w' task r hr
    by_cases hw : w' = w
    · rw [hw, setWorker_self] at hr
      exact htarget task r hr
    · rw [setWorker_of_ne s pc hw] at hr
      exact h.serving w' task r hr
  created_le := h.created_le
  templates := h.templates
  running := by
    intro w' task lock r object hpc
    by_cases hw : w' = w
    · rw [hw, setWorker_self] at hpc
      exact hrun task lock r object hpc
    · rw [setWorker_of_ne s pc hw] at hpc
      exact h.running w' task lock r object hpc

theorem Guarded.serve {s t : Router} {w : Nat} {others : List Nat} (h : s.Guarded)
    (hstep : ServeStep s t w others) : t.Guarded := by
  obtain ⟨task, r, pc, reached, htarget, hheld, hpc, hnot, _, rfl⟩ := hstep
  have hmoved : (s.setWorker w pc).Guarded := by
    apply h.setWorker
    · intro lock hlock
      exact h.owned w lock (hheld.symm.trans hlock)
    · intro task' r' hr
      rcases hpc with hsame | hnone
      · rw [hsame] at hr
        cases hr
        exact h.serving w task r htarget
      · rw [hnone] at hr
        cases hr
    · intro task' lock' r' object hrun
      exact absurd hrun (hnot task' lock' r' object)
  exact { hmoved with }

theorem Guarded.route {s t : Router} {w : Nat} (h : s.Guarded) (hstep : RouteStep s t w) :
    t.Guarded := by
  obtain ⟨pc, queue, _, _, hpc, hheld, rfl⟩ := hstep
  have hmoved : (s.setWorker w pc).Guarded := by
    apply h.setWorker
    · intro lock hlock
      rw [hheld] at hlock
      cases hlock
    · intro task r hr
      rw [hpc] at hr
      cases hr
    · rintro task lock r object rfl
      cases hpc
  exact { hmoved with }

-- A worker that gets or gives back a lock: nobody else holds it.
theorem Guarded.setOwner {s : Router} (h : s.Guarded) {lock : Nat} (owner : Option Nat)
    (hfree : ∀ w, (s.workers w).held ≠ some lock) :
    ({ s with lockOwner := Function.update s.lockOwner lock owner } : Router).Guarded :=
  { h with
    owned := by
      intro w lock' hheld
      have hne : lock' ≠ lock := by
        rintro rfl
        exact hfree w hheld
      change Function.update s.lockOwner lock owner lock' = some w
      rw [Function.update_of_ne hne]
      exact h.owned w lock' hheld }

theorem Guarded.acquire {s t : Router} {w : Nat} (h : s.Guarded) (hs : s.acquire w = some t) :
    t.Guarded := by
  obtain ⟨task, lock, hpc, hfree, rfl⟩ := acquire_cases hs
  have hnobody : ∀ w', (s.workers w').held ≠ some lock := by
    intro w' hheld
    rw [h.owned w' lock hheld] at hfree
    cases hfree
  have hmoved := (h.setOwner (some w) hnobody).setWorker (w := w)
    (.handling task (some lock)) (by
      intro lock' hlock
      cases hlock
      exact Function.update_self _ _ _) (by
      intro task' r hr
      cases hr) (by
      intro task' lock' r object hrun
      cases hrun)
  exact { hmoved with }

theorem Guarded.handlerLookup {s t : Router} {w : Nat} (h : s.Guarded)
    (hs : s.handlerLookup w = some t) : t.Guarded := by
  obtain ⟨task, lock, hpc, rfl | ⟨handle, r, _, hr, rfl⟩⟩ := handlerLookup_cases hs
  · apply h.setWorker
    · intro lock' hlock
      exact h.owned w lock' (by rw [hpc]; exact hlock)
    · intro task' r hr
      cases hr
    · intro task' lock' r object hrun
      cases hrun
  · apply h.setWorker
    · intro lock' hlock
      exact h.owned w lock' (by rw [hpc]; exact hlock)
    · intro task' r' hr'
      cases hr'
      exact h.table handle r hr
    · intro task' lock' r object hrun
      cases hrun

theorem Guarded.callTemplate {s t : Router} {w : Nat} (h : s.Guarded)
    (hok : s.LockGuard (.callTemplate w)) (hs : s.callTemplate w = some t) : t.Guarded := by
  obtain ⟨task, lock, r, hpc, ⟨object, hobject, rfl⟩ | rfl⟩ := callTemplate_cases hs
  · simp only [LockGuard, hpc, hobject] at hok
    obtain ⟨hne, hlock⟩ := hok (by simp)
    have hmoved := h.setWorker (w := w) (.executing task lock r object) (by
        intro lock' hlock'
        exact h.owned w lock' (by rw [hpc]; exact hlock')) (by
        intro task' r' hr'
        cases hr'
        exact h.serving w task r (by rw [hpc]; rfl)) (by
        intro task' lock' r' object' hrun
        cases hrun
        exact ⟨h.templates r object hobject, hne, hlock⟩)
    exact { hmoved with }
  · apply h.setWorker
    · intro lock' hlock
      exact h.owned w lock' (by rw [hpc]; exact hlock)
    · intro task' r hr
      cases hr
    · intro task' lock' r object hrun
      cases hrun

theorem Guarded.release {s t : Router} {w : Nat} (h : s.Guarded) (hs : s.release w = some t) :
    t.Guarded := by
  have hidle : (s.setWorker w .idle).Guarded := by
    apply h.setWorker
    · intro lock hlock
      cases hlock
    · intro task r hr
      cases hr
    · intro task lock r object hrun
      cases hrun
  obtain ⟨lock, hpc, rfl⟩ | ⟨_, rfl⟩ := release_cases hs
  · have howner := h.owned w lock (by rw [hpc]; rfl)
    have hnobody : ∀ w', ((s.setWorker w .idle).workers w').held ≠ some lock := by
      intro w' hheld
      by_cases hw : w' = w
      · rw [hw, setWorker_self] at hheld
        cases hheld
      · rw [setWorker_of_ne s _ hw] at hheld
        rw [h.owned w' lock hheld] at howner
        exact hw (Option.some.inj howner)
    exact { hidle.setOwner none hnobody with }
  · exact hidle

theorem Guarded.step {s t : Router} {label : Step} (h : s.Guarded) (hok : s.LockGuard label)
    (hs : s.step label = some t) : t.Guarded := by
  cases label with
  | clearState => exact h.clearState hs
  | clearRaises stopped => exact h.config (clearRaises_config hs)
  | addDevice deviceId backend => exact h.add (addDevice_add hs)
  | startManagedWorker deviceId registered => exact h.config (startManagedWorker_config hs)
  | managedWorkerExit deviceId => exact h.config (managedWorkerExit_config hs)
  | endRebuild => exact h.config (endRebuild_config hs)
  | updateBackend deviceId backend => exact h.config (updateBackend_config hs)
  | updateTemplate raises => exact h.config (updateTemplate_config hs)
  | updateRoute raises registered => exact h.config (updateRoute_config hs)
  | attachBackend backendId deviceId => exact h.config (attachBackend_config hs)
  | detachBackend backendId deviceId => exact h.config (detachBackend_config hs)
  | takeFrame msgType messageId generation payload => exact h.config (takeFrame_config hs)
  | enqueue full => exact h.config (enqueue_config hs)
  | pickUp w => exact h.route (pickUp_route hs)
  | routeLookup w => exact h.route (routeLookup_route hs)
  | readRouteLock w => exact h.route (readRouteLock_route hs)
  | acquire w => exact h.acquire hs
  | handlerLookup w => exact h.handlerLookup hs
  | checkRequest w accepted => exact h.serve (checkRequest_serve hs)
  | faultPre w active => exact h.serve (faultPre_serve hs)
  | updateSettings w => exact h.serve (updateSettings_serve hs)
  | runBackend w => exact h.serve (runBackend_serve hs)
  | dispatchController w => exact h.serve (dispatchController_serve hs)
  | contactController w => exact h.serve (contactController_serve hs)
  | callTemplate w => exact h.callTemplate hok hs
  | returnTemplate w => exact h.serve (returnTemplate_serve hs)
  | finalize w => exact h.serve (finalize_serve hs)
  | release w => exact h.release hs

/-- Along every run that starts templates only under the lock of their device, no two workers run
one template object at the same time. -/
theorem exclusive_of_reach {s : Router} (h : Reach Router.step LockGuard Router.init s) :
    s.Exclusive := by
  have hguarded : s.Guarded :=
    h.invariant guarded_init fun _ _ _ hinv hok hs => hinv.step hok hs
  exact hguarded.exclusive

/-! ## Schedules -/

-- A write to the device with handle 1024, taken and queued.
def i2cFrame : List Step :=
  [.takeFrame .i2cXfer 1 0
    [0, 4, 0, 0, 1, 0, 0, 0, 1, 0, 0, 0, 2, 0, 0, 0, 0x48, 0, 0, 0, 2, 0, 0, 0, 7, 9],
    .enqueue false]

-- A worker picks a request up and takes the route lock of its device.
def takeRoute (w : Nat) : List Step := [.pickUp w, .routeLookup w, .readRouteLock w, .acquire w]

-- From the handler's lookup into the template.
def enterTemplate (w : Nat) : List Step :=
  [.handlerLookup w, .faultPre w false, .checkRequest w true, .runBackend w, .callTemplate w]

theorem exclusive_one_device :
    ∃ s : Router, (s.workers 0).held = some 0 ∧ s.Exclusive := by
  have hrun : (exec (guarded Router.step LockGuard) Router.init
      ([.clearState, .addDevice "temp0" .template, .endRebuild] ++ i2cFrame ++ takeRoute 0 ++
        enterTemplate 0)).map (fun s => (s.workers 0).held) = some (some 0) := by decide
  obtain ⟨s, hexec, hheld⟩ := Option.map_eq_some_iff.mp hrun
  exact ⟨s, hheld, exclusive_of_reach (reach_of_exec hexec)⟩

-- A controller attached to a backend becomes template-backed after the first worker has taken the
-- backend's lock; the second worker takes the device's.
def updateBetween : List Step :=
  [.clearState, .addDevice "temp0" (.controller false), .endRebuild, .attachBackend "b0" "temp0"] ++
    i2cFrame ++ takeRoute 0 ++ [.updateBackend "temp0" .template, .updateTemplate false,
      .updateRoute false false] ++
    i2cFrame ++ takeRoute 1 ++ enterTemplate 0 ++ enterTemplate 1

-- The object a worker is running.
def runs (s : Router) (w : Nat) : Option TemplateObject :=
  match s.workers w with
  | .executing _ _ _ object => some object
  | _ => none

theorem runs_eq_some {s : Router} {w : Nat} {object : TemplateObject}
    (h : s.runs w = some object) : ∃ task lock r, s.workers w = .executing task lock r object := by
  unfold runs at h
  split at h
  · rename_i task lock r object' hpc
    cases h
    exact ⟨task, lock, r, hpc⟩
  · cases h

/-- Both workers run the handler of the new template object. -/
theorem exclusive_fails_on_update :
    ¬ ∀ s, Reach Router.step anyStep Router.init s → s.Exclusive := by
  intro h
  have hrun : (exec (guarded Router.step anyStep) Router.init updateBetween).map
      (fun s => (s.runs 0, s.runs 1)) = some (some ⟨0, 0⟩, some ⟨0, 0⟩) := by decide
  obtain ⟨s, hexec, hview⟩ := Option.map_eq_some_iff.mp hrun
  simp only [Prod.mk.injEq] at hview
  obtain ⟨task₁, lock₁, r₁, h₁⟩ := runs_eq_some hview.1
  obtain ⟨task₂, lock₂, r₂, h₂⟩ := runs_eq_some hview.2
  have heq := h s (reach_of_exec hexec) 0 1 task₁ task₂ lock₁ lock₂ r₁ r₂ ⟨0, 0⟩ h₁ h₂
  exact absurd heq (by decide)

end Router

end Sensorium.Daemon

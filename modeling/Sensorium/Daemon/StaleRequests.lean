import Sensorium.Daemon.RoutingSteps

/-!
# Requests and inventory changes

Handles start again at 1024 after every `_clear_state`, and nothing compares the request's
generation with the current inventory: a request that was taken before a change finds the new device
under its old handle, and a handler that found the old device finds the new one's worker under the
same id, or queues its event for the backend that the new one is attached to.  In runs whose
handlers look handles and controllers up only in the inventory of their request, or find nothing, no
request reaches a younger device or its controller.
-/

namespace Sensorium.Daemon

open Lib

namespace Router

/-- No access of a handler went to a record that is younger than its request, or to the controller
of one. -/
def NoStaleAccess (s : Router) : Prop :=
  ∀ r taken, (r, taken) ∈ s.touched → (s.records r).created ≤ taken

/-- The lookup of a handle or of a controller finds no device, or runs in the epoch in which the
request was taken. -/
def LookupGuard (s : Router) : Step → Prop
  | .handlerLookup w =>
    match s.workers w with
    | .handling task _ =>
      ∀ handle ∈ handlerHandle task, s.devicesByHandle handle = none ∨ s.epoch = task.taken
    | _ => True
  | .contactController w =>
    ∀ task r, (s.workers w).target = some (task, r) → s.contacted w = [] ∨ s.epoch = task.taken
  | _ => True

/-- `LookupGuard` as the value a run is checked with. -/
def lookupGuarded (s : Router) : Step → Bool
  | .handlerLookup w =>
    match s.workers w with
    | .handling task _ =>
      (handlerHandle task).all fun handle =>
        (s.devicesByHandle handle).isNone || s.epoch == task.taken
    | _ => true
  | .contactController w =>
    (s.workers w).target.all fun served => (s.contacted w).isEmpty || s.epoch == served.1.taken
  | _ => true

theorem lookupGuarded_iff (s : Router) (label : Step) :
    s.lookupGuarded label = true ↔ s.LookupGuard label := by
  cases label with
  | handlerLookup w =>
    simp only [lookupGuarded, LookupGuard]
    split <;> simp [Option.all_eq_true]
  | contactController w => simp [lookupGuarded, LookupGuard, Option.all_eq_true]
  | _ => simp [lookupGuarded, LookupGuard]

instance (s : Router) (label : Step) : Decidable (s.LookupGuard label) :=
  decidable_of_iff (s.lookupGuarded label = true) (s.lookupGuarded_iff label)

/-- The handles name records of the current epoch, the managed workers were launched for records that
exist, and every record that a worker serves or has touched is at most as young as the request. -/
structure Fresh (s : Router) : Prop where
  created_le : ∀ r, r < s.allocated → (s.records r).created ≤ s.epoch
  devices : ∀ d r, s.devices d = some r → r < s.allocated
  managed : ∀ d r, s.managedWorkers d = some r → r < s.allocated
  table : ∀ handle r, s.devicesByHandle handle = some r →
    r < s.allocated ∧ (s.records r).created = s.epoch
  serving : ∀ w task r, (s.workers w).target = some (task, r) →
    r < s.allocated ∧ (s.records r).created ≤ task.taken
  touches : ∀ r taken, (r, taken) ∈ s.touched →
    r < s.allocated ∧ (s.records r).created ≤ taken

theorem fresh_init : Router.init.Fresh where
  created_le := by simp [Router.init]
  devices := by simp [Router.init]
  managed := by simp [Router.init]
  table := by simp [Router.init]
  serving := by simp [Router.init, WorkerPc.target]
  touches := by simp [Router.init]

/-! ## Steps -/

theorem Fresh.config {s t : Router} (h : s.Fresh) (hstep : ConfigStep s t) : t.Fresh where
  created_le := by
    intro r hr
    rw [hstep.allocated] at hr
    rw [(hstep.identity r).1, hstep.epoch]
    exact h.created_le r hr
  devices := by
    intro d r hr
    rw [hstep.devices] at hr
    rw [hstep.allocated]
    exact h.devices d r hr
  managed := by
    intro d r hr
    rw [hstep.allocated]
    rcases hstep.managedWorkers d r hr with hold | hlaunched
    · exact h.managed d r hold
    · exact h.devices d r hlaunched
  table := by
    intro handle r hr
    rw [hstep.devicesByHandle] at hr
    rw [hstep.allocated, hstep.epoch, (hstep.identity r).1]
    exact h.table handle r hr
  serving := by
    intro w task r hr
    rw [hstep.workers] at hr
    rw [hstep.allocated, (hstep.identity r).1]
    exact h.serving w task r hr
  touches := by
    intro r taken hr
    rw [hstep.touched] at hr
    rw [hstep.allocated, (hstep.identity r).1]
    exact h.touches r taken hr

theorem Fresh.clearState {s t : Router} (h : s.Fresh) (hs : s.clearState = some t) : t.Fresh := by
  rw [clearState_cases hs]
  exact
    { created_le := fun r hr => Nat.le_succ_of_le (h.created_le r hr)
      devices := by simp
      managed := by simp
      table := by simp
      serving := h.serving
      touches := h.touches }

theorem Fresh.add {s t : Router} (h : s.Fresh) (hstep : AddStep s t) : t.Fresh := by
  -- Every record in use is older than the new one.
  have hold : ∀ r n, r < s.allocated ∧ (s.records r).created ≤ n →
      r < t.allocated ∧ (t.records r).created ≤ n := by
    intro r n hr
    rw [hstep.allocated, (hstep.records r (Nat.ne_of_lt hr.1)).1]
    exact ⟨Nat.lt_succ_of_lt hr.1, hr.2⟩
  constructor
  · intro r hr
    rw [hstep.allocated] at hr
    rw [hstep.epoch]
    by_cases hnew : r = s.allocated
    · rw [hnew]
      exact Nat.le_of_eq hstep.created
    · rw [(hstep.records r hnew).1]
      exact h.created_le r (by omega)
  · intro d r hr
    rw [hstep.allocated]
    rcases hstep.devices d r hr with hold' | rfl
    · exact Nat.lt_succ_of_lt (h.devices d r hold')
    · exact Nat.lt_succ_self _
  · intro d r hr
    rw [hstep.managedWorkers] at hr
    rw [hstep.allocated]
    exact Nat.lt_succ_of_lt (h.managed d r hr)
  · intro handle r hr
    rw [hstep.allocated, hstep.epoch]
    rcases hstep.devicesByHandle handle r hr with hr' | rfl
    · obtain ⟨hlt, hcreated⟩ := h.table handle r hr'
      rw [(hstep.records r (Nat.ne_of_lt hlt)).1]
      exact ⟨Nat.lt_succ_of_lt hlt, hcreated⟩
    · exact ⟨Nat.lt_succ_self _, hstep.created⟩
  · intro w task r hr
    rw [hstep.workers] at hr
    exact hold r task.taken (h.serving w task r hr)
  · intro r taken hr
    rw [hstep.touched] at hr
    exact hold r taken (h.touches r taken hr)

-- Moving a worker to a point where it serves nothing, or a record it may serve.
theorem Fresh.setWorker {s : Router} (h : s.Fresh) {w : Nat} (pc : WorkerPc)
    (hpc : ∀ task r, pc.target = some (task, r) →
      r < s.allocated ∧ (s.records r).created ≤ task.taken) : (s.setWorker w pc).Fresh where
  created_le := h.created_le
  devices := h.devices
  managed := h.managed
  table := h.table
  serving := by
    intro w' task r hr
    by_cases hw : w' = w
    · rw [hw, setWorker_self] at hr
      exact hpc task r hr
    · rw [setWorker_of_ne s pc hw] at hr
      exact h.serving w' task r hr
  touches := h.touches

-- Accesses to records that the request may reach.
theorem Fresh.reach {s : Router} (h : s.Fresh) {reached : List Nat} {taken : Nat}
    (hreached : ∀ r ∈ reached, r < s.allocated ∧ (s.records r).created ≤ taken) :
    ({ s with touched := reached.map (·, taken) ++ s.touched } : Router).Fresh :=
  { h with
    touches := by
      intro r taken' hr
      rcases List.mem_append.mp hr with hnew | hold
      · obtain ⟨r', hr', heq⟩ := List.mem_map.mp hnew
        cases heq
        exact hreached r hr'
      · exact h.touches r taken' hold }

-- The others that a worker reaches exist, and its request is of the current epoch.
theorem Fresh.serve {s t : Router} {w : Nat} {others : List Nat} (h : s.Fresh)
    (hstep : ServeStep s t w others)
    (hothers : ∀ task r, (s.workers w).target = some (task, r) →
      ∀ r' ∈ others, r' < s.allocated ∧ s.epoch = task.taken) : t.Fresh := by
  obtain ⟨task, r, pc, reached, htarget, _, hpc, _, hreached, rfl⟩ := hstep
  have hserving := h.serving w task r htarget
  have hold : ∀ r' ∈ reached, r' < s.allocated ∧ (s.records r').created ≤ task.taken := by
    intro r' hr
    rcases hreached r' hr with rfl | hother
    · exact hserving
    · obtain ⟨hlt, hepoch⟩ := hothers task r htarget r' hother
      exact ⟨hlt, hepoch ▸ h.created_le r' hlt⟩
  have hmove : ∀ task' r', pc.target = some (task', r') →
      r' < s.allocated ∧ (s.records r').created ≤ task'.taken := by
    intro task' r' hr
    rcases hpc with hsame | hnone
    · rw [hsame] at hr
      cases hr
      exact hserving
    · rw [hnone] at hr
      cases hr
  exact (h.setWorker (w := w) pc hmove).reach hold

-- A step that reaches nothing but the worker's own record.
theorem Fresh.serveOwn {s t : Router} {w : Nat} (h : s.Fresh) (hstep : ServeStep s t w []) :
    t.Fresh :=
  h.serve hstep fun _ _ _ _ hr => (List.not_mem_nil hr).elim

-- What a controller serves are records that exist.
theorem Fresh.controlled {s : Router} (h : s.Fresh) {controller : RouteKey} {r : Nat}
    (hr : r ∈ s.controlledBy controller) : r < s.allocated := by
  cases controller with
  | managedWorker deviceId => exact h.managed deviceId r (Option.mem_toList.mp hr)
  | backend backendId => exact List.mem_range.mp (List.mem_filter.mp hr).1
  | device deviceId => exact (List.not_mem_nil hr).elim

theorem Fresh.contacted {s : Router} (h : s.Fresh) {w r : Nat} (hr : r ∈ s.contacted w) :
    r < s.allocated := by
  unfold Router.contacted at hr
  split at hr
  · exact h.controlled hr
  · exact (List.not_mem_nil hr).elim

theorem Fresh.contactController {s t : Router} {w : Nat} (h : s.Fresh)
    (hok : s.LookupGuard (.contactController w)) (hs : s.contactController w = some t) :
    t.Fresh := by
  apply h.serve (contactController_serve hs)
  intro task r htarget r' hr
  rcases hok task r htarget with hnone | hepoch
  · rw [hnone] at hr
    exact (List.not_mem_nil hr).elim
  · exact ⟨h.contacted hr, hepoch⟩

theorem Fresh.route {s t : Router} {w : Nat} (h : s.Fresh) (hstep : RouteStep s t w) : t.Fresh := by
  obtain ⟨pc, queue, _, _, hpc, _, rfl⟩ := hstep
  have hmoved := h.setWorker (w := w) pc (by
    intro task r hr
    rw [hpc] at hr
    cases hr)
  exact { hmoved with }

theorem Fresh.acquire {s t : Router} {w : Nat} (h : s.Fresh) (hs : s.acquire w = some t) :
    t.Fresh := by
  obtain ⟨task, lock, _, _, rfl⟩ := acquire_cases hs
  have hmoved := h.setWorker (w := w) (.handling task (some lock)) (by
    intro task' r hr
    cases hr)
  exact { hmoved with }

theorem Fresh.handlerLookup {s t : Router} {w : Nat} (h : s.Fresh)
    (hok : s.LookupGuard (.handlerLookup w)) (hs : s.handlerLookup w = some t) : t.Fresh := by
  obtain ⟨task, lock, hpc, rfl | ⟨handle, r, hhandle, hr, rfl⟩⟩ := handlerLookup_cases hs
  · apply h.setWorker
    intro task' r hr
    cases hr
  · simp only [LookupGuard, hpc] at hok
    obtain ⟨hlt, hcreated⟩ := h.table handle r hr
    apply h.setWorker
    intro task' r' hr'
    cases hr'
    rcases hok handle hhandle with hnone | hepoch
    · rw [hnone] at hr
      cases hr
    · exact ⟨hlt, Nat.le_of_eq (hcreated.trans hepoch)⟩

theorem Fresh.callTemplate {s t : Router} {w : Nat} (h : s.Fresh)
    (hs : s.callTemplate w = some t) : t.Fresh := by
  obtain ⟨task, lock, r, hpc, ⟨object, _, rfl⟩ | rfl⟩ := callTemplate_cases hs
  · have htarget : (s.workers w).target = some (task, r) := by rw [hpc]; rfl
    have hserving := h.serving w task r htarget
    have hreached : ∀ r' ∈ [r], r' < s.allocated ∧ (s.records r').created ≤ task.taken := by
      intro r' hr'
      rw [List.mem_singleton.mp hr']
      exact hserving
    have htouched : (s.touch r task).Fresh := h.reach hreached
    apply htouched.setWorker
    intro task' r' hr'
    cases hr'
    exact hserving
  · apply h.setWorker
    intro task' r' hr'
    cases hr'

theorem Fresh.release {s t : Router} {w : Nat} (h : s.Fresh) (hs : s.release w = some t) :
    t.Fresh := by
  have hidle : (s.setWorker w .idle).Fresh := h.setWorker .idle (by
    intro task r hr
    cases hr)
  obtain ⟨_, _, rfl⟩ | ⟨_, rfl⟩ := release_cases hs
  · exact { hidle with }
  · exact hidle

theorem Fresh.step {s t : Router} {label : Step} (h : s.Fresh) (hok : s.LookupGuard label)
    (hs : s.step label = some t) : t.Fresh := by
  cases label with
  | clearState => exact h.clearState hs
  | clearRaises stopped => exact h.config (clearRaises_config hs)
  | addDevice deviceId backend => exact h.add (addDevice_add hs)
  | startManagedWorker deviceId registered => exact h.config (startManagedWorker_config hs)
  | managedWorkerExit deviceId => exact h.config (managedWorkerExit_config hs)
  | endRebuild => exact h.config (endRebuild_config hs)
  | updateBackend deviceId backend => exact h.config (updateBackend_config hs)
  | updateTemplate raises => exact h.config (updateTemplate_config hs)
  | updateRoute raises registered => exact h.config (updateRoute_config hs)
  | attachBackend backendId deviceId => exact h.config (attachBackend_config hs)
  | detachBackend backendId deviceId => exact h.config (detachBackend_config hs)
  | takeFrame msgType messageId generation payload => exact h.config (takeFrame_config hs)
  | enqueue full => exact h.config (enqueue_config hs)
  | pickUp w => exact h.route (pickUp_route hs)
  | routeLookup w => exact h.route (routeLookup_route hs)
  | readRouteLock w => exact h.route (readRouteLock_route hs)
  | acquire w => exact h.acquire hs
  | handlerLookup w => exact h.handlerLookup hok hs
  | checkRequest w accepted => exact h.serveOwn (checkRequest_serve hs)
  | faultPre w active => exact h.serveOwn (faultPre_serve hs)
  | updateSettings w => exact h.serveOwn (updateSettings_serve hs)
  | runBackend w => exact h.serveOwn (runBackend_serve hs)
  | dispatchController w => exact h.serveOwn (dispatchController_serve hs)
  | contactController w => exact h.contactController hok hs
  | callTemplate w => exact h.callTemplate hs
  | returnTemplate w => exact h.serveOwn (returnTemplate_serve hs)
  | finalize w => exact h.serveOwn (finalize_serve hs)
  | release w => exact h.release hs

/-- Along every run whose lookups meet the guard, no request reaches a device that was created after
the request was taken, or its controller. -/
theorem noStaleAccess_of_reach {s : Router} (h : Reach Router.step LookupGuard Router.init s) :
    s.NoStaleAccess := by
  have hfresh : s.Fresh :=
    h.invariant fresh_init fun _ _ _ hinv hok hs => hinv.step hok hs
  intro r taken hr
  exact (hfresh.touches r taken hr).2

/-! ## Schedules -/

-- A two-byte write to the I2C device with handle 1024 (0x400).
def i2cWrite : List UInt8 :=
  [0, 4, 0, 0, 1, 0, 0, 0, 1, 0, 0, 0, 2, 0, 0, 0, 0x48, 0, 0, 0, 2, 0, 0, 0, 7, 9]

-- An inventory of one template-backed device, and one of a device with a managed worker.
def rebuildTemplate : List Step := [.clearState, .addDevice "temp0" .template, .endRebuild]

def rebuildManaged : List Step :=
  [.clearState, .addDevice "temp0" (.controller true), .startManagedWorker "temp0" true, .endRebuild]

-- A worker serves the queued request up to the template's return.
def serveI2C (w : Nat) : List Step :=
  [.pickUp w, .routeLookup w, .readRouteLock w, .acquire w, .handlerLookup w, .faultPre w false,
    .checkRequest w true, .runBackend w, .callTemplate w, .returnTemplate w, .finalize w,
    .release w]

-- A worker has found the device of its request; the event then goes to a controller.
def findDevice (w : Nat) : List Step :=
  [.pickUp w, .routeLookup w, .readRouteLock w, .acquire w, .handlerLookup w]

def askController (w : Nat) : List Step :=
  [.faultPre w false, .checkRequest w true, .runBackend w, .dispatchController w,
    .contactController w, .finalize w, .release w]

/-- The request is dispatched to the worker of the device it was taken for. -/
theorem noStaleAccess_same_inventory :
    ∃ s : Router, s.touched = [(0, 1), (0, 1)] ∧ s.NoStaleAccess := by
  have hrun : (exec (guarded Router.step LookupGuard) Router.init
      (rebuildManaged ++ [.takeFrame .i2cXfer 1 0 i2cWrite, .enqueue false] ++ findDevice 0 ++
        askController 0)).map touched = some [(0, 1), (0, 1)] := by decide
  obtain ⟨s, hexec, htouched⟩ := Option.map_eq_some_iff.mp hrun
  exact ⟨s, htouched, noStaleAccess_of_reach (reach_of_exec hexec)⟩

/-- A request that was queued before a second apply runs on the device of the second inventory. -/
theorem staleAccess_after_apply :
    ¬ ∀ s, Reach Router.step anyStep Router.init s → s.NoStaleAccess := by
  intro h
  have hrun : (exec (guarded Router.step anyStep) Router.init
      (rebuildTemplate ++ [.takeFrame .i2cXfer 1 0 i2cWrite, .enqueue false] ++ rebuildTemplate ++
        serveI2C 0)).map (fun s => (s.touched, (s.records 1).created)) =
          some ([(1, 1), (1, 1)], 2) := by decide
  obtain ⟨s, hexec, hview⟩ := Option.map_eq_some_iff.mp hrun
  simp only [Prod.mk.injEq] at hview
  have hle := h s (reach_of_exec hexec) 1 1 (by rw [hview.1]; exact List.mem_cons_self)
  rw [hview.2] at hle
  exact absurd hle (by decide)

-- A handler that found its device before a second apply dispatches the event to the worker of the
-- second inventory's device.
example : (exec (guarded Router.step anyStep) Router.init
    (rebuildManaged ++ [.takeFrame .i2cXfer 1 0 i2cWrite, .enqueue false] ++ findDevice 0 ++
      rebuildManaged ++ askController 0)).map (fun s => (s.touched, (s.records 1).created)) =
        some ([(0, 1), (1, 1)], 2) := by
  decide

end Router

end Sensorium.Daemon

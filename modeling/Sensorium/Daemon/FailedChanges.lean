import Sensorium.Daemon.ServedTemplates

/-!
# Changes that fail

`update_device`, `attach_backend` and `detach_backend` with every place where they may raise, over
the records of the devices, their template objects, the managed workers and the backends that
`backend.list` shows.  An update checks a candidate first, but assigns the new fields and the new
template before its last checks and before the steps that outside code may fail; an attach
registers its backend before it looks at the devices; and a detach changes one device after the
other, up to an id that cannot be looked up.  The ids of an attach and a detach are whatever JSON a
client sent.
-/

namespace Sensorium.Daemon.Changes

open Lib Model Function
open Inventory (BackendId isExternal hasModemDefaults)

/-- The worker configuration in a backend. -/
def workerOf : Part → Option Worker
  | .i2c _ (.controller worker) | .spi _ _ (.controller worker) | .uart _ (.controller worker) =>
    worker
  | _ => none

/-- `bool(device["backend"].get("worker"))`. -/
def managedPart (part : Part) : Bool := (workerOf part).isSome

def DeviceRecord.attached (r : Inventory.DeviceRecord) : Bool :=
  r.attachedBackend.any BackendId.truthy

/-- What the three operations read and write: the inventory, the objects in `device["template"]`,
`managed_workers` with a number for each worker launched, and the keys of `backend_queues` and
`backend_meta`. -/
structure Configuration where
  daemon : Inventory.Daemon
  templates : Text → Option Template
  managed : List (Text × Nat)
  launched : Nat
  backends : List BackendId
  metas : List BackendId

/-- What a launch comes to: it raises before the worker is registered, or with the start of a
thread after that, or it returns. -/
inductive Launch
  | raises
  | threadRaises
  | starts
  deriving DecidableEq, Repr

/-- What outside code decides: whether the processes that are told to stop exit, how a launch goes,
whether the bridge takes a write, and whether persisting raises nothing but an `OSError`. -/
structure Luck where
  stops : Bool
  launch : Launch
  writes : Bool
  saves : Bool
  deriving DecidableEq, Repr

namespace Configuration

variable (s : Configuration)

/-! ## Workers -/

/-- `_stop_managed_worker_locked` and whether it returns. -/
def stopManagedWorker (id : Text) (o : Luck) : Configuration × Bool :=
  match dictGet s.managed id with
  | none => (s, true)
  | some _ => ({ s with managed := s.managed.filter fun e => e.1 ≠ id }, o.stops)

def register (id : Text) : Configuration :=
  { s with managed := dictSet s.managed id s.launched, launched := s.launched + 1 }

/-- `_launch_managed_worker_locked`. -/
def launchManagedWorker (id : Text) (o : Luck) : Configuration × Bool :=
  let (s, stopped) := s.stopManagedWorker id o
  if stopped = false then (s, false)
  else
    match o.launch with
    | .raises => (s, false)
    | .threadRaises => (s.register id, false)
    | .starts => (s.register id, true)

/-! ## Operations -/

/-- `_persist_snapshot_locked` returns. -/
def persists (o : Luck) : Bool := (s.daemon.buses.isEmpty && s.daemon.devices.isEmpty) || o.saves

/-- The assignments of `update_device`; a template that cannot be built is not assigned. -/
def assign (id : Text) (dev : Device) : Configuration :=
  { s with
    daemon := s.daemon.modifyDevice id fun r => { r with device := dev }
    templates :=
      match Template.build dev.part with
      | some template => update s.templates id template
      | none => s.templates }

/-- The stop of the worker that the update takes away, or the launch of the one it brings. -/
def changeWorker (id : Text) (had has : Bool) (o : Luck) : Configuration × Bool :=
  if has then s.launchManagedWorker id o
  else if had then s.stopManagedWorker id o
  else (s, true)

/-- `update_device` after the checks of the candidate. -/
def store (id : Text) (r : Inventory.DeviceRecord) (dev : Device) (o : Luck) :
    Configuration × Bool :=
  let s := s.assign id dev
  if (Template.build dev.part).isNone then (s, false)
  else if managedPart dev.part && DeviceRecord.attached r then (s, false)
  else
    let after := s.changeWorker id (managedPart r.device.part) (managedPart dev.part) o
    (after.1, after.2 && (!hasModemDefaults dev.part || o.writes) && after.1.persists o)

/-- `update_device` and whether it returns. -/
def updateDevice (id : Text) (patch : Value) (o : Luck) : Configuration × Bool :=
  match updated s.daemon id patch with
  | none => (s, false)
  | some (r, dev) => s.store id r dev o

/-- `setdefault` of a key. -/
def insertKey (backends : List BackendId) (backend : BackendId) : List BackendId :=
  if backend ∈ backends then backends else backends ++ [backend]

def registerBackend (backend : BackendId) : Configuration :=
  { s with backends := insertKey s.backends backend, metas := insertKey s.metas backend }

/-- `for device_id in device_ids`; some values cannot be iterated. -/
def iterated : Value → Option (List Value)
  | .list xs => some xs
  | .str s => some (s.map fun c => .str [c])
  | .bytes bs => some (bs.map fun b => .int b.toNat)
  | .dict es => some (keys es)
  | .null | .bool _ | .int _ | .float _ => none

/-- The keys of `devices` are strings, and nothing else equals one. -/
def keyOf : Value → Option Text
  | .str s => some s
  | _ => none

/-- The ids, if every one of them may be the key of a device. -/
def attachIds (ids : Value) : Option (List Text) := (iterated ids).bind (·.mapM keyOf)

/-- The inventory after both loops of `_attach_backend_locked`; the first one may raise. -/
def attached (backend : BackendId) (ids : Value) : Option Inventory.Daemon :=
  (attachIds ids).bind (s.daemon.attachBackend backend)

/-- `attach_backend`; the backend is registered before the devices are checked. -/
def attachBackend (backend : BackendId) (ids : Value) (o : Luck) : Configuration × Bool :=
  if s.daemon.runtimeState = .desynced then (s, false)
  else
    match s.attached backend ids with
    | none => (s.registerBackend backend, false)
    | some daemon =>
      let s := { s.registerBackend backend with daemon := daemon }
      (s, s.persists o)

/-- `device["attached_backend"] = None` where the backend is the one that is detached. -/
def release (backend : BackendId) (r : Inventory.DeviceRecord) : Inventory.DeviceRecord :=
  if r.attachedBackend = some backend then { r with attachedBackend := none } else r

/-- `device_ids or list(self.devices.keys())`, as the loop goes through it. -/
def detachTargets (ids : Value) : Option (List Value) :=
  if ids.truthy then iterated ids else some ((keys s.daemon.devices).map .str)

/-- The loop of `detach_backend`, and whether it ends; `devices.get` raises for an id that is not
hashable. -/
def detachLoop (backend : BackendId) : Inventory.Daemon → List Value → Inventory.Daemon × Bool
  | d, [] => (d, true)
  | d, target :: targets =>
    if target.hashable = false then (d, false)
    else
      match keyOf target with
      | some id => detachLoop backend (d.modifyDevice id (release backend)) targets
      | none => detachLoop backend d targets

/-- `detach_backend`; its entry in `backend_meta` is made after the loop. -/
def detachBackend (backend : BackendId) (ids : Value) (o : Luck) : Configuration × Bool :=
  if s.daemon.runtimeState = .desynced then (s, false)
  else
    match s.detachTargets ids with
    | none => (s, false)
    | some targets =>
      let (daemon, ended) := detachLoop backend s.daemon targets
      let s := { s with daemon := daemon }
      -- the devices before the id that is not hashable stay detached
      if ended = false then (s, false)
      else
        let s := { s with metas := insertKey s.metas backend }
        (s, s.persists o)

end Configuration

inductive Request
  | updateDevice (id : Text) (patch : Value)
  | attachBackend (backend : BackendId) (ids : Value)
  | detachBackend (backend : BackendId) (ids : Value)

def Configuration.run (s : Configuration) (o : Luck) : Request → Configuration × Bool
  | .updateDevice id patch => s.updateDevice id patch o
  | .attachBackend backend ids => s.attachBackend backend ids o
  | .detachBackend backend ids => s.detachBackend backend ids o

/-! ## Runs -/

/-- What happens to a configuration: a request; an apply, a rollback or a resync, which stops the
workers and builds everything anew; a device request, which may change the device's template object
and use up its fault; the exit and the restart of a worker; and a poll, which makes a backend
known. -/
inductive Act
  | request (request : Request) (o : Luck)
  | rebuild (daemon : Inventory.Daemon) (ids_nodup : (keys daemon.devices).Nodup)
    (templates : Text → Option Template) (launched : List Text)
  | serve (id : Text) (template : Option Template) (faults : Faults)
  | workerExits (id : Text)
  | relaunch (id : Text)
  | poll (backend : BackendId)

def Configuration.step (s : Configuration) : Act → Option Configuration
  | .request request o => some (s.run o request).1
  | .rebuild daemon _ templates launched =>
    some (launched.foldl register
      { s with daemon := daemon, templates := templates, managed := [] })
  | .serve id template faults =>
    some { s with
      daemon := s.daemon.modifyDevice id fun r =>
        { r with device := { r.device with faults := faults } }
      templates := update s.templates id template }
  | .workerExits id => some { s with managed := s.managed.filter fun e => e.1 ≠ id }
  | .relaunch id => some (s.register id)
  | .poll backend => some (s.registerBackend backend)

def Configuration.start (daemon : Inventory.Daemon) : Configuration :=
  ⟨{ daemon with devices := [] }, fun _ => none, [], 0, [], []⟩

/-! ## The invariant -/

/-- The devices are a dictionary, and a worker that is launched is a new one. -/
structure Configuration.Wf (s : Configuration) : Prop where
  ids : (keys s.daemon.devices).Nodup
  fresh : ∀ e ∈ s.managed, e.2 < s.launched

/-! ## What a failure leaves -/

/-- The configuration as clients see it: every record and template object, the managed workers and
the known backends. -/
structure Configuration.Same (s t : Configuration) : Prop where
  devices : t.daemon.devices = s.daemon.devices
  templates : t.templates = s.templates
  managed : ∀ id, dictGet t.managed id = dictGet s.managed id
  backends : t.backends = s.backends

/-- A request that raises leaves the configuration as it was. -/
def Configuration.FailsCleanly (s : Configuration) (o : Luck) (request : Request) : Prop :=
  (s.run o request).2 = false → s.Same (s.run o request).1

/-- The steps of an update after its assignments all go well: the template is built, no backend is
attached to a managed device, and the workers, the bridge and the file system do as they are told. -/
structure Configuration.Completes (s : Configuration) (id : Text) (r : Inventory.DeviceRecord)
    (dev : Device) (o : Luck) : Prop where
  builds : (Template.build dev.part).isSome = true
  attachment : managedPart dev.part = true → DeviceRecord.attached r = false
  stop : managedPart r.device.part = true ∨ managedPart dev.part = true →
    dictGet s.managed id = none ∨ o.stops = true
  launch : managedPart dev.part = true → o.launch = .starts
  writes : hasModemDefaults dev.part = true → o.writes = true
  saves : s.persists o = true

/-- The update stores what is there: the device's own fields, a template object that is as it was
built, and no worker is stopped or registered. -/
structure Configuration.Repeats (s : Configuration) (id : Text) (r : Inventory.DeviceRecord)
    (dev : Device) (o : Luck) : Prop where
  device : dev = r.device
  template : ∀ template, Template.build dev.part = some template → s.templates id = template
  worker : managedPart dev.part = true → DeviceRecord.attached r = false →
    dictGet s.managed id = none ∧ o.launch = .raises

/-- The devices that the loop of a detach comes to: the ids before one that is not hashable. -/
def Configuration.detachedIds (s : Configuration) (ids : Value) : List Text :=
  (((s.detachTargets ids).getD []).takeWhile Value.hashable).filterMap keyOf

/-- The loop of a detach comes to its end. -/
def Configuration.detachEnds (s : Configuration) (ids : Value) : Bool :=
  (s.detachTargets ids).any (·.all Value.hashable)

/-- The condition of each request on the configuration before it and on its luck. -/
def Configuration.Meets (s : Configuration) (o : Luck) : Request → Prop
  | .updateDevice id patch => ∀ r dev, updated s.daemon id patch = some (r, dev) →
    s.Completes id r dev o ∨ s.Repeats id r dev o
  | .attachBackend backend ids => s.daemon.runtimeState ≠ .desynced →
    (s.attached backend ids).isSome = true ∧ s.persists o = true ∨
    backend ∈ s.backends ∧ ((s.attached backend ids).isSome = true →
      ∀ p ∈ s.daemon.devices, p.1 ∈ (attachIds ids).getD [] → p.2.attachedBackend = some backend)
  | .detachBackend backend ids => s.daemon.runtimeState ≠ .desynced →
    s.detachEnds ids = true ∧ s.persists o = true ∨
    ∀ p ∈ s.daemon.devices, p.1 ∈ s.detachedIds ids → p.2.attachedBackend ≠ some backend

/-! ## Records -/

section Records

variable {d : Inventory.Daemon} {id : Text} {f : Inventory.DeviceRecord → Inventory.DeviceRecord}

theorem modifyDevice_devices (d : Inventory.Daemon) (id : Text)
    (f : Inventory.DeviceRecord → Inventory.DeviceRecord) :
    (d.modifyDevice id f).devices = d.devices.map fun p => if p.1 = id then (p.1, f p.2) else p :=
  rfl

theorem keys_modifyDevice (d : Inventory.Daemon) (id : Text)
    (f : Inventory.DeviceRecord → Inventory.DeviceRecord) :
    keys (d.modifyDevice id f).devices = keys d.devices := by
  rw [modifyDevice_devices, keys, keys, List.map_map]
  apply List.map_congr_left
  intro p _
  show (if p.1 = id then (p.1, f p.2) else p).1 = p.1
  split <;> rfl

theorem keys_foldl_modifyDevice (d : Inventory.Daemon) (ids : List Text)
    (f : Inventory.DeviceRecord → Inventory.DeviceRecord) :
    keys (ids.foldl (fun d id => d.modifyDevice id f) d).devices = keys d.devices := by
  induction ids generalizing d with
  | nil => rfl
  | cons id ids ih => rw [List.foldl_cons, ih, keys_modifyDevice]

theorem foldl_modifyDevice_buses (d : Inventory.Daemon) (ids : List Text)
    (f : Inventory.DeviceRecord → Inventory.DeviceRecord) :
    (ids.foldl (fun d id => d.modifyDevice id f) d).buses = d.buses := by
  induction ids generalizing d with
  | nil => rfl
  | cons id ids ih =>
    rw [List.foldl_cons, ih]
    rfl

/-- A change of records that has no effect twice is the change of the records named. -/
theorem foldl_modifyDevice_devices (f : Inventory.DeviceRecord → Inventory.DeviceRecord)
    (hf : ∀ r, f (f r) = f r)
    (d : Inventory.Daemon) (ids : List Text) :
    (ids.foldl (fun d id => d.modifyDevice id f) d).devices =
      d.devices.map fun p => if p.1 ∈ ids then (p.1, f p.2) else p := by
  induction ids generalizing d with
  | nil =>
    rw [List.foldl_nil]
    exact (List.map_id'' (fun p => if_neg List.not_mem_nil) _).symm
  | cons id ids ih =>
    rw [List.foldl_cons, ih, modifyDevice_devices, List.map_map]
    apply List.map_congr_left
    intro p _
    show (if (if p.1 = id then (p.1, f p.2) else p).1 ∈ ids then _ else _) = _
    by_cases hid : p.1 = id
    · simp [hid, hf]
    · simp [hid]

theorem map_eq_self_iff (p : Text → Prop) [DecidablePred p]
    (f : Inventory.DeviceRecord → Inventory.DeviceRecord)
    (devices : List (Text × Inventory.DeviceRecord)) :
    (devices.map fun e => if p e.1 then (e.1, f e.2) else e) = devices ↔
      ∀ e ∈ devices, p e.1 → f e.2 = e.2 := by
  have hself : devices = devices.map id := (List.map_id devices).symm
  conv_lhs => rhs; rw [hself]
  rw [List.map_inj_left]
  apply forall₂_congr
  intro e _
  by_cases he : p e.1
  · rw [if_pos he]
    exact ⟨fun h _ => congrArg Prod.snd h, fun h => Prod.ext rfl (h he)⟩
  · rw [if_neg he]
    exact iff_of_true rfl fun h => absurd h he

end Records

/-! ## Workers -/

namespace Configuration

variable {s : Configuration} {id : Text} {o : Luck}

theorem stop_of_none (h : dictGet s.managed id = none) :
    s.stopManagedWorker id o = (s, true) := by
  rw [stopManagedWorker, h]

theorem stop_of_some {x : Nat} (h : dictGet s.managed id = some x) :
    s.stopManagedWorker id o =
      ({ s with managed := s.managed.filter fun e => e.1 ≠ id }, o.stops) := by
  rw [stopManagedWorker, h]

theorem dictGet_popped (managed : List (Text × Nat)) (id : Text) :
    dictGet (managed.filter fun e => e.1 ≠ id) id = none := by
  cases h : dictGet (managed.filter fun e => e.1 ≠ id) id with
  | none => rfl
  | some x =>
    have hmem := (List.mem_filter.mp (mem_of_dictGet h)).2
    simp at hmem

theorem stop_ok_iff :
    (s.stopManagedWorker id o).2 = true ↔ dictGet s.managed id = none ∨ o.stops = true := by
  cases h : dictGet s.managed id with
  | none => simp [stop_of_none h]
  | some x => simp [stop_of_some h]

theorem launch_of_some {x : Nat} (h : dictGet s.managed id = some x) (hstops : o.stops = false) :
    s.launchManagedWorker id o =
      ({ s with managed := s.managed.filter fun e => e.1 ≠ id }, false) := by
  rw [launchManagedWorker, stop_of_some h]
  exact if_pos hstops

/-- The configuration that a launch registers its worker in. -/
theorem launch_of_stopped {t : Configuration} (h : s.stopManagedWorker id o = (t, true)) :
    s.launchManagedWorker id o =
      match o.launch with
      | .raises => (t, false)
      | .threadRaises => (t.register id, false)
      | .starts => (t.register id, true) := by
  rw [launchManagedWorker, h]
  rfl

theorem launch_ok_iff : (s.launchManagedWorker id o).2 = true ↔
    (dictGet s.managed id = none ∨ o.stops = true) ∧ o.launch = .starts := by
  rw [← stop_ok_iff, launchManagedWorker]
  cases hstop : s.stopManagedWorker id o with
  | mk t stopped =>
    cases stopped with
    | false => simp
    | true => cases hlaunch : o.launch <;> simp

/-- The workers stay as they were only where none was running and none was registered. -/
theorem launch_managed_iff (hwf : s.Wf) :
    (∀ id', dictGet (s.launchManagedWorker id o).1.managed id' = dictGet s.managed id') ↔
      dictGet s.managed id = none ∧ o.launch = .raises := by
  have hregister (t : Configuration) : dictGet (t.register id).managed id = some t.launched := by
    show dictGet (dictSet t.managed id t.launched) id = _
    rw [dictGet_dictSet, if_pos rfl]
  cases hrunning : dictGet s.managed id with
  | none =>
    rw [launch_of_stopped (stop_of_none hrunning)]
    cases hlaunch : o.launch with
    | raises => simp
    | threadRaises | starts =>
      refine iff_of_false (fun h => ?_) (by simp)
      have hnew := h id
      rw [hrunning, hregister] at hnew
      cases hnew
  | some x =>
    refine iff_of_false (fun h => ?_) (by simp)
    have hx := h id
    rw [hrunning] at hx
    cases hstops : o.stops with
    | false =>
      rw [launch_of_some hrunning hstops] at hx
      rw [dictGet_popped] at hx
      cases hx
    | true =>
      have hstop := stop_of_some (o := o) hrunning
      rw [hstops] at hstop
      rw [launch_of_stopped hstop] at hx
      cases hlaunch : o.launch with
      | raises =>
        rw [hlaunch] at hx
        rw [dictGet_popped] at hx
        cases hx
      | threadRaises | starts =>
        rw [hlaunch, hregister] at hx
        -- the number of a new worker is no number in use
        have hlt := hwf.fresh _ (mem_of_dictGet hrunning)
        have heq : s.launched = x := Option.some_inj.mp hx
        simp only at hlt
        omega

/-- Stops and launches touch nothing but the workers. -/
structure Rest (s t : Configuration) : Prop where
  daemon : t.daemon = s.daemon
  templates : t.templates = s.templates
  backends : t.backends = s.backends

theorem rest_stop (s : Configuration) (id : Text) (o : Luck) :
    s.Rest (s.stopManagedWorker id o).1 := by
  rw [stopManagedWorker]
  split <;> exact ⟨rfl, rfl, rfl⟩

theorem rest_launch (s : Configuration) (id : Text) (o : Luck) :
    s.Rest (s.launchManagedWorker id o).1 := by
  have hstop := rest_stop s id o
  rw [launchManagedWorker]
  cases hcase : s.stopManagedWorker id o with
  | mk t stopped =>
    rw [hcase] at hstop
    cases stopped with
    | false => exact hstop
    | true =>
      cases hlaunch : o.launch with
      | raises => exact hstop
      | threadRaises | starts => exact ⟨hstop.daemon, hstop.templates, hstop.backends⟩

theorem rest_changeWorker (s : Configuration) (id : Text) (had has : Bool) (o : Luck) :
    s.Rest (s.changeWorker id had has o).1 := by
  rw [changeWorker]
  split
  · exact rest_launch s id o
  · split
    · exact rest_stop s id o
    · exact ⟨rfl, rfl, rfl⟩

theorem changeWorker_ok_iff {had has : Bool} : (s.changeWorker id had has o).2 = true ↔
    (had = true ∨ has = true → dictGet s.managed id = none ∨ o.stops = true) ∧
      (has = true → o.launch = .starts) := by
  rw [changeWorker]
  cases has with
  | true =>
    rw [if_pos rfl, launch_ok_iff]
    simp
  | false =>
    rw [if_neg Bool.false_ne_true]
    cases had with
    | true =>
      rw [if_pos rfl, stop_ok_iff]
      simp
    | false => simp

/-- An update that keeps the backend stops a worker only to launch it again. -/
theorem changeWorker_managed_iff (hwf : s.Wf) (has : Bool) :
    (∀ id', dictGet (s.changeWorker id has has o).1.managed id' = dictGet s.managed id') ↔
      (has = true → dictGet s.managed id = none ∧ o.launch = .raises) := by
  rw [changeWorker]
  cases has with
  | true =>
    rw [if_pos rfl, launch_managed_iff hwf]
    simp
  | false => simp

/-! ## Updates -/

variable {r : Inventory.DeviceRecord} {dev : Device}

theorem assign_devices_iff (hwf : s.Wf) (hr : dictGet s.daemon.devices id = some r) :
    (s.assign id dev).daemon.devices = s.daemon.devices ↔ dev = r.device := by
  let f (r : Inventory.DeviceRecord) : Inventory.DeviceRecord := { r with device := dev }
  refine (map_eq_self_iff (· = id) f s.daemon.devices).trans ?_
  constructor
  · intro h
    exact congrArg Inventory.DeviceRecord.device (h _ (mem_of_dictGet hr) rfl)
  · rintro rfl p hp rfl
    have hp' : p.2 = r := eq_of_dictGet hwf.ids hr hp
    show ({ p.2 with device := r.device } : Inventory.DeviceRecord) = p.2
    rw [hp']

theorem assign_templates_iff : (s.assign id dev).templates = s.templates ↔
    ∀ template, Template.build dev.part = some template → s.templates id = template := by
  unfold assign
  cases hbuild : Template.build dev.part with
  | none => simp
  | some template => simp [eq_comm]

theorem assign_wf (hwf : s.Wf) : (s.assign id dev).Wf where
  ids := by
    show (keys (s.daemon.modifyDevice id _).devices).Nodup
    rw [keys_modifyDevice]
    exact hwf.ids
  fresh := hwf.fresh

theorem assign_persists (s : Configuration) (id : Text) (dev : Device) (o : Luck) :
    (s.assign id dev).persists o = s.persists o := by
  show ((s.daemon.buses.isEmpty && (s.daemon.devices.map _).isEmpty) || o.saves) = _
  rw [List.isEmpty_map]
  rfl

-- A controller has no template object.
theorem build_of_managedPart {part : Part} (h : managedPart part = true) :
    Template.build part = some none := by
  cases part with
  | i2c address backend | spi chipSelect name backend | uart port backend =>
    cases backend with
    | controller worker => rfl
    | template kind fields => cases h

theorem store_of_unbuilt (h : Template.build dev.part = none) :
    s.store id r dev o = (s.assign id dev, false) := by
  rw [store]
  exact if_pos (by rw [h]; rfl)

theorem store_of_attached (hbuild : (Template.build dev.part).isSome = true)
    (hmanaged : managedPart dev.part = true) (hattached : DeviceRecord.attached r = true) :
    s.store id r dev o = (s.assign id dev, false) := by
  rw [store]
  show (if (Template.build dev.part).isNone = true then _ else if _ then _ else _) = _
  rw [if_neg (by rw [Option.isNone_iff_eq_none, ← Option.not_isSome_iff_eq_none]; simp [hbuild]),
    if_pos (by rw [hmanaged, hattached]; rfl)]

theorem store_of_attempted (hbuild : (Template.build dev.part).isSome = true)
    (hattachment : managedPart dev.part = true → DeviceRecord.attached r = false) :
    s.store id r dev o =
      (((s.assign id dev).changeWorker id (managedPart r.device.part) (managedPart dev.part) o).1,
        ((s.assign id dev).changeWorker id (managedPart r.device.part) (managedPart dev.part) o).2 &&
          (!hasModemDefaults dev.part || o.writes) && s.persists o) := by
  have hpersists (t : Configuration) (ht : (s.assign id dev).Rest t) :
      t.persists o = s.persists o := by
    rw [← assign_persists s id dev o, persists, persists, ht.daemon]
  rw [store]
  show (if (Template.build dev.part).isNone = true then _ else if _ then _ else _) = _
  rw [if_neg (by rw [Option.isNone_iff_eq_none, ← Option.not_isSome_iff_eq_none]; simp [hbuild]),
    if_neg ?_]
  · show (_, _ && _ && Configuration.persists _ o) = _
    rw [hpersists _ (rest_changeWorker ..)]
  · intro h
    rw [Bool.and_eq_true] at h
    rw [hattachment h.1] at h
    cases h.2

theorem store_ok_iff : (s.store id r dev o).2 = true ↔ s.Completes id r dev o := by
  by_cases hbuild : (Template.build dev.part).isSome = true
  · by_cases hattachment : managedPart dev.part = true → DeviceRecord.attached r = false
    · rw [store_of_attempted hbuild hattachment, Bool.and_eq_true, Bool.and_eq_true,
        changeWorker_ok_iff]
      constructor
      · rintro ⟨⟨⟨hstop, hlaunch⟩, hwrites⟩, hsaves⟩
        exact ⟨hbuild, hattachment, hstop, hlaunch, fun hmodem => by simpa [hmodem] using hwrites,
          hsaves⟩
      · intro h
        refine ⟨⟨⟨h.stop, h.launch⟩, ?_⟩, h.saves⟩
        cases hmodem : hasModemDefaults dev.part with
        | false => rfl
        | true => exact h.writes hmodem
    · rw [Classical.not_imp, Bool.not_eq_false] at hattachment
      rw [store_of_attached hbuild hattachment.1 hattachment.2]
      refine iff_of_false Bool.false_ne_true fun h => ?_
      have hattached := h.attachment hattachment.1
      rw [hattachment.2] at hattached
      cases hattached
  · have hnone : Template.build dev.part = none := Option.not_isSome_iff_eq_none.mp hbuild
    rw [store_of_unbuilt hnone]
    exact iff_of_false Bool.false_ne_true fun h => hbuild h.builds

/-- The assignments change nothing. -/
theorem assign_same_iff (hwf : s.Wf) (hr : dictGet s.daemon.devices id = some r)
    (t : Configuration) (ht : (s.assign id dev).Rest t) :
    s.Same t ↔ dev = r.device ∧
      (∀ template, Template.build dev.part = some template → s.templates id = template) ∧
      ∀ id', dictGet t.managed id' = dictGet s.managed id' := by
  rw [← assign_devices_iff hwf hr, ← assign_templates_iff, ← ht.daemon, ← ht.templates]
  exact ⟨fun h => ⟨h.devices, h.templates, h.managed⟩, fun h => ⟨h.1, h.2.1, h.2.2, ht.backends⟩⟩

theorem store_same_iff (hwf : s.Wf) (hr : dictGet s.daemon.devices id = some r) :
    s.Same (s.store id r dev o).1 ↔ s.Repeats id r dev o := by
  have hassign : (s.assign id dev).Rest (s.assign id dev) := ⟨rfl, rfl, rfl⟩
  by_cases hbuild : (Template.build dev.part).isSome = true
  · by_cases hattachment : managedPart dev.part = true → DeviceRecord.attached r = false
    · rw [store_of_attempted hbuild hattachment,
        assign_same_iff hwf hr _ (rest_changeWorker ..)]
      constructor
      · rintro ⟨rfl, htemplate, hmanaged⟩
        exact ⟨rfl, htemplate, fun h _ => (changeWorker_managed_iff (assign_wf hwf) _).mp hmanaged h⟩
      · rintro ⟨rfl, htemplate, hworker⟩
        exact ⟨rfl, htemplate, (changeWorker_managed_iff (assign_wf hwf) _).mpr
          fun h => hworker h (hattachment h)⟩
    · rw [Classical.not_imp, Bool.not_eq_false] at hattachment
      rw [store_of_attached hbuild hattachment.1 hattachment.2,
        assign_same_iff hwf hr _ hassign]
      refine ⟨fun h => ⟨h.1, h.2.1, fun _ hdetached => ?_⟩,
        fun h => ⟨h.device, h.template, fun _ => rfl⟩⟩
      rw [hattachment.2] at hdetached
      cases hdetached
  · have hnone : Template.build dev.part = none := Option.not_isSome_iff_eq_none.mp hbuild
    rw [store_of_unbuilt hnone, assign_same_iff hwf hr _ hassign]
    refine ⟨fun h => ⟨h.1, h.2.1, fun hmanaged _ => ?_⟩,
      fun h => ⟨h.device, h.template, fun _ => rfl⟩⟩
    rw [build_of_managedPart hmanaged] at hnone
    cases hnone

theorem updateDevice_failsCleanly_iff (hwf : s.Wf) (id : Text) (patch : Value) :
    s.FailsCleanly o (.updateDevice id patch) ↔ s.Meets o (.updateDevice id patch) := by
  show ((s.updateDevice id patch o).2 = false → s.Same (s.updateDevice id patch o).1) ↔ _
  cases hupdated : updated s.daemon id patch with
  | none =>
    have hkeeps : s.updateDevice id patch o = (s, false) := by rw [updateDevice, hupdated]
    rw [hkeeps]
    exact iff_of_true (fun _ => ⟨rfl, rfl, fun _ => rfl, rfl⟩) fun r dev h => by
      rw [hupdated] at h
      cases h
  | some change =>
    obtain ⟨r, dev⟩ := change
    have hstores : s.updateDevice id patch o = s.store id r dev o := by rw [updateDevice, hupdated]
    have hr : dictGet s.daemon.devices id = some r := by
      unfold updated at hupdated
      split at hupdated
      · cases hupdated
      · obtain ⟨r', hr', hpatched⟩ := Option.bind_eq_some_iff.mp hupdated
        obtain ⟨_, _, heq⟩ := Option.map_eq_some_iff.mp hpatched
        cases heq
        exact hr'
    have hmeets : s.Meets o (.updateDevice id patch) ↔
        s.Completes id r dev o ∨ s.Repeats id r dev o := by
      constructor
      · exact fun h => h r dev hupdated
      · intro h r' dev' hother
        rw [hupdated] at hother
        cases hother
        exact h
    rw [hmeets, hstores, ← store_ok_iff, store_same_iff hwf hr]
    cases hok : (s.store id r dev o).2 <;> simp

/-! ## Attachments -/

theorem insertKey_eq_iff {backends : List BackendId} {backend : BackendId} :
    insertKey backends backend = backends ↔ backend ∈ backends := by
  unfold insertKey
  split
  · exact iff_of_true rfl ‹_›
  · exact iff_of_false (fun h => by simpa using congrArg List.length h) ‹_›

/-- Whether persisting raises depends on no field of a record. -/
theorem persists_congr {t : Configuration} (hbuses : t.daemon.buses = s.daemon.buses)
    (hids : keys t.daemon.devices = keys s.daemon.devices) : t.persists o = s.persists o := by
  have hempty : t.daemon.devices.isEmpty = s.daemon.devices.isEmpty := by
    have hlength := congrArg List.isEmpty hids
    rw [keys, keys, List.isEmpty_map, List.isEmpty_map] at hlength
    exact hlength
  rw [persists, persists, hbuses, hempty]

theorem attachBackend_tables {d d' : Inventory.Daemon} {backend : BackendId} {ids : List Text}
    (h : d.attachBackend backend ids = some d') :
    d'.buses = d.buses ∧ keys d'.devices = keys d.devices := by
  unfold Inventory.Daemon.attachBackend at h
  split at h
  · cases h
    exact ⟨foldl_modifyDevice_buses .., keys_foldl_modifyDevice ..⟩
  · cases h

/-- An attach that comes to its second loop is one of ids that are strings. -/
theorem attached_eq_some {d : Inventory.Daemon} {backend : BackendId} {ids : Value}
    (h : s.attached backend ids = some d) :
    ∃ texts, attachIds ids = some texts ∧ s.daemon.attachBackend backend texts = some d :=
  Option.bind_eq_some_iff.mp h

theorem attached_devices_iff {d : Inventory.Daemon} {backend : BackendId} {ids : List Text}
    (h : s.daemon.attachBackend backend ids = some d) :
    d.devices = s.daemon.devices ↔
      ∀ p ∈ s.daemon.devices, p.1 ∈ ids → p.2.attachedBackend = some backend := by
  let f (r : Inventory.DeviceRecord) : Inventory.DeviceRecord :=
    { r with attachedBackend := some backend }
  have hdevices : d.devices =
      s.daemon.devices.map fun p => if p.1 ∈ ids then (p.1, f p.2) else p := by
    unfold Inventory.Daemon.attachBackend at h
    split at h
    · cases h
      exact foldl_modifyDevice_devices f (fun _ => rfl) s.daemon ids
    · cases h
  rw [hdevices]
  refine (map_eq_self_iff (· ∈ ids) f s.daemon.devices).trans ?_
  apply forall₂_congr
  intro p _
  apply imp_congr_right
  intro _
  exact ⟨fun h => (congrArg Inventory.DeviceRecord.attachedBackend h).symm,
    fun h => by
      show ({ p.2 with attachedBackend := some backend } : Inventory.DeviceRecord) = p.2
      rw [← h]⟩

theorem attachBackend_of_unknown {backend : BackendId} {ids : Value}
    (hready : s.daemon.runtimeState ≠ .desynced) (h : s.attached backend ids = none) :
    s.attachBackend backend ids o = (s.registerBackend backend, false) := by
  rw [attachBackend, if_neg hready, h]

theorem attachBackend_of_checked {backend : BackendId} {ids : Value} {d : Inventory.Daemon}
    (hready : s.daemon.runtimeState ≠ .desynced) (h : s.attached backend ids = some d) :
    s.attachBackend backend ids o =
      ({ s.registerBackend backend with daemon := d }, s.persists o) := by
  obtain ⟨texts, _, hd⟩ := attached_eq_some h
  obtain ⟨hbuses, hids⟩ := attachBackend_tables hd
  have hpersists : persists { s.registerBackend backend with daemon := d } o = s.persists o :=
    persists_congr hbuses hids
  rw [attachBackend, if_neg hready, h, ← hpersists]

theorem attachBackend_failsCleanly_iff (backend : BackendId) (ids : Value) :
    s.FailsCleanly o (.attachBackend backend ids) ↔ s.Meets o (.attachBackend backend ids) := by
  show ((s.attachBackend backend ids o).2 = false → s.Same (s.attachBackend backend ids o).1) ↔
    (s.daemon.runtimeState ≠ .desynced → _)
  by_cases hdesynced : s.daemon.runtimeState = .desynced
  · rw [attachBackend, if_pos hdesynced]
    exact iff_of_true (fun _ => ⟨rfl, rfl, fun _ => rfl, rfl⟩) (absurd hdesynced)
  · rw [forall_prop_of_true hdesynced]
    cases hattach : s.attached backend ids with
    | none =>
      rw [attachBackend_of_unknown hdesynced hattach]
      simp only [Option.isSome_none, Bool.false_eq_true, false_and, false_or, false_imp_iff,
        and_true, forall_const]
      rw [← insertKey_eq_iff]
      exact ⟨fun h => h.backends, fun h => ⟨rfl, rfl, fun _ => rfl, h⟩⟩
    | some d =>
      rw [attachBackend_of_checked hdesynced hattach]
      obtain ⟨texts, hids, hd⟩ := attached_eq_some hattach
      rw [hids]
      simp only [Option.isSome_some, true_and, forall_const, Option.getD_some]
      rw [← attached_devices_iff hd, ← insertKey_eq_iff]
      cases s.persists o with
      | true => simp
      | false =>
        simp only [Bool.false_eq_true, false_or, forall_const]
        exact ⟨fun h => ⟨h.backends, h.devices⟩, fun h => ⟨h.2, rfl, fun _ => rfl, h.1⟩⟩

theorem release_release (backend : BackendId) (r : Inventory.DeviceRecord) :
    release backend (release backend r) = release backend r := by
  unfold release
  split <;> simp_all

theorem release_eq_self_iff {backend : BackendId} {r : Inventory.DeviceRecord} :
    release backend r = r ↔ r.attachedBackend ≠ some backend := by
  unfold release
  split
  · rename_i h
    refine iff_of_false (fun heq => ?_) (not_not_intro h)
    have hnone := congrArg Inventory.DeviceRecord.attachedBackend heq
    rw [h] at hnone
    cases hnone
  · exact iff_of_true rfl ‹_›

/-- The loop detaches the ids up to the first one that is not hashable. -/
theorem detachLoop_eq (backend : BackendId) (d : Inventory.Daemon) (targets : List Value) :
    detachLoop backend d targets =
      (((targets.takeWhile Value.hashable).filterMap keyOf).foldl
        (fun d id => d.modifyDevice id (release backend)) d, targets.all Value.hashable) := by
  induction targets generalizing d with
  | nil => rfl
  | cons target targets ih =>
    rw [detachLoop]
    cases hhash : target.hashable with
    | false => simp [hhash]
    | true =>
      rw [if_neg (by simp)]
      cases hkey : keyOf target with
      | none => simp [hhash, hkey, ih]
      | some id => simp [hhash, hkey, ih]

/-- What a detach of a runtime that is not desynced does. -/
theorem detachBackend_of_ready (backend : BackendId) (ids : Value)
    (hready : s.daemon.runtimeState ≠ .desynced) :
    (s.detachBackend backend ids o).1.daemon = (s.detachedIds ids).foldl
        (fun d id => d.modifyDevice id (release backend)) s.daemon ∧
      (s.detachBackend backend ids o).2 = (s.detachEnds ids && s.persists o) ∧
      (s.detachBackend backend ids o).1.templates = s.templates ∧
      (s.detachBackend backend ids o).1.managed = s.managed ∧
      (s.detachBackend backend ids o).1.launched = s.launched ∧
      (s.detachBackend backend ids o).1.backends = s.backends := by
  rw [detachBackend, if_neg hready, detachedIds, detachEnds]
  cases htargets : s.detachTargets ids with
  | none => exact ⟨rfl, rfl, rfl, rfl, rfl, rfl⟩
  | some targets =>
    dsimp only
    rw [detachLoop_eq]
    dsimp only
    rw [Option.getD_some, Option.any_some]
    cases targets.all Value.hashable with
    | false => exact ⟨rfl, rfl, rfl, rfl, rfl, rfl⟩
    | true =>
      refine ⟨rfl, ?_, rfl, rfl, rfl, rfl⟩
      exact persists_congr (foldl_modifyDevice_buses ..) (keys_foldl_modifyDevice ..)

theorem detachBackend_failsCleanly_iff (backend : BackendId) (ids : Value) :
    s.FailsCleanly o (.detachBackend backend ids) ↔ s.Meets o (.detachBackend backend ids) := by
  show ((s.detachBackend backend ids o).2 = false → s.Same (s.detachBackend backend ids o).1) ↔
    (s.daemon.runtimeState ≠ .desynced → _)
  by_cases hdesynced : s.daemon.runtimeState = .desynced
  · rw [detachBackend, if_pos hdesynced]
    exact iff_of_true (fun _ => ⟨rfl, rfl, fun _ => rfl, rfl⟩) (absurd hdesynced)
  · obtain ⟨hdaemon, hreturns, htemplates, hmanaged, _, hbackends⟩ :=
      detachBackend_of_ready (o := o) backend ids hdesynced
    have hkept : (s.detachBackend backend ids o).1.daemon.devices = s.daemon.devices ↔
        ∀ p ∈ s.daemon.devices, p.1 ∈ s.detachedIds ids → p.2.attachedBackend ≠ some backend := by
      rw [hdaemon, foldl_modifyDevice_devices (release backend) (release_release backend)]
      refine (map_eq_self_iff (· ∈ s.detachedIds ids) (release backend) _).trans ?_
      apply forall₂_congr
      intro p _
      rw [release_eq_self_iff]
    rw [forall_prop_of_true hdesynced, ← hkept, hreturns, ← Bool.and_eq_true]
    cases s.detachEnds ids && s.persists o with
    | true => simp
    | false =>
      simp only [Bool.false_eq_true, false_or, forall_const]
      exact ⟨fun h => h.devices,
        fun h => ⟨h, htemplates, fun _ => by rw [hmanaged], hbackends⟩⟩

/-! ## The inventory -/

theorem store_daemon : (s.store id r dev o).1.daemon =
    s.daemon.modifyDevice id fun r => { r with device := dev } := by
  rw [store]
  show (if _ then (s.assign id dev, false) else if _ then (s.assign id dev, false) else _).1.daemon
    = _
  split
  · rfl
  · split
    · rfl
    · exact (rest_changeWorker ..).daemon

/-- What becomes of the inventory is a change of the inventory by the ids that were looked up. -/
theorem run_daemon (s : Configuration) (o : Luck) (request : Request) :
    (s.run o request).1.daemon = match request with
      | .updateDevice id patch => s.daemon.updateDevice id patch
      | .attachBackend backend ids =>
        match attachIds ids with
        | some texts => s.daemon.attach backend texts
        | none => s.daemon
      | .detachBackend backend ids =>
        if s.detachedIds ids = [] then s.daemon
        else s.daemon.detach backend (s.detachedIds ids) := by
  cases request with
  | updateDevice id patch =>
    show (s.updateDevice id patch o).1.daemon = s.daemon.updateDevice id patch
    unfold Configuration.updateDevice Inventory.Daemon.updateDevice updated
    by_cases hdesynced : s.daemon.runtimeState = .desynced
    · rw [if_pos hdesynced, if_pos hdesynced]
    · rw [if_neg hdesynced, if_neg hdesynced]
      cases hr : dictGet s.daemon.devices id with
      | none => rfl
      | some r =>
        cases hpatched : s.daemon.patched r.device patch with
        | none => simp [hpatched]
        | some dev => simp [hpatched, store_daemon]
  | attachBackend backend ids =>
    show (s.attachBackend backend ids o).1.daemon =
      match attachIds ids with
      | some texts => s.daemon.attach backend texts
      | none => s.daemon
    unfold Configuration.attachBackend Configuration.attached
    cases attachIds ids with
    | none =>
      rw [Option.bind_none]
      split <;> rfl
    | some texts =>
      dsimp only [Inventory.Daemon.attach]
      rw [Option.bind_some]
      by_cases hdesynced : s.daemon.runtimeState = .desynced
      · rw [if_pos hdesynced, if_pos hdesynced]
      · rw [if_neg hdesynced, if_neg hdesynced]
        cases s.daemon.attachBackend backend texts <;> rfl
  | detachBackend backend ids =>
    show (s.detachBackend backend ids o).1.daemon =
      if s.detachedIds ids = [] then s.daemon
      else s.daemon.detach backend (s.detachedIds ids)
    unfold Inventory.Daemon.detach
    by_cases hdesynced : s.daemon.runtimeState = .desynced
    · rw [detachBackend, if_pos hdesynced, if_pos hdesynced, ite_self]
    · rw [(detachBackend_of_ready _ _ hdesynced).1, if_neg hdesynced]
      split
      · rename_i hnone
        rw [hnone]
        rfl
      · rfl

/-! ## Runs -/

theorem Wf.popWorker (h : s.Wf) (id : Text) :
    Wf { s with managed := s.managed.filter fun e => e.1 ≠ id } where
  ids := h.ids
  fresh e he := h.fresh e (List.mem_of_mem_filter he)

theorem Wf.register (h : s.Wf) (id : Text) : (s.register id).Wf where
  ids := h.ids
  fresh e he := by
    show e.2 < s.launched + 1
    rcases mem_of_mem_dictSet he with rfl | he
    · exact Nat.lt_add_one _
    · exact Nat.lt_add_right 1 (h.fresh e he)

theorem Wf.registerAll (h : s.Wf) (ids : List Text) : (ids.foldl Configuration.register s).Wf := by
  induction ids generalizing s with
  | nil => exact h
  | cons id ids ih => exact ih (h.register id)

theorem Wf.stop (h : s.Wf) (id : Text) (o : Luck) : (s.stopManagedWorker id o).1.Wf := by
  rw [stopManagedWorker]
  split
  · exact h
  · exact h.popWorker id

theorem Wf.launch (h : s.Wf) (id : Text) (o : Luck) : (s.launchManagedWorker id o).1.Wf := by
  have hstopped := h.stop id o
  rw [launchManagedWorker]
  cases hcase : s.stopManagedWorker id o with
  | mk t stopped =>
    rw [hcase] at hstopped
    cases stopped with
    | false => exact hstopped
    | true =>
      cases hlaunch : o.launch with
      | raises => exact hstopped
      | threadRaises | starts => exact hstopped.register id

theorem Wf.changeWorker (h : s.Wf) (id : Text) (had has : Bool) (o : Luck) :
    (s.changeWorker id had has o).1.Wf := by
  rw [Configuration.changeWorker]
  split
  · exact h.launch id o
  · split
    · exact h.stop id o
    · exact h

theorem Wf.store (h : s.Wf) (id : Text) (r : Inventory.DeviceRecord) (dev : Device) (o : Luck) :
    (s.store id r dev o).1.Wf := by
  have hassign : (s.assign id dev).Wf := assign_wf h
  rw [Configuration.store]
  show (if _ then (s.assign id dev, false) else if _ then (s.assign id dev, false) else _).1.Wf
  split
  · exact hassign
  · split
    · exact hassign
    · exact hassign.changeWorker id _ _ o

/-- A request keeps the invariant, whether it returns or raises. -/
theorem Wf.run (h : s.Wf) (o : Luck) (request : Request) : (s.run o request).1.Wf := by
  cases request with
  | updateDevice id patch =>
    show (s.updateDevice id patch o).1.Wf
    rw [Configuration.updateDevice]
    split
    · exact h
    · exact h.store id _ _ o
  | attachBackend backend ids =>
    show (s.attachBackend backend ids o).1.Wf
    rw [Configuration.attachBackend]
    split
    · exact h
    · split
      · exact ⟨h.ids, h.fresh⟩
      · rename_i d hattached
        obtain ⟨texts, _, hd⟩ := attached_eq_some hattached
        exact ⟨(attachBackend_tables hd).2 ▸ h.ids, h.fresh⟩
  | detachBackend backend ids =>
    show (s.detachBackend backend ids o).1.Wf
    by_cases hdesynced : s.daemon.runtimeState = .desynced
    · rw [Configuration.detachBackend, if_pos hdesynced]
      exact h
    · obtain ⟨hdaemon, _, _, hmanaged, hlaunched, _⟩ :=
        detachBackend_of_ready (o := o) backend ids hdesynced
      constructor
      · rw [hdaemon, keys_foldl_modifyDevice]
        exact h.ids
      · rw [hmanaged, hlaunched]
        exact h.fresh

theorem Wf.step (h : s.Wf) {t : Configuration} {a : Act} (hstep : s.step a = some t) : t.Wf := by
  cases a with
  | request request o =>
    cases hstep
    exact h.run o request
  | rebuild daemon ids_nodup templates launched =>
    cases hstep
    have hcleared : Wf { s with daemon := daemon, templates := templates, managed := [] } :=
      ⟨ids_nodup, fun _ he => absurd he List.not_mem_nil⟩
    exact hcleared.registerAll launched
  | serve id template faults =>
    cases hstep
    exact ⟨(keys_modifyDevice ..).symm ▸ h.ids, h.fresh⟩
  | workerExits id =>
    cases hstep
    exact h.popWorker id
  | relaunch id =>
    cases hstep
    exact h.register id
  | poll backend =>
    cases hstep
    exact ⟨h.ids, h.fresh⟩

theorem wf_start (daemon : Inventory.Daemon) : (start daemon).Wf :=
  ⟨List.nodup_nil, fun _ he => absurd he List.not_mem_nil⟩

theorem wf_of_reach {daemon : Inventory.Daemon}
    (h : Reach Configuration.step anyStep (start daemon) s) : s.Wf :=
  h.invariant (wf_start daemon) fun _ _ _ hs _ hstep => hs.step hstep

/-- In every reachable configuration a request that raises leaves everything as it was exactly
under the condition of the request. -/
theorem fails_cleanly_iff {daemon : Inventory.Daemon}
    (h : Reach Configuration.step anyStep (start daemon) s) (o : Luck) (request : Request) :
    s.FailsCleanly o request ↔ s.Meets o request := by
  cases request with
  | updateDevice id patch => exact updateDevice_failsCleanly_iff (wf_of_reach h) id patch
  | attachBackend backend ids => exact attachBackend_failsCleanly_iff backend ids
  | detachBackend backend ids => exact detachBackend_failsCleanly_iff backend ids

/-! ## A device with a backend attached -/

-- A controller's device on a bus, attached to the backend `a`.
def benchDevice : Device :=
  ⟨text "t0", text "b0", .i2c 72 (.controller none), [], ⟨.none, 0, none, none⟩, []⟩

def benchDaemon : Inventory.Daemon where
  modelName := some (text "bench")
  nextBusHandle := 2
  nextDeviceHandle := 1025
  buses := [(text "b0", ⟨⟨text "b0", .i2c, text "i2c-7", []⟩, 1⟩)]
  devices := [(text "t0",
    ⟨benchDevice, 1024, 1, text "t0", some (.str (text "a")), 0⟩)]
  devicesByHandle := [(1024, 0)]
  objects := 1
  generation := 1
  runtimeState := .ready

-- `worker` for a device that an external backend serves.
def workerPatch : Value :=
  .dict [(.lit "backend", .dict [(.lit "kind", .lit "controller"),
    (.lit "worker", .dict [(.lit "command", .list [.lit "python3"])])])]

def lucky : Luck := ⟨true, .starts, true, true⟩

/-- The bench has been applied, and its backend has polled. -/
def bench : Configuration where
  daemon := benchDaemon
  templates := fun _ => none
  managed := []
  launched := 0
  backends := [.str (text "a")]
  metas := [.str (text "a")]

theorem reach_bench (daemon : Inventory.Daemon) :
    Reach Configuration.step anyStep (start daemon) bench := by
  have hrebuilt : (start daemon).step (.rebuild benchDaemon (by decide) (fun _ => none) []) =
      some ⟨benchDaemon, fun _ => none, [], 0, [], []⟩ := rfl
  exact .next (.next .start trivial hrebuilt) trivial
    (show Configuration.step _ (.poll (.str (text "a"))) = some bench from rfl)

/-- A known backend asks for a device that is not there. -/
theorem fails_cleanly_unknown_device :
    bench.FailsCleanly lucky (.attachBackend (.str (text "a")) (.list [.lit "t1"])) := by
  refine (fails_cleanly_iff (reach_bench benchDaemon) lucky _).mpr fun _ => .inr ⟨?_, ?_⟩
  · exact List.mem_singleton.mpr rfl
  · intro h
    cases h

/-- An update to a managed worker is refused for the attached backend and has been made; an attach
of a device that is not there is refused and has made its backend known; a detach whose second id is
a mapping has detached the first. -/
theorem failed_changes_remain :
    (¬ ∀ (daemon : Inventory.Daemon) (s : Configuration),
      Reach Configuration.step anyStep (start daemon) s →
        ∀ o id patch, s.FailsCleanly o (.updateDevice id patch)) ∧
    (¬ ∀ (daemon : Inventory.Daemon) (s : Configuration),
      Reach Configuration.step anyStep (start daemon) s →
        ∀ o backend ids, s.FailsCleanly o (.attachBackend backend ids)) ∧
    ¬ ∀ (daemon : Inventory.Daemon) (s : Configuration),
      Reach Configuration.step anyStep (start daemon) s →
        ∀ o backend ids, s.FailsCleanly o (.detachBackend backend ids) := by
  refine ⟨?_, ?_, ?_⟩
  · intro h
    have hclean := h benchDaemon bench (reach_bench _) lucky (text "t0") workerPatch
    have hdevices := (hclean (by decide +kernel)).devices
    have hmanaged := congrArg (List.map fun p => managedPart p.2.device.part) hdevices
    have hafter : (bench.run lucky (.updateDevice (text "t0") workerPatch)).1.daemon.devices.map
        (fun p => managedPart p.2.device.part) = [true] := by decide +kernel
    rw [hafter] at hmanaged
    cases hmanaged
  · intro h
    have hclean := h benchDaemon bench (reach_bench _) lucky (.str (text "b")) (.list [.lit "t1"])
    have hbackends := (hclean (by decide +kernel)).backends
    exact absurd hbackends (by decide +kernel)
  · intro h
    have hclean := h benchDaemon bench (reach_bench _) lucky (.str (text "a"))
      (.list [.lit "t0", .dict []])
    have hdevices := (hclean (by decide +kernel)).devices
    have hattached := congrArg (List.map fun p => p.2.attachedBackend) hdevices
    exact absurd hattached (by decide +kernel)

end Configuration

end Sensorium.Daemon.Changes

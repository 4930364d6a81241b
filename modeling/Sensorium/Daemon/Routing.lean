import Mathlib.Logic.Function.Basic
import Sensorium.Lib.Runs

/-!
# Request routing in the daemon

One reader takes requests off the transport ring and queues them; any number of bridge workers
(`_bridge_worker_loop`) look up the device's route lock, take it, look the device up again by its
handle and run the handler.  Inventory operations clear and rebuild the device table under the
manager lock, and `update_device`, `attach_backend` and `detach_backend` change a device's route.

Device records and template objects are named by their allocation.  `epoch` counts the calls of
`_clear_state` that cleared the tables; a record remembers the one it was created in.  `touched`
records, for each access of a handler to a device record or to the controller of one, the record
and the epoch in which its request was taken.
-/

namespace Sensorium.Daemon

open Lib

/-! ## Requests -/

inductive MsgType
  | i2cXfer
  | spiXfer
  | uartTx
  | uartCtrl
  | uartCfg
  | unknown
  deriving DecidableEq, Repr

/-- A queued request; `taken` is the epoch in which the reader took it. -/
structure Task where
  msgType : MsgType
  messageId : Nat
  generation : Nat
  payload : List UInt8
  taken : Nat
  deriving DecidableEq, Repr

def u8At (payload : List UInt8) (i : Nat) : Nat := (payload.getD i 0).toNat

/-- The little-endian `I` field at an offset. -/
def u32At (payload : List UInt8) (i : Nat) : Nat :=
  u8At payload i + 256 * u8At payload (i + 1) + 65536 * u8At payload (i + 2) +
    16777216 * u8At payload (i + 3)

def prefixSize : MsgType → Nat
  | .i2cXfer => 16
  | .spiXfer | .uartCfg => 24
  | .uartTx | .uartCtrl => 20
  | .unknown => 0

/-- `_device_handle_for_request`. -/
def deviceHandleForRequest (t : Task) : Option Nat :=
  match t.msgType with
  | .unknown => none
  | m => if prefixSize m ≤ t.payload.length then some (u32At t.payload 0) else none

/-- The length checks of a transfer: `count` descriptors of `size` bytes, then `dataLen` bytes. -/
def transferFits (t : Task) (count size dataLen : Nat) : Bool :=
  0 < count && count ≤ 256 && prefixSize t.msgType + size * count ≤ t.payload.length &&
    t.payload.length - (prefixSize t.msgType + size * count) = dataLen

/-- What a handler checks before it looks the device up; `none` is one of its early returns. -/
def handlerHandle (t : Task) : Option Nat :=
  match t.msgType with
  | .unknown => none
  | .uartCfg => if t.payload.length = 24 then some (u32At t.payload 0) else none
  | .i2cXfer =>
    if 16 ≤ t.payload.length && transferFits t (u32At t.payload 8) 8 (u32At t.payload 12) then
      some (u32At t.payload 0)
    else none
  | .spiXfer =>
    if 24 ≤ t.payload.length && transferFits t (u32At t.payload 12) 19 (u32At t.payload 16) then
      some (u32At t.payload 0)
    else none
  | .uartTx | .uartCtrl =>
    if 20 ≤ t.payload.length && t.payload.length - 20 = u32At t.payload 8 then
      some (u32At t.payload 0)
    else none

/-- What a handler does with the record it has found, in the order of its transport. -/
inductive Phase
  | checkRequest
  | faultPre
  | updateSettings
  | runBackend
  deriving DecidableEq, Repr

def handlerPhases : MsgType → List Phase
  | .i2cXfer => [.faultPre, .checkRequest, .runBackend]
  | .spiXfer | .uartTx | .uartCtrl => [.checkRequest, .faultPre, .runBackend]
  | .uartCfg => [.updateSettings, .faultPre, .runBackend]
  | .unknown => []

/-! ## Devices -/

inductive Backend
  | template
  | controller (worker : Bool)
  deriving DecidableEq, Repr

inductive RouteKey
  | managedWorker (deviceId : String)
  | backend (backendId : String)
  | device (deviceId : String)
  deriving DecidableEq, Repr

/-- An object built by `_build_template` for a record. -/
structure TemplateObject where
  record : Nat
  build : Nat
  deriving DecidableEq, Repr

/-- A stored device: what the routing and the handlers read of it. -/
structure DeviceRecord where
  created : Nat
  deviceId : String
  backend : Backend
  attachedBackend : Option String
  template : Option TemplateObject
  builds : Nat
  routeLock : Option Nat
  deriving DecidableEq, Repr

/-- `_route_key_for_device`. -/
def routeKeyForDevice (d : DeviceRecord) : RouteKey :=
  match d.backend, d.attachedBackend with
  | .controller true, _ => .managedWorker d.deviceId
  | .controller false, some backendId => .backend backendId
  | _, _ => .device d.deviceId

/-- `_build_template` for record `r`: a new object, or `None` for a controller. -/
def buildTemplate (r : Nat) (d : DeviceRecord) : DeviceRecord :=
  match d.backend with
  | .template => { d with template := some ⟨r, d.builds⟩, builds := d.builds + 1 }
  | .controller _ => { d with template := none }

/-! ## State -/

/-- Where a worker is; `lock` is the route lock it holds.  In `contacting` it has chosen the
controller, which it then looks up under the manager lock. -/
inductive WorkerPc
  | idle
  | routing (task : Task)
  | readingRoute (task : Task) (r : Nat)
  | locking (task : Task) (lock : Nat)
  | handling (task : Task) (lock : Option Nat)
  | serving (task : Task) (lock : Option Nat) (r : Nat) (todo : List Phase)
  | calling (task : Task) (lock : Option Nat) (r : Nat)
  | executing (task : Task) (lock : Option Nat) (r : Nat) (object : TemplateObject)
  | dispatching (task : Task) (lock : Option Nat) (r : Nat)
  | contacting (task : Task) (lock : Option Nat) (r : Nat) (controller : RouteKey)
  | finalizing (task : Task) (lock : Option Nat) (r : Nat)
  | finished (lock : Option Nat)
  deriving DecidableEq, Repr

/-- The thread that holds the manager lock across several steps; an update remembers
`had_managed_worker`. -/
inductive OpPc
  | free
  | rebuilding
  | updating (r : Nat) (had : Bool)
  | refreshing (r : Nat) (had : Bool)
  deriving DecidableEq, Repr

/-- `managedWorkers` gives, for a device id, the record that the registered worker was launched
for. -/
structure Router where
  epoch : Nat
  records : Nat → DeviceRecord
  allocated : Nat
  devices : String → Option Nat
  devicesByHandle : Nat → Option Nat
  nextDeviceHandle : Nat
  routeLocks : Nat → RouteKey → Option Nat
  nextLock : Nat
  lockOwner : Nat → Option Nat
  managedWorkers : String → Option Nat
  op : OpPc
  reader : Option Task
  queue : List Task
  workers : Nat → WorkerPc
  touched : List (Nat × Nat)

def Router.init : Router where
  epoch := 0
  records := fun _ => ⟨0, "", .template, none, none, 0, none⟩
  allocated := 0
  devices := fun _ => none
  devicesByHandle := fun _ => none
  nextDeviceHandle := 1024
  routeLocks := fun _ _ => none
  nextLock := 0
  lockOwner := fun _ => none
  managedWorkers := fun _ => none
  op := .free
  reader := none
  queue := []
  workers := fun _ => .idle
  touched := []

namespace Router

def setRecord (s : Router) (r : Nat) (d : DeviceRecord) : Router :=
  { s with records := Function.update s.records r d }

def setWorker (s : Router) (w : Nat) (pc : WorkerPc) : Router :=
  { s with workers := Function.update s.workers w pc }

def touch (s : Router) (r : Nat) (t : Task) : Router :=
  { s with touched := (r, t.taken) :: s.touched }

/-! ## Inventory operations -/

/-- `_clear_state`: the device tables and the lock registry start over, and so do the handles; the
managed workers are stopped. -/
def clearState (s : Router) : Option Router :=
  match s.op with
  | .free =>
    some { s with
      epoch := s.epoch + 1
      devices := fun _ => none
      devicesByHandle := fun _ => none
      nextDeviceHandle := 1024
      routeLocks := Function.update s.routeLocks (s.epoch + 1) fun _ => none
      managedWorkers := fun _ => none
      op := .rebuilding }
  | _ => none

/-- A `_clear_state` that raises on a worker it cannot stop: the handles have started over and the
workers up to that one are gone, the tables stay. -/
def clearRaises (s : Router) (stopped : List String) : Option Router :=
  match s.op with
  | .free =>
    some { s with
      nextDeviceHandle := 1024
      managedWorkers := fun d => if d ∈ stopped then none else s.managedWorkers d }
  | _ => none

/-- `_route_lock_for` in the current registry. -/
def registerRoute (s : Router) (key : RouteKey) : Router :=
  match s.routeLocks s.epoch key with
  | some _ => s
  | none =>
    { s with
      routeLocks := Function.update s.routeLocks s.epoch
        (Function.update (s.routeLocks s.epoch) key (some s.nextLock))
      nextLock := s.nextLock + 1 }

/-- `_refresh_device_route_locked`. -/
def refreshDeviceRoute (s : Router) (r : Nat) : Router :=
  let key := routeKeyForDevice (s.records r)
  let t := s.registerRoute key
  t.setRecord r { s.records r with routeLock := t.routeLocks t.epoch key }

/-- `_add_device_locked` after its command was accepted. -/
def addDevice (s : Router) (deviceId : String) (backend : Backend) : Option Router :=
  match s.op with
  | .rebuilding =>
    let r := s.allocated
    let stored := buildTemplate r ⟨s.epoch, deviceId, backend, none, none, 0, none⟩
    let t := ({ s.setRecord r stored with allocated := s.allocated + 1 }).refreshDeviceRoute r
    some { t with
      devices := Function.update s.devices deviceId (some r)
      devicesByHandle := Function.update s.devicesByHandle s.nextDeviceHandle (some r)
      nextDeviceHandle := s.nextDeviceHandle + 1 }
  | _ => none

/-- The end of the lock section, by return or by exception. -/
def endRebuild (s : Router) : Option Router :=
  match s.op with
  | .rebuilding => some { s with op := .free }
  | _ => none

/-! ## Managed workers -/

/-- `_stop_managed_worker_locked`: the worker leaves the registry before anything can raise. -/
def stopManagedWorker (s : Router) (deviceId : String) : Router :=
  { s with managedWorkers := Function.update s.managedWorkers deviceId none }

/-- `_launch_managed_worker_locked`: the old worker is stopped first; `registered` says whether the
launch got to the new one. -/
def launchManagedWorker (s : Router) (deviceId : String) (registered : Bool) : Router :=
  match s.devices deviceId with
  | some r =>
    if (s.records r).backend = .controller true then
      if registered then
        { s with managedWorkers := Function.update s.managedWorkers deviceId (some r) }
      else s.stopManagedWorker deviceId
    else s
  | none => s

-- `_start_managed_workers_locked` at the end of a rebuild, or the restart of a worker that ended.
def startManagedWorker (s : Router) (deviceId : String) (registered : Bool) : Option Router :=
  match s.op with
  | .free | .rebuilding => some (s.launchManagedWorker deviceId registered)
  | _ => none

-- The lock section of a monitor whose worker has ended.
def managedWorkerExit (s : Router) (deviceId : String) : Option Router :=
  match s.op with
  | .free => some (s.stopManagedWorker deviceId)
  | _ => none

/-! ## Changes of a device's route -/

-- `update_device` assigns the backend, then the template, and refreshes the route last; a worker
-- reads these fields without the manager lock.
def updateBackend (s : Router) (deviceId : String) (backend : Backend) : Option Router :=
  match s.op, s.devices deviceId with
  | .free, some r =>
    some { s.setRecord r { s.records r with backend := backend } with
      op := .updating r ((s.records r).backend = .controller true) }
  | _, _ => none

def updateTemplate (s : Router) (raises : Bool) : Option Router :=
  match s.op with
  | .updating r had =>
    if raises then some { s with op := .free }
    else some { s.setRecord r (buildTemplate r (s.records r)) with op := .refreshing r had }
  | _ => none

-- An attached device that became broker-managed raises before the refresh, and so may the stop of
-- its old worker and the launch of its new one.
def updateRoute (s : Router) (raises registered : Bool) : Option Router :=
  match s.op with
  | .refreshing r had =>
    let deviceId := (s.records r).deviceId
    if (s.records r).backend = .controller true then
      if (s.records r).attachedBackend ≠ none then some { s with op := .free }
      else if raises then some { s.launchManagedWorker deviceId registered with op := .free }
      else some { (s.launchManagedWorker deviceId true).refreshDeviceRoute r with op := .free }
    else if had then
      if raises then some { s.stopManagedWorker deviceId with op := .free }
      else some { (s.stopManagedWorker deviceId).refreshDeviceRoute r with op := .free }
    else some { s.refreshDeviceRoute r with op := .free }
  | _ => none

def updatingDevice (s : Router) : Bool :=
  match s.op with
  | .free | .rebuilding => false
  | _ => true

-- `_attach_backend_locked`, one device of the list; on its own or at the end of a rebuild.
def attachBackend (s : Router) (backendId deviceId : String) : Option Router :=
  if s.updatingDevice then none
  else
    match s.devices deviceId with
    | some r =>
      if (s.records r).backend = .controller false then
        some ((s.setRecord r
          { s.records r with attachedBackend := some backendId }).refreshDeviceRoute r)
      else some s
    | none => some s

-- `detach_backend`, one device of the list.
def detachBackend (s : Router) (backendId deviceId : String) : Option Router :=
  if s.updatingDevice then none
  else
    match s.devices deviceId with
    | some r =>
      if (s.records r).attachedBackend = some backendId then
        some ((s.setRecord r { s.records r with attachedBackend := none }).refreshDeviceRoute r)
      else some s
    | none => some s

/-! ## The reader -/

def takeFrame (s : Router) (msgType : MsgType) (messageId generation : Nat)
    (payload : List UInt8) : Option Router :=
  match s.reader with
  | none => some { s with reader := some ⟨msgType, messageId, generation, payload, s.epoch⟩ }
  | some _ => none

-- `put_nowait`; a full queue answers `-EBUSY`.
def enqueue (s : Router) (full : Bool) : Option Router :=
  match s.reader with
  | some t => some { s with reader := none, queue := if full then s.queue else s.queue ++ [t] }
  | none => none

/-! ## The workers -/

def pickUp (s : Router) (w : Nat) : Option Router :=
  match s.workers w, s.queue with
  | .idle, t :: rest => some { s.setWorker w (.routing t) with queue := rest }
  | _, _ => none

-- `_request_route_lock` up to the lookup under the manager lock.
def routeLookup (s : Router) (w : Nat) : Option Router :=
  match s.workers w with
  | .routing t =>
    match deviceHandleForRequest t, s.op with
    | none, _ => some (s.setWorker w (.handling t none))
    | some handle, .free =>
      match s.devicesByHandle handle with
      | some r => some (s.setWorker w (.readingRoute t r))
      | none => some (s.setWorker w (.handling t none))
    | _, _ => none
  | _ => none

-- `device.get("_route_lock")`.
def readRouteLock (s : Router) (w : Nat) : Option Router :=
  match s.workers w with
  | .readingRoute t r =>
    match (s.records r).routeLock with
    | some lock => some (s.setWorker w (.locking t lock))
    | none => some (s.setWorker w (.handling t none))
  | _ => none

def acquire (s : Router) (w : Nat) : Option Router :=
  match s.workers w with
  | .locking t lock =>
    match s.lockOwner lock with
    | none => some { s.setWorker w (.handling t (some lock)) with
        lockOwner := Function.update s.lockOwner lock (some w) }
    | some _ => none
  | _ => none

-- `_handle_bridge_request` up to the handler's own lookup.
def handlerLookup (s : Router) (w : Nat) : Option Router :=
  match s.workers w with
  | .handling t lock =>
    match handlerHandle t, s.op with
    | none, _ => some (s.setWorker w (.finished lock))
    | some handle, .free =>
      match s.devicesByHandle handle with
      | some r => some (s.setWorker w (.serving t lock r (handlerPhases t.msgType)))
      | none => some (s.setWorker w (.finished lock))
    | _, _ => none
  | _ => none

-- The checks against the device's address, chip select or settings; a rejection counts in its stats.
def checkRequest (s : Router) (w : Nat) (accepted : Bool) : Option Router :=
  match s.workers w with
  | .serving t lock r (.checkRequest :: todo) =>
    if accepted then some (s.setWorker w (.serving t lock r todo))
    else some ((s.touch r t).setWorker w (.finished lock))
  | _ => none

-- `_apply_fault_pre`; an active fault is consumed and answers the request.
def faultPre (s : Router) (w : Nat) (active : Bool) : Option Router :=
  match s.workers w with
  | .serving t lock r (.faultPre :: todo) =>
    if active then some ((s.touch r t).setWorker w (.finalizing t lock r))
    else some (s.setWorker w (.serving t lock r todo))
  | _ => none

def updateSettings (s : Router) (w : Nat) : Option Router :=
  match s.workers w with
  | .serving t lock r (.updateSettings :: todo) =>
    some ((s.touch r t).setWorker w (.serving t lock r todo))
  | _ => none

-- `device["backend"]["kind"]` decides between the template and `_dispatch_controller`; a
-- configuration request only goes to a controller.
def runBackend (s : Router) (w : Nat) : Option Router :=
  match s.workers w with
  | .serving t lock r (.runBackend :: _) =>
    match (s.records r).backend with
    | .template =>
      if t.msgType = .uartCfg then some (s.setWorker w (.finalizing t lock r))
      else some (s.setWorker w (.calling t lock r))
    | .controller _ => some (s.setWorker w (.dispatching t lock r))
  | _ => none

-- The fields of the device that `_dispatch_controller` reads; one without a worker and without a
-- backend is answered with `-ENODEV`.
def dispatchController (s : Router) (w : Nat) : Option Router :=
  match s.workers w with
  | .dispatching t lock r =>
    match (s.records r).backend, (s.records r).attachedBackend with
    | .controller true, _ =>
      some (s.setWorker w (.contacting t lock r (.managedWorker (s.records r).deviceId)))
    | _, some backendId => some (s.setWorker w (.contacting t lock r (.backend backendId)))
    | _, none => some (s.setWorker w (.finalizing t lock r))
  | _ => none

/-- The records whose controller an event reaches: that of the worker registered under the device
id, or the devices that are attached to the backend. -/
def controlledBy (s : Router) : RouteKey → List Nat
  | .managedWorker deviceId => (s.managedWorkers deviceId).toList
  | .backend backendId => (List.range s.allocated).filter fun r =>
    s.devices (s.records r).deviceId = some r ∧ (s.records r).attachedBackend = some backendId
  | .device _ => []

-- The lock section that finds `managed_workers[device_id]`, or that queues the event for the
-- backend, and the answer.
def contactController (s : Router) (w : Nat) : Option Router :=
  match s.workers w, s.op with
  | .contacting t lock r controller, .free =>
    some { s.setWorker w (.finalizing t lock r) with
      touched := (s.controlledBy controller).map (·, t.taken) ++ s.touched }
  | _, _ => none

-- `device["template"].handle_*`; a missing object raises and is answered with `-EIO`.
def callTemplate (s : Router) (w : Nat) : Option Router :=
  match s.workers w with
  | .calling t lock r =>
    match (s.records r).template with
    | some object => some ((s.touch r t).setWorker w (.executing t lock r object))
    | none => some (s.setWorker w (.finished lock))
  | _ => none

def returnTemplate (s : Router) (w : Nat) : Option Router :=
  match s.workers w with
  | .executing t lock r _ => some (s.setWorker w (.finalizing t lock r))
  | _ => none

-- `_finalize_request`: `_apply_fault_post` and the device's stats.
def finalize (s : Router) (w : Nat) : Option Router :=
  match s.workers w with
  | .finalizing t lock r => some ((s.touch r t).setWorker w (.finished lock))
  | _ => none

-- Out of the `with route_lock` block, then the reply.
def release (s : Router) (w : Nat) : Option Router :=
  match s.workers w with
  | .finished (some lock) =>
    some { s.setWorker w .idle with lockOwner := Function.update s.lockOwner lock none }
  | .finished none => some (s.setWorker w .idle)
  | _ => none

inductive Step
  | clearState
  | clearRaises (stopped : List String)
  | addDevice (deviceId : String) (backend : Backend)
  | startManagedWorker (deviceId : String) (registered : Bool)
  | managedWorkerExit (deviceId : String)
  | endRebuild
  | updateBackend (deviceId : String) (backend : Backend)
  | updateTemplate (raises : Bool)
  | updateRoute (raises registered : Bool)
  | attachBackend (backendId deviceId : String)
  | detachBackend (backendId deviceId : String)
  | takeFrame (msgType : MsgType) (messageId generation : Nat) (payload : List UInt8)
  | enqueue (full : Bool)
  | pickUp (w : Nat)
  | routeLookup (w : Nat)
  | readRouteLock (w : Nat)
  | acquire (w : Nat)
  | handlerLookup (w : Nat)
  | checkRequest (w : Nat) (accepted : Bool)
  | faultPre (w : Nat) (active : Bool)
  | updateSettings (w : Nat)
  | runBackend (w : Nat)
  | dispatchController (w : Nat)
  | contactController (w : Nat)
  | callTemplate (w : Nat)
  | returnTemplate (w : Nat)
  | finalize (w : Nat)
  | release (w : Nat)

def step (s : Router) : Step → Option Router
  | .clearState => s.clearState
  | .clearRaises stopped => s.clearRaises stopped
  | .addDevice deviceId backend => s.addDevice deviceId backend
  | .startManagedWorker deviceId registered => s.startManagedWorker deviceId registered
  | .managedWorkerExit deviceId => s.managedWorkerExit deviceId
  | .endRebuild => s.endRebuild
  | .updateBackend deviceId backend => s.updateBackend deviceId backend
  | .updateTemplate raises => s.updateTemplate raises
  | .updateRoute raises registered => s.updateRoute raises registered
  | .attachBackend backendId deviceId => s.attachBackend backendId deviceId
  | .detachBackend backendId deviceId => s.detachBackend backendId deviceId
  | .takeFrame msgType messageId generation payload =>
    s.takeFrame msgType messageId generation payload
  | .enqueue full => s.enqueue full
  | .pickUp w => s.pickUp w
  | .routeLookup w => s.routeLookup w
  | .readRouteLock w => s.readRouteLock w
  | .acquire w => s.acquire w
  | .handlerLookup w => s.handlerLookup w
  | .checkRequest w accepted => s.checkRequest w accepted
  | .faultPre w active => s.faultPre w active
  | .updateSettings w => s.updateSettings w
  | .runBackend w => s.runBackend w
  | .dispatchController w => s.dispatchController w
  | .contactController w => s.contactController w
  | .callTemplate w => s.callTemplate w
  | .returnTemplate w => s.returnTemplate w
  | .finalize w => s.finalize w
  | .release w => s.release w

end Router

end Sensorium.Daemon

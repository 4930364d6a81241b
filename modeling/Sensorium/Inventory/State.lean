import Sensorium.Inventory.Kernel

/-!
# The inventory in the daemon

The records that `RuntimeManager` keeps for buses and devices, what a snapshot holds of them, and
the changes that the lock sections of `inventory.py`, `backends.py` and `state.py` make to them.
Statistics, traces, templates' own state, queues and worker processes are not part of it.
-/

namespace Sensorium.Inventory

open Lib Model

/-! ## Records -/

inductive RuntimeState
  | empty
  | applying
  | ready
  | degraded
  | desynced
  deriving DecidableEq, Repr

/-- A backend identifier as a client sends it; nothing checks that it is a string. -/
inductive BackendId
  | str (s : Text)
  | int (n : Int)
  deriving DecidableEq, Repr

/-- The truth value that `if not backend_id` reads. -/
def BackendId.truthy : BackendId → Bool
  | .str s => s ≠ []
  | .int n => n ≠ 0

/-- `str(backend_id)`. -/
def BackendId.asText : BackendId → Text
  | .str s => s
  | .int (.ofNat n) => decimal n
  | .int (.negSucc n) => 45 :: decimal (n + 1)

structure BusRecord where
  bus : Bus
  handle : Nat

/-- A stored device; `object` tells the records made by different adds apart. -/
structure DeviceRecord where
  device : Device
  handle : Nat
  busHandle : Nat
  kernelName : Text
  attachedBackend : Option BackendId
  object : Nat

/-- `devicesByHandle` refers to the records in `devices`; `objects` records have been made. -/
structure Daemon where
  modelName : Option Text
  nextBusHandle : Nat
  nextDeviceHandle : Nat
  buses : List (Text × BusRecord)
  devices : List (Text × DeviceRecord)
  devicesByHandle : List (Nat × Nat)
  objects : Nat
  generation : Nat
  runtimeState : RuntimeState

/-- What the bridge, the file system and the worker processes decide in one step: whether a write
raises, whether the control page reports a desynchronised session, whether persisting a snapshot
raises something other than an `OSError` (a value that JSON has no form for, keys that do not
compare), and whether stopping a managed worker raises (its process outlives being killed). -/
structure Outside where
  refused : Bool
  flagged : Bool
  unsaved : Bool
  unstopped : Bool
  deriving DecidableEq, Repr

namespace Daemon

variable (d : Daemon)

/-- `_clear_state` up to the stop of the managed workers. -/
def unnamed : Daemon :=
  { d with
    modelName := none
    nextBusHandle := 1
    nextDeviceHandle := 1024 }

/-- `_clear_state` where it returns. -/
def clear : Daemon :=
  { d.unnamed with
    buses := []
    devices := []
    devicesByHandle := [] }

/-- `_clear_state` and whether it returns.  The managed workers, which belong to stored devices, are
stopped before the tables are emptied. -/
def clearState (o : Outside) : Daemon × Bool :=
  if o.unstopped && !d.devices.isEmpty then (d.unnamed, false) else (d.clear, true)

def setState (s : RuntimeState) : Daemon := { d with runtimeState := s }

/-- `_refresh_bridge_metrics_locked`. -/
def refreshBridgeMetrics (o : Outside) : Daemon :=
  if o.flagged then d.setState .desynced else d

/-- `_persist_snapshot_locked` and whether it returns; without a snapshot path it does nothing, as
with nothing reported and nothing raised. -/
def persistSnapshot (o : Outside) : Daemon × Bool :=
  if d.buses.isEmpty && d.devices.isEmpty then (d, true)
  else (d.refreshBridgeMetrics o, !o.unsaved)

/-- `self.buses` as the device checks read it. -/
def busTable : List (Text × Bus) := d.buses.map fun p => (p.1, p.2.bus)

/-- The records of one device changed. -/
def modifyDevice (id : Text) (f : DeviceRecord → DeviceRecord) : Daemon :=
  { d with devices := d.devices.map fun p => if p.1 = id then (p.1, f p.2) else p }

/-- A record changed where `_device_by_handle` finds it. -/
def modifyByHandle (handle : Nat) (f : DeviceRecord → DeviceRecord) : Daemon :=
  match dictGet d.devicesByHandle handle with
  | none => d
  | some object =>
    { d with devices := d.devices.map fun p => if p.2.object = object then (p.1, f p.2) else p }

end Daemon

/-! ## Adding to the kernel -/

def fitsU32 (n : Nat) : Bool := n < 4294967296

def fitsU8 (n : Nat) : Bool := n < 256

/-- Whether `encode_c_string(name, 64)` returns. -/
def encodesCString (name : Text) : Bool :=
  match utf8? name with
  | some bs => bs.length < 64
  | none => false

/-- `parse_tty_name`. -/
def parseTtyName (s : Text) : Option (Text × Nat) :=
  let base := s.rdropWhile isDigit
  let suffix := s.rtakeWhile isDigit
  let word (c : Nat) : Bool := isLetter c || c = 95
  if suffix ≠ [] && base.head?.any word && base.all (fun c => word c || isDigit c) then
    (decimalLiteral? suffix).map fun n => (base, n)
  else none

/-- The location in `DEVICE_ADD`. -/
def location : Part → Option Nat
  | .i2c address _ => some address
  | .spi chipSelect _ _ => some chipSelect
  | .uart portName _ => (parseTtyName portName).map Prod.snd

def nodeName (dev : Device) : Text :=
  match dev.part with
  | .i2c _ _ => dev.id
  | .spi _ deviceName _ => deviceName
  | .uart portName _ => portName

/-- `int(settings.get(key, default))` packed into an unsigned field. -/
def settingInt (settings : Entries) (key : String) (default : Int) : Option Nat :=
  match getD settings key (.int default) with
  | .int (.ofNat n) => some n
  | _ => none

def spiFields (dev : Device) : Option SpiFields :=
  match dev.part with
  | .spi _ _ _ => do
    let mode ← settingInt dev.settings "mode" 0
    let bits ← settingInt dev.settings "bits_per_word" 8
    let speed ← settingInt dev.settings "max_speed_hz" 500000
    pure ⟨speed, mode, bits⟩
  | _ => some ⟨0, 0, 0⟩

/-- Whether `_build_template` returns: the line responses of a UART template are encoded. -/
def buildsTemplate : Part → Bool
  | .uart _ (.template .uartScript script) => script.lineResponses.all fun p => (utf8? p.2).isSome
  | _ => true

/-- The names of `UART_MODEM_BITS`. -/
def modemNames : List Text :=
  [text "rts", text "cts", text "dtr", text "dsr", text "cd", text "ri"]

/-- Whether `_sync_uart_defaults` has modem lines to set. -/
def hasModemDefaults : Part → Bool
  | .uart _ (.template .uartScript script) =>
    script.controlDefaults.any fun p => p.1.map lowerAscii ∈ modemNames
  | _ => false

/-- Daemon and kernel after a step, and whether the step returned. -/
structure Added where
  daemon : Daemon
  kernel : Kernel
  ok : Bool

/-- `_add_bus_locked`. -/
def addBus (d : Daemon) (k : Kernel) (bus : Bus) (refused : Bool) : Added :=
  let handle := d.nextBusHandle
  let d := { d with nextBusHandle := handle + 1 }
  if fitsU32 handle && encodesCString bus.name then
    match k.writeFrame (.busAdd ⟨handle, bus.transport, bus.name⟩) refused with
    | some k' => ⟨{ d with buses := dictSet d.buses bus.id ⟨bus, handle⟩ }, k', true⟩
    | none => ⟨d, k, false⟩
  else ⟨d, k, false⟩

/-- The payload of `DEVICE_ADD`; `none` is an exception before the write. -/
def deviceCommand (d : Daemon) (dev : Device) : Option (KernelDevice × SpiFields) := do
  let bus ← dictGet d.buses dev.bus
  let place ← location dev.part
  let spi ← spiFields dev
  if fitsU32 d.nextDeviceHandle && fitsU32 bus.handle && fitsU32 place && fitsU32 spi.maxSpeedHz &&
      fitsU8 spi.mode && fitsU8 spi.bitsPerWord && encodesCString (nodeName dev) then
    some (⟨d.nextDeviceHandle, dev.part.transport, bus.handle, place, nodeName dev⟩, spi)
  else none

/-- `_add_device_locked`, up to the modem defaults.  The template is built after the write and
before the record is stored. -/
def addDevice (d : Daemon) (k : Kernel) (dev : Device) (refused : Bool) : Added :=
  let command := deviceCommand d dev
  let d := { d with nextDeviceHandle := d.nextDeviceHandle + 1 }
  match command with
  | none => ⟨d, k, false⟩
  | some (c, spi) =>
    match k.writeFrame (.deviceAdd c spi) refused with
    | none => ⟨d, k, false⟩
    | some k' =>
      if buildsTemplate dev.part then
        let record : DeviceRecord := ⟨dev, c.handle, c.busHandle, c.name, none, d.objects⟩
        ⟨{ d with
            devices := dictSet d.devices dev.id record
            devicesByHandle := dictSet d.devicesByHandle c.handle d.objects
            objects := d.objects + 1 }, k', true⟩
      else ⟨d, k', false⟩

/-! ## Attachments and snapshots -/

/-- A device that an external backend may serve. -/
def isExternal : Part → Bool
  | .i2c _ (.controller none) | .spi _ _ (.controller none) | .uart _ (.controller none) => true
  | _ => false

/-- The devices with an attachment, in the order of the table. -/
def Daemon.attached (d : Daemon) : List (Text × BackendId) :=
  d.devices.filterMap fun p => (p.2.attachedBackend.filter BackendId.truthy).map fun b => (p.1, b)

def BackendId.le : BackendId → BackendId → Bool
  | .str a, .str b => a ≤ b
  | .int a, .int b => a ≤ b
  | _, _ => false

def BackendId.isStr : BackendId → Bool
  | .str _ => true
  | .int _ => false

/-- `_snapshot_backend_attachments_locked`; sorting strings with numbers raises. -/
def Daemon.snapshotAttachments (d : Daemon) : Option (List (BackendId × List Text)) :=
  let groups := group d.attached
  if groups.all (fun g => g.1.isStr) || groups.all (fun g => !g.1.isStr) then
    some ((groups.map fun g => (g.1, g.2.insertionSort (· ≤ ·))).insertionSort
      fun g h => g.1.le h.1)
  else none

/-- What a rollback and a resync read of `_snapshot_payload_locked`. -/
structure Snapshot where
  model : Value
  attachments : List (BackendId × List Text)

/-- `_export_model_locked`. -/
def Daemon.exportModel (d : Daemon) : Value :=
  exportedModel (d.modelName.getD (text "runtime")) (d.buses.map fun p => p.2.bus.toItem)
    (d.devices.map fun p => p.2.device.toItem)

def Daemon.snapshot (d : Daemon) : Option Snapshot :=
  d.snapshotAttachments.map fun attachments => ⟨d.exportModel, attachments⟩

def devicesById (m : RuntimeModel) : List (Text × Device) := m.devices.map fun d => (d.id, d)

/-- The inner loop of `_validate_backend_attachments_for_devices`; `attachedBy` is the backend each
device was seen with. -/
def validateIds (devices : List (Text × Device)) (backend : Text) :
    List (Text × Text) → List Text → Option (List (Text × Text))
  | attachedBy, [] => some attachedBy
  | attachedBy, id :: ids =>
    match dictGet devices id with
    | none => none
    | some dev =>
      if !isExternal dev.part then none
      else if (dictGet attachedBy id).any (· ≠ backend) then none
      else validateIds devices backend (dictSet attachedBy id backend) ids

/-- `_validate_backend_attachments_for_devices`. -/
def validateBackendAttachments (devices : List (Text × Device)) :
    List (Text × Text) → List (Text × List Text) → List (BackendId × List Text) →
      Option (List (Text × List Text))
  | _, acc, [] => some acc
  | attachedBy, acc, (backend, ids) :: groups => do
    let attachedBy ← validateIds devices backend.asText attachedBy ids
    validateBackendAttachments devices attachedBy (dictSet acc backend.asText ids) groups

/-- `_restore_snapshot_model` and the validation of the attachments. -/
def Snapshot.restore (s : Snapshot) : Option (RuntimeModel × List (Text × List Text)) :=
  match normalizeRuntimeModelData s.model with
  | .error _ => none
  | .ok m =>
    (validateBackendAttachments (devicesById m) [] [] s.attachments).map fun a => (m, a)

/-- `_attach_backend_locked`. -/
def Daemon.attachBackend (d : Daemon) (backend : BackendId) (ids : List Text) : Option Daemon :=
  if ids.all fun id => (dictGet d.devices id).any fun r => isExternal r.device.part then
    some (ids.foldl
      (fun d id => d.modifyDevice id fun r => { r with attachedBackend := some backend }) d)
  else none

/-- The loop over the restored attachments in `_apply_model_locked` and whether it returns. -/
def Daemon.attachAll (d : Daemon) : List (Text × List Text) → Daemon × Bool
  | [] => (d, true)
  | (backend, ids) :: groups =>
    if ids = [] then d.attachAll groups
    else
      match d.attachBackend (.str backend) ids with
      | none => (d, false)
      | some d => d.attachAll groups

/-! ## Changes to a device in use -/

mutual

/-- A value of a patch over the one it meets. -/
def mergeValue : Value → Value → Value
  | .dict target, .dict patch => .dict (mergePatch target patch)
  | _, v => v

/-- `_merge_patch`; the keys of a patch are JSON strings. -/
def mergePatch (target : Entries) : Entries → Entries
  | [] => target
  | (.str k, v) :: patch =>
    mergePatch (put target k (mergeValue ((lookup target k).getD .null) v)) patch
  | e :: patch => mergePatch (target ++ [e]) patch

end

/-- The record after `update_device` has replaced its fields; `none` is an exception before that.
The identity of the normal form has to be the device's, and its `id` is not stored. -/
def Daemon.patched (d : Daemon) (dev : Device) (patch : Value) : Option Device :=
  match expectMapping patch [.field "device", .field "patch"] with
  | .error _ => none
  | .ok es =>
    match normalizeRuntimeDeviceItem (.dict (mergePatch dev.toEntries es)) d.busTable
        [.field "device"] with
    | .error _ => none
    | .ok z =>
      if z.bus = dev.bus && z.part.place = dev.part.place then some { z with id := dev.id }
      else none

/-- `update_device`.  Every exception after the assignments (a template that cannot be built, a
managed worker on an attached device, a failed modem write, a failed launch) leaves them in place.
Here and in the functions below, what persisting finds out about the session is left to a step of
its own. -/
def Daemon.updateDevice (d : Daemon) (id : Text) (patch : Value) : Daemon :=
  if d.runtimeState = .desynced then d
  else
    match dictGet d.devices id with
    | none => d
    | some r =>
      match d.patched r.device patch with
      | none => d
      | some dev => d.modifyDevice id fun r => { r with device := dev }

/-- `attach_backend`. -/
def Daemon.attach (d : Daemon) (backend : BackendId) (ids : List Text) : Daemon :=
  if d.runtimeState = .desynced then d else (d.attachBackend backend ids).getD d

/-- `detach_backend`; no list and an empty list both stand for every device. -/
def Daemon.detach (d : Daemon) (backend : BackendId) (ids : List Text) : Daemon :=
  if d.runtimeState = .desynced then d
  else
    let targets := if ids = [] then keys d.devices else ids
    let release (r : DeviceRecord) : DeviceRecord :=
      if r.attachedBackend = some backend then { r with attachedBackend := none } else r
    targets.foldl (fun d id => d.modifyDevice id release) d

/-- The fields of a UART configuration request. -/
structure UartConfig where
  handle : Nat
  baudRate : Nat
  cflag : Nat
  iflag : Nat
  oflag : Nat
  lflag : Nat
  deriving DecidableEq, Repr

/-- `_derive_uart_settings` with the two flags that the handler adds, in termios constants. -/
def deriveUartSettings (settings : Entries) (c : UartConfig) : List (Text × Value) :=
  let csize := c.cflag &&& 0x30
  let dataBits : Int :=
    if csize = 0 then 5 else if csize = 0x10 then 6 else if csize = 0x20 then 7 else 8
  let parity : Parity :=
    if c.cflag &&& 0x100 = 0 then .none else if c.cflag &&& 0x200 = 0 then .even else .odd
  let baudRate : Value :=
    if c.baudRate = 0 then getD settings "baud_rate" (.int 115200) else .int c.baudRate
  [(text "baud_rate", baudRate), (text "data_bits", .int dataBits),
    (text "parity", .str parity.spelling),
    (text "stop_bits", .int (if c.cflag &&& 0x40 = 0 then 1 else 2)),
    (text "xonxoff", .bool (c.iflag &&& 0x1400 ≠ 0)),
    (text "rtscts", .bool (c.cflag &&& 0x80000000 ≠ 0)), (text "cflag", .int c.cflag),
    (text "iflag", .int c.iflag), (text "oflag", .int c.oflag), (text "lflag", .int c.lflag)]

/-- `_handle_uart_config_request`. -/
def Daemon.uartConfig (d : Daemon) (c : UartConfig) : Daemon :=
  let store (r : DeviceRecord) : DeviceRecord :=
    { r with
      device :=
        { r.device with
          settings := (deriveUartSettings r.device.settings c).foldl
            (fun es p => put es p.1 p.2) r.device.settings } }
  d.modifyByHandle c.handle store

/-- `_consume_fault`. -/
def consumeFault (f : Faults) : Faults :=
  if f.remaining = 0 then f
  else if f.remaining = 1 then ⟨.none, 0, none, none⟩
  else { f with remaining := f.remaining - 1 }

/-- A request handled with an active fault. -/
def Daemon.faultedRequest (d : Daemon) (id : Text) : Daemon :=
  let use (r : DeviceRecord) : DeviceRecord :=
    if r.device.faults.mode = .none then r
    else { r with device := { r.device with faults := consumeFault r.device.faults } }
  d.modifyDevice id use

/-- `_refresh_managed_worker_runtime_state_locked`. -/
def Daemon.refreshWorkers (d : Daemon) (failing : Bool) : Daemon :=
  match d.runtimeState with
  | .desynced => d
  | .degraded => if failing then d else d.setState .ready
  | _ => if failing then d.setState .degraded else d

/-! ## The inventory -/

def BusRecord.entry (r : BusRecord) : Entry := ⟨r.handle, r.bus.transport, none, r.bus.name⟩

def DeviceRecord.entry (r : DeviceRecord) : Entry :=
  ⟨r.handle, r.device.part.transport, location r.device.part, r.kernelName⟩

def Daemon.entries (d : Daemon) : List Entry :=
  (d.buses.map fun p => p.2.entry) ++ d.devices.map fun p => p.2.entry

end Sensorium.Inventory

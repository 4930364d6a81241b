import Sensorium.Inventory.State
import Sensorium.Lib.Runs

/-!
# The operations on the inventory

`apply_model`, `reset_runtime` and `resync_runtime` as the RPC workers run them.  A step of a worker
is a section under the manager's lock that sends nothing, or one `bridge.write_frame`.  `RESET` goes
out without the lock; the adds go out under it, so that the lock is held between them.
-/

namespace Sensorium.Inventory

open Lib Model

/-! ## Program counters -/

/-- How the last call of a worker ended. -/
inductive Ending
  | returned
  | raised
  deriving DecidableEq, Repr

/-- The locals of `apply_model`. -/
structure Call where
  model : RuntimeModel
  previous : Option Snapshot
  generation : Nat

abbrev Attachments := List (Text × List Text)

/-- The places that send `RESET`. -/
inductive Sender
  | reset
  | apply (c : Call)
  | discard (c : Call)
  | resync (m : RuntimeModel) (attachments : Attachments)

/-- The callers of `_apply_model_locked`. -/
inductive Job
  | apply (c : Call)
  | rollback (c : Call) (m : RuntimeModel) (attachments : Attachments)
  | resync (m : RuntimeModel) (attachments : Attachments)

/-- Where a worker is.  At `send` it is about to send `RESET`, at `sent` the kernel has accepted
it.  `adds` is inside the lock section that rebuilds the inventory, with the buses and devices left
and the port whose modem lines come first.  At `rollback` the failed apply is discarded and the
snapshot is next.  The other three are sections that end in `desynced`. -/
inductive Pc
  | idle (last : Option Ending)
  | send (x : Sender)
  | sent (x : Sender)
  | adds (job : Job) (buses : List Bus) (devices : List Device) (modem : Option Nat)
  | rollback (c : Call) (s : Snapshot)
  | settleFailed
  | fatal
  | resyncFailed

namespace Pc

def isIdle : Pc → Bool
  | idle _ => true
  | _ => false

def isSend : Pc → Bool
  | send _ => true
  | _ => false

/-- The lock is held between the writes of `_apply_model_locked` and nowhere else. -/
def holds : Pc → Bool
  | adds _ _ _ _ => true
  | _ => false

/-- The next step takes the lock. -/
def waits : Pc → Bool
  | idle _ | send _ | adds _ _ _ _ => false
  | _ => true

/-- Between an accepted `RESET` and the end of the section that rebuilds after it. -/
def window : Pc → Bool
  | sent _ | adds _ _ _ _ | rollback _ _ => true
  | _ => false

/-- The section after an accepted `RESET` that clears the daemon and rebuilds nothing. -/
def discards : Pc → Bool
  | sent .reset | sent (.discard _) => true
  | _ => false

/-- The rest of the operation sends a `RESET` of its own or ends in `desynced`. -/
def settles : Pc → Bool
  | send (.discard _) | settleFailed | fatal | resyncFailed => true
  | _ => false

end Pc

namespace Job

def model : Job → RuntimeModel
  | apply c => c.model
  | rollback _ m _ | resync m _ => m

def attachments : Job → Attachments
  | apply _ => []
  | rollback _ _ a | resync _ a => a

def generation (d : Daemon) : Job → Nat
  | apply c => c.generation + 1
  | rollback c _ _ => c.generation
  | resync _ _ => d.generation + 1

/-- After an exception inside `_apply_model_locked`. -/
def failed : Job → Pc
  | apply c => .send (.discard c)
  | rollback _ _ _ => .fatal
  | resync _ _ => .resyncFailed

/-- After `_apply_model_locked` has returned; a rollback raises the exception it caught. -/
def done : Job → Pc
  | apply _ | resync _ _ => .idle (some .returned)
  | rollback _ _ _ => .idle (some .raised)

end Job

/-! ## Steps of a worker -/

inductive Operation
  | apply (model : Value)
  | reset
  | resync

/-- No buses, no devices and no model name. -/
def Daemon.blank (d : Daemon) : Bool :=
  d.buses.isEmpty && d.devices.isEmpty && d.modelName.all fun name => name = []

/-- From the call to the first `RESET`; `none` waits for the lock. -/
def Daemon.begin (d : Daemon) (locked : Bool) (o : Outside) : Operation → Option (Daemon × Pc)
  | .apply raw =>
    match normalizeRuntimeModelData raw with
    | .error _ => some (d, .idle (some .raised))
    | .ok m =>
      if locked then none
      else if d.runtimeState = .desynced then some (d, .idle (some .raised))
      else if d.blank then some (d.setState .applying, .send (.apply ⟨m, none, d.generation⟩))
      else
        let d := d.refreshBridgeMetrics o
        match d.snapshot with
        | none => some (d, .idle (some .raised))
        | some s => some (d.setState .applying, .send (.apply ⟨m, some s, d.generation⟩))
  | .reset =>
    if locked then none
    else if d.runtimeState = .desynced then some (d, .idle (some .raised))
    else some (d, .send .reset)
  | .resync =>
    if locked then none
    else
      let d := d.refreshBridgeMetrics o
      match d.snapshot.bind Snapshot.restore with
      | none => some (d, .idle (some .raised))
      | some (m, attachments) => some (d, .send (.resync m attachments))

/-- Daemon, kernel and program counter after a step. -/
structure Move where
  daemon : Daemon
  kernel : Kernel
  pc : Pc

/-- Into `_apply_model_locked`, after `_clear_state`. -/
def Job.enter (job : Job) (d : Daemon) (k : Kernel) : Move :=
  ⟨{ d with modelName := some job.model.name }, k,
    .adds job job.model.buses job.model.devices none⟩

/-- `RESET` raised. -/
def Sender.refused : Sender → Pc
  | .reset => .idle (some .raised)
  | .apply c => .send (.discard c)
  | .discard _ => .settleFailed
  | .resync _ _ => .resyncFailed

/-- What follows a discarded apply. -/
def Call.discarded (c : Call) : Pc :=
  match c.previous with
  | some s => .rollback c s
  | none => .idle (some .raised)

/-- `_clear_state` raised after the `RESET`; what discards a failed apply does not catch it. -/
def Sender.unstopped : Sender → Pc
  | .reset | .discard _ => .idle (some .raised)
  | .apply c => .send (.discard c)
  | .resync _ _ => .resyncFailed

/-- The lock section after `_clear_state` has returned. -/
def Sender.cleared (d : Daemon) (k : Kernel) : Sender → Move
  | .reset =>
    ⟨{ d with
        generation := d.generation + 1
        runtimeState := .empty }, k, .idle (some .returned)⟩
  | .apply c => (Job.apply c).enter d k
  | .discard c => ⟨d.setState .empty, k, c.discarded⟩
  | .resync m attachments => (Job.resync m attachments).enter (d.setState .applying) k

/-- The lock section after an accepted `RESET`. -/
def Sender.accepted (d : Daemon) (k : Kernel) (o : Outside) (x : Sender) : Move :=
  match d.clearState o with
  | (d, true) => x.cleared d k
  | (d, false) => ⟨d, k, x.unstopped⟩

/-- The lock section of a rollback, after its snapshot has been restored. -/
def Call.rolledBack (c : Call) (d : Daemon) (k : Kernel) (o : Outside) (m : RuntimeModel)
    (attachments : Attachments) : Move :=
  match d.clearState o with
  | (d, true) => (Job.rollback c m attachments).enter d k
  | (d, false) => ⟨d, k, .fatal⟩

def Daemon.ready (d : Daemon) (generation : Nat) : Daemon :=
  { d with
    generation := generation
    runtimeState := .ready }

/-- The end of `_apply_model_locked`. -/
def Job.finish (job : Job) (d : Daemon) (k : Kernel) (o : Outside) : Move :=
  let r := d.attachAll job.attachments
  if r.2 then
    let p := (r.1.ready (job.generation d)).persistSnapshot o
    ⟨p.1, k, if p.2 then job.done else job.failed⟩
  else ⟨r.1, k, job.failed⟩

/-- The handle that `_sync_uart_defaults` writes for. -/
def modemHandle (d : Daemon) (dev : Device) : Option Nat :=
  if hasModemDefaults dev.part then some d.nextDeviceHandle else none

/-- One write of `_apply_model_locked`, or its end. -/
def Job.add (job : Job) (d : Daemon) (k : Kernel) (o : Outside) :
    List Bus → List Device → Option Nat → Move
  | buses, devices, some handle =>
    match k.writeFrame (.uartSetModem handle) o.refused with
    | some k' => ⟨d, k', .adds job buses devices none⟩
    | none => ⟨d, k, job.failed⟩
  | bus :: buses, devices, none =>
    let r := addBus d k bus o.refused
    ⟨r.daemon, r.kernel, if r.ok then .adds job buses devices none else job.failed⟩
  | [], dev :: devices, none =>
    let r := addDevice d k dev o.refused
    ⟨r.daemon, r.kernel, if r.ok then .adds job [] devices (modemHandle d dev) else job.failed⟩
  | [], [], none => job.finish d k o

/-- `desynced` is set and a snapshot persisted, which may raise. -/
def Daemon.settle (d : Daemon) (o : Outside) : Daemon × Bool :=
  (d.setState .desynced).persistSnapshot o

/-- The next step of an operation in progress. -/
def advance (d : Daemon) (k : Kernel) (o : Outside) : Pc → Option Move
  | .idle _ => none
  | .send x =>
    match k.writeFrame .reset o.refused with
    | none => some ⟨d, k, x.refused⟩
    | some k' => some ⟨d, k', .sent x⟩
  | .sent x => some (x.accepted d k o)
  | .adds job buses devices modem => some (job.add d k o buses devices modem)
  | .rollback c s =>
    match s.restore with
    | none => some ⟨d, k, .fatal⟩
    | some (m, attachments) => some (c.rolledBack d k o m attachments)
  | .settleFailed =>
    let p := d.settle o
    some ⟨p.1, k, if p.2 then .fatal else .idle (some .raised)⟩
  | .fatal | .resyncFailed => some ⟨(d.settle o).1, k, .idle (some .raised)⟩

/-! ## The system -/

/-- What else changes the records or the state. -/
inductive Change
  | updateDevice (id : Text) (patch : Value)
  | attach (backend : BackendId) (ids : List Text)
  | detach (backend : BackendId) (ids : List Text)
  | uartConfig (c : UartConfig)
  | faultedRequest (id : Text)
  | bridgeFailure
  | refreshWorkers (failing : Bool)
  | refreshBridgeMetrics (o : Outside)

/-- The request handlers store settings and faults without the lock. -/
def Change.locks : Change → Bool
  | uartConfig _ | faultedRequest _ => false
  | _ => true

def Change.on (d : Daemon) : Change → Daemon
  | updateDevice id patch => d.updateDevice id patch
  | attach backend ids => d.attach backend ids
  | detach backend ids => d.detach backend ids
  | uartConfig c => d.uartConfig c
  | faultedRequest id => d.faultedRequest id
  | bridgeFailure => d.setState .desynced
  | refreshWorkers failing => d.refreshWorkers failing
  | refreshBridgeMetrics o => d.refreshBridgeMetrics o

inductive Act
  | call (t : Nat) (op : Operation) (o : Outside)
  | go (t : Nat) (o : Outside)
  | change (c : Change)

structure World where
  daemon : Daemon
  kernel : Kernel
  pcs : List Pc

def World.locked (w : World) : Bool := w.pcs.any Pc.holds

/-- No operation is in progress. -/
def World.Quiet (w : World) : Prop := ∀ p ∈ w.pcs, p.isIdle

instance (w : World) : Decidable w.Quiet := inferInstanceAs (Decidable (∀ p ∈ w.pcs, p.isIdle))

def step (w : World) : Act → Option World
  | .call t op o =>
    match w.pcs[t]? with
    | some (.idle _) =>
      (w.daemon.begin w.locked o op).map fun r =>
        { w with
          daemon := r.1
          pcs := w.pcs.set t r.2 }
    | _ => none
  | .go t o =>
    match w.pcs[t]? with
    | some p =>
      if p.waits && w.locked then none
      else (advance w.daemon w.kernel o p).map fun m => ⟨m.daemon, m.kernel, w.pcs.set t m.pc⟩
    | none => none
  | .change c =>
    if c.locks && w.locked then none else some { w with daemon := c.on w.daemon }

/-- A daemon that has opened the bridge, with `n` workers. -/
def start (k : Kernel) (generation n : Nat) : World :=
  ⟨⟨none, 1, 1024, [], [], [], 0, generation, .empty⟩, k, List.replicate n (.idle none)⟩

/-- `reset_runtime` and what discards a failed apply clear the daemon, unless it is desynchronised
by then. -/
def clears (w : World) : Act → Prop
  | .go t o =>
    (w.pcs[t]?).any Pc.discards → w.daemon.runtimeState ≠ .desynced → (w.daemon.clearState o).2
  | _ => True

/-- A `RESET` is accepted only while no operation is between its own accepted `RESET` and the end of
the section that rebuilds after it; and where nothing is rebuilt, the daemon is cleared. -/
def exclusive (w : World) (a : Act) : Prop :=
  (match a with
    | .go t o =>
      (w.pcs[t]?).any Pc.isSend → o.refused = false → ∀ p ∈ w.pcs, p.window = false
    | _ => True) ∧ clears w a

instance (w : World) (a : Act) : Decidable (clears w a) :=
  match a with
  | .go t o => inferInstanceAs (Decidable ((w.pcs[t]?).any Pc.discards →
      w.daemon.runtimeState ≠ .desynced → (w.daemon.clearState o).2))
  | .call _ _ _ | .change _ => .isTrue trivial

instance (w : World) (a : Act) : Decidable (exclusive w a) :=
  match a with
  | .go t o => inferInstanceAs (Decidable (((w.pcs[t]?).any Pc.isSend → o.refused = false →
      ∀ p ∈ w.pcs, p.window = false) ∧ clears w (.go t o)))
  | .call _ _ _ | .change _ => .isTrue ⟨trivial, trivial⟩

end Sensorium.Inventory

import Mathlib.Data.List.Dedup
import Mathlib.Data.List.Lex
import Mathlib.Data.List.Sort
import Sensorium.Model.Base

/-!
# Normal forms of buses and devices

`normalize_runtime_bus_item` and `normalize_runtime_device_item`.  The dictionary that the source
builds for a device is a record here: its transport part holds the fields of that transport and a
backend whose template fields are those of the transport.  `toItem` is the dictionary of a record,
as a snapshot copies it.
-/

namespace Sensorium.Model

open Lib

/-! ## Buses -/

inductive Transport
  | i2c
  | spi
  | uart
  deriving DecidableEq, Repr

def Transport.spelling : Transport → Text
  | .i2c => text "i2c"
  | .spi => text "spi"
  | .uart => text "uart"

def Transport.all : List Transport := [.i2c, .spi, .uart]

def expectTransport (v : Value) (label : Label) : Checked Transport := do
  let name ← expectString v label
  oneOf Transport.all Transport.spelling name label "['i2c', 'spi', 'uart']"

structure Bus where
  id : Text
  transport : Transport
  name : Text
  metadata : Entries

def normalizeRuntimeBusItem (item : Value) (label : Label) : Checked Bus := do
  let item ← expectMapping item label
  let id ← expectName (get item "id") (label.dot "id")
  let transport ← expectTransport (get item "transport") (label.dot "transport")
  let name ←
    match transport with
    | .i2c => expectRuntimeI2cBusName (get item "name") (label.dot "name")
    | .spi => expectRuntimeSpiBusName (get item "name") (label.dot "name")
    | .uart => expectName (get item "name") (label.dot "name")
  let metadata ← expectMapping (get item "metadata") (label.dot "metadata")
  pure ⟨id, transport, name, metadata⟩

/-! ## Backends -/

structure Worker where
  command : List Text
  restartLimit : Nat
  restartBackoffMs : Nat
  cwd : Option Text
  env : List (Text × Text)
  deriving DecidableEq, Repr

inductive TemplateKind
  | i2cRegisterBank
  | spiScript
  | uartScript
  deriving DecidableEq, Repr

def TemplateKind.spelling : TemplateKind → Text
  | .i2cRegisterBank => text "i2c-register-bank"
  | .spiScript => text "spi-script"
  | .uartScript => text "uart-script"

def TemplateKind.all : List TemplateKind := [.i2cRegisterBank, .spiScript, .uartScript]

structure RegisterBank where
  size : Nat
  pointerWidth : Nat
  autoIncrement : Bool
  registers : List (Text × Nat)
  clearOnRead : List Text
  writeEffects : List (Text × List (Text × Nat))
  deriving DecidableEq, Repr

structure Flash where
  jedecId : Text
  statusRegister : Nat
  writeBusyCycles : Nat
  deriving DecidableEq, Repr

structure SpiScript where
  responses : List (Text × Text)
  prefixResponses : List (Text × Text)
  defaultResponse : Text
  echo : Bool
  flash : Option Flash
  deriving DecidableEq, Repr

structure UartScript where
  echo : Bool
  lineResponses : List (Text × Text)
  binaryResponses : List (Text × Text)
  defaultResponse : Text
  controlDefaults : List (Text × Bool)
  ctsFollowsRts : Bool
  carrierFollowsDtr : Bool
  deriving DecidableEq, Repr

/-- A template may be of any kind; the fields it is stored with are those of the transport. -/
inductive Backend (σ : Type)
  | controller (worker : Option Worker)
  | template (kind : TemplateKind) (script : σ)

/-- What the checks before the transport's own say about a backend. -/
inductive BackendHead
  | controller (worker : Option Worker)
  | template (kind : TemplateKind)

def normalizeWorker (v : Value) (label : Label) : Checked Worker := do
  let worker ← expectMapping v label
  let raw ← expectList (get worker "command") (label.dot "command")
  let command ← raw.mapM fun item => expectString item (label.dot "command" ++ [.item])
  if command = [] then reject (label.dot "command") "must not be empty"
  else do
    let limit ← expectHexInt (getD worker "restart_limit" (.int 3)) (label.dot "restart_limit") 0
      (some 255)
    let backoff ← expectHexInt (getD worker "restart_backoff_ms" (.int 250))
      (label.dot "restart_backoff_ms") 0 (some 60000)
    let cwd ← onlyIf (has worker "cwd") (expectString (get worker "cwd") (label.dot "cwd"))
    let envRaw ← expectMapping (get worker "env") (label.dot "env")
    let entry (e : Value × Value) : Checked (Text × Text) := do
      let value ← expectString e.2 (label.dot "env" ++ [.key e.1])
      let key ← expectString e.1 (label.dot "env" ++ [.keyOf])
      .ok (key, value)
    let env ← collect entry [] envRaw
    .ok ⟨command, limit, backoff, cwd, env⟩

def normalizeBackendHead (backend : Entries) (label : Label) : Checked BackendHead := do
  let kind ← expectString (get backend "kind") (label.dot "kind")
  if kind = text "template" then do
    let name ← expectString (get backend "template") (label.dot "template")
    let template ← oneOf TemplateKind.all TemplateKind.spelling name (label.dot "template")
      "['i2c-register-bank', 'spi-script', 'uart-script']"
    .ok (.template template)
  else if kind = text "controller" then
    match get backend "worker" with
    | .null => .ok (.controller none)
    | v => do
      let worker ← normalizeWorker v (label.dot "worker")
      .ok (.controller (some worker))
  else reject (label.dot "kind") "must be 'template' or 'controller'"

/-- The template fields of the transport are only checked for a template. -/
def finishBackend {σ : Type} (head : BackendHead) (script : Checked σ) : Checked (Backend σ) :=
  match head with
  | .controller worker => .ok (.controller worker)
  | .template kind => script >>= fun s => .ok (.template kind s)

/-! ## Template fields -/

/-- `RUNTIME_BRIDGE_FRAME_LIMIT`. -/
def frameLimit : Nat := 262144

/-- The width of a register key in `clear_on_read` and `write_effects`. -/
def bankWidth (size : Nat) : Nat := if size ≤ 0x100 then 2 else 4

def normalizeRegisterBank (backend : Entries) (label : Label) : Checked RegisterBank := do
  let size ← expectHexInt (getD backend "size" (.int 256)) (label.dot "size") 1 (some frameLimit)
  let width ← expectHexInt (getD backend "pointer_width" (.int 1)) (label.dot "pointer_width") 1
    (some 2)
  let increment ← expectBool (getD backend "auto_increment" (.bool true))
    (label.dot "auto_increment")
  let registers ← normalizeI2cRegisters (getD backend "registers" (.dict [])) (size - 1)
  let clearRaw ← expectList (get backend "clear_on_read") (label.dot "clear_on_read")
  let clear ← clearRaw.mapM fun item => do
    let reg ← expectHexInt item (label.dot "clear_on_read" ++ [.item]) 0 (some (size - 1))
    .ok (hexWord (bankWidth size) reg)
  let effectsRaw ← expectMapping (get backend "write_effects") (label.dot "write_effects")
  let entry (e : Value × Value) : Checked (Text × List (Text × Nat)) := do
    let reg ← expectHexInt e.1 (label.dot "write_effects" ++ [.keyOf]) 0 (some (size - 1))
    let effects ← normalizeI2cRegisters e.2 (size - 1)
    .ok (hexWord (bankWidth size) reg, effects)
  let effects ← collect entry [] effectsRaw
  pure ⟨size, width, increment, registers, clear.dedup.insertionSort (· ≤ ·), effects⟩

/-- A table of byte literals; its keys are labelled without the device. -/
def normalizeLiterals (backend : Entries) (field : String) (label : Label) :
    Checked (List (Text × Text)) := do
  let es ← expectMapping (get backend field) (label.dot field)
  let entry (e : Value × Value) : Checked (Text × Text) := do
    let key ← normalizeBytesLiteral e.1 [.field "backend", .field field, .keyOf]
    let value ← normalizeBytesLiteral e.2 (label.dot field ++ [.key e.1])
    .ok (key, value)
  collect entry [] es

def normalizeFlash (backend : Entries) (label : Label) : Checked Flash := do
  let jedecId ← normalizeBytesLiteral (getD backend "flash_jedec_id" (.lit ""))
    (label.dot "flash_jedec_id")
  let status ← expectHexInt (getD backend "flash_status_register" (.int 0))
    (label.dot "flash_status_register") 0 (some 0xff)
  let cycles ← expectHexInt (getD backend "flash_write_busy_cycles" (.int 0))
    (label.dot "flash_write_busy_cycles") 0 (some 255)
  pure ⟨jedecId, status, cycles⟩

def normalizeSpiScript (backend : Entries) (label : Label) : Checked SpiScript := do
  let responses ← normalizeLiterals backend "responses" label
  let prefixResponses ← normalizeLiterals backend "prefix_responses" label
  let response ← normalizeBytesLiteral (getD backend "default_response" (.lit ""))
    (label.dot "default_response")
  let echo ← expectBool (getD backend "echo" (.bool false)) (label.dot "echo")
  let flash ← onlyIf (has backend "flash_jedec_id") (normalizeFlash backend label)
  pure ⟨responses, prefixResponses, response, echo, flash⟩

def normalizeLineResponses (backend : Entries) (label : Label) : Checked (List (Text × Text)) := do
  let es ← expectMapping (get backend "line_responses") (label.dot "line_responses")
  let entry (e : Value × Value) : Checked (Text × Text) := do
    let value ← expectRawString e.2 (label.dot "line_responses" ++ [.key e.1])
    let key ← expectString e.1 [.field "backend", .field "line_responses", .keyOf]
    .ok (key, value)
  collect entry [] es

def normalizeControlDefaults (backend : Entries) (label : Label) :
    Checked (List (Text × Bool)) := do
  let es ← expectMapping (get backend "control_defaults") (label.dot "control_defaults")
  let entry (e : Value × Value) : Checked (Text × Bool) := do
    let value ← expectBool e.2 (label.dot "control_defaults" ++ [.key e.1])
    let key ← expectString e.1 [.field "backend", .field "control_defaults", .keyOf]
    .ok (key, value)
  collect entry [] es

def normalizeUartScript (backend : Entries) (label : Label) : Checked UartScript := do
  let lines ← normalizeLineResponses backend label
  let binary ← normalizeLiterals backend "binary_responses" label
  let echo ← expectBool (getD backend "echo" (.bool true)) (label.dot "echo")
  let response ← normalizeBytesLiteral (getD backend "default_response" (.lit ""))
    (label.dot "default_response")
  let control ← normalizeControlDefaults backend label
  let cts ← expectBool (getD backend "cts_follows_rts" (.bool false)) (label.dot "cts_follows_rts")
  let carrier ← expectBool (getD backend "carrier_follows_dtr" (.bool false))
    (label.dot "carrier_follows_dtr")
  pure ⟨echo, lines, binary, response, control, cts, carrier⟩

/-! ## Devices -/

/-- The fields that depend on the transport. -/
inductive Part
  | i2c (address : Nat) (backend : Backend RegisterBank)
  | spi (chipSelect : Nat) (deviceName : Text) (backend : Backend SpiScript)
  | uart (portName : Text) (backend : Backend UartScript)

structure Device where
  id : Text
  bus : Text
  part : Part
  metadata : Entries
  faults : Faults
  settings : Entries

/-- A text inside a message. -/
def shown (s : Text) : String := String.ofList (s.map Char.ofNat)

def findBus (busesById : List (Text × Bus)) (busId : Text) (label : Label) : Checked Bus :=
  match dictGet busesById busId with
  | some bus => .ok bus
  | none => reject label s!"refers to unknown bus '{shown busId}'"

def checkTransport (transport : Transport) (bus : Bus) (label : Label) : Checked Unit :=
  if transport = bus.transport then .ok ()
  else
    let own := shown transport.spelling
    let other := shown bus.transport.spelling
    reject label s!"'{own}' does not match bus '{shown bus.id}' transport '{other}'"

def normalizeI2cPart (item backend : Entries) (head : BackendHead) (label : Label) :
    Checked (Part × Entries) := do
  let address ← expectHexInt (get item "address") (label.dot "address") 0 (some 0x7f)
  let full ← finishBackend head (normalizeRegisterBank backend (label.dot "backend"))
  pure (.i2c address full, [])

/-- The device name of a chip select on the bus `spiN`. -/
def spidevName (busIndex chipSelect : Nat) : Text :=
  text "spidev" ++ decimal busIndex ++ text "." ++ decimal chipSelect

def checkDeviceName (name expected : Text) (bus : Bus) (label : Label) : Checked Unit :=
  if name = expected then .ok ()
  else reject label s!"must match '{shown expected}' for bus '{shown bus.name}'"

def normalizeSpiPart (item backend : Entries) (head : BackendHead) (bus : Bus) (label : Label) :
    Checked (Part × Entries) := do
  let chipSelect ← expectHexInt (get item "chip_select") (label.dot "chip_select") 0 (some 255)
  let index ← intOfDigits (bus.name.drop 3)
  let name ← expectName (getD item "device_name" (.str (spidevName index chipSelect)))
    (label.dot "device_name")
  let _ ← checkDeviceName name (spidevName index chipSelect) bus (label.dot "device_name")
  let settings ← normalizeSpiSettings (get item "settings") (label.dot "settings")
  let full ← finishBackend head (normalizeSpiScript backend (label.dot "backend"))
  pure (.spi chipSelect name full, settings)

def normalizeUartPart (item backend : Entries) (head : BackendHead) (label : Label) :
    Checked (Part × Entries) := do
  let port ← expectRuntimeUartPortName (getD item "port_name" (get item "device_name"))
    (label.dot "port_name")
  let settings ← normalizeUartSettings (get item "settings") (label.dot "settings")
  let full ← finishBackend head (normalizeUartScript backend (label.dot "backend"))
  pure (.uart port full, settings)

/-- The branches on the transport. -/
def normalizePart (transport : Transport) (item backend : Entries) (head : BackendHead) (bus : Bus)
    (label : Label) : Checked (Part × Entries) :=
  match transport with
  | .i2c => normalizeI2cPart item backend head label
  | .spi => normalizeSpiPart item backend head bus label
  | .uart => normalizeUartPart item backend head label

def normalizeRuntimeDeviceItem (item : Value) (busesById : List (Text × Bus)) (label : Label) :
    Checked Device := do
  let item ← expectMapping item label
  let id ← expectName (get item "id") (label.dot "id")
  let busId ← expectName (get item "bus") (label.dot "bus")
  let bus ← findBus busesById busId (label.dot "bus")
  let transport ← expectTransport (get item "transport") (label.dot "transport")
  let _ ← checkTransport transport bus (label.dot "transport")
  let backend ← expectMapping (get item "backend") (label.dot "backend")
  let head ← normalizeBackendHead backend (label.dot "backend")
  let metadata ← expectMapping (get item "metadata") (label.dot "metadata")
  let faults ← normalizeFaults (get item "faults") (label.dot "faults")
  let fields ← normalizePart transport item backend head bus label
  pure ⟨id, busId, fields.1, metadata, faults, fields.2⟩

/-! ## Records as dictionaries -/

def textEntries (ps : List (Text × Text)) : Entries := ps.map fun p => (.str p.1, .str p.2)

def Bus.toItem (b : Bus) : Value :=
  .dict [(.lit "id", .str b.id), (.lit "transport", .str b.transport.spelling),
    (.lit "name", .str b.name)]

def Worker.toEntries (w : Worker) : Entries :=
  [(.lit "command", .list (w.command.map .str)), (.lit "restart_limit", .int w.restartLimit),
    (.lit "restart_backoff_ms", .int w.restartBackoffMs)] ++
    (w.cwd.map fun d => (Value.lit "cwd", Value.str d)).toList ++
    if w.env = [] then [] else [(.lit "env", .dict (textEntries w.env))]

def RegisterBank.toEntries (b : RegisterBank) : Entries :=
  [(.lit "size", .int b.size), (.lit "pointer_width", .int b.pointerWidth),
    (.lit "auto_increment", .bool b.autoIncrement),
    (.lit "registers", .dict (registerEntries b.registers)),
    (.lit "clear_on_read", .list (b.clearOnRead.map .str)),
    (.lit "write_effects",
      .dict (b.writeEffects.map fun p => (.str p.1, .dict (registerEntries p.2))))]

def Flash.toEntries (f : Flash) : Entries :=
  [(.lit "flash_jedec_id", .str f.jedecId), (.lit "flash_status_register", .int f.statusRegister),
    (.lit "flash_write_busy_cycles", .int f.writeBusyCycles)]

def SpiScript.toEntries (c : SpiScript) : Entries :=
  [(.lit "responses", .dict (textEntries c.responses)),
    (.lit "prefix_responses", .dict (textEntries c.prefixResponses)),
    (.lit "default_response", .str c.defaultResponse), (.lit "echo", .bool c.echo)] ++
    match c.flash with
    | none => []
    | some f => f.toEntries

def UartScript.toEntries (c : UartScript) : Entries :=
  [(.lit "echo", .bool c.echo), (.lit "line_responses", .dict (textEntries c.lineResponses)),
    (.lit "binary_responses", .dict (textEntries c.binaryResponses)),
    (.lit "default_response", .str c.defaultResponse),
    (.lit "control_defaults", .dict (c.controlDefaults.map fun p => (.str p.1, .bool p.2))),
    (.lit "cts_follows_rts", .bool c.ctsFollowsRts),
    (.lit "carrier_follows_dtr", .bool c.carrierFollowsDtr)]

def Backend.toEntries {σ : Type} (enc : σ → Entries) : Backend σ → Entries
  | .controller none => [(.lit "kind", .lit "controller")]
  | .controller (some w) => [(.lit "kind", .lit "controller"), (.lit "worker", .dict w.toEntries)]
  | .template kind script =>
    (.lit "kind", .lit "template") :: (.lit "template", .str kind.spelling) :: enc script

/-- The fields that say where a device is, without its backend. -/
inductive Place
  | address (address : Nat)
  | chip (chipSelect : Nat) (deviceName : Text)
  | port (portName : Text)
  deriving DecidableEq, Repr

namespace Part

def place : Part → Place
  | .i2c address _ => .address address
  | .spi chipSelect deviceName _ => .chip chipSelect deviceName
  | .uart portName _ => .port portName

def transport : Part → Transport
  | .i2c .. => .i2c
  | .spi .. => .spi
  | .uart .. => .uart

def placeEntries : Part → Entries
  | .i2c address _ => [(.lit "address", .int address)]
  | .spi chipSelect deviceName _ =>
    [(.lit "chip_select", .int chipSelect), (.lit "device_name", .str deviceName)]
  | .uart portName _ => [(.lit "port_name", .str portName)]

def backendEntries : Part → Entries
  | .i2c _ backend => backend.toEntries RegisterBank.toEntries
  | .spi _ _ backend => backend.toEntries SpiScript.toEntries
  | .uart _ backend => backend.toEntries UartScript.toEntries

end Part

def Device.toEntries (d : Device) : Entries :=
  [(.lit "id", .str d.id), (.lit "bus", .str d.bus),
    (.lit "transport", .str d.part.transport.spelling)] ++ d.part.placeEntries ++
    [(.lit "backend", .dict d.part.backendEntries), (.lit "metadata", .dict d.metadata),
      (.lit "faults", .dict d.faults.toEntries), (.lit "settings", .dict d.settings)]

/-- `_snapshot_device`. -/
def Device.toItem (d : Device) : Value := .dict d.toEntries

namespace Device

variable (d : Device)

theorem get_id : get d.toEntries "id" = .str d.id := rfl

theorem get_bus : get d.toEntries "bus" = .str d.bus := rfl

theorem get_transport : get d.toEntries "transport" = .str d.part.transport.spelling := rfl

theorem get_backend : get d.toEntries "backend" = .dict d.part.backendEntries := by
  obtain ⟨id, bus, part, metadata, faults, settings⟩ := d
  cases part <;> rfl

theorem get_metadata : get d.toEntries "metadata" = .dict d.metadata := by
  obtain ⟨id, bus, part, metadata, faults, settings⟩ := d
  cases part <;> rfl

theorem get_faults : get d.toEntries "faults" = .dict d.faults.toEntries := by
  obtain ⟨id, bus, part, metadata, faults, settings⟩ := d
  cases part <;> rfl

end Device

end Sensorium.Model

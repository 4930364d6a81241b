import Sensorium.Model.Data

/-!
# Models of cameras and sensors

`normalize_model` of `model_control.py`.  The dictionary that the source returns for a camera or an
IIO model is a record here; only the IIO adapter has a bus, and only I2C has an address.
-/

namespace Sensorium.ModelControl

open Lib
open Sensorium.Model (Value Entries Label Failure RuntimeModel get getD has expectMapping readInt
  normalizeRuntimeModelData)

/-! ## Failures and checks -/

/-- `ModelError`: a failed check with its label, a name that is none of the valid ones, or a rule
between fields. -/
inductive ModelError
  | check (failure : Failure)
  | unsupported (what : String) (name : Text)
  | rule (message : String)

abbrev Checked := Except ModelError

def lift {α : Type} (x : Model.Checked α) : Checked α := x.mapError .check

def reject {α : Type} (label : Label) (message : String) : Checked α :=
  .error (.check (.model label message))

abbrev Name := { s : Text // s ≠ [] }

def expectString (v : Value) (label : Label) : Checked Name :=
  match v with
  | .str s =>
    if h : strip s = [] then reject label "must be a non-empty string" else .ok ⟨strip s, h⟩
  | _ => reject label "must be a non-empty string"

def expectBool (v : Value) (label : Label) : Checked Bool := lift (Model.expectBool v label)

def expectInt (v : Value) (label : Label) : Checked Int := lift (Model.expectInt v label)

abbrev Address := { n : Nat // n ≤ 0x7f }

def expectI2cAddress (v : Value) (label : Label) : Checked Address := do
  let n ← lift (readInt v label)
  if h : 0 ≤ n ∧ n ≤ 0x7f then .ok ⟨n.toNat, Int.toNat_le.mpr h.2⟩
  else reject label "must be a 7-bit I2C address (0x00-0x7f)"

def isDeviceNameChar (c : Nat) : Bool :=
  isLetter c || isDigit c || c = 46 || c = 95 || c = 45

abbrev DeviceName := { s : Text // s ≠ [] ∧ s.all isDeviceNameChar = true }

def expectDeviceName (v : Value) (label : Label) : Checked DeviceName := do
  let s ← expectString v label
  if h : s.val ≠ [] ∧ s.val.all isDeviceNameChar = true then .ok ⟨s, h⟩
  else reject label "must use only letters, numbers, dot, underscore, or hyphen"

/-- The member of a set of names that a text names. -/
def oneOf {α : Type} (all : List α) (spelling : α → Text) (what : String) (s : Name) : Checked α :=
  match all.find? fun a => spelling a = s with
  | some a => .ok a
  | none => .error (.unsupported what s)

/-! ## Models -/

inductive Adapter
  | camera
  | iio
  | runtime
  deriving DecidableEq, Repr

def Adapter.spelling : Adapter → Text
  | .camera => text "camera"
  | .iio => text "iio"
  | .runtime => text "runtime"

inductive Transport
  | virtual
  | i2c
  | spi
  | uart
  deriving DecidableEq, Repr

def Transport.spelling : Transport → Text
  | .virtual => text "virtual"
  | .i2c => text "i2c"
  | .spi => text "spi"
  | .uart => text "uart"

inductive FaultMode
  | none
  | staleData
  | timeout
  deriving DecidableEq, Repr

def FaultMode.spelling : FaultMode → Text
  | .none => text "none"
  | .staleData => text "stale-data"
  | .timeout => text "timeout"

inductive Profile
  | environmentBasic
  | environmentPlus
  deriving DecidableEq, Repr

def Profile.spelling : Profile → Text
  | .environmentBasic => text "environment-basic"
  | .environmentPlus => text "environment-plus"

@[ext]
structure Camera where
  deviceName : Option DeviceName
  family : Name
  sensor : Name
  repeatLastFrame : Bool
  deriving DecidableEq

inductive Bus
  | i2c
  | spi
  | uart

/-- The bus of an IIO model, with the address of an I2C device. -/
inductive Wire
  | i2c (address : Address)
  | spi
  | uart
  deriving DecidableEq

def Wire.transport : Wire → Transport
  | .i2c _ => .i2c
  | .spi => .spi
  | .uart => .uart

@[ext]
structure Iio where
  wire : Wire
  deviceName : DeviceName
  profile : Profile
  temperatureMillic : Int
  pressurePascal : Int
  temperatureStepMillic : Int
  pressureStepPascal : Int
  humidityMillipercent : Int
  humidityStepMillipercent : Int
  temperatureThreshRisingMillic : Int
  updateIntervalMs : Int
  deriving DecidableEq

inductive Part
  | camera (c : Camera)
  | iio (i : Iio)
  deriving DecidableEq

@[ext]
structure ModuleModel where
  name : Name
  faultMode : FaultMode
  part : Part
  deriving DecidableEq

namespace ModuleModel

variable (m : ModuleModel)

def adapter : Adapter :=
  match m.part with
  | .camera _ => .camera
  | .iio _ => .iio

def transport : Transport :=
  match m.part with
  | .camera _ => .virtual
  | .iio i => i.wire.transport

def deviceName : Option DeviceName :=
  match m.part with
  | .camera c => c.deviceName
  | .iio i => some i.deviceName

end ModuleModel

inductive Normalized
  | module (m : ModuleModel)
  | runtime (m : RuntimeModel)

/-! ## Normal forms -/

/-- The device name in the transport configuration, or the one that the source takes without. -/
def normalizeDeviceName {α : Type} (transportConfig : Entries) (given : DeviceName → α)
    (absent : α) : Checked α :=
  if has transportConfig "device_name" then
    given <$> expectDeviceName (get transportConfig "device_name")
      [.field "config", .field "transport", .field "device_name"]
  else pure absent

def normalizeCamera (deviceName : Option DeviceName) (config timing : Entries) :
    Checked Camera := do
  let label : Label := [.field "config", .field "camera"]
  let camera ← lift (expectMapping (get config "camera") label)
  let family ← expectString (get camera "family") (label.dot "family")
  let sensor ← expectString (get camera "sensor") (label.dot "sensor")
  let repeatLastFrame ← expectBool (getD timing "repeat_last_frame" (.bool true))
    [.field "timing", .field "repeat_last_frame"]
  pure ⟨deviceName, family, sensor, repeatLastFrame⟩

def normalizeIio (wire : Wire) (deviceName : DeviceName) (config timing : Entries) :
    Checked Iio := do
  let label : Label := [.field "config", .field "iio"]
  let iio ← lift (expectMapping (get config "iio") label)
  let number (key : String) (default : Int) : Checked Int :=
    expectInt (getD iio key (.int default)) (label.dot key)
  let profile ← expectString (getD iio "profile" (.lit "environment-basic")) (label.dot "profile")
  let profile ← oneOf [.environmentBasic, .environmentPlus] Profile.spelling "IIO profile" profile
  let temperatureMillic ← number "temperature_millic" 21500
  let pressurePascal ← number "pressure_pascal" 101325
  let temperatureStepMillic ← number "temperature_step_millic" 250
  let pressureStepPascal ← number "pressure_step_pascal" 120
  let humidityMillipercent ← number "humidity_millipercent" 45500
  let humidityStepMillipercent ← number "humidity_step_millipercent" 350
  let temperatureThreshRisingMillic ← number "temperature_thresh_rising_millic" 26000
  let updateIntervalMs ← expectInt (getD timing "update_interval_ms" (.int 1000))
    [.field "timing", .field "update_interval_ms"]
  pure ⟨wire, deviceName, profile, temperatureMillic, pressurePascal, temperatureStepMillic,
    pressureStepPascal, humidityMillipercent, humidityStepMillipercent,
    temperatureThreshRisingMillic, updateIntervalMs⟩

def defaultI2cName : DeviceName := ⟨text "i2c-1", by decide⟩

def defaultSpiName : DeviceName := ⟨text "spidev0.0", by decide⟩

def defaultUartName : DeviceName := ⟨text "ttyAMA0", by decide⟩

/-- The rules between adapter and transport: a camera has no bus, and an IIO model has one. -/
def busOf : Bool → Transport → Checked (Option Bus)
  | true, .virtual => .ok none
  | true, _ => .error (.rule "camera models currently require transport=virtual")
  | false, .virtual => .error (.rule "iio models must use i2c, spi, or uart transport")
  | false, .i2c => .ok (some .i2c)
  | false, .spi => .ok (some .spi)
  | false, .uart => .ok (some .uart)

/-- The fields of a model that depend on its adapter; only an I2C model has an address. -/
def normalizePart (transportConfig config timing : Entries) : Option Bus → Checked Part
  | none => do
    let deviceName ← normalizeDeviceName transportConfig some none
    .camera <$> normalizeCamera deviceName config timing
  | some .i2c => do
    let deviceName ← normalizeDeviceName transportConfig id defaultI2cName
    let address ← expectI2cAddress (getD transportConfig "address" (.int 0x76))
      [.field "config", .field "transport", .field "address"]
    .iio <$> normalizeIio (.i2c address) deviceName config timing
  | some .spi => do
    let deviceName ← normalizeDeviceName transportConfig id defaultSpiName
    .iio <$> normalizeIio .spi deviceName config timing
  | some .uart => do
    let deviceName ← normalizeDeviceName transportConfig id defaultUartName
    .iio <$> normalizeIio .uart deviceName config timing

/-- A camera or an IIO model, from where `normalize_model` reads the transport. -/
def normalizeModule (raw : Entries) (name : Name) (camera : Bool) : Checked ModuleModel := do
  let transport ← expectString
    (getD raw "transport" (if camera then .lit "virtual" else .lit "i2c")) [.field "transport"]
  let transport ← oneOf [.virtual, .i2c, .spi, .uart] Transport.spelling "transport" transport
  let bus ← busOf camera transport
  let timing ← lift (expectMapping (get raw "timing") [.field "timing"])
  let faults ← lift (expectMapping (get raw "faults") [.field "faults"])
  let config ← lift (expectMapping (get raw "config") [.field "config"])
  let transportConfig ← lift (expectMapping (get config "transport")
    [.field "config", .field "transport"])
  let _ ← lift (expectMapping (get raw "registers") [.field "registers"])
  let mode ← expectString (getD faults "mode" (.lit "none")) [.field "faults", .field "mode"]
  let mode ← oneOf [.none, .staleData, .timeout] FaultMode.spelling "fault mode" mode
  let part ← normalizePart transportConfig config timing bus
  pure ⟨name, mode, part⟩

def normalizeModel (raw : Value) : Checked Normalized := do
  let entries ←
    match raw with
    | .dict es => pure es
    | _ => .error (.rule "model must be a mapping")
  let name ← expectString (get entries "name") [.field "name"]
  let adapter ← expectString (get entries "adapter") [.field "adapter"]
  let adapter ← oneOf [.camera, .iio, .runtime] Adapter.spelling "adapter" adapter
  match adapter with
  | .runtime => .runtime <$> lift (normalizeRuntimeModelData raw)
  | .camera => .module <$> normalizeModule entries name true
  | .iio => .module <$> normalizeModule entries name false

end Sensorium.ModelControl

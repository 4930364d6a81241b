import Sensorium.Lib.Heap
import Sensorium.Lib.Text
import Sensorium.Kernel.Request

/-!
# The inventory of the runtime

The buses, devices and UART groups of `struct sensorium_runtime_state`, and the control-ring
commands that change them.  Objects are named by their addresses: a list, an index or a field that
is a pointer in the source holds an address here, and `none` of a computation is an access to an
object that is not allocated.  The control ring is drained one command at a time, so a command is
one step.

What the allocator and the I2C, SPI and tty cores answer is an input of the command.  A result that
is an `int` or an error pointer is an `Int`, 0 for success.
-/

namespace Sensorium.Kernel

open Lib Function

def eNoEnt : Int := -2
def eExist : Int := -17
def eNoDev : Int := -19
def eInval : Int := -22
def eRange : Int := -34

/-- `enum sensorium_transport_type`. -/
inductive TransportType
  | virtual
  | i2c
  | spi
  | uart
  deriving DecidableEq, Repr

/-- The transport of a command; there is none above `SENSORIUM_TRANSPORT_UART`. -/
def TransportType.ofCode : Nat → Option TransportType
  | 0 => some .virtual
  | 1 => some .i2c
  | 2 => some .spi
  | 3 => some .uart
  | _ => none

/-- The transports whose devices stand in the `location_index` of their bus. -/
def TransportType.located (t : TransportType) : Bool := t = .i2c || t = .spi

/-! ## Names -/

/-- The string in a `char` array: all of it where there is no NUL. -/
def cString (raw : Text) : Text := raw.takeWhile (· ≠ 0)

def strscpy (src : Text) (size : Nat) : Text := (cString src).take (size - 1)

/-- `kstrtouint` in base 10: an optional plus sign, digits, an optional newline.  The digits are
read as a 64-bit number first. -/
def kstrtouint (s : Text) : Except Int Nat :=
  let s := if s.head? = some 43 then s.tail else s
  let value := decimalValue (s.takeWhile isDigit)
  let rest := s.dropWhile isDigit
  let rest := if rest.head? = some 10 then rest.tail else rest
  if 2 ^ 64 ≤ value then .error eRange
  else if s.takeWhile isDigit = [] then .error eInval
  else if rest ≠ [] then .error eInval
  else if 2 ^ 32 ≤ value then .error eRange
  else .ok value

def parseI2cName (name : Text) : Except Int Nat :=
  if name = [] then .error eInval
  else if name.take 4 ≠ text "i2c-" then .error eInval
  else if name.drop 4 = [] then .error eInval
  else kstrtouint (name.drop 4)

/-- Where the digits at the end of a name start. -/
def digitSplit (name : Text) : Nat := (name.rdropWhile isDigit).length

def parseSpiName (name : Text) : Except Int Nat :=
  if name = [] then .error eInval
  else if digitSplit name = name.length ∨ digitSplit name = 0 then .error eInval
  else kstrtouint (name.drop (digitSplit name))

/-- The base name and the index. -/
def parseTtyName (name : Text) (baseSize : Nat) : Except Int (Text × Nat) :=
  let split := digitSplit name
  if name = [] then .error eInval
  else if split = name.length ∨ split = 0 ∨ baseSize ≤ split then .error eInval
  else
    match kstrtouint (name.drop split) with
    | .error ret => .error ret
    | .ok index => .ok (name.take split, index)

/-! ## Objects -/

structure RuntimeBus where
  handle : Nat
  transport : TransportType
  name : Text
  locationIndex : Nat → Option Nat
  index : Nat
  registered : Bool

structure RuntimeDevice where
  bus : Nat
  handle : Nat
  transport : TransportType
  location : Nat
  name : Text
  registered : Bool
  maxSpeedHz : Nat
  mode : Nat
  bitsPerWord : Nat
  group : Option Nat
  baseName : Text
  index : Nat

structure UartGroup where
  baseName : Text
  numPorts : Nat
  refs : Nat
  ports : Nat → Option Nat

/-- `runtime->uart_groups` and the groups on it. -/
structure UartGroups where
  list : List Nat
  group : Heap UartGroup

structure Inventory where
  buses : List Nat
  devices : List Nat
  busIndex : Nat → Option Nat
  deviceIndex : Nat → Option Nat
  bus : Heap RuntimeBus
  device : Heap RuntimeDevice
  uart : UartGroups
  generation : Nat

def UartGroups.empty : UartGroups := ⟨[], fun _ => none⟩

def Inventory.empty : Inventory where
  buses := []
  devices := []
  busIndex := fun _ => none
  deviceIndex := fun _ => none
  bus := fun _ => none
  device := fun _ => none
  uart := .empty
  generation := 0

/-! ## Commands -/

/-- `struct sensorium_runtime_bus_cmd`; the kernel does not read its `index`. -/
structure BusCmd where
  handle : Nat
  transport : Nat
  name : Text

/-- `struct sensorium_runtime_device_cmd`, without the `flags` that the kernel does not read. -/
structure DeviceCmd where
  handle : Nat
  transport : Nat
  busHandle : Nat
  location : Nat
  maxSpeedHz : Nat
  spiMode : Nat
  spiBitsPerWord : Nat
  name : Text

def DeviceCmd.badSpi (cmd : DeviceCmd) : Bool :=
  cmd.maxSpeedHz = 0 || cmd.spiBitsPerWord = 0 || 32 < cmd.spiBitsPerWord || 3 < cmd.spiMode

/-- The new device; the SPI fields stay zero for the other transports. -/
def DeviceCmd.device (cmd : DeviceCmd) (b : Nat) (transport : TransportType) : RuntimeDevice where
  bus := b
  handle := cmd.handle
  transport := transport
  location := cmd.location
  name := strscpy cmd.name 64
  registered := false
  maxSpeedHz := if transport = .spi then cmd.maxSpeedHz else 0
  mode := if transport = .spi then cmd.spiMode else 0
  bitsPerWord := if transport = .spi then cmd.spiBitsPerWord else 0
  group := none
  baseName := []
  index := 0

inductive InventoryCmd
  | reset
  | busAdd (cmd : BusCmd)
  | busRemove (handle : Nat)
  | deviceAdd (cmd : DeviceCmd)
  | deviceRemove (handle : Nat)

/-- `sizeof` the payload of a command. -/
def InventoryCmd.size : InventoryCmd → Nat
  | .reset => 0
  | .busAdd _ => 76
  | .busRemove _ | .deviceRemove _ => 4
  | .deviceAdd _ => 92

/-- What the rest of the kernel answers in the course of one command.  `kzalloc` and `kzallocGroup`
choose the address of the new object; `xaHandle` and `xaLocation` say whether an index finds memory
for a node.  `uartLines` is the module parameter, which may change between commands. -/
structure Answers where
  kzalloc : Option Nat
  kzallocGroup : Option Nat
  kcallocPorts : Bool
  kmallocTx : Bool
  kmallocRx : Bool
  xaHandle : Bool
  xaLocation : Bool
  i2cAddNumberedAdapter : Int
  spiAllocHost : Bool
  spiRegisterController : Int
  spiNewDevice : Bool
  setDriverOverride : Int
  spiSetup : Int
  deviceAttach : Int
  ttyAllocDriver : Int
  ttyRegisterDriver : Int
  ttyPortRegisterDevice : Int
  uartLines : Nat

/-- `xa_insert`: the index and the result. -/
def xaInsert (index : Nat → Option Nat) (key entry : Nat) (memory : Bool) :
    (Nat → Option Nat) × Int :=
  if (index key).isSome then (index, eBusy)
  else if memory then (update index key (some entry), 0)
  else (index, eNoMem)

/-! ## UART groups -/

def uartPortLimit (uartLines : Nat) : Nat := min (max uartLines 1) 4096

namespace UartGroups

variable (u : UartGroups)

def put (g : Nat) (grp : UartGroup) : UartGroups := { u with group := update u.group g (some grp) }

/-- `sensorium_runtime_find_uart_group_locked`. -/
def find (baseName : Text) : Option Nat :=
  u.list.find? fun g => (u.group g).any fun grp => grp.baseName = baseName

/-- `sensorium_runtime_uart_group_get_locked`: a group with one reference more, or an error. -/
def groupGet (baseName : Text) (w : Answers) : Option (UartGroups × Except Int Nat) :=
  match u.find baseName with
  | some g => do
    let grp ← u.group g
    some (u.put g { grp with refs := u32 (grp.refs + 1) }, .ok g)
  | none =>
    match u.group.alloc w.kzallocGroup with
    | none => some (u, .error eNoMem)
    | some g =>
      let numPorts := uartPortLimit w.uartLines
      let u' := u.put g ⟨[], 0, 0, fun _ => none⟩
      let kfree : UartGroups := { u' with group := update u'.group g none }
      if !w.kcallocPorts then some (kfree, .error eNoMem)
      else if w.ttyAllocDriver ≠ 0 then some (kfree, .error w.ttyAllocDriver)
      else if w.ttyRegisterDriver ≠ 0 then some (kfree, .error w.ttyRegisterDriver)
      else
        let u' := u'.put g ⟨strscpy baseName 32, numPorts, 1, fun _ => none⟩
        some ({ u' with list := u'.list ++ [g] }, .ok g)

/-- `sensorium_runtime_uart_group_put_locked`. -/
def groupPut (g : Nat) : Option UartGroups := do
  let grp ← u.group g
  let refs := if grp.refs ≠ 0 then grp.refs - 1 else grp.refs
  if refs ≠ 0 then some (u.put g { grp with refs := refs })
  else some { list := u.list.erase g, group := update u.group g none }

/-- `group->ports[index] = NULL` where it is still the device's, and the put. -/
def clearPort (g index dev : Nat) : Option UartGroups := do
  let grp ← u.group g
  let u' := if grp.ports index = some dev
    then u.put g { grp with ports := update grp.ports index none } else u
  u'.groupPut g

end UartGroups

namespace Inventory

variable (s : Inventory)

/-! ## Memory -/

def putDevice (a : Nat) (dev : RuntimeDevice) : Inventory :=
  { s with device := update s.device a (some dev) }

def freeDevice (a : Nat) : Inventory := { s with device := update s.device a none }

def putBus (b : Nat) (bus : RuntimeBus) : Inventory := { s with bus := update s.bus b (some bus) }

def freeBus (b : Nat) : Inventory := { s with bus := update s.bus b none }

/-! ## Buses -/

/-- The registration of a new bus with its subsystem: the bus and the result. -/
def registerBus (bus : RuntimeBus) (w : Answers) : RuntimeBus × Int :=
  match bus.transport with
  | .i2c =>
    match parseI2cName bus.name with
    | .error ret => (bus, ret)
    | .ok index =>
      if w.i2cAddNumberedAdapter ≠ 0 then ({ bus with index := index }, w.i2cAddNumberedAdapter)
      else ({ bus with index := index, registered := true }, 0)
  | .spi =>
    match parseSpiName bus.name with
    | .error ret => (bus, ret)
    | .ok index =>
      if !w.spiAllocHost then (bus, eNoMem)
      else if w.spiRegisterController ≠ 0 then
        ({ bus with index := index }, w.spiRegisterController)
      else ({ bus with index := index, registered := true }, 0)
  | .virtual | .uart => (bus, 0)

/-- `sensorium_runtime_cmd_bus_add`. -/
def cmdBusAdd (cmd : BusCmd) (w : Answers) : Inventory × Int :=
  match TransportType.ofCode cmd.transport with
  | none => (s, eInval)
  | some transport =>
    if (s.busIndex cmd.handle).isSome then (s, eExist)
    else
      match s.bus.alloc w.kzalloc with
      | none => (s, eNoMem)
      | some b =>
        let (bus, ret) := registerBus
          { handle := cmd.handle
            transport := transport
            name := strscpy cmd.name 64
            locationIndex := fun _ => none
            index := 0
            registered := false } w
        let s := s.putBus b bus
        if ret ≠ 0 then (s.freeBus b, ret)
        else
          let (busIndex, ret) := xaInsert s.busIndex cmd.handle b w.xaHandle
          if ret ≠ 0 then (s.freeBus b, ret)
          else ({ s with busIndex := busIndex, buses := s.buses ++ [b] }, 0)

/-- `sensorium_runtime_destroy_bus`. -/
def destroyBus (b : Nat) : Option Inventory := do
  let bus ← s.bus b
  some { s with
    busIndex := update s.busIndex bus.handle none
    buses := s.buses.erase b
    bus := update s.bus b none }

/-! ## Devices -/

/-- `sensorium_runtime_find_uart_device_name_locked`. -/
def findUartDeviceName (name : Text) : Option Nat :=
  s.devices.find? fun a => (s.device a).any fun dev =>
    dev.transport = .uart && dev.name = cString name

/-- `sensorium_runtime_register_spi`; the device that is attached to a driver is registered. -/
def registerSpi (a : Nat) (w : Answers) : Option (Inventory × Int) := do
  let dev ← s.device a
  if !w.spiNewDevice then some (s, eNoDev)
  else if w.setDriverOverride ≠ 0 then some (s, w.setDriverOverride)
  else if w.spiSetup ≠ 0 then some (s, eNoDev)
  else if w.deviceAttach ≤ 0 then
    some (s, if w.deviceAttach < 0 then w.deviceAttach else eNoDev)
  else some (s.putDevice a { dev with registered := true }, 0)

/-- `sensorium_runtime_register_uart`. -/
def registerUart (a : Nat) (w : Answers) : Option (Inventory × Int) := do
  let dev ← s.device a
  match parseTtyName dev.name 32 with
  | .error ret => some (s, ret)
  | .ok (baseName, index) =>
    let dev := { dev with baseName := baseName, index := index }
    let s := s.putDevice a dev
    if dev.location ≠ index then some (s, eInval)
    else if !w.kmallocTx || !w.kmallocRx then some (s, eNoMem)
    else
      match ← s.uart.groupGet baseName w with
      | (u, .error ret) => some ({ s with uart := u }, ret)
      | (u, .ok g) =>
        let grp ← u.group g
        if grp.numPorts ≤ index then some ({ s with uart := ← u.groupPut g }, eRange)
        else if (grp.ports index).isSome then some ({ s with uart := ← u.groupPut g }, eExist)
        else
          let u := u.put g { grp with ports := update grp.ports index (some a) }
          let dev := { dev with group := some g }
          let s := s.putDevice a dev
          if w.ttyPortRegisterDevice ≠ 0 then
            some ({ s with uart := ← u.clearPort g index a }, w.ttyPortRegisterDevice)
          else some ({ s with uart := u }.putDevice a { dev with registered := true }, 0)

/-- `sensorium_runtime_destroy_spi_device`. -/
def destroySpiDevice (a : Nat) : Option Inventory := do
  let dev ← s.device a
  some (s.putDevice a { dev with registered := false })

/-- `sensorium_runtime_destroy_uart_device`. -/
def destroyUartDevice (a : Nat) : Option Inventory := do
  let dev ← s.device a
  if !dev.registered then some s
  else
    let g ← dev.group
    let grp ← s.uart.group g
    let u ← if dev.index < grp.numPorts then s.uart.clearPort g dev.index a else s.uart.groupPut g
    some ({ s with uart := u }.putDevice a { dev with group := none, registered := false })

/-- What `destroy_device` and the unwinding of `cmd_device_add` do with the transport. -/
def unregisterDevice (a : Nat) : Option Inventory := do
  let dev ← s.device a
  match dev.transport with
  | .spi => s.destroySpiDevice a
  | .uart => s.destroyUartDevice a
  | .virtual | .i2c => some s

/-- What `cmd_device_add` does with the transport. -/
def registerDevice (a : Nat) (w : Answers) : Option (Inventory × Int) := do
  let dev ← s.device a
  match dev.transport with
  | .spi => s.registerSpi a w
  | .uart => s.registerUart a w
  | .virtual | .i2c => some (s, 0)

/-- `cmd_device_add` from the insertion into the indexes on. -/
def indexDevice (a : Nat) (w : Answers) : Option (Inventory × Int) := do
  let dev ← s.device a
  let (deviceIndex, ret) := xaInsert s.deviceIndex dev.handle a w.xaHandle
  if ret ≠ 0 then some ((← s.unregisterDevice a).freeDevice a, ret)
  else
    let s := { s with deviceIndex := deviceIndex }
    if !dev.transport.located then some ({ s with devices := s.devices ++ [a] }, 0)
    else
      let bus ← s.bus dev.bus
      let (locationIndex, ret) := xaInsert bus.locationIndex dev.location a w.xaLocation
      let s := s.putBus dev.bus { bus with locationIndex := locationIndex }
      if ret ≠ 0 then
        let s := { s with deviceIndex := update s.deviceIndex dev.handle none }
        some ((← s.unregisterDevice a).freeDevice a, ret)
      else some ({ s with devices := s.devices ++ [a] }, 0)

/-- `cmd_device_add` from the allocation on. -/
def enterDevice (cmd : DeviceCmd) (b : Nat) (transport : TransportType) (w : Answers) :
    Option (Inventory × Int) :=
  match s.device.alloc w.kzalloc with
  | none => some (s, eNoMem)
  | some a =>
    let s := s.putDevice a (cmd.device b transport)
    if transport = .spi && cmd.badSpi then some (s.freeDevice a, eInval)
    else do
      let (s, ret) ← s.registerDevice a w
      if ret ≠ 0 then some (s.freeDevice a, ret) else s.indexDevice a w

/-- `sensorium_runtime_cmd_device_add`. -/
def cmdDeviceAdd (cmd : DeviceCmd) (w : Answers) : Option (Inventory × Int) :=
  match TransportType.ofCode cmd.transport with
  | none | some .virtual => some (s, eInval)
  | some transport =>
    if (s.deviceIndex cmd.handle).isSome then some (s, eExist)
    else
      match s.busIndex cmd.busHandle with
      | none => some (s, eNoEnt)
      | some b => do
        let bus ← s.bus b
        if bus.transport ≠ transport then some (s, eNoEnt)
        else if transport.located && (bus.locationIndex cmd.location).isSome then some (s, eExist)
        else if transport = .uart && (s.findUartDeviceName cmd.name).isSome then some (s, eExist)
        else s.enterDevice cmd b transport w

/-- `sensorium_runtime_destroy_device`. -/
def destroyDevice (a : Nat) : Option Inventory := do
  let dev ← s.device a
  let s ← s.unregisterDevice a
  let bus ← s.bus dev.bus
  let s := s.putBus dev.bus { bus with locationIndex := update bus.locationIndex dev.location none }
  some { s with
    deviceIndex := update s.deviceIndex dev.handle none
    devices := s.devices.erase a
    device := update s.device a none }

/-! ## Removals -/

/-- `list_for_each_entry_safe` over the devices, destroying those of `chosen`. -/
def destroyDevices (s : Inventory) (chosen : RuntimeDevice → Bool) : List Nat → Option Inventory
  | [] => some s
  | a :: as => do
    let dev ← s.device a
    if chosen dev then destroyDevices (← s.destroyDevice a) chosen as
    else destroyDevices s chosen as

def destroyBuses (s : Inventory) : List Nat → Option Inventory
  | [] => some s
  | b :: bs => do destroyBuses (← s.destroyBus b) bs

/-- `sensorium_runtime_cmd_bus_remove`. -/
def cmdBusRemove (handle : Nat) : Option (Inventory × Int) :=
  match s.busIndex handle with
  | none => some (s, eNoEnt)
  | some b => do
    let s ← s.destroyDevices (fun dev => dev.bus = b) s.devices
    some (← s.destroyBus b, 0)

/-- `sensorium_runtime_cmd_device_remove`. -/
def cmdDeviceRemove (handle : Nat) : Option (Inventory × Int) :=
  match s.deviceIndex handle with
  | none => some (s, eNoEnt)
  | some a => do some (← s.destroyDevice a, 0)

/-- `sensorium_runtime_reset_locked`, as far as it changes the inventory. -/
def resetLocked : Option Inventory := do
  let s ← s.destroyDevices (fun _ => true) s.devices
  s.destroyBuses s.buses

/-- `sensorium_runtime_handle_control_message`: the inventory and the result. -/
def handleControlMessage (m : InventoryCmd) (payloadLen : Nat) (w : Answers) :
    Option (Inventory × Int) :=
  if payloadLen ≠ m.size then some (s, eInval)
  else
    match m with
    | .reset => do
      let s ← s.resetLocked
      some ({ s with generation := Runtime.nextGeneration s.generation }, 0)
    | .busAdd cmd => some (s.cmdBusAdd cmd w)
    | .busRemove handle => s.cmdBusRemove handle
    | .deviceAdd cmd => s.cmdDeviceAdd cmd w
    | .deviceRemove handle => s.cmdDeviceRemove handle

end Inventory

/-- A command on the control ring, with what happens around it. -/
structure ControlEntry where
  message : InventoryCmd
  payloadLen : Nat
  answers : Answers

/-- The inventory after one command, whatever its result. -/
def controlStep (s : Inventory) (e : ControlEntry) : Option Inventory :=
  (s.handleControlMessage e.message e.payloadLen e.answers).map Prod.fst

end Sensorium.Kernel

import Sensorium.Model.Data

/-!
# The inventory in the kernel

What `RESET`, `BUS_ADD`, `DEVICE_ADD` and `UART_SET_MODEM` do to the lists of buses and devices in
`sensorium-runtime.c`.  A command that fails leaves the lists as they were.
-/

namespace Sensorium.Inventory

open Lib Model

structure KernelBus where
  handle : Nat
  transport : Transport
  name : Text
  deriving DecidableEq, Repr

structure KernelDevice where
  handle : Nat
  transport : Transport
  busHandle : Nat
  location : Nat
  name : Text
  deriving DecidableEq, Repr

structure Kernel where
  buses : List KernelBus
  devices : List KernelDevice
  deriving DecidableEq, Repr

/-- The SPI fields of `DEVICE_ADD`; they are zero for the other transports. -/
structure SpiFields where
  maxSpeedHz : Nat
  mode : Nat
  bitsPerWord : Nat
  deriving DecidableEq, Repr

inductive Command
  | reset
  | busAdd (bus : KernelBus)
  | deviceAdd (device : KernelDevice) (spi : SpiFields)
  | uartSetModem (handle : Nat)
  deriving DecidableEq, Repr

def Kernel.empty : Kernel := ⟨[], []⟩

/-- `sensorium_runtime_cmd_bus_add`.  Two I2C or SPI buses of one name have one number, which their
subsystem does not register twice. -/
def Kernel.busAdd (k : Kernel) (b : KernelBus) : Option Kernel :=
  if k.buses.any fun c => c.handle = b.handle then none
  else if b.transport ≠ .uart && k.buses.any fun c => c.transport = b.transport && c.name = b.name
  then none
  else some { k with buses := k.buses ++ [b] }

/-- Whether the place a device asks for is taken. -/
def KernelDevice.clashes (d e : KernelDevice) : Bool :=
  match d.transport with
  | .uart => e.transport = .uart && e.name = d.name
  | _ => e.busHandle = d.busHandle && e.location = d.location

/-- `sensorium_runtime_cmd_device_add`. -/
def Kernel.deviceAdd (k : Kernel) (d : KernelDevice) (spi : SpiFields) : Option Kernel :=
  if k.devices.any fun e => e.handle = d.handle then none
  else if !k.buses.any fun b => b.handle = d.busHandle && b.transport = d.transport then none
  else if k.devices.any d.clashes then none
  else if d.transport = .spi &&
      (spi.maxSpeedHz = 0 || spi.bitsPerWord = 0 || 32 < spi.bitsPerWord || 3 < spi.mode) then none
  else some { k with devices := k.devices ++ [d] }

def Kernel.uartSetModem (k : Kernel) (handle : Nat) : Option Kernel :=
  if k.devices.any fun d => d.handle = handle && d.transport = .uart then some k else none

def Kernel.handle (k : Kernel) : Command → Option Kernel
  | .reset => some .empty
  | .busAdd b => k.busAdd b
  | .deviceAdd d spi => k.deviceAdd d spi
  | .uartSetModem handle => k.uartSetModem handle

/-- `bridge.write_frame` of a control command; `none` is an exception.  `refused` stands for the
failures that the lists do not decide: a full ring or arena, an ioctl that fails, a registration
that the I2C, SPI or tty core turns down. -/
def Kernel.writeFrame (k : Kernel) (c : Command) (refused : Bool) : Option Kernel :=
  if refused then none else k.handle c

/-- An element of the inventory; a bus has no location. -/
structure Entry where
  handle : Nat
  transport : Transport
  location : Option Nat
  name : Text
  deriving DecidableEq, Repr

def KernelBus.entry (b : KernelBus) : Entry := ⟨b.handle, b.transport, none, b.name⟩

def KernelDevice.entry (d : KernelDevice) : Entry := ⟨d.handle, d.transport, some d.location, d.name⟩

def Kernel.entries (k : Kernel) : List Entry :=
  k.buses.map KernelBus.entry ++ k.devices.map KernelDevice.entry

theorem Kernel.handle_of_writeFrame {k k' : Kernel} {c : Command} {refused : Bool}
    (h : k.writeFrame c refused = some k') : k.handle c = some k' := by
  unfold Kernel.writeFrame at h
  split at h
  · cases h
  · exact h

theorem Kernel.writeFrame_reset {k k' : Kernel} {refused : Bool}
    (h : k.writeFrame .reset refused = some k') : k' = .empty :=
  (Option.some.inj (handle_of_writeFrame h)).symm

theorem Kernel.writeFrame_busAdd {k k' : Kernel} {b : KernelBus} {refused : Bool}
    (h : k.writeFrame (.busAdd b) refused = some k') :
    k'.buses = k.buses ++ [b] ∧ k'.devices = k.devices := by
  have hadd : k.busAdd b = some k' := handle_of_writeFrame h
  unfold Kernel.busAdd at hadd
  split at hadd
  · cases hadd
  · split at hadd
    · cases hadd
    · cases hadd
      exact ⟨rfl, rfl⟩

theorem Kernel.writeFrame_deviceAdd {k k' : Kernel} {d : KernelDevice} {spi : SpiFields}
    {refused : Bool} (h : k.writeFrame (.deviceAdd d spi) refused = some k') :
    k'.buses = k.buses ∧ k'.devices = k.devices ++ [d] := by
  have hadd : k.deviceAdd d spi = some k' := handle_of_writeFrame h
  unfold Kernel.deviceAdd at hadd
  split at hadd
  · cases hadd
  · split at hadd
    · cases hadd
    · split at hadd
      · cases hadd
      · split at hadd
        · cases hadd
        · cases hadd
          exact ⟨rfl, rfl⟩

theorem Kernel.writeFrame_uartSetModem {k k' : Kernel} {handle : Nat} {refused : Bool}
    (h : k.writeFrame (.uartSetModem handle) refused = some k') : k' = k := by
  have hset : k.uartSetModem handle = some k' := handle_of_writeFrame h
  unfold Kernel.uartSetModem at hset
  split at hset
  · exact (Option.some.inj hset).symm
  · cases hset

end Sensorium.Inventory

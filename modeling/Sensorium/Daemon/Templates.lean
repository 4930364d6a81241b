import Sensorium.Daemon.Transfers

/-!
# Templates

`templates.py`: the register bank behind an I2C device, the scripted SPI device with its flash
emulation, and the data of the scripted UART.  A method returns the object after the call with its
result; `none` is an exception.
-/

namespace Sensorium.Daemon

open Lib Model

/-! ## Register banks -/

/-- `I2CRegisterBankTemplate`; `registers` is a `bytearray`. -/
structure BankTemplate where
  size : Nat
  pointerWidth : Nat
  autoIncrement : Bool
  registers : List Nat
  pointer : Nat
  clearOnRead : List Nat
  writeEffects : List (Nat × List (Nat × Nat))
  deriving DecidableEq, Repr

/-- `registers[i] = value`: the index is in range and the value a byte, or it raises. -/
def setByte (registers : List Nat) (i value : Nat) : Option (List Nat) :=
  if i < registers.length ∧ value < 256 then some (registers.set i value) else none

/-- `int(key, 0)` of a register; no register is negative. -/
def registerNumber (key : Text) : Option Nat :=
  match intLiteral? key with
  | some (.ofNat n) => some n
  | _ => none

/-- A dictionary built entry by entry. -/
def dictOf {κ ν : Type} [DecidableEq κ] (entries : List (κ × ν)) : List (κ × ν) :=
  entries.foldl (fun d p => dictSet d p.1 p.2) []

/-- `{int(target, 0): value for target, value in effects.items()}`. -/
def effectTable (effects : List (Text × Nat)) : Option (List (Nat × Nat)) :=
  (effects.mapM fun p => (registerNumber p.1).map fun n => (n, p.2)).map dictOf

def storeAll : List Nat → List (Text × Nat) → Option (List Nat)
  | registers, [] => some registers
  | registers, p :: ps => do
    let n ← registerNumber p.1
    let registers ← setByte registers n p.2
    storeAll registers ps

/-- `__init__`, for the fields of a normalised backend. -/
def BankTemplate.build (bank : RegisterBank) : Option BankTemplate := do
  let clearOnRead ← bank.clearOnRead.mapM registerNumber
  let effects ← bank.writeEffects.mapM fun e => do
    let n ← registerNumber e.1
    let table ← effectTable e.2
    some (n, table)
  let registers ← storeAll (List.replicate bank.size 0) bank.registers
  some ⟨bank.size, bank.pointerWidth, bank.autoIncrement, registers, 0, clearOnRead, dictOf effects⟩

/-- A backend without any of the fields: the defaults of `__init__`. -/
def BankTemplate.default : BankTemplate := ⟨256, 1, true, List.replicate 256 0, 0, [], []⟩

namespace BankTemplate

variable (t : BankTemplate)

/-- The bytes that a read of `length` returns; `bytes` raises for a number that is no byte. -/
def readBytes (length : Nat) : Option (List UInt8) :=
  (List.range length).mapM fun i => do
    let value ← t.registers[(t.pointer + i) % t.size]?
    if value < 256 then some (UInt8.ofNat value) else none

/-- The loop that clears what was read. -/
def clearRead (length : Nat) : Option (List Nat) :=
  (List.range length).foldlM (fun registers i =>
    let register := (t.pointer + i) % t.size
    if register ∈ t.clearOnRead then setByte registers register 0 else some registers) t.registers

/-- The branch of a read message. -/
def readMessage (length : Nat) : Option (BankTemplate × List UInt8) := do
  let data ← t.readBytes length
  let registers ← t.clearRead length
  some ({ t with
    registers := registers
    pointer := if t.autoIncrement then (t.pointer + length) % t.size else t.pointer }, data)

/-- `int.from_bytes(data, "big")`. -/
def bigEndian (data : List UInt8) : Nat := data.foldl (fun acc b => 256 * acc + b.toNat) 0

/-- The loop over the effects of one written register. -/
def applyEffects (size : Nat) : List Nat → List (Nat × Nat) → Option (List Nat)
  | registers, [] => some registers
  | registers, e :: es => do
    let registers ← setByte registers (e.1 % size) e.2
    applyEffects size registers es

/-- The loop over the payload of a write, from `offset` on. -/
def writeBytes (pointer : Nat) : List Nat → Nat → List UInt8 → Option (List Nat)
  | registers, _, [] => some registers
  | registers, offset, byte :: bytes => do
    let register := (pointer + offset) % t.size
    let registers ← setByte registers register byte.toNat
    let registers ← applyEffects t.size registers ((dictGet t.writeEffects register).getD [])
    writeBytes pointer registers (offset + 1) bytes

/-- The branch of a write message. -/
def writeMessage (data : List UInt8) : Option BankTemplate :=
  if data = [] then some t
  else if data.length < t.pointerWidth then some t
  else
    let pointer := bigEndian (data.take t.pointerWidth) % t.size
    let payload := data.drop t.pointerWidth
    if payload = [] then some { t with pointer := pointer }
    else do
      let registers ← t.writeBytes pointer t.registers 0 payload
      some { t with
        registers := registers
        pointer := if t.autoIncrement then (pointer + payload.length) % t.size else pointer }

def handleMessage (m : I2cEntry) : Option (BankTemplate × List UInt8) :=
  if m.flags &&& 1 ≠ 0 then t.readMessage m.len
  else (t.writeMessage m.data).map fun t => (t, [])

/-- `handle_i2c`. -/
def handleI2c (t : BankTemplate) : List I2cEntry → Option (BankTemplate × List UInt8)
  | [] => some (t, [])
  | m :: ms => do
    let (t, data) ← t.handleMessage m
    let (t, rest) ← handleI2c t ms
    some (t, data ++ rest)

end BankTemplate

/-! ## SPI scripts -/

/-- `SPIScriptTemplate`. -/
structure ScriptTemplate where
  responses : List (List UInt8 × List UInt8)
  prefixResponses : List (List UInt8 × List UInt8)
  defaultResponse : List UInt8
  echo : Bool
  flashJedecId : List UInt8
  flashStatusRegister : Nat
  flashWriteBusyCycles : Nat
  flashWel : Bool
  flashBusyReadsRemaining : Nat
  deriving DecidableEq, Repr

/-- The pairs of a table of byte literals. -/
def literalPairs (table : List (Text × Text)) : Option (List (List UInt8 × List UInt8)) :=
  table.mapM fun p => do
    let tx ← fromHex? p.1
    let rx ← fromHex? p.2
    some (tx, rx)

/-- `__init__`, for the fields of a normalised backend. -/
def ScriptTemplate.build (script : SpiScript) : Option ScriptTemplate := do
  let responses ← literalPairs script.responses
  let prefixResponses ← literalPairs script.prefixResponses
  let defaultResponse ← fromHex? script.defaultResponse
  let flash := script.flash.getD ⟨[], 0, 0⟩
  let jedecId ← fromHex? flash.jedecId
  some ⟨dictOf responses, prefixResponses, defaultResponse, script.echo, jedecId,
    flash.statusRegister &&& 0xff, flash.writeBusyCycles, false, 0⟩

/-- A backend without the fields of a script: `echo` and `default_response` may be there. -/
def ScriptTemplate.plain (echo : Bool) (defaultResponse : Text) : Option ScriptTemplate :=
  ScriptTemplate.build ⟨[], [], defaultResponse, echo, none⟩

namespace ScriptTemplate

variable (t : ScriptTemplate)

/-- `tx if self.echo else self.default_response`. -/
def fallback (tx : List UInt8) : List UInt8 := if t.echo then tx else t.defaultResponse

/-- The status register as it is read. -/
def flashStatus : Nat :=
  let status := t.flashStatusRegister &&& 0xfc
  let status := if t.flashWel then status ||| 0x02 else status
  if t.flashBusyReadsRemaining > 0 then status ||| 0x01 else status

/-- The flash commands; `opcode` is the first byte of `tx`. -/
def flashResponse (tx : List UInt8) (opcode : UInt8) (length : Nat) :
    Option (ScriptTemplate × List UInt8) :=
  if opcode = 0x06 then some ({ t with flashWel := true }, [])
  else if opcode = 0x04 then some ({ t with flashWel := false }, [])
  else if opcode = 0x05 then
    if t.flashStatus < 256 then
      some ({ t with flashBusyReadsRemaining := t.flashBusyReadsRemaining - 1 },
        List.replicate (max 1 length) (UInt8.ofNat t.flashStatus))
    else none
  else if opcode = 0x9f then some (t, t.flashJedecId)
  else
    match tx with
    | _ :: status :: _ =>
      if opcode = 0x01 ∧ t.flashWel then
        some ({ t with
          flashStatusRegister := status.toNat &&& 0xfc
          flashWel := false
          flashBusyReadsRemaining := t.flashWriteBusyCycles }, [])
      else some (t, t.fallback tx)
    | _ => some (t, t.fallback tx)

/-- The branches without a flash. -/
def scripted (tx : List UInt8) : List UInt8 :=
  match dictGet t.responses tx with
  | some response => response
  | none =>
    match t.prefixResponses.find? fun p => p.1.isPrefixOf tx with
    | some p => p.2
    | none => t.fallback tx

/-- The response before it is cut to length. -/
def response (tx : List UInt8) (length : Nat) : Option (ScriptTemplate × List UInt8) :=
  match tx with
  | opcode :: _ =>
    if t.flashJedecId ≠ [] then t.flashResponse tx opcode length else some (t, t.scripted tx)
  | [] => some (t, t.scripted tx)

/-- Zeros up to `length`, and nothing after it. -/
def fit (length : Nat) (response : List UInt8) : List UInt8 :=
  (response ++ List.replicate (length - response.length) 0).take length

/-- `handle_spi`. -/
def handleSpi (tx : List UInt8) (length : Nat) : Option (ScriptTemplate × List UInt8) :=
  (t.response tx length).map fun r => (r.1, fit length r.2)

/-- `handle_spi_message`. -/
def handleSpiMessage (t : ScriptTemplate) :
    List SpiEntry → Option (ScriptTemplate × List UInt8)
  | [] => some (t, [])
  | x :: xs => do
    let tx ← fromHex? x.tx
    let (t, data) ← t.handleSpi tx x.len
    let (t, rest) ← handleSpiMessage t xs
    some (t, data ++ rest)

end ScriptTemplate

/-! ## UART scripts -/

/-- `UARTScriptTemplate`. -/
structure UartTemplate where
  echo : Bool
  lineResponses : List (Text × List UInt8)
  binaryResponses : List (List UInt8 × List UInt8)
  defaultResponse : List UInt8
  controlDefaults : List (Text × Bool)
  ctsFollowsRts : Bool
  carrierFollowsDtr : Bool
  lineBuffer : List UInt8
  deriving DecidableEq, Repr

/-- `__init__`, for the fields of a normalised backend. -/
def UartTemplate.build (script : UartScript) : Option UartTemplate := do
  let lineResponses ← script.lineResponses.mapM fun p => (utf8? p.2).map fun bs => (p.1, bs)
  let binaryResponses ← literalPairs script.binaryResponses
  let defaultResponse ← fromHex? script.defaultResponse
  some ⟨script.echo, lineResponses, dictOf binaryResponses, defaultResponse,
    script.controlDefaults, script.ctsFollowsRts, script.carrierFollowsDtr, []⟩

/-- A backend without the fields of a UART script: `echo` and `default_response` may be there. -/
def UartTemplate.plain (echo : Bool) (defaultResponse : Text) : Option UartTemplate :=
  UartTemplate.build ⟨echo, [], [], defaultResponse, [], false, false⟩

/-! ## Template objects -/

inductive Template
  | bank (t : BankTemplate)
  | script (t : ScriptTemplate)
  | uart (t : UartTemplate)
  deriving DecidableEq, Repr

/-- `_build_template`: the class is chosen by the template's name alone, the fields that it finds
are those of the transport. -/
def Template.build : Part → Option (Option Template)
  | .i2c _ (.controller _) | .spi _ _ (.controller _) | .uart _ (.controller _) => some none
  | .i2c _ (.template .i2cRegisterBank fields) =>
    (BankTemplate.build fields).map fun t => some (.bank t)
  | .spi _ _ (.template .i2cRegisterBank _) | .uart _ (.template .i2cRegisterBank _) =>
    some (some (.bank .default))
  | .i2c _ (.template .spiScript _) =>
    (ScriptTemplate.plain false []).map fun t => some (.script t)
  | .spi _ _ (.template .spiScript fields) =>
    (ScriptTemplate.build fields).map fun t => some (.script t)
  | .uart _ (.template .spiScript fields) =>
    (ScriptTemplate.plain fields.echo fields.defaultResponse).map fun t => some (.script t)
  | .i2c _ (.template .uartScript _) => (UartTemplate.plain true []).map fun t => some (.uart t)
  | .spi _ _ (.template .uartScript fields) =>
    (UartTemplate.plain fields.echo fields.defaultResponse).map fun t => some (.uart t)
  | .uart _ (.template .uartScript fields) =>
    (UartTemplate.build fields).map fun t => some (.uart t)

/-- `_apply_fault_post`; `none` is a `reply_data` that `bytes.fromhex` does not take. -/
def applyFaultPost (faults : Faults) (status : Int) (data : List UInt8) :
    Option (Int × List UInt8) :=
  if faults.mode ≠ .shortReply ∨ status ≠ 0 then some (status, data)
  else
    match faults.replyData.getD [] with
    | [] => some (status, if 1 < data.length then data.take (max 1 (data.length / 2)) else data)
    | literal => (fromHex? literal).map fun bs => (status, bs)

/-! ## Requests to a template -/

/-- `_handle_i2c_request` for a device with a template: the object after it, the status and the
data.  An object of another class has no `handle_i2c`. -/
def serveI2c (handle : Nat) (device : Device) (template : Template) (payload : List UInt8) :
    Option (Template × Int × List UInt8) :=
  match receiveI2c (fun h => if h = handle then some device else none) payload with
  | .error status => some (template, status, [])
  | .ok (_, messages) =>
    match template with
    | .bank t => do
      let (t, data) ← t.handleI2c messages
      let (status, data) ← applyFaultPost device.faults 0 data
      some (.bank t, status, data)
    | _ => none

/-- `_handle_spi_request` for a device with a template. -/
def serveSpi (handle : Nat) (device : Device) (template : Template) (payload : List UInt8) :
    Option (Template × Int × List UInt8) :=
  match receiveSpi (fun h => if h = handle then some device else none) payload with
  | .error reject => some (template, reject.status, [])
  | .ok (_, transfers) =>
    match template with
    | .script t => do
      let (t, data) ← t.handleSpiMessage transfers
      let (status, data) ← applyFaultPost device.faults 0 data
      some (.script t, status, data)
    | _ => none

end Sensorium.Daemon

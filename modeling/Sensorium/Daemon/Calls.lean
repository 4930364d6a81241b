import Sensorium.Daemon.Templates
import Sensorium.Lib.Lines
import Sensorium.Lib.Objects

/-!
# Calls to a template object

The methods of the scripted UART, and the handlers of every class as one function from a call to
the object after it and its answer.
-/

namespace Sensorium.Daemon

open Lib Model

/-! ## Decoding a line -/

/-- A sequence that has begun: the bytes that are missing, the range of the next one and the bits
so far. -/
structure Utf8Pending where
  missing : Nat
  lower : Nat
  upper : Nat
  bits : Nat
  deriving DecidableEq, Repr

/-- A byte where no sequence is open: a character, the start of a sequence, or nothing. -/
def utf8Start (b : Nat) : Text × Option Utf8Pending :=
  if b < 0x80 then ([b], none)
  else if 0xc2 ≤ b ∧ b ≤ 0xdf then ([], some ⟨1, 0x80, 0xbf, b - 0xc0⟩)
  else if 0xe0 ≤ b ∧ b ≤ 0xef then
    ([], some ⟨2, if b = 0xe0 then 0xa0 else 0x80, if b = 0xed then 0x9f else 0xbf, b - 0xe0⟩)
  else if 0xf0 ≤ b ∧ b ≤ 0xf4 then
    ([], some ⟨3, if b = 0xf0 then 0x90 else 0x80, if b = 0xf4 then 0x8f else 0xbf, b - 0xf0⟩)
  else ([], none)

/-- One more byte.  One that does not continue the open sequence drops what there is of it. -/
def utf8Next (open? : Option Utf8Pending) (b : Nat) : Text × Option Utf8Pending :=
  match open? with
  | none => utf8Start b
  | some p =>
    if p.lower ≤ b ∧ b ≤ p.upper then
      let bits := 64 * p.bits + (b - 0x80)
      if p.missing = 1 then ([bits], none) else ([], some ⟨p.missing - 1, 0x80, 0xbf, bits⟩)
    else utf8Start b

/-- `decode("utf-8", errors="ignore")`, from an open sequence on. -/
def decodeIgnoring : Option Utf8Pending → List UInt8 → Text
  | _, [] => []
  | p, b :: bs => (utf8Next p b.toNat).1 ++ decodeIgnoring (utf8Next p b.toNat).2 bs

-- An accented letter, a byte that starts nothing, and a sequence that another letter breaks off.
example : decodeIgnoring none [0x6f, 0xc3, 0xa9, 0xff, 0xe2, 0x82, 0x6b] = [0x6f, 0xe9, 0x6b] := by
  decide

/-! ## UART scripts -/

namespace UartTemplate

variable (t : UartTemplate)

/-- What a line is answered with: `raw_line.rstrip(b"\r")` is looked up. -/
def lineReply (raw : List UInt8) : List UInt8 :=
  (dictGet t.lineResponses (decodeIgnoring none (raw.rdropWhile (· = 13)))).getD []

/-- The loop over the lines of the buffer, with the number of its newlines as fuel: the buffer after
it and the replies. -/
def takeLines : Nat → List UInt8 → List UInt8 × List UInt8
  | 0, buffer => (buffer, [])
  | fuel + 1, buffer =>
    if 10 ∈ buffer then
      let rest := takeLines fuel (remainder 10 buffer)
      (rest.1, t.lineReply (firstLine 10 buffer) ++ rest.2)
    else (buffer, [])

/-- The reply before the lines are looked at. -/
def directReply (data : List UInt8) : List UInt8 :=
  (if t.echo then data else []) ++ (dictGet t.binaryResponses data).getD []

/-- The buffer after the lines of `data`, and their replies. -/
def lineReplies (data : List UInt8) : List UInt8 × List UInt8 :=
  if t.lineResponses ≠ [] ∧ data ≠ [] then
    t.takeLines ((t.lineBuffer ++ data).count 10) (t.lineBuffer ++ data)
  else (t.lineBuffer, [])

/-- `handle_uart`. -/
def handleUart (data : List UInt8) : UartTemplate × List UInt8 :=
  let taken := t.lineReplies data
  let reply := t.directReply data ++ taken.2
  ({ t with lineBuffer := taken.1 },
    if reply = [] ∧ data ≠ [] then t.defaultResponse else reply)

/-- The modem lines that `handle_uart_control` sets; its reply is empty. -/
def handleUartControl (modemMask modemValues : Nat) : List (Text × Bool) :=
  (if t.ctsFollowsRts ∧ modemMask &&& 0x4 ≠ 0 then [(text "cts", decide (modemValues &&& 0x4 ≠ 0))]
    else []) ++
  if t.carrierFollowsDtr ∧ modemMask &&& 0x2 ≠ 0 then
    [(text "cd", decide (modemValues &&& 0x2 ≠ 0)), (text "dsr", decide (modemValues &&& 0x2 ≠ 0))]
  else []

end UartTemplate

/-! ## SPI scripts -/

/-- `handle_spi_message` with the object it leaves; a literal that is none raises after the
transfers before it. -/
def ScriptTemplate.transferAll (t : ScriptTemplate) :
    List SpiEntry → ScriptTemplate × Option (List UInt8)
  | [] => (t, some [])
  | x :: xs =>
    match (fromHex? x.tx).bind fun tx => t.handleSpi tx x.len with
    | none => (t, none)
    | some (t, data) =>
      let rest := transferAll t xs
      (rest.1, rest.2.map (data ++ ·))

theorem ScriptTemplate.handleSpiMessage_eq (t : ScriptTemplate) (xs : List SpiEntry) :
    t.handleSpiMessage xs = (t.transferAll xs).2.map fun data => ((t.transferAll xs).1, data) := by
  induction xs generalizing t with
  | nil => rfl
  | cons x xs ih =>
    rw [handleSpiMessage, transferAll]
    cases htx : fromHex? x.tx with
    | none => rfl
    | some tx =>
      simp only [bind, Option.bind_some]
      cases hx : t.handleSpi tx x.len with
      | none => rfl
      | some r =>
        dsimp only [Option.bind_some]
        rw [ih r.1, Option.map_map]
        cases (transferAll r.1 xs).2 <;> rfl

/-! ## Calls -/

/-- A call to a template object. -/
inductive TemplateCall
  | i2c (messages : List I2cEntry)
  | spi (transfers : List SpiEntry)
  | uart (data : List UInt8)
  | uartControl (modemMask modemValues : Nat)

/-- What a handler returns: the reply and, for the modem lines of a UART, its updates. -/
structure TemplateAnswer where
  data : List UInt8
  modem : List (Text × Bool)
  deriving DecidableEq, Repr

/-- The object after a call and what is returned; `none` is an exception.  An object without the
handler raises, and so does a register bank that is accessed out of range. -/
def Template.call : Template → TemplateCall → Template × Option TemplateAnswer
  | .bank t, .i2c messages =>
    match t.handleI2c messages with
    | some r => (.bank r.1, some ⟨r.2, []⟩)
    | none => (.bank t, none)
  | .script t, .spi transfers =>
    (.script (t.transferAll transfers).1, (t.transferAll transfers).2.map fun data => ⟨data, []⟩)
  | .uart t, .uart data => (.uart (t.handleUart data).1, some ⟨(t.handleUart data).2, []⟩)
  | .uart t, .uartControl modemMask modemValues =>
    (.uart t, some ⟨[], t.handleUartControl modemMask modemValues⟩)
  | t, _ => (t, none)

/-- A call to `device["template"]`, which may be `None`. -/
def callHeld : Option Template → TemplateCall → Option Template × Option TemplateAnswer
  | none, _ => (none, none)
  | some t, c => (some (t.call c).1, (t.call c).2)

end Sensorium.Daemon

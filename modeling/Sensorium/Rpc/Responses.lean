import Sensorium.Model.Base

/-!
# Responses and their encoding

The server answers a line with a JSON object on a line of its own.  `dumps` is the encoder with its
default settings: characters outside printable ASCII are escaped, and a value that JSON does not
have makes it raise.
-/

namespace Sensorium.Rpc

open Lib
open Sensorium.Model (Value Entries)

def newline : UInt8 := 10

/-! ## The encoder -/

/-- The escape of one UTF-16 unit. -/
def unicodeEscape (n : Nat) : Text :=
  92 :: 117 :: [n / 4096, n / 256, n / 16, n].map fun d => nibble (d % 16)

def escapeChar (c : Nat) : Text :=
  if c = 34 || c = 92 then [92, c]
  else if c = 8 then [92, 98]
  else if c = 9 then [92, 116]
  else if c = 10 then [92, 110]
  else if c = 12 then [92, 102]
  else if c = 13 then [92, 114]
  else if 32 ≤ c && c ≤ 126 then [c]
  else if c < 0x10000 then unicodeEscape c
  else
    unicodeEscape (0xd800 + (c - 0x10000) / 1024) ++ unicodeEscape (0xdc00 + (c - 0x10000) % 1024)

def quoted (s : Text) : Text := 34 :: s.flatMap escapeChar ++ [34]

/-- The decimal spelling of an integer; the conversion makes at most 4300 digits. -/
def intText (n : Int) : Option Text :=
  if 4300 < (decimal n.natAbs).length then none
  else some (if n < 0 then 45 :: decimal n.natAbs else decimal n.natAbs)

def boolText (b : Bool) : Text := if b then text "true" else text "false"

/-- A key of an object; a float is kept as its representation. -/
def keyText : Value → Option Text
  | .str s => some s
  | .null => some (text "null")
  | .bool b => some (boolText b)
  | .int n => intText n
  | .float literal => some literal
  | .bytes _ | .list _ | .dict _ => none

mutual

def dumps : Value → Option Text
  | .null => some (text "null")
  | .bool b => some (boolText b)
  | .int n => intText n
  | .float literal => some literal
  | .str s => some (quoted s)
  | .bytes _ => none
  | .list xs => (dumpsItems xs).map fun items => 91 :: items ++ [93]
  | .dict es => (dumpsEntries es).map fun entries => 123 :: entries ++ [125]

def dumpsItems : List Value → Option Text
  | [] => some []
  | x :: xs =>
    (dumps x).bind fun item =>
      (dumpsItems xs).map fun items => if xs.isEmpty then item else item ++ text ", " ++ items

def dumpsEntry : Value × Value → Option Text
  | (k, v) =>
    (keyText k).bind fun key => (dumps v).map fun value => quoted key ++ text ": " ++ value

def dumpsEntries : List (Value × Value) → Option Text
  | [] => some []
  | e :: es =>
    (dumpsEntry e).bind fun entry =>
      (dumpsEntries es).map fun entries =>
        if es.isEmpty then entry else entry ++ text ", " ++ entries

end

theorem isSome_dumps_dict (es : Entries) :
    (dumps (.dict es)).isSome = (dumpsEntries es).isSome := by
  rw [dumps, Option.isSome_map]

theorem isSome_dumpsEntries_cons (k v : Value) (es : Entries) :
    (dumpsEntries ((k, v) :: es)).isSome =
      ((keyText k).isSome && (dumps v).isSome && (dumpsEntries es).isSome) := by
  rw [dumpsEntries, dumpsEntry]
  cases keyText k <;> cases dumps v <;> cases dumpsEntries es <;> rfl

/-! ## Responses -/

def busyResponse : Value :=
  .dict [(.lit "jsonrpc", .lit "2.0"), (.lit "id", .null),
    (.lit "error", .dict [(.lit "code", .int (-32001)),
      (.lit "message", .lit "sensoriumd RPC capacity exceeded")])]

/-- `request.get("id") if isinstance(request, dict) else None`. -/
def requestId : Value → Value
  | .dict es => Model.get es "id"
  | _ => .null

def errorResponse (request : Value) (message : Text) : Value :=
  .dict [(.lit "jsonrpc", .lit "2.0"), (.lit "id", requestId request),
    (.lit "error", .dict [(.lit "code", .int (-32000)), (.lit "message", .str message)])]

def eventResponse (request : Entries) (event : Option Value) : Value :=
  .dict [(.lit "jsonrpc", .lit "2.0"), (.lit "id", Model.get request "id"),
    (.lit "result", .dict [(.lit "event", event.getD .null)])]

/-- A response with what it was made from: a line that does not parse, a request that found no free
worker, what the dispatch of a request returned or raised, or the event of a wait. -/
inductive Response
  | parseError (message : Text)
  | busy
  | ran (request : Value) (outcome : Except Text Value)
  | event (request : Entries) (event : Option Value)

namespace Response

def value : Response → Value
  | parseError message => errorResponse .null message
  | busy => busyResponse
  | ran _ (.ok response) => response
  | ran request (.error message) => errorResponse request message
  | event request found => eventResponse request found

/-- `(json.dumps(response) + "\n").encode("utf-8")`; `none` where the encoder raises. -/
def encode (r : Response) : Option (List UInt8) :=
  (dumps r.value).map fun t => t.map UInt8.ofNat ++ [newline]

theorem isSome_encode_parseError (message : Text) : (parseError message).encode.isSome = true := by
  have hcode : (dumps (.int (-32000))).isSome = true := by decide +kernel
  have hnil : (dumpsEntries []).isSome = true := rfl
  rw [encode, Option.isSome_map, value, errorResponse, isSome_dumps_dict]
  simp only [isSome_dumpsEntries_cons, isSome_dumps_dict, hcode, hnil]
  rfl

theorem isSome_encode_busy : busy.encode.isSome = true := by
  decide +kernel

end Response

end Sensorium.Rpc

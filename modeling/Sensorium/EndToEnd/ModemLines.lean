import Sensorium.EndToEnd.UartLine
import Sensorium.Inventory.WireCommands
import Sensorium.Lib.Calls
import Sensorium.Lib.Flags

/-!
# Modem lines of a simulated UART

A call of `tiocmset` computes the outputs it wants, asks the daemon without the lock, and merges
them when the daemon has agreed; calls of several threads overlap.  The template of the device
answers by setting inputs of the port, which the daemon sends before its reply.  The daemon sets
inputs on its own account too: the control defaults of the device when it is added, and those that a
client asks for.
-/

namespace Sensorium.EndToEnd

open Lib Model Kernel Daemon Function

/-! ## The system -/

/-- A UART and the daemon that simulates it. -/
structure ModemServer where
  port : UartPort
  daemon : Simulated

/-- What a call of `tiocmset` keeps between its two lock sections. -/
structure ModemRequest where
  update : Update
  wanted : UInt32

/-- What may have set the inputs: an update that the daemon has agreed to, or a
`CMD_UART_SET_MODEM` of its own, by `_sync_uart_defaults` or `uart.control_set`. -/
inductive LineEvent
  | agreed (u : Update)
  | set (mask values : UInt32)

/-- The threads that set the lines of a UART; `events` records what the daemon does to its inputs. -/
structure ModemLines where
  calls : Calls ModemServer ModemRequest Int
  outputs : UInt32
  events : List LineEvent

inductive ModemAct
  | enter (i : Nat) (u : Update)
  | handle (k : Nat) (o : Outcomes)
  | finish (i : Nat)
  | fail (i : Nat)
  | set (mask values : UInt32)
  | port (a : UartAct)
  | chunk (data : List UInt8) (o : Outcomes)

/-- `sensorium_runtime_uart_req` of `send_control`. -/
def controlRequest (handle mask values : UInt32) : List UInt8 :=
  leBytes 4 handle.toNat ++ (leBytes 4 1 ++ (leBytes 4 0 ++ (leBytes 4 mask.toNat ++
    leBytes 4 values.toNat)))

namespace ModemServer

variable (m : ModemServer)

/-- `_handle_uart_request` of a control request.  The kernel takes the lines that the template sets
before the reply, and an exception is answered with `-EIO`. -/
def answer (device : UInt32) (o : Outcomes) (q : ModemRequest) : ModemServer × Int :=
  let handled := m.daemon.handleUartRequest true
    (controlRequest device q.update.mask (q.wanted &&& q.update.mask)) o
  let reply := handled.2.getD ⟨-errnoEio, [], []⟩
  let lines := Inventory.modemDefaults (0, 0) reply.modem
  let m := { m with daemon := handled.1 }
  if lines.1 = 0 then (m, reply.status)
  else ({ m with port := m.port.cmdUartModem (.ofNat lines.1) (.ofNat lines.2) }, reply.status)

def serve (device : UInt32) (o : Outcomes) (q : ModemRequest) : ModemServer × Option Int :=
  ((m.answer device o q).1, some (m.answer device o q).2)

end ModemServer

def agreedTo (handled : List (Handled ModemRequest Int)) : List Update :=
  (handled.filter fun h => h.reply = some 0).map fun h => h.call.request.update

def mergedOf (returned : List (Returned ModemRequest Int)) : List Update :=
  (returned.filter fun x => x.reply = 0).map fun x => x.call.request.update

namespace ModemLines

def start (capacity : Nat) (queue : Nat → UInt8) (daemon : Simulated) (threads : Nat) :
    ModemLines where
  calls := .start ⟨.register capacity queue, daemon⟩ threads
  outputs := 0
  events := []

variable (s : ModemLines)

def port : UartPort := s.calls.server.port

/-- The updates that the daemon has agreed to. -/
def served : List Update := agreedTo s.calls.handled

/-- The updates of the calls that returned 0. -/
def committed : List Update := mergedOf s.calls.returned

/-- The first lock section of `tiocmset`, and `send_control`. -/
def enter (i : Nat) (u : Update) : Option ModemLines :=
  (s.calls.post i ⟨u, u.on s.outputs⟩).map fun calls => { s with calls := calls }

/-- What the answer to a call is recorded as. -/
def agreement (device : UInt32) (o : Outcomes) (c : Call ModemRequest) : List LineEvent :=
  if (s.calls.server.answer device o c.request).2 = 0 then [.agreed c.request.update] else []

def handle (device : UInt32) (k : Nat) (o : Outcomes) : Option ModemLines :=
  (s.calls.handle (fun m q => m.serve device o q) k).map fun calls =>
    { s with
      calls := calls
      events := s.events ++ (s.calls.requests[k]?.elim [] (s.agreement device o)) }

/-- The outputs after the second lock section of `tiocmset`; without the agreement of the daemon
there is none. -/
def merged (x : Returned ModemRequest Int) : UInt32 :=
  let q := x.call.request
  if x.reply = 0 then (s.outputs &&& ~~~q.update.mask) ||| (q.wanted &&& q.update.mask)
  else s.outputs

def finish (i : Nat) : Option ModemLines :=
  (s.calls.finish i).map fun r => ⟨r.2, s.merged r.1, s.events⟩

/-- `send_request` fails; the daemon may still handle the request. -/
def fail (i : Nat) : Option ModemLines :=
  (s.calls.giveUp i).map fun calls => { s with calls := calls }

def withServer (m : ModemServer) : ModemLines :=
  { s with calls := { s.calls with server := m } }

/-- The kernel takes a `CMD_UART_SET_MODEM` that no call has asked for. -/
def set (mask values : UInt32) : ModemLines :=
  { s.withServer { s.calls.server with port := s.port.cmdUartModem mask values } with
    events := s.events ++ [.set mask values] }

def step (device : UInt32) (s : ModemLines) : ModemAct → Option ModemLines
  | .enter i u => s.enter i u
  | .handle k o => s.handle device k o
  | .finish i => s.finish i
  | .fail i => s.fail i
  | .set mask values => some (s.set mask values)
  | .port (.modem _ _) => none
  | .port a =>
    (uartStep s.port a).map fun port => s.withServer { s.calls.server with port := port }
  | .chunk data o =>
    some (s.withServer { s.calls.server with
      daemon := (s.calls.server.daemon.handleUartRequest false (uartRequest device data) o).1 })

end ModemLines

/-! ## The daemon -/

theorem controlRequest_fields (handle mask values : UInt32) :
    readLe (controlRequest handle mask values) 0 4 = handle.toNat ∧
      readLe (controlRequest handle mask values) 4 4 = 1 ∧
      readLe (controlRequest handle mask values) 8 4 = 0 ∧
      readLe (controlRequest handle mask values) 12 4 = mask.toNat ∧
      readLe (controlRequest handle mask values) 16 4 = values.toNat ∧
      (controlRequest handle mask values).drop 20 = [] := by
  have hfit (x : UInt32) : x.toNat < 256 ^ 4 := x.toNat_lt
  have hlast : leBytes 4 values.toNat = leBytes 4 values.toNat ++ [] := (List.append_nil _).symm
  unfold controlRequest
  refine ⟨readLe_leBytes _ (hfit handle), ?_, ?_, ?_, ?_, ?_⟩
  · rw [readLe_append (by simp), length_leBytes, readLe_leBytes _ (by decide)]
  · rw [readLe_append (by simp), readLe_append (by simp), length_leBytes, length_leBytes,
      readLe_leBytes _ (by decide)]
  · rw [readLe_append (by simp), readLe_append (by simp), readLe_append (by simp)]
    simp only [length_leBytes]
    exact readLe_leBytes _ (hfit mask)
  · rw [readLe_append (by simp), readLe_append (by simp), readLe_append (by simp),
      readLe_append (by simp), hlast]
    simp only [length_leBytes]
    exact readLe_leBytes _ (hfit values)
  · simp [List.drop_eq_nil_of_le]

/-- The template is asked only about lines that the daemon knows. -/
theorem Simulates.handleControl {d : Simulated} {handle : UInt32} {r : Inventory.DeviceRecord}
    {t : UartTemplate} (h : Simulates d handle r t) (mask values : UInt32)
    (o : Outcomes) :
    d.handleUartRequest true (controlRequest handle mask values) o =
      if mask.toNat &&& uartModemMask ≠ mask.toNat then (d, some ⟨eOpNotSupp, [], []⟩)
      else if t.handleUartControl mask.toNat values.toNat ≠ [] ∧ o.modemWritten = false then (d, none)
      else (d, some ⟨0, [], t.handleUartControl mask.toNat values.toNat⟩) := by
  obtain ⟨hhandle, hflags, hdata, hmask, hvalues, hdrop⟩ := controlRequest_fields handle mask values
  have hlong : ¬ (controlRequest handle mask values).length < 20 := by
    simp only [controlRequest, List.length_append, length_leBytes]
    omega
  have hpre : applyFaultPre r.device.faults = none := by
    rw [applyFaultPre, h.faultless]
  have hpost (bytes : List UInt8) :
      applyFaultPost r.device.faults 0 bytes = some (0, bytes) := by
    rw [applyFaultPost, if_pos (.inl (by rw [h.faultless]; decide))]
  have hself : { d with templates := update d.templates r.object (some (.uart t)) } = d :=
    h.holding_self
  unfold Simulated.handleUartRequest
  rw [if_neg hlong]
  simp only [hhandle, hflags, hdata, hmask, hvalues, hdrop, ne_eq, not_true_eq_false, if_false,
    h.record, if_true, List.length_nil]
  by_cases hknown : mask.toNat &&& uartModemMask = mask.toNat
  · simp only [hknown, not_true_eq_false, if_false]
    unfold Simulated.unlessFaulted
    rw [hpre]
    unfold Simulated.ask
    simp only [h.simulated, if_true, h.template, callHeld, Template.call, hself]
    split
    · rfl
    · unfold Simulated.finalize
      rw [if_neg (by rw [h.faultless]; rintro ⟨hmode, -⟩; cases hmode), hpost]
      rfl
  · simp only [hknown, not_false_eq_true, if_true]
    rfl

/-! ## The lines that the template sets -/

/-- The lines of `handle_uart_control`: whether CTS is set, and to what, and whether carrier and
DSR are. -/
def followers (cts ctsOn carrier carrierOn : Bool) : List (Text × Bool) :=
  (if cts then [(text "cts", ctsOn)] else []) ++
    if carrier then [(text "cd", carrierOn), (text "dsr", carrierOn)] else []

theorem handleUartControl_eq (t : UartTemplate) (mask values : UInt32) :
    t.handleUartControl mask.toNat values.toNat =
      followers (t.ctsFollowsRts && flag mask 2) (flag values 2)
        (t.carrierFollowsDtr && flag mask 1) (flag values 1) := by
  have hrts (x : UInt32) : x.toNat &&& 0x4 ≠ 0 ↔ flag x 2 = true := and_two_pow_ne_zero _ 2
  have hdtr (x : UInt32) : x.toNat &&& 0x2 ≠ 0 ↔ flag x 1 = true := and_two_pow_ne_zero _ 1
  simp only [UartTemplate.handleUartControl, followers, hrts, hdtr, Bool.and_eq_true,
    Bool.decide_eq_true]

/-- CTS and DSR, which no loss of the carrier changes. -/
theorem flag_markDisconnected (p : UartPort) (status : Int) {i : Nat} (hi : i = 5 ∨ i = 8) :
    flag (p.markDisconnected status).modemInputs i = flag p.modemInputs i := by
  show flag (p.modemInputs &&& ~~~tiocmCar) i = _
  have hcar : flag tiocmCar i = false := by rcases hi with rfl | rfl <;> decide
  rw [flag_and, flag_not _ (by omega), hcar, Bool.not_false, Bool.and_true]

theorem flag_recover (p : UartPort) {i : Nat} (hi : i = 5 ∨ i = 8) :
    flag p.recover.modemInputs i = flag p.modemInputs i := by
  show flag (p.modemInputs ||| tiocmCar) i = _
  have hcar : flag tiocmCar i = false := by rcases hi with rfl | rfl <;> decide
  rw [flag_or, hcar, Bool.or_false]

theorem flag_cmdUartModem (p : UartPort) (mask values : UInt32) {i : Nat} (hi : i = 5 ∨ i = 8) :
    flag (p.cmdUartModem mask values).modemInputs i =
      if flag mask i then flag values i else flag p.modemInputs i := by
  have hlt : i < 32 := by omega
  have hset : flag ((p.modemInputs &&& ~~~mask) ||| (values &&& mask)) i =
      if flag mask i then flag values i else flag p.modemInputs i := by
    rw [flag_or, flag_and, flag_and, flag_not _ hlt]
    cases flag mask i <;> simp
  unfold UartPort.cmdUartModem
  dsimp only
  rw [← hset]
  split
  · exact flag_markDisconnected _ _ hi
  · split
    · exact flag_recover _ hi
    · rfl

theorem flag_txWork (p : UartPort) {i : Nat} (hi : i = 5 ∨ i = 8) :
    flag p.txWork.modemInputs i = flag p.modemInputs i := by
  have hconsume (q : UartPort) (n : Nat) : (q.txConsume n).modemInputs = q.modemInputs := by
    unfold UartPort.txConsume
    dsimp only
    split <;> rfl
  have hdrain (q : UartPort) : flag q.txDrain.modemInputs i = flag q.modemInputs i := by
    unfold UartPort.txDrain
    split
    · rfl
    · dsimp only
      split
      · show flag (q.txConsume q.inflight).modemInputs i = _
        rw [hconsume]
      · rw [flag_recover _ hi]
        show flag (q.txConsume q.inflight).modemInputs i = _
        rw [hconsume]
  have hlines := hdrain { p with pending := false }
  unfold UartPort.txWork
  dsimp only
  split
  · exact hlines
  · split
    · exact hlines
    · exact hlines

theorem flag_uartWrite (p : UartPort) (buf : List UInt8) (i : Nat) :
    flag (p.uartWrite buf).1.modemInputs i = flag p.modemInputs i := by
  have hcopy : (p.txCopyIn buf).1.modemInputs = p.modemInputs := by
    unfold UartPort.txCopyIn
    dsimp only
    split <;> rfl
  unfold UartPort.uartWrite
  dsimp only
  split
  · rfl
  · split
    · rfl
    · split
      · rw [hcopy]
      · show flag (p.txCopyIn buf).1.modemInputs i = _
        rw [hcopy]

/-- CTS and DSR are changed by requests of the daemon only. -/
theorem flag_uartStep {p p' : UartPort} {a : UartAct} {i : Nat} (hi : i = 5 ∨ i = 8)
    (hmodem : ∀ mask values, a ≠ .modem mask values) (hs : uartStep p a = some p') :
    flag p'.modemInputs i = flag p.modemInputs i := by
  cases a with
  | write buf =>
    cases hs
    exact flag_uartWrite p buf i
  | queue =>
    simp only [uartStep] at hs
    split at hs <;> cases hs
    rfl
  | run =>
    simp only [uartStep] at hs
    split at hs <;> cases hs
    exact flag_txWork p hi
  | reply status =>
    simp only [uartStep] at hs
    split at hs <;> cases hs
    rfl
  | finish =>
    simp only [uartStep] at hs
    split at hs <;> cases hs
    · rfl
    · rename_i status _
      exact flag_markDisconnected p status hi
  | requeue =>
    simp only [uartStep] at hs
    split at hs <;> cases hs
    rfl
  | modem mask values => exact absurd rfl (hmodem mask values)
  | pushed status =>
    cases hs
    unfold UartPort.pushConfig
    split
    · exact flag_markDisconnected p status hi
    · exact flag_recover p hi
  | cancel c =>
    simp only [uartStep] at hs
    split at hs <;> cases hs
    rfl
  | close c =>
    simp only [uartStep] at hs
    split at hs <;> cases hs
    cases c with
    | hangup => exact flag_markDisconnected p ePipe hi
    | flush => rfl
    | shutdown => rfl
    | destroy => rfl
  | release =>
    cases hs
    exact flag_markDisconnected p ePipe hi

/-! ## Answers -/

/-- What the port and the daemon agree on when a call is handled. -/
structure Obeys (t : UartTemplate) (u : Update) (p p' : UartPort) : Prop where
  known : u.mask.toNat &&& uartModemMask = u.mask.toNat
  cts : flag p'.modemInputs 5 =
    if t.ctsFollowsRts && u.names 2 then u.raises 2 else flag p.modemInputs 5
  dsr : flag p'.modemInputs 8 =
    if t.carrierFollowsDtr && u.names 1 then u.raises 1 else flag p.modemInputs 8

theorem flag_followers : ∀ cts ctsOn carrier carrierOn : Bool,
    let lines := Inventory.modemDefaults (0, 0) (followers cts ctsOn carrier carrierOn)
    (lines.1 = 0 ↔ cts = false ∧ carrier = false) ∧
      flag (.ofNat lines.1) 5 = cts ∧ flag (.ofNat lines.2) 5 = (cts && ctsOn) ∧
      flag (.ofNat lines.1) 8 = carrier ∧ flag (.ofNat lines.2) 8 = (carrier && carrierOn) := by
  decide +kernel

theorem ModemServer.answer_cases {m : ModemServer} {device : UInt32} {r : Inventory.DeviceRecord}
    {t : UartTemplate} (hd : Simulates m.daemon device r t) {q : ModemRequest}
    (hq : ∃ x, q.wanted = q.update.on x) (o : Outcomes) :
    ∃ p, (m.answer device o q).1 = { m with port := p } ∧
      ((m.answer device o q).2 = 0 ∧ Obeys t q.update m.port p ∨
        (m.answer device o q).2 ≠ 0 ∧ p = m.port) := by
  obtain ⟨x, hx⟩ := hq
  have heio : -errnoEio ≠ 0 := by decide
  have hrefused : eOpNotSupp ≠ 0 := by decide
  unfold ModemServer.answer
  rw [hd.handleControl]
  by_cases hknown : q.update.mask.toNat &&& uartModemMask = q.update.mask.toNat
  · rw [if_neg (not_not_intro hknown), handleUartControl_eq]
    split
    · exact ⟨m.port, rfl, .inr ⟨heio, rfl⟩⟩
    dsimp only [Option.getD_some]
    have hnames (i : Nat) : flag q.update.mask i = q.update.names i := rfl
    have hvalue {i : Nat} (hi : i < 32) (hn : q.update.names i = true) :
        flag (q.wanted &&& q.update.mask) i = q.update.raises i := by
      rw [hx]
      exact Update.flag_masked x hi hn
    obtain ⟨hzero, hctsMask, hcts, hdsrMask, hdsr⟩ :=
      flag_followers (t.ctsFollowsRts && flag q.update.mask 2)
        (flag (q.wanted &&& q.update.mask) 2) (t.carrierFollowsDtr && flag q.update.mask 1)
        (flag (q.wanted &&& q.update.mask) 1)
    split
    · rename_i hnone
      obtain ⟨hnocts, hnodsr⟩ := hzero.mp hnone
      rw [hnames] at hnocts hnodsr
      refine ⟨m.port, rfl, .inl ⟨rfl, hknown, ?_, ?_⟩⟩
      · rw [if_neg (by rw [hnocts]; exact Bool.false_ne_true)]
      · rw [if_neg (by rw [hnodsr]; exact Bool.false_ne_true)]
    · refine ⟨_, rfl, .inl ⟨rfl, hknown, ?_, ?_⟩⟩
      · rw [flag_cmdUartModem _ _ _ (.inl rfl), hctsMask, hcts, hnames]
        split
        · rename_i hfollows
          rw [hfollows, Bool.true_and]
          exact hvalue (by decide) (Bool.and_eq_true_iff.mp hfollows).2
        · rfl
      · rw [flag_cmdUartModem _ _ _ (.inr rfl), hdsrMask, hdsr, hnames]
        split
        · rename_i hfollows
          rw [hfollows, Bool.true_and]
          exact hvalue (by decide) (Bool.and_eq_true_iff.mp hfollows).2
        · rfl
  · rw [if_pos hknown]
    exact ⟨m.port, rfl, .inr ⟨hrefused, rfl⟩⟩

/-! ## Runs -/

namespace ModemLines

/-- The length of a chunk fits its field; `tx_work` sends up to 256 bytes. -/
def Fits (_ : ModemLines) : ModemAct → Prop
  | .chunk data _ => data.length < 2 ^ 32
  | _ => True

instance (s : ModemLines) (a : ModemAct) : Decidable (Fits s a) :=
  match a with
  | .chunk data _ => inferInstanceAs (Decidable (data.length < 2 ^ 32))
  | .enter _ _ | .handle _ _ | .finish _ | .fail _ | .set _ _ | .port _ => .isTrue trivial

end ModemLines

namespace LineEvent

/-- The input `line` is set, by an update of the output that it follows or directly. -/
def concerns (follows : Bool) (output line : Nat) : LineEvent → Bool
  | .agreed u => follows && u.names output
  | .set mask _ => flag mask line

def raises (output line : Nat) : LineEvent → Bool
  | .agreed u => u.raises output
  | .set _ values => flag values line

def update? : LineEvent → Option Update
  | .agreed u => some u
  | .set _ _ => none

end LineEvent

namespace ModemLines

/-- An input that follows an output, after what the daemon has done. -/
def followed (follows : Bool) (output line : Nat) (events : List LineEvent) : Bool :=
  latest true (LineEvent.raises output line) (events.filter (LineEvent.concerns follows output line))

theorem followed_concat (follows : Bool) (output line : Nat) (events : List LineEvent)
    (e : LineEvent) :
    followed follows output line (events ++ [e]) =
      if e.concerns follows output line then e.raises output line
      else followed follows output line events :=
  latest_filter_concat true _ _ events e

theorem agreedTo_concat (handled : List (Handled ModemRequest Int)) (c : Call ModemRequest)
    (status : Int) :
    agreedTo (handled ++ [⟨c, some status⟩]) =
      if status = 0 then agreedTo handled ++ [c.request.update] else agreedTo handled := by
  unfold agreedTo
  rw [List.filter_append, List.map_append]
  split
  · rename_i hok
    rw [hok]
    rfl
  · rename_i hbad
    rw [List.filter_cons_of_neg (by simpa using hbad)]
    exact List.append_nil _

theorem mergedOf_concat (returned : List (Returned ModemRequest Int))
    (x : Returned ModemRequest Int) :
    mergedOf (returned ++ [x]) =
      if x.reply = 0 then mergedOf returned ++ [x.call.request.update] else mergedOf returned := by
  unfold mergedOf
  rw [List.filter_append, List.map_append]
  split
  · rename_i hok
    rw [List.filter_cons_of_pos (by simpa using hok)]
    rfl
  · rename_i hbad
    rw [List.filter_cons_of_neg (by simpa using hbad)]
    exact List.append_nil _

/-- What a thread wants is its update of some outputs. -/
def Computed (c : Call ModemRequest) : Prop := ∃ x, c.request.wanted = c.request.update.on x

structure Sound (device : UInt32) (t : UartTemplate) (s : ModemLines) : Prop where
  good : s.calls.Good
  simulated : ∃ r u, Simulates s.calls.server.daemon device r u ∧
    u.ctsFollowsRts = t.ctsFollowsRts ∧ u.carrierFollowsDtr = t.carrierFollowsDtr
  asked : ∀ c ∈ s.calls.requests, Computed c
  called : ∀ i c, s.calls.calling i = some c → Computed c
  known : ∀ u ∈ s.served, u.mask.toNat &&& uartModemMask = u.mask.toNat
  outputs : s.outputs = s.committed.foldl (fun x u => u.on x) 0
  events : s.events.filterMap LineEvent.update? = s.served
  cts : flag s.port.modemInputs 5 = followed t.ctsFollowsRts 2 5 s.events
  dsr : flag s.port.modemInputs 8 = followed t.carrierFollowsDtr 1 8 s.events

namespace Sound

variable {device : UInt32} {t : UartTemplate} {s s' : ModemLines}

theorem start {d : Simulated} {r : Inventory.DeviceRecord} (hd : Simulates d device r t)
    (capacity : Nat) (queue : Nat → UInt8) (threads : Nat) :
    Sound device t (.start capacity queue d threads) := by
  have hgood := Calls.Good.start (ρ := ModemRequest) (τ := Int)
    (⟨.register capacity queue, d⟩ : ModemServer) threads
  refine ⟨hgood, ⟨r, t, hd, rfl, rfl⟩, ?_, ?_, ?_, rfl, rfl, ?_, ?_⟩
  · exact fun c hc => absurd hc List.not_mem_nil
  · intro i c hc
    exact absurd (hgood.called i c hc) (Nat.not_lt_zero _)
  · exact fun c hc => absurd hc List.not_mem_nil
  · show flag 0x160 5 = true
    decide
  · show flag 0x160 8 = true
    decide

theorem enter (h : Sound device t s) {i : Nat} {u : Update} (hs : s.enter i u = some s') :
    Sound device t s' := by
  obtain ⟨calls, hpost, rfl⟩ := Option.map_eq_some_iff.mp hs
  have hgood := h.good.post hpost
  obtain ⟨-, rfl⟩ := Calls.post_cases hpost
  refine { h with good := hgood, asked := ?_, called := ?_ }
  · intro c hc
    rcases List.mem_append.mp hc with hc | hc
    · exact h.asked c hc
    · rw [List.mem_singleton.mp hc]
      exact ⟨s.outputs, rfl⟩
  · intro j c hc
    rcases Calls.calling_set_cases hc with ⟨-, hcall⟩ | ⟨-, hold⟩
    · cases hcall
      exact ⟨s.outputs, rfl⟩
    · exact h.called j c hold

theorem handle {k : Nat} {o : Outcomes} (h : Sound device t s)
    (hs : s.handle device k o = some s') : Sound device t s' := by
  obtain ⟨calls, hhandle, rfl⟩ := Option.map_eq_some_iff.mp hs
  have hgood := h.good.handle hhandle
  obtain ⟨c, hc, rfl⟩ := Calls.handle_cases hhandle
  obtain ⟨r, u, hd, hcts, hdsr⟩ := h.simulated
  have hmem : c ∈ s.calls.requests := List.mem_of_getElem? hc
  have hasked (c' : Call ModemRequest) (hc' : c' ∈ s.calls.requests.eraseIdx k) : Computed c' :=
    h.asked c' (List.mem_of_mem_eraseIdx hc')
  obtain ⟨p, hserver, hreply⟩ := ModemServer.answer_cases hd (h.asked c hmem) o
  have hserve : s.calls.server.serve device o c.request =
      ((s.calls.server.answer device o c.request).1,
        some (s.calls.server.answer device o c.request).2) := rfl
  have hconcat := agreedTo_concat s.calls.handled c
    (s.calls.server.answer device o c.request).2
  have hcalling (status : Int) (j : Nat) (c' : Call ModemRequest)
      (hc' : ((s.calls.callers.map (Caller.hear c status))[j]?).bind Caller.call = some c') :
      Computed c' := h.called j c' ((Calls.calling_hear c status j).symm.trans hc')
  have hagreement : s.calls.requests[k]?.elim [] (s.agreement device o) =
      if (s.calls.server.answer device o c.request).2 = 0 then [.agreed c.request.update]
      else [] := by
    rw [hc]
    rfl
  rw [hserve, hserver] at hgood ⊢
  rw [hagreement]
  rcases hreply with ⟨hok, hobeys⟩ | ⟨hbad, rfl⟩
  · -- the daemon has agreed to the update, and its automatic reply has set the lines
    rw [hok] at hconcat hgood ⊢
    rw [if_pos rfl] at hconcat ⊢
    exact
      { good := hgood
        simulated := ⟨r, u, hd, hcts, hdsr⟩
        asked := hasked
        called := hcalling 0
        known := by
          intro u' hu'
          change u' ∈ agreedTo _ at hu'
          rw [hconcat] at hu'
          rcases List.mem_append.mp hu' with hu' | hu'
          · exact h.known u' hu'
          · rw [List.mem_singleton.mp hu']
            exact hobeys.known
        outputs := h.outputs
        events := by
          show (s.events ++ [LineEvent.agreed c.request.update]).filterMap _ = agreedTo _
          rw [hconcat, List.filterMap_append, h.events]
          rfl
        cts := by
          show _ = followed _ 2 5 (s.events ++ [.agreed c.request.update])
          rw [followed_concat, ← h.cts, ← hcts]
          exact hobeys.cts
        dsr := by
          show _ = followed _ 1 8 (s.events ++ [.agreed c.request.update])
          rw [followed_concat, ← h.dsr, ← hdsr]
          exact hobeys.dsr }
  · -- the daemon has refused, and neither side changes
    rw [if_neg hbad] at hconcat ⊢
    rw [List.append_nil]
    exact
      { good := hgood
        simulated := ⟨r, u, hd, hcts, hdsr⟩
        asked := hasked
        called := hcalling _
        known := by
          intro u' hu'
          change u' ∈ agreedTo _ at hu'
          rw [hconcat] at hu'
          exact h.known u' hu'
        outputs := h.outputs
        events := h.events.trans hconcat.symm
        cts := h.cts
        dsr := h.dsr }

/-- A `CMD_UART_SET_MODEM` sets the lines that it names. -/
theorem set (h : Sound device t s) (mask values : UInt32) : Sound device t (s.set mask values) :=
  { h with
    good := h.good.server _
    events := by
      show (s.events ++ [LineEvent.set mask values]).filterMap _ = _
      rw [List.filterMap_append, h.events]
      exact List.append_nil _
    cts := by
      show flag (s.port.cmdUartModem mask values).modemInputs 5 = followed _ 2 5 (s.events ++ [_])
      rw [flag_cmdUartModem _ _ _ (.inl rfl), followed_concat, ← h.cts]
      rfl
    dsr := by
      show flag (s.port.cmdUartModem mask values).modemInputs 8 = followed _ 1 8 (s.events ++ [_])
      rw [flag_cmdUartModem _ _ _ (.inr rfl), followed_concat, ← h.dsr]
      rfl }

theorem leave (h : Sound device t s) {calls : Calls ModemServer ModemRequest Int}
    (hgood : calls.Good) {i : Nat}
    (hcalls : calls = { s.calls with callers := s.calls.callers.set i .idle }) :
    Sound device t { s with calls := calls } := by
  subst hcalls
  refine { h with good := hgood, called := ?_ }
  intro j c hc
  rcases Calls.calling_set_cases hc with ⟨-, hcall⟩ | ⟨-, hold⟩
  · cases hcall
  · exact h.called j c hold

theorem fail (h : Sound device t s) {i : Nat} (hs : s.fail i = some s') : Sound device t s' := by
  obtain ⟨calls, hgiveUp, rfl⟩ := Option.map_eq_some_iff.mp hs
  exact h.leave (h.good.giveUp hgiveUp) (Calls.giveUp_cases hgiveUp)

theorem finish (h : Sound device t s) {i : Nat} (hs : s.finish i = some s') :
    Sound device t s' := by
  obtain ⟨⟨x, calls⟩, hfinish, rfl⟩ := Option.map_eq_some_iff.mp hs
  have hgood := h.good.finish hfinish
  obtain ⟨c, status, hcaller, rfl, rfl⟩ := Calls.finish_cases hfinish
  have hcall : s.calls.calling i = some c := by
    rw [Calls.calling, hcaller]
    rfl
  obtain ⟨x, hwanted⟩ := h.called i c hcall
  refine { h with good := hgood, called := ?_, outputs := ?_ }
  · intro j c' hc'
    rcases Calls.calling_set_cases hc' with ⟨-, hnone⟩ | ⟨-, hold⟩
    · cases hnone
    · exact h.called j c' hold
  · show s.merged ⟨c, status, s.calls.handled.length⟩ = (mergedOf _).foldl _ _
    rw [mergedOf_concat]
    unfold ModemLines.merged
    dsimp only
    split
    · -- merged into newer outputs, the old outputs do not matter
      rw [hwanted, Update.merge_on, List.foldl_append, List.foldl_cons, List.foldl_nil, h.outputs]
      rfl
    · exact h.outputs

theorem port_step {a : UartAct} (hs : ModemLines.step device s (.port a) = some s') :
    (∀ mask values, a ≠ .modem mask values) ∧
      ∃ p, uartStep s.port a = some p ∧ s.withServer { s.calls.server with port := p } = s' := by
  have hne : ∀ mask values, a ≠ .modem mask values := by
    rintro mask values rfl
    cases hs
  have hmap : (uartStep s.port a).map
      (fun p => s.withServer { s.calls.server with port := p }) = some s' := by
    cases a with
    | modem mask values => exact absurd rfl (hne mask values)
    | _ => exact hs
  exact ⟨hne, Option.map_eq_some_iff.mp hmap⟩

theorem port {a : UartAct} {p : UartPort} (h : Sound device t s)
    (ha : ∀ mask values, a ≠ .modem mask values) (hs : uartStep s.port a = some p) :
    Sound device t (s.withServer { s.calls.server with port := p }) :=
  { h with
    good := h.good.server _
    cts := (flag_uartStep (.inl rfl) ha hs).trans h.cts
    dsr := (flag_uartStep (.inr rfl) ha hs).trans h.dsr }

theorem chunk {data : List UInt8} (h : Sound device t s) (hlen : data.length < 2 ^ 32)
    (o : Outcomes) :
    Sound device t (s.withServer { s.calls.server with
      daemon := (s.calls.server.daemon.handleUartRequest false (uartRequest device data) o).1 }) := by
  obtain ⟨r, u, hd, hcts, hdsr⟩ := h.simulated
  refine
    { h with
      good := h.good.server _
      simulated := ⟨r, (u.handleUart data).1, ?_, hcts, hdsr⟩ }
  show Simulates (s.calls.server.daemon.handleUartRequest false _ _).1 _ _ _
  rw [hd.handleChunk hlen]
  exact hd.holding _

theorem step {a : ModemAct} (h : Sound device t s) (hok : Fits s a)
    (hs : ModemLines.step device s a = some s') : Sound device t s' := by
  cases a with
  | enter i u => exact h.enter hs
  | handle k o => exact h.handle hs
  | finish i => exact h.finish hs
  | fail i => exact h.fail hs
  | set mask values =>
    cases hs
    exact h.set mask values
  | chunk data o =>
    cases hs
    exact h.chunk hok o
  | port a =>
    obtain ⟨ha, p, hp, rfl⟩ := port_step hs
    exact h.port ha hp

end Sound

end ModemLines

/-- However the calls of threads overlap, and whichever of them fail: the daemon has agreed to each
call that returns 0 once, at a point between its two lock sections, and the outputs are those of
these calls one after another, in the order in which they returned.  CTS and DSR are as the calls
that the daemon has agreed to and its own settings leave them, in its order; where the last update of
RTS is the same in both orders and CTS has not been set since, CTS is RTS. -/
theorem modem_lines_follow {device : UInt32} {d : Simulated} {r : Inventory.DeviceRecord}
    {t : UartTemplate} (hd : Simulates d device r t) {capacity threads : Nat}
    {queue : Nat → UInt8} {s : ModemLines}
    (hr : Reach (ModemLines.step device) ModemLines.Fits
      (ModemLines.start capacity queue d threads) s) :
    s.outputs = s.committed.foldl (fun x u => u.on x) 0 ∧
      (∀ x ∈ s.calls.returned, Calls.TookPlace s.calls.handled x.call x.reply x.upto) ∧
      (s.calls.returned.map fun x => x.call.number).Nodup ∧
      (s.calls.handled.map fun h => h.call.number).Nodup ∧
      (∀ u ∈ s.served, u.mask.toNat &&& uartModemMask = u.mask.toNat) ∧
      s.events.filterMap LineEvent.update? = s.served ∧
      flag s.port.modemInputs 5 = ModemLines.followed t.ctsFollowsRts 2 5 s.events ∧
      flag s.port.modemInputs 8 = ModemLines.followed t.carrierFollowsDtr 1 8 s.events ∧
      ∀ u, t.ctsFollowsRts = true →
        (s.events.filter (LineEvent.concerns true 2 5)).getLast? = some (.agreed u) →
        (s.committed.filter fun u => u.names 2).getLast? = some u →
        flag s.port.modemInputs 5 = flag s.outputs 2 := by
  have h : ModemLines.Sound device t s :=
    hr.invariant (ModemLines.Sound.start hd capacity queue threads)
      fun _ _ _ hsound hok hs => hsound.step hok hs
  refine ⟨h.outputs, h.good.returned, h.good.returnedOnce, h.good.handledOnce, h.known, h.events,
    h.cts, h.dsr, ?_⟩
  intro u hfollows hevents hcommitted
  have hrts : flag s.outputs 2 = u.raises 2 := by
    rw [h.outputs, Update.flag_foldl _ _ (by decide), latest, hcommitted]
    rfl
  rw [hrts, h.cts, ModemLines.followed, latest, hfollows, hevents]
  rfl

/-! ## A run -/

/-- The UART `u0`, whose template sets CTS, carrier and DSR. -/
def modemRecord : Inventory.DeviceRecord :=
  { uartRecord with
    device := { uartDevice with
      part := .uart (text "ttyS7") (.template .uartScript
        ⟨false, [(text "id?", text "ok")], [], [], [], true, true⟩) } }

def modemTemplate : UartTemplate :=
  { echoless with lineBuffer := [], ctsFollowsRts := true, carrierFollowsDtr := true }

def modemDaemon : Simulated :=
  { uartDaemon with
    world := { uartDaemon.world with
      daemon := { uartDaemon.world.daemon with devices := [(text "u0", modemRecord)] } }
    templates := fun _ => some (.uart modemTemplate) }

theorem modemDaemon_simulates : Simulates modemDaemon 1024 modemRecord modemTemplate where
  record := rfl
  simulated := rfl
  template := rfl
  faultless := rfl

/-- CTS is off by default.  One thread raises RTS while another clears it and raises DTR; they return
the other way round. -/
def overlapping : List ModemAct :=
  [.set 0x20 0, .enter 0 ⟨4, 0⟩, .enter 1 ⟨2, 4⟩, .handle 0 smooth, .port (.write [0x69]),
    .handle 0 smooth, .finish 1, .finish 0]

theorem modem_lines_follow_overlapping :
    ∃ s : ModemLines, (s.outputs = 6 ∧ s.port.modemInputs = 0x140) ∧
      s.outputs = s.committed.foldl (fun x u => u.on x) 0 ∧
      flag s.port.modemInputs 5 = ModemLines.followed true 2 5 s.events := by
  have hrun : (exec (guarded (ModemLines.step 1024) ModemLines.Fits)
      (.start 16 (fun _ => 0) modemDaemon 2) overlapping).map
      (fun s => (s.outputs, s.port.modemInputs)) = some (6, 0x140) := by decide +kernel
  obtain ⟨s, hexec, hview⟩ := Option.map_eq_some_iff.mp hrun
  obtain ⟨houtputs, -, -, -, -, -, hcts, -⟩ :=
    modem_lines_follow modemDaemon_simulates (reach_of_exec hexec)
  exact ⟨s, ⟨congrArg Prod.fst hview, congrArg Prod.snd hview⟩, houtputs, hcts⟩

end Sensorium.EndToEnd

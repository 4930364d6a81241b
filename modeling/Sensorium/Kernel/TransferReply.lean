import Sensorium.Kernel.Inventory
import Sensorium.Kernel.RequestSteps
import Sensorium.Kernel.Transfer

/-!
# When a transfer reports success

The system of `Request` with the I2C and SPI callers on top.  `calls` says for which transfer a
request was allocated; a trace records what filled the request last, what `send_request` read, every
reply that `cmd_reply` accepted for it, and those it accepted after the read.

A status is passed through unchanged.  A negative one is an error and 0 is success, but a reply may
carry a positive one: `i2c_exec` then returns it, where its callers read a number of messages, and
`transfer_one_message` turns it into status 0.  A request stays in the index until `send_request`
takes it out, so a second reply with status 0 may still write over the data of the one that was
read.
-/

namespace Sensorium.Kernel

open Lib Function

/-! ## Replies -/

structure Reply where
  status : Int
  data : List UInt8
  deriving DecidableEq, Repr

/-- A 32-bit field read as signed. -/
def s32 (n : Nat) : Int := if n < 2 ^ 31 then n else (n : Int) - 2 ^ 32

/-- The checks of `cmd_reply` on its payload before the lock. -/
def replyCommand (payload : List UInt8) : Option Reply :=
  if payload.length < 8 then none
  else
    let dataLen := readLe payload 4 4
    if payload.length < 8 + dataLen then none
    else some ⟨s32 (readLe payload 0 4), (payload.drop 8).take dataLen⟩

/-- The request that `cmd_reply` fills. -/
def Runtime.accepts (s : Runtime) (id generation : Nat) (data : List UInt8) : Option Nat :=
  if data.length > Bridge.maxPayload then none
  else
    match s.lock, s.requestIndex id with
    | none, some r => if (s.heap r).generation = generation then some r else none
    | _, _ => none

/-- What fills a request. -/
inductive Fill
  | reply (p : Reply)
  | failed
  deriving DecidableEq, Repr

/-- The status and the length that a fill leaves in a request whose buffer has `capacity` bytes. -/
def Fill.outcome (capacity : Nat) : Fill → Int × Nat
  | .reply p =>
    (p.status, if p.status = 0 ∧ capacity ≠ 0 then min capacity p.data.length else 0)
  | .failed => (ePipe, 0)

/-! ## The system -/

inductive Transfer
  | i2c (msgs : List I2cMsg)
  | spi (xfers : List SpiTransfer)

/-- The number of bytes that the caller waits for. -/
def Transfer.expected : Transfer → Nat
  | .i2c msgs => i2cRxLen msgs
  | .spi xfers => spiTotalLen xfers

structure Trace where
  filled : Option Fill
  read : Option Fill
  replies : List Reply
  late : List Reply

/-- A request before anything filled it. -/
def Trace.blank : Trace := ⟨none, none, [], []⟩

structure Transfers where
  runtime : Runtime
  calls : Nat → Option Transfer
  traces : Nat → Trace

def Transfers.init : Transfers where
  runtime := .init
  calls := fun _ => none
  traces := fun _ => .blank

/-- The trace after an accepted reply. -/
def Trace.accept (trace : Trace) (p : Reply) : Trace where
  filled := some (.reply p)
  read := trace.read
  replies := p :: trace.replies
  late := if trace.read.isSome then p :: trace.late else trace.late

inductive TransferStep
  | i2c (dev : TransferDevice) (msgs : List I2cMsg) (buf : List UInt8)
  | spi (dev : TransferDevice) (spi : SpiDevice) (xfers : List SpiTransfer) (buf : List UInt8)
  | reply (id generation : Nat) (payload : List UInt8)
  | runtime (label : RequestStep)

namespace Transfers

variable (s : Transfers)

/-- A call that passes its checks allocates its request; `buf` is what `kvmalloc` returned. -/
def call (t : Transfer) (begun : Except Int (List UInt8)) (buf : List UInt8) : Option Transfers :=
  match begun with
  | .error _ => none
  | .ok _ =>
    if buf.length = t.expected then
      (s.runtime.allocRequest buf).map fun rt =>
        { s with runtime := rt, calls := update s.calls s.runtime.allocated (some t) }
    else none

def setTrace (r : Nat) (trace : Trace) : Transfers :=
  { s with traces := update s.traces r trace }

/-- The trace of an accepted reply. -/
def noteReply (id generation : Nat) (p : Reply) : Transfers :=
  match s.runtime.accepts id generation p.data with
  | none => s
  | some r =>
    s.setTrace r ((s.traces r).accept p)

def reply (id generation : Nat) (payload : List UInt8) : Option Transfers :=
  match replyCommand payload with
  | none => some s
  | some p =>
    (s.runtime.cmdReply id generation p.status p.data).map fun rt =>
      { s.noteReply id generation p with runtime := rt }

/-- The trace of a fill by `fail_all_locked`. -/
def noteFail : Transfers :=
  match s.runtime.lock with
  | some ⟨_, r :: _, none⟩ =>
    if (s.runtime.heap r).replied then s
    else s.setTrace r { s.traces r with filled := some .failed }
  | _ => s

def noteRead (r : Nat) : Transfers :=
  s.setTrace r { s.traces r with read := (s.traces r).filled }

/-- The steps of the other layer; replies only come as messages. -/
def runtimeStep (label : RequestStep) : Option Transfers :=
  match label with
  | .cmdReply .. => none
  | .readOutcome r =>
    (s.runtime.readOutcome r).map fun rt => { s.noteRead r with runtime := rt }
  | .failFill => s.runtime.failFill.map fun rt => { s.noteFail with runtime := rt }
  | label => (s.runtime.step label).map fun rt => { s with runtime := rt }

def step (s : Transfers) : TransferStep → Option Transfers
  | .i2c dev msgs buf => s.call (.i2c msgs) (i2cExecBegin dev msgs true true) buf
  | .spi dev spi xfers buf => s.call (.spi xfers) (spiExecBegin dev spi xfers true true) buf
  | .reply id generation payload => s.reply id generation payload
  | .runtime label => s.runtimeStep label

/-- What `send_request` returned, and the length it stored. -/
def sent (r : Nat) : Option (Int × Nat) :=
  match (s.runtime.heap r).pc with
  | .returned status len => some (status, len)
  | .refused status => some (status, 0)
  | _ => none

end Transfers

/-! ## What a request holds -/

/-- The value that `send_request` has or will return comes from the fill it read, from its timeout
or from its own error path. -/
def SendPc.Ends (read : Option Fill) (capacity : Nat) : SendPc → Prop
  | .unallocated | .allocated | .waiting | .timedOut | .woken => read = none
  | .outcomeRead status len => ∃ f, read = some f ∧ f.outcome capacity = (status, len)
  | .unlinked status len | .returned status len =>
    (∃ f, read = some f ∧ f.outcome capacity = (status, len)) ∨
      read = none ∧ status = eTimedOut ∧ len = 0
  | .refusing status | .refused status => read = none ∧ status < 0

/-- The byte at `i` after the late replies: that of the last one with status 0 that reaches it, else
that of the reply itself. -/
def Reply.byteAfter (p : Reply) (late : List Reply) (i : Nat) : Option UInt8 :=
  match late.find? fun q => q.status = 0 ∧ i < q.data.length with
  | some q => q.data[i]?
  | none => p.data[i]?

structure Request.Explained (q : Request) (trace : Trace) : Prop where
  filled : q.replied = true → ∃ f, trace.filled = some f ∧
    f.outcome q.responseBuf.length = (q.status, q.actualResponseLen)
  ends : q.pc.Ends trace.read q.responseBuf.length
  known : ∀ p, trace.filled = some (.reply p) ∨ trace.read = some (.reply p) → p ∈ trace.replies
  late : ∀ p ∈ trace.late, p ∈ trace.replies
  unread : trace.read = none → trace.late = []
  -- A reply with status 0 stands in the buffer until it is read, and then up to the late ones.
  brought : ∀ p, trace.filled = some (.reply p) → p.status = 0 → trace.read = none →
    ∀ i < min q.responseBuf.length p.data.length, q.responseBuf[i]? = p.data[i]?
  bytes : ∀ p, trace.read = some (.reply p) → p.status = 0 →
    ∀ i < min q.responseBuf.length p.data.length, q.responseBuf[i]? = p.byteAfter trace.late i
  fresh : q.pc = .unallocated → trace = .blank

theorem Request.explained_blank (q : Request) (hreplied : q.replied = false)
    (hends : q.pc.Ends none q.responseBuf.length) : q.Explained .blank where
  filled := by
    intro h
    rw [hreplied] at h
    cases h
  ends := hends
  known := by
    rintro p (h | h)
    · cases h
    · cases h
  late := fun _ h => (nomatch h)
  unread := fun _ => rfl
  brought := fun _ h => (nomatch h)
  bytes := fun _ h => (nomatch h)
  fresh := fun _ => rfl

/-- A step of the waiter: the outcome and the buffer stay. -/
theorem Request.Explained.move {q q' : Request} {trace : Trace} (h : q.Explained trace)
    (hreplied : q'.replied = q.replied) (hstatus : q'.status = q.status)
    (hlen : q'.actualResponseLen = q.actualResponseLen) (hbuf : q'.responseBuf = q.responseBuf)
    (hends : q'.pc.Ends trace.read q.responseBuf.length) (hpc : q'.pc ≠ .unallocated) :
    q'.Explained trace where
  filled := by
    rw [hreplied, hstatus, hlen, hbuf]
    exact h.filled
  ends := by
    rw [hbuf]
    exact hends
  known := h.known
  late := h.late
  unread := h.unread
  brought := by
    rw [hbuf]
    exact h.brought
  bytes := by
    rw [hbuf]
    exact h.bytes
  fresh := fun hfresh => absurd hfresh hpc

theorem Request.accept_buf_length (q : Request) (status : Int) (data : List UInt8) :
    (q.accept status data).responseBuf.length = q.responseBuf.length := by
  have hcopy : q.copyLen status data ≤ min q.responseBuf.length data.length := by
    unfold copyLen
    split
    · exact Nat.le_refl _
    · exact Nat.zero_le _
  change (data.take _ ++ q.responseBuf.drop _).length = _
  rw [List.length_append, List.length_take, List.length_drop]
  omega

theorem Request.accept_outcome_eq (q : Request) (p : Reply) :
    (Fill.reply p).outcome (q.accept p.status p.data).responseBuf.length =
      ((q.accept p.status p.data).status, (q.accept p.status p.data).actualResponseLen) := by
  rw [q.accept_buf_length]
  rfl

-- Where the reply does not reach, the buffer is the old one.
theorem Request.accept_getElem (q : Request) (p : Reply) {i : Nat} (hi : i < q.responseBuf.length) :
    (q.accept p.status p.data).responseBuf[i]? =
      if p.status = 0 ∧ i < p.data.length then p.data[i]? else q.responseBuf[i]? := by
  have hreaches : i < q.copyLen p.status p.data ↔ p.status = 0 ∧ i < p.data.length := by
    unfold copyLen
    split
    · rename_i hcopy
      exact ⟨fun h => ⟨hcopy.1, by omega⟩, fun h => by omega⟩
    · rename_i hcopy
      exact ⟨fun h => absurd h (Nat.not_lt_zero i), fun h => absurd ⟨h.1, by omega⟩ hcopy⟩
  change (p.data.take _ ++ q.responseBuf.drop _)[i]? = _
  split
  · rename_i hwritten
    rw [List.getElem?_append_left (by rw [List.length_take]; have := hreaches.mpr hwritten; omega),
      List.getElem?_take_of_lt (hreaches.mpr hwritten)]
  · rename_i hkept
    have hle := Nat.le_of_not_lt fun h => hkept (hreaches.mp h)
    have hcopy : q.copyLen p.status p.data ≤ p.data.length := by
      unfold copyLen
      split <;> omega
    rw [List.getElem?_append_right (by rw [List.length_take]; omega), List.getElem?_drop,
      List.length_take]
    congr 1
    omega

theorem Reply.byteAfter_cons (p q : Reply) (late : List Reply) (i : Nat) :
    p.byteAfter (q :: late) i =
      if q.status = 0 ∧ i < q.data.length then q.data[i]? else p.byteAfter late i := by
  unfold byteAfter
  rw [List.find?_cons]
  by_cases h : q.status = 0 ∧ i < q.data.length
  · rw [if_pos h, decide_eq_true h]
  · rw [if_neg h, decide_eq_false h]

/-- An accepted reply. -/
theorem Request.Explained.accept {q : Request} {trace : Trace} (h : q.Explained trace)
    (hpc : q.pc ≠ .unallocated) (p : Reply) :
    (q.accept p.status p.data).Explained (trace.accept p) where
  filled := fun _ => ⟨_, rfl, q.accept_outcome_eq p⟩
  ends := by
    rw [q.accept_buf_length]
    exact h.ends
  known := by
    rintro p' (hp | hp)
    · cases hp
      exact List.mem_cons_self
    · exact List.mem_cons_of_mem p (h.known p' (.inr hp))
  late := by
    intro p' hp'
    simp only [Trace.accept] at hp'
    split at hp'
    · rcases List.mem_cons.mp hp' with rfl | hp'
      · exact List.mem_cons_self
      · exact List.mem_cons_of_mem p (h.late p' hp')
    · exact List.mem_cons_of_mem p (h.late p' hp')
  unread := by
    intro hread
    have hnone : trace.read = none := hread
    simp only [Trace.accept, hnone, Option.isSome_none, Bool.false_eq_true, if_false]
    exact h.unread hnone
  brought := by
    rintro p' hp' hzero hread i hi
    cases hp'
    rw [q.accept_buf_length] at hi
    rw [q.accept_getElem p (by omega), if_pos ⟨hzero, by omega⟩]
  bytes := by
    intro p₀ hread hzero i hi
    rw [q.accept_buf_length] at hi
    have hlate : (trace.accept p).late = p :: trace.late := by
      have hsome : trace.read = some (.reply p₀) := hread
      simp only [Trace.accept, hsome, Option.isSome_some, if_true]
    rw [q.accept_getElem p (by omega), hlate, Reply.byteAfter_cons,
      h.bytes p₀ hread hzero i hi]
  fresh := fun hfresh => absurd hfresh hpc

/-- A fill by `fail_all_locked`. -/
theorem Request.Explained.fail {q : Request} {trace : Trace} (h : q.Explained trace)
    (hpc : q.pc ≠ .unallocated) :
    (q.fail ePipe).Explained { trace with filled := some .failed } where
  filled := fun _ => ⟨_, rfl, rfl⟩
  ends := h.ends
  known := by
    rintro p (hp | hp)
    · cases hp
    · exact h.known p (.inr hp)
  late := h.late
  unread := h.unread
  brought := fun _ hp => (nomatch hp)
  bytes := h.bytes
  fresh := fun hfresh => absurd hfresh hpc

/-- The unlocked read of a replied request. -/
theorem Request.Explained.readOutcome {q : Request} {trace : Trace} (h : q.Explained trace)
    (hreplied : q.replied = true) (hread : trace.read = none) :
    ({ q with pc := .outcomeRead q.status q.actualResponseLen } : Request).Explained
      { trace with read := trace.filled } where
  filled := h.filled
  ends := h.filled hreplied
  known := by
    rintro p (hp | hp)
    · exact h.known p (.inl hp)
    · exact h.known p (.inl hp)
  late := h.late
  unread := fun _ => h.unread hread
  brought := fun p hp hzero _ => h.brought p hp hzero hread
  bytes := by
    intro p hp hzero i hi
    rw [show ({ trace with read := trace.filled } : Trace).late = [] from h.unread hread]
    exact h.brought p hp hzero hread i hi
  fresh := fun hfresh => (nomatch hfresh)

/-! ## Runs -/

/-- `cmd_reply` fills the request that `accepts` names, and no other. -/
theorem Runtime.cmdReply_accepts {s t : Runtime} {id generation : Nat} {status : Int}
    {data : List UInt8} (hs : s.cmdReply id generation status data = some t) :
    t.allocated = s.allocated ∧
      ((s.accepts id generation data = none ∧ t.heap = s.heap) ∨
        ∃ r, s.accepts id generation data = some r ∧ s.requestIndex id = some r ∧
          t.heap = update s.heap r ((s.heap r).accept status data)) := by
  unfold Runtime.cmdReply at hs
  unfold Runtime.accepts
  split at hs
  · rename_i hlen
    cases hs
    exact ⟨rfl, .inl ⟨if_pos hlen, rfl⟩⟩
  · rename_i hlen
    rw [if_neg hlen]
    split at hs
    · cases hs
    · rename_i hlock
      rw [hlock]
      split at hs
      · rename_i hindex
        cases hs
        rw [hindex]
        exact ⟨rfl, .inl ⟨rfl, rfl⟩⟩
      · rename_i r hindex
        rw [hindex]
        dsimp only
        split at hs
        · rename_i hgen
          cases hs
          exact ⟨rfl, .inr ⟨r, if_pos hgen, rfl, rfl⟩⟩
        · rename_i hgen
          cases hs
          exact ⟨rfl, .inl ⟨if_neg hgen, rfl⟩⟩

/-- The error paths of `send_request`. -/
theorem Runtime.publish_refusing {s t : Runtime} {r : Nat} {stored full : Bool}
    (hs : s.publish r stored full = some t) (status : Int) (hpc : (t.heap r).pc = .refusing status) :
    status < 0 := by
  unfold Runtime.publish at hs
  split at hs
  · split at hs
    · split at hs
      · cases hs
        simp [put] at hpc
      · rename_i e he
        cases hs
        simp only [put, update_self, SendPc.refusing.injEq] at hpc
        subst hpc
        unfold Runtime.queueTransportLocked at he
        split at he
        · split at he
          · cases he
            decide
          · split at he
            · cases he
              decide
            · cases he
        · cases he
          decide
    · cases hs
      simp only [put, update_self, SendPc.refusing.injEq] at hpc
      subst hpc
      decide
  · cases hs

namespace Transfers

structure Sound (s : Transfers) : Prop where
  wf : s.runtime.Wf
  request : ∀ r, (s.runtime.heap r).Explained (s.traces r)
  buffer : ∀ r t, s.calls r = some t → (s.runtime.heap r).responseBuf.length = t.expected
  fresh : ∀ r, s.runtime.allocated ≤ r → s.calls r = none

theorem sound_init : Transfers.init.Sound where
  wf := Runtime.wf_init
  request := fun _ => Request.explained_blank _ rfl rfl
  buffer := fun _ _ h => (nomatch h)
  fresh := fun _ _ => rfl

variable {s : Transfers} {rt : Runtime}

/-- A step that changes one request and perhaps its trace. -/
theorem Sound.put (h : s.Sound) (hwf : rt.Wf) {r : Nat} {q : Request} (trace : Trace)
    (hheap : rt.heap = update s.runtime.heap r q) (halloc : rt.allocated = s.runtime.allocated)
    (hq : q.Explained trace) (hlen : q.responseBuf.length = (s.runtime.heap r).responseBuf.length) :
    ({ s.setTrace r trace with runtime := rt } : Transfers).Sound where
  wf := hwf
  request := by
    intro r'
    change (rt.heap r').Explained (update s.traces r trace r')
    rw [hheap]
    by_cases hr : r' = r
    · rw [hr, update_self, update_self]
      exact hq
    · rw [update_of_ne hr, update_of_ne hr]
      exact h.request r'
  buffer := by
    intro r' t ht
    change (rt.heap r').responseBuf.length = _
    rw [hheap]
    by_cases hr : r' = r
    · rw [hr, update_self, hlen]
      exact h.buffer r t (hr ▸ ht)
    · rw [update_of_ne hr]
      exact h.buffer r' t ht
  fresh := by
    intro r' hr'
    exact h.fresh r' (halloc ▸ hr')

theorem setTrace_self (s : Transfers) (r : Nat) : s.setTrace r (s.traces r) = s := by
  unfold setTrace
  rw [update_eq_self]

/-- A step of the waiter of `r`. -/
theorem Sound.move (h : s.Sound) (hwf : rt.Wf) {r : Nat} {q : Request}
    (hheap : rt.heap = update s.runtime.heap r q) (halloc : rt.allocated = s.runtime.allocated)
    (hreplied : q.replied = (s.runtime.heap r).replied)
    (hstatus : q.status = (s.runtime.heap r).status)
    (hlen : q.actualResponseLen = (s.runtime.heap r).actualResponseLen)
    (hbuf : q.responseBuf = (s.runtime.heap r).responseBuf)
    (hends : q.pc.Ends (s.traces r).read (s.runtime.heap r).responseBuf.length)
    (hpc : q.pc ≠ .unallocated) : ({ s with runtime := rt } : Transfers).Sound := by
  have hput := h.put hwf (s.traces r) hheap halloc
    ((h.request r).move hreplied hstatus hlen hbuf hends hpc) (congrArg List.length hbuf)
  rwa [setTrace_self] at hput

/-- A step that leaves every request alone. -/
theorem Sound.keep (h : s.Sound) (hwf : rt.Wf) (hheap : rt.heap = s.runtime.heap)
    (halloc : rt.allocated = s.runtime.allocated) : ({ s with runtime := rt } : Transfers).Sound where
  wf := hwf
  request := by
    intro r
    change (rt.heap r).Explained _
    rw [hheap]
    exact h.request r
  buffer := by
    intro r t ht
    change (rt.heap r).responseBuf.length = _
    rw [hheap]
    exact h.buffer r t ht
  fresh := fun r hr => h.fresh r (halloc ▸ hr)

/-- Allocation for a caller, or for someone else. -/
theorem Sound.alloc (h : s.Sound) {buf : List UInt8} (hrt : s.runtime.allocRequest buf = some rt)
    {calls : Nat → Option Transfer} (hother : ∀ r, r ≠ s.runtime.allocated → calls r = s.calls r)
    (hown : ∀ t, calls s.runtime.allocated = some t → buf.length = t.expected) :
    ({ s with runtime := rt, calls := calls } : Transfers).Sound := by
  have hwf := h.wf.allocRequest hrt
  have hfresh := (h.request s.runtime.allocated).fresh (h.wf.fresh _ (Nat.le_refl _))
  simp only [Runtime.allocRequest, Option.some.injEq] at hrt
  subst hrt
  refine ⟨hwf, ?_, ?_, ?_⟩
  · intro r
    change (update s.runtime.heap _ _ r).Explained (s.traces r)
    by_cases hr : r = s.runtime.allocated
    · rw [hr, update_self, hfresh]
      exact Request.explained_blank _ rfl rfl
    · rw [update_of_ne hr]
      exact h.request r
  · intro r t ht
    change (update s.runtime.heap _ _ r).responseBuf.length = _
    by_cases hr : r = s.runtime.allocated
    · rw [hr, update_self]
      exact hown t (hr ▸ ht)
    · rw [update_of_ne hr]
      exact h.buffer r t (hother r hr ▸ ht)
  · intro r hr
    have hne : r ≠ s.runtime.allocated := by
      change s.runtime.allocated + 1 ≤ r at hr
      omega
    exact (hother r hne).trans (h.fresh r (Nat.le_of_succ_le hr))

theorem Sound.call {t : Transfers} {tr : Transfer} {begun : Except Int (List UInt8)}
    {buf : List UInt8} (h : s.Sound) (hs : s.call tr begun buf = some t) : t.Sound := by
  unfold Transfers.call at hs
  split at hs
  · cases hs
  · split at hs
    · rename_i hlen
      obtain ⟨rt, hrt, rfl⟩ := Option.map_eq_some_iff.mp hs
      apply h.alloc hrt
      · intro r hr
        exact update_of_ne hr _ _
      · intro t ht
        rw [update_self] at ht
        cases ht
        exact hlen
    · cases hs

theorem Sound.reply {t : Transfers} {id generation : Nat} {payload : List UInt8} (h : s.Sound)
    (hs : s.reply id generation payload = some t) : t.Sound := by
  unfold Transfers.reply at hs
  split at hs
  · cases hs
    exact h
  · rename_i p _
    obtain ⟨rt, hrt, rfl⟩ := Option.map_eq_some_iff.mp hs
    have hwf := h.wf.cmdReply hrt
    unfold noteReply
    obtain ⟨halloc, ⟨haccepts, hheap⟩ | ⟨r, haccepts, hindex, hheap⟩⟩ :=
      Runtime.cmdReply_accepts hrt
    · rw [haccepts]
      exact h.keep hwf hheap halloc
    · rw [haccepts]
      have hlisted := (h.wf.indexed id r hindex).1
      have hpc : (s.runtime.heap r).pc ≠ .unallocated := by
        intro hpc
        rw [(h.wf.request r).listed_eq, hpc] at hlisted
        cases hlisted
      exact h.put hwf _ hheap halloc ((h.request r).accept hpc p)
        (Request.accept_buf_length _ _ _)

theorem Sound.publish {r : Nat} {stored full : Bool} (h : s.Sound)
    (hrt : s.runtime.publish r stored full = some rt) :
    ({ s with runtime := rt } : Transfers).Sound := by
  have hwf := h.wf.publish hrt
  have hneg := Runtime.publish_refusing hrt
  obtain ⟨_, hpc, ⟨_, _, _, _, rfl⟩ | ⟨status, _, _, rfl⟩⟩ := Runtime.publish_cases hrt
  · have hread := (h.request r).ends
    rw [hpc] at hread
    exact h.move hwf rfl rfl rfl rfl rfl rfl hread (fun hun => nomatch hun)
  · have hread := (h.request r).ends
    rw [hpc] at hread
    have hstatus : status < 0 := by
      apply hneg
      change (update s.runtime.heap r _ r).pc = _
      rw [update_self]
    exact h.move hwf rfl rfl rfl rfl rfl rfl ⟨hread, hstatus⟩ (fun hun => nomatch hun)

theorem Sound.unlink {r : Nat} (h : s.Sound) (hrt : s.runtime.unlink r = some rt) :
    ({ s with runtime := rt } : Transfers).Sound := by
  have hwf := h.wf.unlink hrt
  have hends := (h.request r).ends
  -- Either way the request is delisted, which keeps the outcome.
  have hdelist : ∀ pc, (s.runtime.delist r pc).heap = update s.runtime.heap r
      { s.runtime.heap r with listed := false, pc := pc } ∨
      (s.runtime.delist r pc).heap = update s.runtime.heap r { s.runtime.heap r with pc := pc } := by
    intro pc
    unfold Runtime.delist
    split
    · exact .inl rfl
    · exact .inr rfl
  have halloc : ∀ pc, (s.runtime.delist r pc).allocated = s.runtime.allocated := by
    intro pc
    unfold Runtime.delist
    split <;> rfl
  obtain ⟨_, ⟨hpc, rfl⟩ | ⟨status, len, hpc, rfl⟩⟩ := Runtime.unlink_cases hrt
  · rw [hpc] at hends
    rcases hdelist (.unlinked eTimedOut 0) with hheap | hheap
    · exact h.move hwf hheap (halloc _) rfl rfl rfl rfl (.inr ⟨hends, rfl, rfl⟩)
        (fun hun => nomatch hun)
    · exact h.move hwf hheap (halloc _) rfl rfl rfl rfl (.inr ⟨hends, rfl, rfl⟩)
        (fun hun => nomatch hun)
  · rw [hpc] at hends
    rcases hdelist (.unlinked status len) with hheap | hheap
    · exact h.move hwf hheap (halloc _) rfl rfl rfl rfl (.inl hends) (fun hun => nomatch hun)
    · exact h.move hwf hheap (halloc _) rfl rfl rfl rfl (.inl hends) (fun hun => nomatch hun)

theorem Sound.readOutcome {r : Nat} (h : s.Sound) (hrt : s.runtime.readOutcome r = some rt) :
    ({ s.noteRead r with runtime := rt } : Transfers).Sound := by
  have hwf := h.wf.readOutcome hrt
  obtain ⟨hpc, rfl⟩ := Runtime.readOutcome_cases hrt
  have hreplied := (h.wf.request r).woken_replied (.inl hpc)
  have hread := (h.request r).ends
  rw [hpc] at hread
  exact h.put hwf _ rfl rfl ((h.request r).readOutcome hreplied hread) rfl

theorem Sound.failFill (h : s.Sound) (hrt : s.runtime.failFill = some rt) :
    ({ s.noteFail with runtime := rt } : Transfers).Sound := by
  have hwf := h.wf.failFill hrt
  obtain ⟨cause, r, pending, hlock, hcase⟩ := Runtime.failFill_cases hrt
  have hlisted := h.wf.pending_listed _ hlock r List.mem_cons_self
  have hpc : (s.runtime.heap r).pc ≠ .unallocated := by
    intro hpc
    rw [(h.wf.request r).listed_eq, hpc] at hlisted
    cases hlisted
  unfold noteFail
  rw [hlock]
  dsimp only
  obtain ⟨hreplied, rfl⟩ | ⟨hreplied, rfl⟩ := hcase
  · rw [if_pos hreplied]
    exact h.keep hwf rfl rfl
  · rw [if_neg (by rw [hreplied]; exact Bool.false_ne_true)]
    exact h.put hwf _ rfl rfl ((h.request r).fail hpc) rfl

-- `complete_all` only concerns the waiter's sleep.
theorem Sound.complete {r : Nat} (h : s.Sound) (hwf : rt.Wf)
    (hreplied : (s.runtime.heap r).replied = true)
    (hheap : rt.heap = update s.runtime.heap r { s.runtime.heap r with done := true })
    (halloc : rt.allocated = s.runtime.allocated) :
    ({ s with runtime := rt } : Transfers).Sound := by
  refine h.move hwf hheap halloc rfl rfl rfl rfl (h.request r).ends fun hpc => ?_
  rw [((h.wf.request r).early (.inl hpc)).1] at hreplied
  cases hreplied

theorem Sound.plainStep {label : RequestStep} (h : s.Sound)
    (hreply : ∀ id generation status data, label ≠ .cmdReply id generation status data)
    (hread : ∀ r, label ≠ .readOutcome r) (hfail : label ≠ .failFill)
    (hrt : s.runtime.step label = some rt) : ({ s with runtime := rt } : Transfers).Sound := by
  have hwf := h.wf.step hrt
  cases label with
  | allocRequest buf =>
    exact h.alloc hrt (fun _ _ => rfl)
      (fun t ht => nomatch (h.fresh s.runtime.allocated (Nat.le_refl _)).symm.trans ht)
  | publish r stored full => exact h.publish hrt
  | expire r =>
    have hends := (h.request r).ends
    obtain ⟨hpc, _, rfl⟩ := Runtime.expire_cases hrt
    rw [hpc] at hends
    exact h.move hwf rfl rfl rfl rfl rfl rfl hends (fun hun => nomatch hun)
  | wake r =>
    have hends := (h.request r).ends
    obtain ⟨hpc, _, rfl⟩ := Runtime.wake_cases hrt
    rw [hpc] at hends
    exact h.move hwf rfl rfl rfl rfl rfl rfl hends (fun hun => nomatch hun)
  | readOutcome r => exact absurd rfl (hread r)
  | unlink r => exact h.unlink hrt
  | freeRequest r =>
    have hends := (h.request r).ends
    obtain ⟨status, len, hpc, rfl⟩ | ⟨status, hpc, rfl⟩ := Runtime.freeRequest_cases hrt
    · rw [hpc] at hends
      exact h.move hwf rfl rfl rfl rfl rfl rfl hends (fun hun => nomatch hun)
    · rw [hpc] at hends
      exact h.move hwf rfl rfl rfl rfl rfl rfl hends (fun hun => nomatch hun)
  | cmdReply id generation status data => exact absurd rfl (hreply id generation status data)
  | completeReply r =>
    obtain ⟨hmem, rfl⟩ := Runtime.completeReply_cases hrt
    exact h.complete hwf (h.wf.completing_replied r hmem) rfl rfl
  | failBegin cause =>
    obtain ⟨_, ⟨_, rfl⟩ | ⟨_, rfl⟩⟩ := Runtime.failBegin_cases hrt
    · exact h.keep hwf rfl rfl
    · exact h.keep hwf rfl rfl
  | failFill => exact absurd rfl hfail
  | failComplete =>
    obtain ⟨_, _, r, hlock, rfl⟩ := Runtime.failComplete_cases hrt
    exact h.complete hwf (h.wf.filled_listed _ r hlock rfl).2 rfl rfl
  | failEnd =>
    obtain ⟨_, rfl⟩ | ⟨_, rfl⟩ := Runtime.failEnd_cases hrt
    · exact h.keep hwf rfl rfl
    · exact h.keep hwf rfl rfl
  | bridgeOpen =>
    obtain ⟨_, rfl | ⟨_, rfl⟩⟩ := Runtime.bridgeOpen_cases hrt
    · exact h
    · exact h.keep hwf rfl rfl
  | bridgeStart limit =>
    obtain ⟨_, _, _, rfl⟩ := Runtime.bridgeStart_cases hrt
    exact h.keep hwf rfl rfl

theorem Sound.step {t : Transfers} {label : TransferStep} (h : s.Sound)
    (hs : s.step label = some t) : t.Sound := by
  cases label with
  | i2c dev msgs buf => exact h.call hs
  | spi dev spi xfers buf => exact h.call hs
  | reply id generation payload => exact h.reply hs
  | runtime label =>
    change s.runtimeStep label = some t at hs
    unfold runtimeStep at hs
    split at hs
    · cases hs
    · obtain ⟨rt, hrt, rfl⟩ := Option.map_eq_some_iff.mp hs
      exact h.readOutcome hrt
    · obtain ⟨rt, hrt, rfl⟩ := Option.map_eq_some_iff.mp hs
      exact h.failFill hrt
    · rename_i hreply hread hfail
      obtain ⟨rt, hrt, rfl⟩ := Option.map_eq_some_iff.mp hs
      exact h.plainStep hreply hread hfail hrt

theorem sound_of_reach (h : Reach Transfers.step anyStep Transfers.init s) : s.Sound :=
  h.invariant sound_init fun _ _ _ hsound _ hs => hsound.step hs

/-- What a finished call was answered with. -/
theorem Sound.sent_cases (h : s.Sound) {r : Nat} {status : Int} {len : Nat}
    (hsent : s.sent r = some (status, len)) :
    (∃ f, (s.traces r).read = some f ∧
        f.outcome (s.runtime.heap r).responseBuf.length = (status, len)) ∨
      (s.traces r).read = none ∧ status < 0 := by
  have hends := (h.request r).ends
  unfold Transfers.sent at hsent
  split at hsent
  · rename_i hpc
    cases hsent
    rw [hpc] at hends
    rcases hends with hread | ⟨hread, hstatus, _⟩
    · exact .inl hread
    · rw [hstatus]
      exact .inr ⟨hread, by decide⟩
  · rename_i hpc
    cases hsent
    rw [hpc] at hends
    exact .inr hends
  · cases hsent

/-! ## Reports -/

/-- The call read a reply with status 0 that covers all the bytes it waited for, and these are what
its buffer holds. -/
def Complete (s : Transfers) (r expected : Nat) : Prop :=
  ∃ p, (s.traces r).read = some (.reply p) ∧ p.status = 0 ∧ expected ≤ p.data.length ∧
    (s.runtime.heap r).responseBuf = p.data.take expected

/-- The caller sees success, with the reply in its buffers, for a complete answer, and an error
otherwise. -/
def Reports (s : Transfers) (r : Nat) (status : Int) (len : Nat) : Transfer → Prop
  | .i2c msgs =>
    let replyBuf := (s.runtime.heap r).responseBuf
    let ret := i2cExecEnd msgs status len replyBuf
    (ret.1 = msgs.length ∧ s.Complete r (i2cRxLen msgs) ∧ ret.2 = i2cScatter replyBuf 0 msgs) ∨
      ret.1 < 0
  | .spi xfers =>
    let replyBuf := (s.runtime.heap r).responseBuf
    let ret := spiExecEnd xfers status len replyBuf
    let done := spiCompletion ret.1
    (done.status = 0 ∧ done.actualLength = spiTotalLen xfers ∧ s.Complete r (spiTotalLen xfers) ∧
        ret.2 = spiScatter replyBuf 0 xfers) ∨
      done.status < 0

/-- The reply that `send_request` read has a positive status. -/
def PositiveReply (s : Transfers) (r : Nat) : Prop :=
  ∃ p, (s.traces r).read = some (.reply p) ∧ 0 < p.status

/-- The reply that `send_request` read is complete, and the replies that were accepted after it and
before the request left the index have put another byte in one of its places. -/
def Overwritten (s : Transfers) (r expected : Nat) : Prop :=
  ∃ p, (s.traces r).read = some (.reply p) ∧ p.status = 0 ∧ expected ≤ p.data.length ∧
    ∃ i < expected, p.byteAfter (s.traces r).late i ≠ p.data[i]?

theorem Complete.not_positive {r expected : Nat} (h : s.Complete r expected) :
    ¬ s.PositiveReply r := by
  rintro ⟨p, hread, hpos⟩
  obtain ⟨p', hread', hzero, _⟩ := h
  rw [hread] at hread'
  cases hread'
  omega

-- The buffer holds the reply, byte by byte, unless a late one has changed it.
theorem Sound.complete_iff (h : s.Sound) {r expected : Nat} {p : Reply}
    (hbuf : (s.runtime.heap r).responseBuf.length = expected)
    (hread : (s.traces r).read = some (.reply p)) (hzero : p.status = 0)
    (hlen : expected ≤ p.data.length) : s.Complete r expected ↔ ¬ s.Overwritten r expected := by
  have hbytes := (h.request r).bytes p hread hzero
  constructor
  · rintro ⟨p₁, hread₁, _, _, heq⟩ ⟨p₂, hread₂, _, _, i, hi, hne⟩
    rw [hread] at hread₁ hread₂
    cases hread₁
    cases hread₂
    apply hne
    rw [← hbytes i (by omega), heq, List.getElem?_take_of_lt hi]
  · intro hnot
    refine ⟨p, hread, hzero, hlen, List.ext_getElem? fun i => ?_⟩
    by_cases hi : i < expected
    · rw [hbytes i (by omega), List.getElem?_take_of_lt hi]
      by_contra hne
      exact hnot ⟨p, hread, hzero, hlen, i, hi, hne⟩
    · rw [List.getElem?_eq_none (by omega), List.getElem?_eq_none (by
        rw [List.length_take]
        omega)]

theorem spiCompletion_neg {ret : Int} (h : ret < 0) : (spiCompletion ret).status < 0 := by
  rw [spiCompletion, if_pos h]
  exact h

theorem spiCompletion_natCast (n : Nat) : spiCompletion n = ⟨0, n⟩ := by
  unfold spiCompletion
  rw [if_neg (by omega)]
  congr 1
  split
  · rfl
  · omega

-- Both callers: a status that is not 0 is handed on.
theorem reports_of_neg (s : Transfers) (r : Nat) (t : Transfer) {status : Int} {len : Nat}
    (hneg : status < 0) : s.Reports r status len t := by
  have hne : status ≠ 0 := by omega
  cases t with
  | i2c msgs =>
    refine .inr ?_
    simp only [i2cExecEnd, if_pos hne, hneg]
  | spi xfers =>
    refine .inr (spiCompletion_neg ?_)
    simp only [spiExecEnd, if_pos hne, hneg]

theorem not_reports_of_pos {r : Nat} {t : Transfer} {status : Int} {len : Nat}
    (hpos : 0 < status) (hreply : s.PositiveReply r) : ¬ s.Reports r status len t := by
  have hne : status ≠ 0 := by omega
  cases t with
  | i2c msgs =>
    rintro (⟨_, hcomplete, _⟩ | hneg)
    · exact hcomplete.not_positive hreply
    · simp only [i2cExecEnd, if_pos hne] at hneg
      omega
  | spi xfers =>
    rintro (⟨_, _, hcomplete, _⟩ | hneg)
    · exact hcomplete.not_positive hreply
    · simp only [spiExecEnd, if_pos hne, spiCompletion] at hneg
      split at hneg
      · omega
      · omega

/-- The length that a caller compares with the one it waits for. -/
def receivedLen (t : Transfer) (len : Nat) : Nat := if t.expected ≠ 0 then len else 0

theorem i2cExecEnd_zero {msgs : List I2cMsg} {len : Nat} {replyBuf : List UInt8} :
    i2cExecEnd msgs 0 len replyBuf =
      if receivedLen (.i2c msgs) len = (Transfer.i2c msgs).expected then
        ((msgs.length : Int), i2cScatter replyBuf 0 msgs)
      else (eProto, msgs.map (·.buf)) := by
  rw [i2cExecEnd, if_neg (fun hne => hne rfl), ite_not]
  rfl

theorem spiExecEnd_zero {xfers : List SpiTransfer} {len : Nat} {replyBuf : List UInt8} :
    spiExecEnd xfers 0 len replyBuf =
      if receivedLen (.spi xfers) len = (Transfer.spi xfers).expected then
        ((spiTotalLen xfers : Int), spiScatter replyBuf 0 xfers)
      else (eProto, xfers.map (·.rxBuf)) := by
  rw [spiExecEnd, if_neg (fun hne => hne rfl), ite_not]
  rfl

-- A short reply is no complete one.
theorem not_overwritten_of_lt {r expected : Nat} {p : Reply}
    (hread : (s.traces r).read = some (.reply p)) (hlen : p.data.length < expected) :
    ¬ s.Overwritten r expected := by
  rintro ⟨p', hread', _, hle, _⟩
  rw [hread] at hread'
  cases hread'
  omega

-- Status 0: the length decides, and it is the whole length only for a reply that covers it.
theorem Sound.reports_of_zero (h : s.Sound) {r : Nat} {t : Transfer} (hcall : s.calls r = some t)
    {p : Reply} (hread : (s.traces r).read = some (.reply p)) (hzero : p.status = 0) {len : Nat}
    (hlen : len = if t.expected ≠ 0 then min t.expected p.data.length else 0) :
    s.Reports r 0 len t ↔ ¬ s.Overwritten r t.expected := by
  have hbuf := h.buffer r t hcall
  have hreplyLen : receivedLen t len = t.expected ↔ t.expected ≤ p.data.length := by
    unfold receivedLen
    split
    · rename_i hne
      rw [hlen, if_pos hne]
      omega
    · omega
  by_cases hcover : t.expected ≤ p.data.length
  · have hsame := hreplyLen.mpr hcover
    rw [← h.complete_iff hbuf hread hzero hcover]
    cases t with
    | i2c msgs =>
      dsimp only [Reports]
      rw [i2cExecEnd_zero, if_pos hsame]
      constructor
      · rintro (⟨_, hcomplete, _⟩ | hneg)
        · exact hcomplete
        · exact absurd hneg (Int.not_lt.mpr (Int.natCast_nonneg _))
      · exact fun hcomplete => .inl ⟨rfl, hcomplete, rfl⟩
    | spi xfers =>
      dsimp only [Reports]
      rw [spiExecEnd_zero, if_pos hsame]
      dsimp only
      rw [spiCompletion_natCast]
      constructor
      · rintro (⟨_, _, hcomplete, _⟩ | hneg)
        · exact hcomplete
        · exact absurd hneg (Int.lt_irrefl 0)
      · exact fun hcomplete => .inl ⟨rfl, rfl, hcomplete, rfl⟩
  · have hdiff := mt hreplyLen.mp hcover
    refine iff_of_true ?_ (not_overwritten_of_lt hread (by omega))
    cases t with
    | i2c msgs =>
      refine .inr ?_
      rw [i2cExecEnd_zero, if_neg hdiff]
      exact show eProto < 0 by decide
    | spi xfers =>
      refine .inr ?_
      rw [spiExecEnd_zero, if_neg hdiff]
      exact spiCompletion_neg (show eProto < 0 by decide)

-- A reply whose status is not 0 overwrites nothing that was complete.
theorem not_overwritten {r expected : Nat}
    (hread : ∀ p, (s.traces r).read = some (.reply p) → p.status ≠ 0) :
    ¬ s.Overwritten r expected := by
  rintro ⟨p, hp, hzero, _⟩
  exact hread p hp hzero

theorem Sound.reports_iff (h : s.Sound) {r : Nat} {t : Transfer} {status : Int} {len : Nat}
    (hcall : s.calls r = some t) (hsent : s.sent r = some (status, len)) :
    s.Reports r status len t ↔ ¬ s.PositiveReply r ∧ ¬ s.Overwritten r t.expected := by
  obtain ⟨f, hread, houtcome⟩ | ⟨hread, hneg⟩ := h.sent_cases hsent
  · rw [h.buffer r t hcall] at houtcome
    cases f with
    | failed =>
      cases houtcome
      have hnone : ∀ p, (s.traces r).read ≠ some (.reply p) := by
        intro p hp
        rw [hread] at hp
        cases hp
      exact iff_of_true (reports_of_neg s r t (by decide))
        ⟨fun ⟨p, hp, _⟩ => hnone p hp, not_overwritten fun p hp => (hnone p hp).elim⟩
    | reply p =>
      obtain ⟨hstatus, hlen⟩ := Prod.mk.inj houtcome
      have hsame : ∀ p', (s.traces r).read = some (.reply p') → p'.status = status := by
        intro p' hp'
        rw [hread] at hp'
        cases hp'
        exact hstatus
      have hpositive : s.PositiveReply r ↔ 0 < status := by
        constructor
        · rintro ⟨p', hp', hpos⟩
          exact hsame p' hp' ▸ hpos
        · exact fun hpos => ⟨p, hread, hstatus ▸ hpos⟩
      rcases Int.lt_trichotomy status 0 with hneg | hzero | hpos
      · refine iff_of_true (reports_of_neg s r t hneg) ⟨fun hp => ?_, not_overwritten fun p' hp' => ?_⟩
        · have := hpositive.mp hp
          omega
        · rw [hsame p' hp']
          omega
      · subst hzero
        have hreports : s.Reports r 0 len t ↔ ¬ s.Overwritten r t.expected :=
          h.reports_of_zero hcall hread hstatus (by
            rw [← hlen]
            simp only [hstatus, true_and])
        exact hreports.trans ⟨fun hnot => ⟨fun hp => absurd (hpositive.mp hp) (by decide), hnot⟩,
          And.right⟩
      · exact iff_of_false (not_reports_of_pos hpos (hpositive.mpr hpos))
          fun hnot => hnot.1 (hpositive.mpr hpos)
  · have hnone : ∀ p, (s.traces r).read ≠ some (.reply p) := by
      intro p hp
      rw [hread] at hp
      cases hp
    exact iff_of_true (reports_of_neg s r t hneg)
      ⟨fun ⟨p, hp, _⟩ => hnone p hp, not_overwritten fun p hp => (hnone p hp).elim⟩

/-! ## Errors before a request is sent -/

theorem i2cExecBegin_error {dev : TransferDevice} {msgs : List I2cMsg} {reqMem replyMem : Bool}
    {e : Int} (h : i2cExecBegin dev msgs reqMem replyMem = .error e) : e < 0 := by
  unfold i2cExecBegin at h
  split at h
  · cases h
    decide
  · repeat' split at h
    all_goals first | cases h; decide | cases h

theorem spiExecBegin_error {dev : TransferDevice} {spi : SpiDevice} {xfers : List SpiTransfer}
    {reqMem replyMem : Bool} {e : Int}
    (h : spiExecBegin dev spi xfers reqMem replyMem = .error e) : e < 0 := by
  unfold spiExecBegin at h
  repeat' split at h
  all_goals first | cases h; decide | cases h

end Transfers

/-- `transfer_one_message` for what `spi_exec_message` returned; without a device the length
stays. -/
def transferOneMessage (msg : SpiCompletion) : Option Int → SpiCompletion
  | none => { msg with status := eNoDev }
  | some ret => spiCompletion ret

/-- Transfers that send nothing report an error: a message for no device, a list that the encoder
refuses, a request that cannot be allocated.  Along every run, a transfer that was sent reports
success exactly for a complete answer, and an error otherwise, if and only if the reply that it read
has no positive status and no late reply has changed its data. -/
theorem success_reported_iff {s : Transfers} (hs : Reach Transfers.step anyStep Transfers.init s) :
    (∀ msg, (transferOneMessage msg none).status < 0) ∧
    (∀ dev msgs reqMem replyMem e, i2cExecBegin dev msgs reqMem replyMem = .error e → e < 0) ∧
    (∀ dev spi xfers reqMem replyMem e, spiExecBegin dev spi xfers reqMem replyMem = .error e →
      ∀ msg, (transferOneMessage msg (some e)).status < 0) ∧
    (∀ r t, s.Reports r eNoMem 0 t) ∧
    ∀ r t status len, s.calls r = some t → s.sent r = some (status, len) →
      (s.Reports r status len t ↔ ¬ s.PositiveReply r ∧ ¬ s.Overwritten r t.expected) := by
  refine ⟨fun _ => show eNoDev < 0 by decide, ?_, ?_, ?_, ?_⟩
  · intro dev msgs reqMem replyMem e h
    exact Transfers.i2cExecBegin_error h
  · intro dev spi xfers reqMem replyMem e h msg
    exact Transfers.spiCompletion_neg (Transfers.spiExecBegin_error h)
  · exact fun r t => Transfers.reports_of_neg s r t (by decide)
  · intro r t status len hcall hsent
    exact (Transfers.sound_of_reach hs).reports_iff hcall hsent

/-! ## Schedules -/

/-- One byte to read. -/
def oneRead : List I2cMsg := [⟨0x50, 1, 1, [0], rfl⟩]

-- A call is published, answered with `payload` and returns.
def answered (payload : List UInt8) : List TransferStep :=
  [.runtime .bridgeOpen, .runtime (.bridgeStart 8), .i2c ⟨1024, 1⟩ oneRead [0],
    .runtime (.publish 0 true false), .reply 1 0 payload, .runtime (.completeReply 0),
    .runtime (.wake 0), .runtime (.readOutcome 0), .runtime (.unlink 0), .runtime (.freeRequest 0)]

theorem answered_run (payload : List UInt8) (p : Reply) (status : Int) (len : Nat)
    (hrun : (exec (guarded Transfers.step anyStep) Transfers.init (answered payload)).map
      (fun s => (s.sent 0, (s.traces 0).read, (s.traces 0).late)) =
        some (some (status, len), some (.reply p), []))
    (hcall : (exec (guarded Transfers.step anyStep) Transfers.init (answered payload)).map
      (fun s => s.calls 0) = some (some (.i2c oneRead))) :
    ∃ s, Reach Transfers.step anyStep Transfers.init s ∧ s.calls 0 = some (.i2c oneRead) ∧
      s.sent 0 = some (status, len) ∧ (s.traces 0).read = some (.reply p) ∧
      (s.traces 0).late = [] := by
  obtain ⟨s, hexec, hview⟩ := Option.map_eq_some_iff.mp hrun
  rw [hexec] at hcall
  obtain ⟨hsent, htrace⟩ := Prod.mk.inj hview
  obtain ⟨hread, hlate⟩ := Prod.mk.inj htrace
  exact ⟨s, reach_of_exec hexec, Option.some.inj hcall, hsent, hread, hlate⟩

/-- A whole reply with status 0. -/
theorem success_reported_one_byte :
    ∃ s : Transfers, s.calls 0 = some (.i2c oneRead) ∧ s.sent 0 = some (0, 1) ∧
      s.Reports 0 0 1 (.i2c oneRead) := by
  obtain ⟨s, hreach, hcall, hsent, hread, hlate⟩ :=
    answered_run (leBytes 4 0 ++ leBytes 4 1 ++ [7]) ⟨0, [7]⟩ 0 1 (by decide +kernel) rfl
  refine ⟨s, hcall, hsent, ((success_reported_iff hreach).2.2.2.2 0 _ 0 1 hcall hsent).mpr ⟨?_, ?_⟩⟩
  · rintro ⟨p, hp, hpos⟩
    rw [hread] at hp
    cases hp
    exact absurd hpos (by decide)
  · rintro ⟨p, _, _, _, i, _, hne⟩
    rw [hlate] at hne
    exact hne rfl

/-- A reply with status 1 and no data: `i2c_exec` returns 1 for its one message. -/
theorem positive_status_counts_as_success :
    ∃ s, Reach Transfers.step anyStep Transfers.init s ∧ s.calls 0 = some (.i2c oneRead) ∧
      s.sent 0 = some (1, 0) ∧
      (i2cExecEnd oneRead 1 0 (s.runtime.heap 0).responseBuf).1 = oneRead.length ∧
      ¬ s.Reports 0 1 0 (.i2c oneRead) := by
  obtain ⟨s, hreach, hcall, hsent, hread, _⟩ :=
    answered_run (leBytes 4 1 ++ leBytes 4 0) ⟨1, []⟩ 1 0 (by decide +kernel) rfl
  refine ⟨s, hreach, hcall, hsent, rfl, ?_⟩
  exact Transfers.not_reports_of_pos (by decide) ⟨_, hread, by decide⟩

end Sensorium.Kernel

import Sensorium.Bridge.RingFifo

/-!
# The doorbell of the transport ring

The kernel publishes a request and then signals an eventfd, both under `runtime->lock`.  The daemon
reads frames without that lock: it looks at the ring, sleeps in `select` on the eventfd, clears it
and drains the ring.  A sleeping reader has nothing left to read; the timeout of `select` is never
needed for that.
-/

namespace Sensorium.Bridge

open Lib

/-! ## The reader -/

/-- Where `read_frame` is.  The head of the ring is the reader's own, so its two reads of the cursors
are one look at the tail. -/
inductive ReadPc
  | outside
  | looking
  | waiting
  | selecting
  | timedOut
  | clearing
  | draining
  | fetched
  | holding (m : Message)
  | advancing (m : Message)

/-- The transport ring, the counter of the eventfd, and the reader with its `pending_transport` and
the frames it has returned.  `ringing` is the kernel between the new tail and the signal. -/
structure Doorbell where
  ring : Ring
  counter : Nat
  ringing : Bool
  pc : ReadPc
  pending : List Message
  frames : List Message

inductive DoorbellStep
  | kernel (label : RingStep)
  | signal
  | reader
  | timeout

def Doorbell.init (descs : Nat → Desc) (zone : Nat → UInt8) : Doorbell :=
  ⟨.init descs zone, 0, false, .outside, [], []⟩

/-- The steps of `queue_transport_locked` up to the new tail. -/
def RingStep.submits : RingStep → Bool
  | .submit _ | .reserve | .copyPayload | .writeDesc | .publishPayloadTail | .publishTail => true
  | .fetch | .consume | .publishHead | .publishPayloadHead => false

def RingStep.publishes : RingStep → Bool
  | .publishTail => true
  | _ => false

namespace Doorbell

variable (c : RingConfig) (s : Doorbell)

/-- A step of the drain loop. -/
def drain (label : RingStep) (pc : ReadPc) (pending : List Message) : Option Doorbell :=
  (s.ring.step c label).map fun ring =>
    { s with
      ring := ring
      pc := pc
      pending := pending }

/-- What the reader does next.  It is blocked in `select` while the counter is 0; a descriptor of
another session raises. -/
def reader : Option Doorbell :=
  match s.pc with
  | .outside => some { s with pc := .looking }
  | .looking =>
    match s.pending with
    | m :: ms =>
      some { s with
        pc := .outside
        pending := ms
        frames := s.frames ++ [m] }
    | [] => some { s with pc := .waiting }
  | .waiting | .timedOut =>
    some { s with pc := if s.ring.head ≠ s.ring.tail then .draining else .selecting }
  | .selecting => if 0 < s.counter then some { s with pc := .clearing } else none
  | .clearing =>
    some { s with
      pc := .draining
      counter := 0 }
  | .draining =>
    if s.ring.head = s.ring.tail then some { s with pc := .looking }
    else s.drain c .fetch .fetched s.pending
  | .fetched =>
    match s.ring.consumer with
    | .fetched _ desc =>
      let payload := readWindow s.ring.zone c.zoneSize desc.payloadOffset desc.payloadLen
      s.drain c .consume (.holding (messageOf c.kind desc payload)) s.pending
    | _ => none
  | .holding m => s.drain c .publishHead (.advancing m) s.pending
  | .advancing m => s.drain c .publishPayloadHead .draining (s.pending ++ [m])

def step : DoorbellStep → Option Doorbell
  | .kernel label =>
    if label.submits && !s.ringing then
      (s.ring.step c label).map fun ring =>
        { s with
          ring := ring
          ringing := label.publishes }
    else none
  | .signal =>
    if s.ringing then
      some { s with
        counter := s.counter + 1
        ringing := false }
    else none
  | .reader => s.reader c
  | .timeout =>
    match s.pc with
    | .selecting => some { s with pc := .timedOut }
    | _ => none

/-- The cursors stay below `2 ^ 32`. -/
def BelowWrap : DoorbellStep → Prop
  | .kernel label => s.ring.BelowWrap c label
  | _ => True

instance (label : DoorbellStep) : Decidable (s.BelowWrap c label) :=
  match label with
  | .kernel label => inferInstanceAs (Decidable (s.ring.BelowWrap c label))
  | .signal | .reader | .timeout => .isTrue trivial

end Doorbell

/-! ## The invariant -/

/-- The frame that is out of the ring and not yet in `pending_transport`. -/
def ReadPc.inHand : ReadPc → List Message
  | .holding m | .advancing m => [m]
  | _ => []

/-- Where the drain loop stands when the reader is at `pc`. -/
def ReadPc.Drains : ReadPc → Consumer → Prop
  | .fetched, k => ∃ head desc, k = .fetched head desc
  | .holding _, k => ∃ head desc, k = .consumed head desc
  | .advancing _, k => ∃ desc, k = .advanced desc
  | _, k => k = .idle

/-- The reader has found `pending_transport` empty. -/
def ReadPc.foundNone : ReadPc → Bool
  | .waiting | .selecting | .timedOut | .clearing => true
  | _ => false

structure Doorbell.Good (c : RingConfig) (s : Doorbell) : Prop where
  ring : s.ring.Inv c
  drains : s.pc.Drains s.ring.consumer
  order : s.ring.delivered = s.frames ++ s.pending ++ s.pc.inHand
  none : s.pc.foundNone = true → s.pending = []
  -- what is published while the reader goes to sleep is announced
  awake : s.pc = .selecting → s.ring.head = s.ring.tail ∨ s.ringing = true ∨ 0 < s.counter

theorem Doorbell.good_init (c : RingConfig) (descs : Nat → Desc) (zone : Nat → UInt8) :
    (Doorbell.init descs zone).Good c where
  ring := Ring.inv_init c descs zone
  drains := rfl
  order := rfl
  none h := nomatch h
  awake h := nomatch h

/-- A submission leaves the consumer's side alone, and the tail until it publishes. -/
theorem Ring.step_submits {c : RingConfig} {s t : Ring} {label : RingStep}
    (hl : label.submits = true) (hs : s.step c label = some t) :
    t.consumer = s.consumer ∧ t.delivered = s.delivered ∧ t.head = s.head ∧
      (label.publishes = false → t.tail = s.tail ∧ t.accepted = s.accepted) := by
  cases label with
  | fetch | consume | publishHead | publishPayloadHead => cases hl
  | publishTail =>
    unfold Ring.step at hs
    cases hp : s.producer <;> simp only [hp, reduceCtorEq, Option.some.injEq] at hs
    subst hs
    exact ⟨rfl, rfl, rfl, fun h => by cases h⟩
  | _ =>
    simp only [Ring.step] at hs
    grind

/-! What the enabled steps of the consumer leave of the cursors. -/

section Enabled

variable {c : RingConfig} {s : Ring} {head : Nat} {desc : Desc}

theorem Ring.step_consume (h : s.consumer = .fetched head desc) :
    ∃ t, s.step c .consume = some t ∧ t.head = s.head ∧ t.tail = s.tail ∧
      t.accepted = s.accepted := by
  unfold Ring.step
  rw [h]
  exact ⟨_, rfl, rfl, rfl, rfl⟩

theorem Ring.step_publishHead (h : s.consumer = .consumed head desc) :
    ∃ t, s.step c .publishHead = some t ∧ t.head = u32 (head + 1) ∧ t.tail = s.tail ∧
      t.accepted = s.accepted := by
  unfold Ring.step
  rw [h]
  exact ⟨_, rfl, rfl, rfl, rfl⟩

theorem Ring.step_publishPayloadHead (h : s.consumer = .advanced desc) :
    ∃ t, s.step c .publishPayloadHead = some t ∧ t.head = s.head ∧ t.tail = s.tail ∧
      t.accepted = s.accepted := by
  unfold Ring.step
  rw [h]
  exact ⟨_, rfl, rfl, rfl, rfl⟩

end Enabled

namespace Doorbell.Good

variable {c : RingConfig} {s t : Doorbell}

/-- A step outside the ring. -/
theorem move (h : s.Good c) {pc : ReadPc} {counter : Nat}
    (hdrains : pc.Drains s.ring.consumer) (hhand : pc.inHand = s.pc.inHand)
    (hnone : pc.foundNone = true → s.pending = [])
    (hawake : pc = .selecting → s.ring.head = s.ring.tail ∨ s.ringing = true ∨ 0 < counter) :
    Good c { s with
      pc := pc
      counter := counter } where
  ring := h.ring
  drains := hdrains
  order := by
    rw [hhand]
    exact h.order
  none := hnone
  awake := hawake

theorem kernel (h : s.Good c) {label : RingStep} (hok : s.ring.BelowWrap c label)
    (hs : s.step c (.kernel label) = some t) : t.Good c := by
  simp only [step] at hs
  split at hs
  · rename_i hl
    rw [Bool.and_eq_true, Bool.not_eq_true'] at hl
    obtain ⟨r, hr, rfl⟩ := Option.map_eq_some_iff.mp hs
    obtain ⟨hconsumer, hdelivered, hhead, htail⟩ := Ring.step_submits hl.1 hr
    refine ⟨h.ring.step hok hr, ?_, ?_, h.none, fun hpc => ?_⟩
    · show s.pc.Drains r.consumer
      rw [hconsumer]
      exact h.drains
    · show r.delivered = _
      rw [hdelivered]
      exact h.order
    · show r.head = r.tail ∨ label.publishes = true ∨ _
      cases hp : label.publishes with
      | true => exact .inr (.inl rfl)
      | false =>
        rw [hhead, (htail hp).1]
        rcases h.awake hpc with heq | hringing | hpos
        · exact .inl heq
        · exact absurd (hl.2.symm.trans hringing) Bool.false_ne_true
        · exact .inr (.inr hpos)
  · cases hs

/-- A step of the drain loop. -/
theorem drain (h : s.Good c) {label : RingStep} {pc : ReadPc} {pending : List Message}
    (hok : s.ring.BelowWrap c label) (hs : s.drain c label pc pending = some t)
    (hdrains : ∀ r, s.ring.step c label = some r →
      pc.Drains r.consumer ∧ r.delivered = s.frames ++ pending ++ pc.inHand)
    (hpc : pc.foundNone = false) : t.Good c := by
  obtain ⟨r, hr, rfl⟩ := Option.map_eq_some_iff.mp hs
  obtain ⟨hconsumer, horder⟩ := hdrains r hr
  refine ⟨h.ring.step hok hr, hconsumer, horder, fun hnone => ?_, fun hsel => ?_⟩
  · exact absurd (hpc.symm.trans hnone) Bool.false_ne_true
  · rw [show pc = .selecting from hsel] at hpc
    cases hpc

/-- A look at the tail: the reader goes to sleep only if there is nothing. -/
theorem look (h : s.Good c) (hpc : s.pc.foundNone = true ∧ s.pc.inHand = []) :
    Good c { s with
      pc := if s.ring.head ≠ s.ring.tail then .draining else .selecting } := by
  have hidle : s.ring.consumer = .idle := by
    have hdrains := h.drains
    cases hp : s.pc with
    | waiting | selecting | timedOut | clearing =>
      rw [hp] at hdrains
      exact hdrains
    | outside | looking | draining | fetched | holding m | advancing m =>
      rw [hp] at hpc
      cases hpc.1
  by_cases hne : s.ring.head ≠ s.ring.tail
  · rw [if_pos hne]
    exact h.move hidle hpc.2.symm (fun hn => by cases hn) (fun hn => by cases hn)
  · rw [if_neg hne]
    exact h.move hidle hpc.2.symm (fun _ => h.none hpc.1) fun _ => .inl (not_not.mp hne)

theorem reader (h : s.Good c) (hs : s.reader c = some t) : t.Good c := by
  have hdrains := h.drains
  have horder := h.order
  unfold Doorbell.reader at hs
  split at hs
  · rename_i hpc
    cases hs
    rw [hpc] at hdrains
    exact h.move hdrains (by rw [hpc]; rfl) (fun hn => by cases hn) (fun hn => by cases hn)
  · rename_i hpc
    rw [hpc] at hdrains horder
    split at hs
    · rename_i m ms hpending
      cases hs
      refine ⟨h.ring, hdrains, ?_, (fun hn => by cases hn), fun hn => by cases hn⟩
      rw [hpending] at horder
      show s.ring.delivered = s.frames ++ [m] ++ ms ++ []
      rw [horder, List.append_assoc s.frames [m] ms]
      rfl
    · rename_i hpending
      cases hs
      exact h.move hdrains (by rw [hpc]; rfl) (fun _ => hpending) (fun hn => by cases hn)
  · rename_i hpc
    cases hs
    exact h.look (by rw [hpc]; exact ⟨rfl, rfl⟩)
  · rename_i hpc
    cases hs
    exact h.look (by rw [hpc]; exact ⟨rfl, rfl⟩)
  · rename_i hpc
    rw [hpc] at hdrains
    have hnone := h.none (by rw [hpc]; rfl)
    split at hs <;> cases hs
    exact h.move hdrains (by rw [hpc]; rfl) (fun _ => hnone) (fun hn => by cases hn)
  · rename_i hpc
    cases hs
    rw [hpc] at hdrains
    exact h.move hdrains (by rw [hpc]; rfl) (fun hn => by cases hn) (fun hn => by cases hn)
  · rename_i hpc
    rw [hpc] at hdrains horder
    split at hs
    · cases hs
      exact h.move hdrains (by rw [hpc]; rfl) (fun hn => by cases hn) (fun hn => by cases hn)
    · refine h.drain (by exact trivial) hs (fun r hr => ?_) rfl
      have hidle : s.ring.consumer = .idle := hdrains
      simp only [Ring.step, hidle] at hr
      split at hr
      · cases hr
      · split at hr <;> cases hr
        exact ⟨⟨_, _, rfl⟩, horder⟩
  · rename_i hpc
    rw [hpc] at hdrains horder
    split at hs
    · rename_i head desc hconsumer
      refine h.drain (by exact trivial) hs (fun r hr => ?_) rfl
      simp only [Ring.step, hconsumer] at hr
      cases hr
      refine ⟨⟨_, _, rfl⟩, ?_⟩
      show s.ring.delivered ++ [_] = s.frames ++ s.pending ++ [_]
      rw [horder]
      exact congrArg (· ++ _) (List.append_nil _)
    · cases hs
  · rename_i m hpc
    rw [hpc] at hdrains horder
    refine h.drain (by exact trivial) hs (fun r hr => ?_) rfl
    obtain ⟨head, desc, hconsumer⟩ := hdrains
    simp only [Ring.step, hconsumer] at hr
    cases hr
    exact ⟨⟨_, rfl⟩, horder⟩
  · rename_i m hpc
    rw [hpc] at hdrains horder
    refine h.drain (by exact trivial) hs (fun r hr => ?_) rfl
    obtain ⟨desc, hconsumer⟩ := hdrains
    simp only [Ring.step, hconsumer] at hr
    cases hr
    refine ⟨rfl, ?_⟩
    show s.ring.delivered = s.frames ++ (s.pending ++ [m]) ++ []
    rw [horder, List.append_nil, List.append_assoc]
    rfl

theorem step {label : DoorbellStep} (h : s.Good c) (hok : s.BelowWrap c label)
    (hs : s.step c label = some t) : t.Good c := by
  cases label with
  | kernel label => exact h.kernel hok hs
  | signal =>
    simp only [Doorbell.step] at hs
    split at hs <;> cases hs
    exact ⟨h.ring, h.drains, h.order, h.none, fun _ => .inr (.inr (Nat.succ_pos _))⟩
  | reader => exact h.reader hs
  | timeout =>
    simp only [Doorbell.step] at hs
    split at hs
    · rename_i hpc
      cases hs
      have hdrains := h.drains
      rw [hpc] at hdrains
      have hnone := h.none (by rw [hpc]; rfl)
      exact h.move hdrains (by rw [hpc]; rfl) (fun _ => hnone) (fun hn => by cases hn)
    · cases hs

theorem of_reach {descs : Nat → Desc} {zone : Nat → UInt8}
    (hr : Reach (Doorbell.step c) (Doorbell.BelowWrap c) (.init descs zone) s) : s.Good c :=
  hr.invariant (good_init c descs zone) fun _ _ _ h hok hs => h.step hok hs

/-- An empty ring outside the drain loop: everything published is in the reader's hands. -/
theorem caught_up (h : s.Good c) (hidle : s.ring.consumer = .idle) (hhand : s.pc.inHand = [])
    (heq : s.ring.head = s.ring.tail) : s.frames ++ s.pending = s.ring.accepted := by
  have hnext : s.ring.next = s.ring.head := by simp only [Ring.next, hidle]
  have horder := h.order
  rw [hhand, List.append_nil, h.ring.next_spec.1, hnext, heq, ← h.ring.count,
    List.take_length] at horder
  exact horder.symm

theorem frames_prefix (h : s.Good c) : s.frames <+: s.ring.accepted := by
  have htake : s.ring.delivered <+: s.ring.accepted := by
    rw [h.ring.next_spec.1]
    exact List.take_prefix _ _
  rw [h.order, List.append_assoc] at htake
  exact (List.prefix_append _ _).trans htake

end Doorbell.Good

/-! ## Progress -/

def ReadPc.rank : ReadPc → Nat
  | .holding _ => 0
  | .fetched => 1
  | .draining => 2
  | .advancing _ | .clearing => 3
  | .selecting => 4
  | .waiting | .timedOut => 5
  | .looking => 6
  | .outside => 7

/-- A bound on the reader's steps to its next frame. -/
def Doorbell.workLeft (s : Doorbell) : Nat :=
  match s.pc, s.pending with
  | .outside, _ :: _ => 2
  | .looking, _ :: _ => 1
  | pc, _ => 4 * (s.ring.tail - s.ring.head) + pc.rank

/-- The reader is not blocked: it comes closer to its next frame, or returns it. -/
structure Doorbell.Advances (c : RingConfig) (s t : Doorbell) : Prop where
  step : s.reader c = some t
  ringing : t.ringing = s.ringing
  accepted : t.ring.accepted = s.ring.accepted
  closer : t.frames = s.frames ∧ t.workLeft < s.workLeft ∨ ∃ m, t.frames = s.frames ++ [m]

namespace Doorbell.Good

variable {c : RingConfig} {s t : Doorbell}

/-- A step of the drain loop that is enabled. -/
theorem advances_drain {label : RingStep} {r : Ring} {pc : ReadPc} {pending : List Message}
    (hreader : s.reader c = s.drain c label pc pending) (hr : s.ring.step c label = some r)
    (haccepted : r.accepted = s.ring.accepted) (hpc : pc ≠ .outside ∧ pc ≠ .looking)
    (hless : 4 * (r.tail - r.head) + pc.rank < s.workLeft) : ∃ t, s.Advances c t := by
  refine ⟨{ s with ring := r, pc := pc, pending := pending }, ?_, rfl, haccepted,
    .inl ⟨rfl, ?_⟩⟩
  · rw [hreader, Doorbell.drain, hr]
    rfl
  · unfold workLeft at hless ⊢
    cases pc with
    | outside => exact absurd rfl hpc.1
    | looking => exact absurd rfl hpc.2
    | _ => exact hless

theorem advances (h : s.Good c) (hquiet : s.ringing = false) (hmore : s.frames ≠ s.ring.accepted) :
    ∃ t, s.Advances c t := by
  have hdrains := h.drains
  cases hpc : s.pc with
  | outside =>
    refine ⟨{ s with pc := .looking }, by rw [Doorbell.reader, hpc], rfl, rfl, .inl ⟨rfl, ?_⟩⟩
    unfold workLeft
    cases hpending : s.pending <;> simp [hpc, ReadPc.rank]
  | looking =>
    cases hpending : s.pending with
    | nil =>
      refine ⟨{ s with pc := .waiting }, by rw [Doorbell.reader, hpc]; simp [hpending], rfl, rfl,
        .inl ⟨rfl, ?_⟩⟩
      unfold workLeft
      simp [hpc, hpending, ReadPc.rank]
    | cons m ms =>
      refine ⟨{ s with pc := .outside, pending := ms, frames := s.frames ++ [m] }, ?_, rfl, rfl,
        .inr ⟨m, rfl⟩⟩
      rw [Doorbell.reader, hpc]
      simp [hpending]
  | waiting | timedOut =>
    rw [hpc] at hdrains
    have hpending := h.none (by rw [hpc]; rfl)
    have hne : s.ring.head ≠ s.ring.tail := by
      intro heq
      have hall := h.caught_up hdrains (by rw [hpc]; rfl) heq
      rw [hpending, List.append_nil] at hall
      exact hmore hall
    refine ⟨{ s with pc := .draining }, by rw [Doorbell.reader, hpc]; simp [hne], rfl, rfl,
      .inl ⟨rfl, ?_⟩⟩
    unfold workLeft
    simp [hpc, ReadPc.rank]
  | selecting =>
    rw [hpc] at hdrains
    have hpending := h.none (by rw [hpc]; rfl)
    have hpos : 0 < s.counter := by
      rcases h.awake hpc with heq | hringing | hpos
      · have hall := h.caught_up hdrains (by rw [hpc]; rfl) heq
        rw [hpending, List.append_nil] at hall
        exact absurd hall hmore
      · exact absurd (hquiet.symm.trans hringing) Bool.false_ne_true
      · exact hpos
    refine ⟨{ s with pc := .clearing }, by rw [Doorbell.reader, hpc]; simp [hpos], rfl, rfl,
      .inl ⟨rfl, ?_⟩⟩
    unfold workLeft
    simp [hpc, ReadPc.rank]
  | clearing =>
    refine ⟨{ s with pc := .draining, counter := 0 }, by rw [Doorbell.reader, hpc], rfl, rfl,
      .inl ⟨rfl, ?_⟩⟩
    unfold workLeft
    simp [hpc, ReadPc.rank]
  | draining =>
    rw [hpc] at hdrains
    have hidle : s.ring.consumer = .idle := hdrains
    by_cases heq : s.ring.head = s.ring.tail
    · -- the ring is drained, and what was in it is pending
      refine ⟨{ s with pc := .looking }, by rw [Doorbell.reader, hpc]; simp [heq], rfl, rfl,
        .inl ⟨rfl, ?_⟩⟩
      have hall := h.caught_up hidle (by rw [hpc]; rfl) heq
      unfold workLeft
      cases hpending : s.pending with
      | nil =>
        rw [hpending, List.append_nil] at hall
        exact absurd hall hmore
      | cons m ms => simp [hpc, ReadPc.rank]
    · have hlt : s.ring.head < s.ring.tail := by
        have := h.ring.head_le
        omega
      have hcontents : s.ring.contents c ≠ [] := by
        rw [h.ring.contents_eq, show s.ring.next = s.ring.head by simp only [Ring.next, hidle]]
        intro hnil
        have hlen := congrArg List.length hnil
        rw [List.length_drop, h.ring.count, List.length_nil] at hlen
        omega
      obtain ⟨r, hr⟩ := h.ring.available hidle hcontents
      have hkept : r.head = s.ring.head ∧ r.tail = s.ring.tail ∧
          r.accepted = s.ring.accepted := by
        simp only [Ring.step, hidle, if_neg heq] at hr
        split at hr <;> cases hr
        exact ⟨rfl, rfl, rfl⟩
      have hreader : s.reader c = s.drain c .fetch .fetched s.pending := by
        rw [Doorbell.reader, hpc]
        exact if_neg heq
      refine advances_drain hreader hr hkept.2.2 (by constructor <;> exact fun hn => by cases hn) ?_
      unfold workLeft
      simp [hpc, ReadPc.rank, hkept.1, hkept.2.1]
  | fetched =>
    rw [hpc] at hdrains
    obtain ⟨head, desc, hconsumer⟩ := hdrains
    have hreader := Doorbell.reader.eq_1 c s
    rw [hpc] at hreader
    simp only [hconsumer] at hreader
    obtain ⟨r, hr, hhead, htail, haccepted⟩ := Ring.step_consume (c := c) hconsumer
    refine advances_drain hreader hr haccepted (by constructor <;> exact fun hn => by cases hn) ?_
    unfold workLeft
    simp [hpc, ReadPc.rank, hhead, htail]
  | holding m =>
    rw [hpc] at hdrains
    obtain ⟨head, desc, hconsumer⟩ := hdrains
    have hconsuming := h.ring.consuming
    simp only [Ring.ConsumerInv, hconsumer] at hconsuming
    obtain ⟨rfl, hlt, -, -⟩ := hconsuming
    have hnext : u32 (s.ring.head + 1) = s.ring.head + 1 := by
      have := h.ring.tail_lt
      exact u32_of_lt (by omega)
    have hreader := Doorbell.reader.eq_1 c s
    rw [hpc] at hreader
    obtain ⟨r, hr, hhead, htail, haccepted⟩ := Ring.step_publishHead (c := c) hconsumer
    refine advances_drain hreader hr haccepted (by constructor <;> exact fun hn => by cases hn) ?_
    rw [hhead, htail, hnext]
    unfold workLeft
    simp only [hpc, ReadPc.rank]
    omega
  | advancing m =>
    rw [hpc] at hdrains
    obtain ⟨desc, hconsumer⟩ := hdrains
    have hreader := Doorbell.reader.eq_1 c s
    rw [hpc] at hreader
    obtain ⟨r, hr, hhead, htail, haccepted⟩ := Ring.step_publishPayloadHead (c := c) hconsumer
    refine advances_drain hreader hr haccepted (by constructor <;> exact fun hn => by cases hn) ?_
    unfold workLeft
    simp [hpc, ReadPc.rank, hhead, htail]

/-- The reader alone returns its next frame. -/
theorem reads_next (h : s.Good c) (hquiet : s.ringing = false)
    (hmore : s.frames ≠ s.ring.accepted) :
    ∃ n t, n ≤ s.workLeft + 1 ∧ exec (Doorbell.step c) s (List.replicate n .reader) = some t ∧
      t.Good c ∧ t.ring.accepted = s.ring.accepted ∧ ∃ m, t.frames = s.frames ++ [m] := by
  -- induction on the work left
  induction hn : s.workLeft using Nat.strong_induction_on generalizing s with
  | _ n ih =>
    obtain ⟨u, hu⟩ := h.advances hquiet hmore
    have hgood := h.reader hu.step
    have hfirst : Doorbell.step c s .reader = some u := hu.step
    rcases hu.closer with ⟨hframes, hless⟩ | ⟨m, hframes⟩
    · obtain ⟨k, t, hk, hexec, ht, haccepted, m, hm⟩ := ih _ (by omega) hgood
        (hu.ringing.trans hquiet) (by rw [hframes, hu.accepted]; exact hmore) rfl
      refine ⟨k + 1, t, by omega, ?_, ht, haccepted.trans hu.accepted, m, by rw [hm, hframes]⟩
      rw [List.replicate_succ, exec, hfirst]
      exact hexec
    · refine ⟨1, u, by omega, ?_, hgood, hu.accepted, m, hframes⟩
      show (Doorbell.step c s .reader).bind _ = _
      rw [hfirst]
      rfl

end Doorbell.Good

/-- The frames are behind the head. -/
theorem Doorbell.Good.frames_le {c : RingConfig} {s : Doorbell} (h : s.Good c) :
    s.frames.length ≤ s.ring.head := by
  have hlen := congrArg List.length h.order
  obtain ⟨htake, -, hup⟩ := h.ring.next_spec
  rw [htake, List.length_take, h.ring.count, Nat.min_eq_left hup, List.length_append,
    List.length_append] at hlen
  have hdrains := h.drains
  cases hpc : s.pc with
  | holding m =>
    rw [hpc] at hdrains hlen
    obtain ⟨head, desc, hconsumer⟩ := hdrains
    have hconsuming := h.ring.consuming
    simp only [Ring.ConsumerInv, hconsumer] at hconsuming
    have hnext : s.ring.next = s.ring.head + 1 := by simp only [Ring.next, hconsumer, hconsuming.1]
    rw [hnext, show (ReadPc.holding m).inHand.length = 1 from rfl] at hlen
    omega
  | fetched =>
    rw [hpc] at hdrains
    obtain ⟨head, desc, hconsumer⟩ := hdrains
    have hnext : s.ring.next = s.ring.head := by simp only [Ring.next, hconsumer]
    omega
  | advancing m =>
    rw [hpc] at hdrains
    obtain ⟨desc, hconsumer⟩ := hdrains
    have hnext : s.ring.next = s.ring.head := by simp only [Ring.next, hconsumer]
    omega
  | outside | looking | waiting | selecting | timedOut | clearing | draining =>
    rw [hpc] at hdrains
    have hidle : s.ring.consumer = .idle := hdrains
    have hnext : s.ring.next = s.ring.head := by simp only [Ring.next, hidle]
    omega

theorem Doorbell.Good.workLeft_le {c : RingConfig} {s : Doorbell} (h : s.Good c) :
    s.workLeft ≤ 4 * (s.ring.accepted.length - s.frames.length) + 7 := by
  have hrank : s.pc.rank ≤ 7 := by
    cases s.pc <;> simp [ReadPc.rank]
  have hbehind := h.frames_le
  rw [h.ring.count]
  unfold Doorbell.workLeft
  split <;> omega

/-! ## No lost wakeup -/

/-- Along every interleaving of submissions, signals, the reader and its timeouts: a reader asleep
on a silent eventfd has returned everything that was published; what it returns is what was
published, in order; and whenever no signal is under way it returns the next frame by its own steps,
without a timeout. -/
theorem read_frame_never_sleeps {setup : AcceptedSetup} {session : UInt32} {descs : Nat → Desc}
    {zone : Nat → UInt8} {s : Doorbell}
    (hr : Reach (Doorbell.step ⟨setup, .transport, session⟩)
      (Doorbell.BelowWrap ⟨setup, .transport, session⟩) (.init descs zone) s) :
    (s.pc = .selecting → s.counter = 0 → s.ringing = false → s.frames = s.ring.accepted) ∧
      s.frames <+: s.ring.accepted ∧
      (s.ringing = false → s.frames ≠ s.ring.accepted →
        ∃ n t, n ≤ 4 * (s.ring.accepted.length - s.frames.length) + 8 ∧
          exec (Doorbell.step ⟨setup, .transport, session⟩) s (List.replicate n .reader) = some t ∧
          t.frames = s.ring.accepted.take (s.frames.length + 1)) := by
  have h := Doorbell.Good.of_reach hr
  refine ⟨fun hpc hzero hquiet => ?_, h.frames_prefix, fun hquiet hmore => ?_⟩
  · have hdrains := h.drains
    rw [hpc] at hdrains
    have hempty : s.ring.head = s.ring.tail := by
      rcases h.awake hpc with heq | hringing | hpos
      · exact heq
      · exact absurd (hquiet.symm.trans hringing) Bool.false_ne_true
      · omega
    have hall := h.caught_up hdrains (by rw [hpc]; rfl) hempty
    rwa [h.none (by rw [hpc]; rfl), List.append_nil] at hall
  · obtain ⟨n, t, hn, hexec, ht, haccepted, m, hm⟩ := h.reads_next hquiet hmore
    have hbound := h.workLeft_le
    refine ⟨n, t, by omega, hexec, ?_⟩
    have hprefix := ht.frames_prefix
    rw [haccepted, hm] at hprefix
    obtain ⟨rest, hrest⟩ := hprefix
    rw [hm, ← hrest, List.take_left' (by rw [List.length_append]; rfl)]

/-- A request on the default transport ring. -/
def oneRequest : Message := ⟨101, 7, 1, [1, 2, 3, 4]⟩

/-- The reader looks, finds nothing and goes to sleep; then a request is published and announced. -/
theorem read_frame_never_sleeps_one :
    ∃ s : Doorbell, s.pc = .selecting ∧ s.ringing = false ∧ s.frames ≠ s.ring.accepted ∧
      ∃ n t, exec (Doorbell.step ⟨defaultSetup, .transport, 1⟩) s (List.replicate n .reader) =
        some t ∧ t.frames = [oneRequest] := by
  have hrun : (exec (guarded (Doorbell.step ⟨defaultSetup, .transport, 1⟩)
      (Doorbell.BelowWrap ⟨defaultSetup, .transport, 1⟩)) (.init (fun _ => blankDesc) fun _ => 0)
      ([.reader, .reader, .reader] ++ (submitAll oneRequest).map .kernel ++ [.signal])).map
      (fun s => (s.pc.foundNone && s.pc.rank == 4, s.ringing, s.frames, s.ring.accepted)) =
      some (true, false, [], [oneRequest]) := by decide +kernel
  obtain ⟨s, hexec, hview⟩ := Option.map_eq_some_iff.mp hrun
  obtain ⟨hpc, hview⟩ := Prod.mk.inj hview
  obtain ⟨hquiet, hview⟩ := Prod.mk.inj hview
  obtain ⟨hframes, haccepted⟩ := Prod.mk.inj hview
  have hselecting : s.pc = .selecting := by
    cases hp : s.pc <;> simp [hp, ReadPc.foundNone, ReadPc.rank] at hpc ⊢
  have hmore : s.frames ≠ s.ring.accepted := by
    rw [hframes, haccepted]
    exact fun hn => by cases hn
  obtain ⟨n, t, -, ht, hnext⟩ :=
    (read_frame_never_sleeps (reach_of_exec hexec)).2.2 hquiet hmore
  refine ⟨s, hselecting, hquiet, hmore, n, t, ht, ?_⟩
  rw [hnext, hframes, haccepted]
  rfl

end Sensorium.Bridge

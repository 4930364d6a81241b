import Sensorium.Bridge.Ring

/-!
# Each ring is a FIFO queue

The counters from `head` to `tail` are the descriptors that are published and not yet released.
Their windows lie in order between `payloadHead` and the end of the published region, inside one
zone length, so a new window and a new descriptor slot never touch them.
-/

namespace Sensorium.Bridge

open Lib

/-! ## The allocators below the wrap -/

theorem windowStart_inside {tail zoneSize payloadLen : Nat} (hz : 0 < zoneSize)
    (hlen : payloadLen ≤ zoneSize) :
    windowStart tail zoneSize payloadLen % zoneSize + payloadLen ≤ zoneSize := by
  unfold windowStart
  split
  · have hzero : (tail + (zoneSize - tail % zoneSize)) % zoneSize = 0 := by
      have hlt := Nat.mod_lt tail hz
      have hdiv := Nat.div_add_mod tail zoneSize
      rw [show tail + (zoneSize - tail % zoneSize) = zoneSize * (tail / zoneSize + 1) by
        rw [Nat.mul_add, Nat.mul_one]; omega]
      exact Nat.mul_mod_right _ _
    rw [hzero]
    omega
  · omega

-- Below the wrap both producers reserve the same window, and only if it fits.
theorem reservePayload_some {kind : RingKind} {head tail zoneSize payloadLen offset : Nat}
    (hle : head ≤ tail) (hspan : tail ≤ head + zoneSize) (hz : 0 < zoneSize)
    (hzone : zoneSize < 2 ^ 32)
    (hend : windowStart tail zoneSize payloadLen + payloadLen < 2 ^ 32)
    (h : reservePayload kind head tail zoneSize payloadLen = some offset) :
    offset = windowStart tail zoneSize payloadLen ∧ offset + payloadLen ≤ head + zoneSize := by
  have hlow := windowStart_ge tail zoneSize payloadLen
  by_cases hzero : payloadLen = 0
  · subst hzero
    have hoff : some tail = some offset := by cases kind <;> exact h
    have hlt := Nat.mod_lt tail hz
    have hmod : ¬ tail % zoneSize + 0 > zoneSize := by omega
    simp only [Option.some.injEq] at hoff
    rw [windowStart, if_neg hmod, ← hoff]
    exact ⟨rfl, hspan⟩
  · have hpos := Nat.pos_of_ne_zero hzero
    have hdaemon : KernelBridge.reservePayload head tail zoneSize payloadLen = some offset := by
      cases kind with
      | control => exact h
      | reply => exact h
      | transport =>
        change Kernel.reservePayload head tail zoneSize payloadLen = some offset at h
        rw [kernel_reservePayload_eq hpos (by omega) (by omega) hzone (by omega),
          u32_of_lt (by omega)] at h
        rw [bridge_reservePayload_eq hpos, ← h]
        by_cases hfit : windowStart tail zoneSize payloadLen + payloadLen ≤ head + zoneSize
        · rw [if_pos hfit, if_pos ⟨by omega, hfit⟩]
        · rw [if_neg hfit, if_neg (fun hf => hfit hf.2)]
    rw [bridge_reservePayload_eq hpos] at hdaemon
    split at hdaemon
    · rename_i hfit
      simp only [Option.some.injEq] at hdaemon
      exact ⟨hdaemon.symm, by omega⟩
    · exact absurd hdaemon (by simp)

theorem ringFull_eq_false {kind : RingKind} {head tail entries : Nat} (hle : head ≤ tail)
    (htail : tail < 2 ^ 32) (h : ringFull kind head tail entries = false) :
    tail < head + entries := by
  cases kind with
  | transport =>
    simp only [ringFull, Kernel.ringFull, u32Sub_of_le htail hle, decide_eq_false_iff_not] at h
    omega
  | control | reply =>
    simp only [ringFull, KernelBridge.ringFull, decide_eq_false_iff_not] at h
    omega

/-! ## The invariant -/

-- The end of the windows of published descriptors: between the last two stores of a submission
-- `payloadTail` is already ahead of it.
def Producer.liveEnd : Producer → Nat → Nat
  | .published _ _ offset, _ => offset
  | _, payloadTail => payloadTail

namespace Ring

def liveEnd (s : Ring) : Nat := s.producer.liveEnd s.payloadTail

-- The descriptor in the slot of counter `i`.
def slot (c : RingConfig) (s : Ring) (i : Nat) : Desc := s.descs (i % c.entries)

-- Published and not yet released by the consumer.
def Live (s : Ring) (i : Nat) : Prop := s.head ≤ i ∧ i < s.tail

/-- Counter `i` holds the descriptor and the payload bytes of the `i`-th accepted message. -/
structure Holds (c : RingConfig) (s : Ring) (i : Nat) (m : Message) (offset : Nat) : Prop where
  accepted : s.accepted[i]? = some m
  desc : s.slot c i = descOf c.kind c.session m offset
  bytes : readWindow s.zone c.zoneSize offset m.payload.length = m.payload
  lower : s.payloadHead ≤ offset
  upper : offset + m.payload.length ≤ s.liveEnd
  inside : offset % c.zoneSize + m.payload.length ≤ c.zoneSize

-- A submission in progress: its slot is free.
def Submitting (c : RingConfig) (s : Ring) (m : Message) (tail : Nat) : Prop :=
  tail = s.tail ∧ s.tail < s.head + c.entries ∧ admits c.kind m = true

-- A reserved window lies above every published one, inside one zone length of `payloadHead`.
def Reserved (c : RingConfig) (s : Ring) (m : Message) (offset : Nat) : Prop :=
  s.payloadTail ≤ offset ∧ offset + m.payload.length ≤ s.payloadHead + c.zoneSize ∧
    offset % c.zoneSize + m.payload.length ≤ c.zoneSize ∧ offset + m.payload.length < 2 ^ 32

def ProducerInv (c : RingConfig) (s : Ring) : Prop :=
  match s.producer with
  | .idle => True
  | .checked m tail => Submitting c s m tail
  | .reserved m tail offset => Submitting c s m tail ∧ Reserved c s m offset
  | .copied m tail offset => Submitting c s m tail ∧ Reserved c s m offset ∧
      readWindow s.zone c.zoneSize offset m.payload.length = m.payload
  | .described m tail offset => Submitting c s m tail ∧ Reserved c s m offset ∧
      readWindow s.zone c.zoneSize offset m.payload.length = m.payload ∧
      s.slot c tail = descOf c.kind c.session m offset
  | .published m tail offset => Submitting c s m tail ∧
      s.payloadTail = offset + m.payload.length ∧
      offset % c.zoneSize + m.payload.length ≤ c.zoneSize ∧
      readWindow s.zone c.zoneSize offset m.payload.length = m.payload ∧
      s.slot c tail = descOf c.kind c.session m offset

def ConsumerInv (c : RingConfig) (s : Ring) : Prop :=
  match s.consumer with
  | .idle => s.delivered = s.accepted.take s.head
  | .fetched head desc => head = s.head ∧ s.head < s.tail ∧ desc = s.slot c head ∧
      s.delivered = s.accepted.take s.head
  | .consumed head desc => head = s.head ∧ s.head < s.tail ∧ desc = s.slot c head ∧
      s.delivered = s.accepted.take (s.head + 1)
  | .advanced desc => s.delivered = s.accepted.take s.head ∧
      s.payloadHead ≤ desc.payloadOffset + desc.payloadLen ∧
      desc.payloadOffset + desc.payloadLen ≤ s.liveEnd ∧
      ∀ i, s.Live i → desc.payloadOffset + desc.payloadLen ≤ (s.slot c i).payloadOffset

/-- What every reachable state of a ring satisfies while the cursors are below `2 ^ 32`. -/
structure Inv (c : RingConfig) (s : Ring) : Prop where
  head_le : s.head ≤ s.tail
  room : s.tail ≤ s.head + c.entries
  tail_lt : s.tail < 2 ^ 32
  payload_le : s.payloadHead ≤ s.liveEnd
  live_le : s.liveEnd ≤ s.payloadTail
  span : s.payloadTail ≤ s.payloadHead + c.zoneSize
  payload_lt : s.payloadTail < 2 ^ 32
  count : s.accepted.length = s.tail
  admitted : ∀ m ∈ s.accepted, admits c.kind m = true
  holds : ∀ i, s.Live i → ∃ m offset, s.Holds c i m offset
  ordered : ∀ i j, s.Live i → s.Live j → i < j →
    (s.slot c i).payloadOffset + (s.slot c i).payloadLen ≤ (s.slot c j).payloadOffset
  producing : s.ProducerInv c
  consuming : s.ConsumerInv c

theorem inv_init (c : RingConfig) (descs : Nat → Desc) (zone : Nat → UInt8) :
    (Ring.init descs zone).Inv c where
  head_le := Nat.le_refl _
  room := Nat.zero_le _
  tail_lt := show 0 < 2 ^ 32 by decide
  payload_le := Nat.le_refl _
  live_le := Nat.le_refl _
  span := Nat.zero_le _
  payload_lt := show 0 < 2 ^ 32 by decide
  count := rfl
  admitted := by intro m hm; exact absurd hm List.not_mem_nil
  holds := by intro i hi; exact absurd hi.2 (Nat.not_lt_zero i)
  ordered := by intro i j hi; exact absurd hi.2 (Nat.not_lt_zero i)
  producing := trivial
  consuming := rfl

theorem zoneSize_pos (c : RingConfig) : 0 < c.zoneSize := by
  have h := (c.setup.zoneSize_bounds c.kind).1
  unfold RingConfig.zoneSize
  omega

theorem zoneSize_lt (c : RingConfig) : c.zoneSize < 2 ^ 32 := by
  have h := (c.setup.zoneSize_bounds c.kind).2
  unfold RingConfig.zoneSize
  omega

/-! ## Steps of the producer -/

-- Between two points of a submission the published region and the consumer's view stay the same.
structure SameLive (c : RingConfig) (s t : Ring) : Prop where
  head : t.head = s.head
  tail : t.tail = s.tail
  payloadHead : t.payloadHead = s.payloadHead
  accepted : t.accepted = s.accepted
  delivered : t.delivered = s.delivered
  consumer : t.consumer = s.consumer
  liveEnd : s.liveEnd ≤ t.liveEnd
  slot : ∀ i, s.Live i → t.slot c i = s.slot c i
  bytes : ∀ i m offset, s.Live i → s.Holds c i m offset →
    readWindow t.zone c.zoneSize offset m.payload.length =
      readWindow s.zone c.zoneSize offset m.payload.length

theorem SameLive.live {c : RingConfig} {s t : Ring} (h : SameLive c s t) {i : Nat} :
    t.Live i ↔ s.Live i := by
  unfold Live
  rw [h.head, h.tail]

theorem SameLive.consuming {c : RingConfig} {s t : Ring} (hsame : SameLive c s t) (h : s.Inv c) :
    t.ConsumerInv c := by
  have hc := h.consuming
  unfold ConsumerInv at hc ⊢
  rw [hsame.consumer, hsame.accepted, hsame.delivered, hsame.head, hsame.tail, hsame.payloadHead]
  cases hcons : s.consumer with
  | idle => simp only [hcons] at hc ⊢; exact hc
  | fetched head desc | consumed head desc =>
    simp only [hcons] at hc ⊢
    obtain ⟨rfl, hlt, hdesc, htake⟩ := hc
    exact ⟨rfl, hlt, hdesc.trans (hsame.slot _ ⟨Nat.le_refl _, hlt⟩).symm, htake⟩
  | advanced desc =>
    simp only [hcons] at hc ⊢
    obtain ⟨htake, hlow, hup, hbefore⟩ := hc
    refine ⟨htake, hlow, Nat.le_trans hup hsame.liveEnd, ?_⟩
    intro i hi
    rw [hsame.slot i (hsame.live.mp hi)]
    exact hbefore i (hsame.live.mp hi)

theorem Inv.ofSameLive {c : RingConfig} {s t : Ring} (h : s.Inv c) (hsame : SameLive c s t)
    (hlive : t.liveEnd ≤ t.payloadTail) (hspan : t.payloadTail ≤ t.payloadHead + c.zoneSize)
    (hlt : t.payloadTail < 2 ^ 32) (hp : t.ProducerInv c) : t.Inv c where
  head_le := by rw [hsame.head, hsame.tail]; exact h.head_le
  room := by rw [hsame.head, hsame.tail]; exact h.room
  tail_lt := by rw [hsame.tail]; exact h.tail_lt
  payload_le := by rw [hsame.payloadHead]; exact Nat.le_trans h.payload_le hsame.liveEnd
  live_le := hlive
  span := hspan
  payload_lt := hlt
  count := by rw [hsame.accepted, hsame.tail]; exact h.count
  admitted := by rw [hsame.accepted]; exact h.admitted
  holds := by
    intro i hi
    have hi' := hsame.live.mp hi
    obtain ⟨m, offset, hm⟩ := h.holds i hi'
    refine ⟨m, offset, ?_, ?_, ?_, ?_, Nat.le_trans hm.upper hsame.liveEnd, hm.inside⟩
    · rw [hsame.accepted]; exact hm.accepted
    · rw [hsame.slot i hi']; exact hm.desc
    · rw [hsame.bytes i m offset hi' hm]; exact hm.bytes
    · rw [hsame.payloadHead]; exact hm.lower
  ordered := by
    intro i j hi hj hij
    rw [hsame.slot i (hsame.live.mp hi), hsame.slot j (hsame.live.mp hj)]
    exact h.ordered i j (hsame.live.mp hi) (hsame.live.mp hj) hij
  producing := hp
  consuming := hsame.consuming h

-- Only the producer's program counter moves.
theorem Inv.withProducer {c : RingConfig} {s : Ring} (h : s.Inv c) (p : Producer)
    (hend : p.liveEnd s.payloadTail = s.liveEnd)
    (hp : ({ s with producer := p } : Ring).ProducerInv c) :
    ({ s with producer := p } : Ring).Inv c := by
  have hlive : ({ s with producer := p } : Ring).liveEnd = s.liveEnd := hend
  apply h.ofSameLive
  · exact ⟨rfl, rfl, rfl, rfl, rfl, rfl, Nat.le_of_eq hlive.symm, fun _ _ => rfl,
      fun _ _ _ _ _ => rfl⟩
  · rw [hlive]
    exact h.live_le
  · exact h.span
  · exact h.payload_lt
  · exact hp

theorem Inv.submit {c : RingConfig} {s t : Ring} {m : Message} (h : s.Inv c)
    (hs : s.step c (.submit m) = some t) : t.Inv c := by
  cases hp : s.producer with
  | idle =>
    simp only [Ring.step, hp] at hs
    split at hs
    · rename_i hadm
      simp only [Bool.and_eq_true, Bool.not_eq_true'] at hadm
      cases hs
      apply h.withProducer (.checked m s.tail)
      · simp only [Producer.liveEnd, liveEnd, hp]
      · exact ⟨rfl, ringFull_eq_false h.head_le h.tail_lt hadm.2, hadm.1⟩
    · cases hs
      exact h
  | _ => simp only [Ring.step, hp, reduceCtorEq] at hs

theorem Inv.reserve {c : RingConfig} {s t : Ring} (h : s.Inv c)
    (hok : s.BelowWrap c .reserve) (hs : s.step c .reserve = some t) : t.Inv c := by
  cases hp : s.producer with
  | checked m tail =>
    have hsub := h.producing
    simp only [ProducerInv, hp] at hsub
    have hlive : s.liveEnd = s.payloadTail := by simp only [liveEnd, hp, Producer.liveEnd]
    simp only [Ring.step, hp] at hs
    split at hs
    · rename_i offset hres
      cases hs
      simp only [BelowWrap, hp, hres] at hok
      have hend := hok (by simp)
      have hle : s.payloadHead ≤ s.payloadTail := hlive ▸ h.payload_le
      obtain ⟨hoff, hfit⟩ :=
        reservePayload_some hle h.span (zoneSize_pos c) (zoneSize_lt c) hend hres
      have hlow := windowStart_ge s.payloadTail c.zoneSize m.payload.length
      have hinside : offset % c.zoneSize + m.payload.length ≤ c.zoneSize := by
        rw [hoff]
        exact windowStart_inside (zoneSize_pos c) (by omega)
      apply h.withProducer (.reserved m tail offset) hlive.symm
      exact ⟨hsub, hoff ▸ hlow, hfit, hinside, hoff ▸ hend⟩
    · cases hs
      exact h.withProducer .idle hlive.symm trivial
  | _ => simp only [Ring.step, hp, reduceCtorEq] at hs

-- The window of a submission in progress shares no cell with a live one.
theorem reserved_disjoint {c : RingConfig} {s : Ring} {m : Message} {offset : Nat}
    (hlive : s.liveEnd = s.payloadTail) (hres : Reserved c s m offset) {i : Nat}
    {m' : Message} {offset' : Nat} (hm : s.Holds c i m' offset') {cell : Nat}
    (hcell : InWindow c.zoneSize offset' m'.payload.length cell) :
    ¬ InWindow c.zoneSize offset m.payload.length cell := by
  obtain ⟨hlow, hspan, hinside, _⟩ := hres
  have hupper := hm.upper
  exact windows_disjoint hm.lower (by omega) hspan hm.inside hinside hcell

theorem Inv.copyPayload {c : RingConfig} {s t : Ring} (h : s.Inv c)
    (hs : s.step c .copyPayload = some t) : t.Inv c := by
  cases hp : s.producer with
  | reserved m tail offset =>
    have hpi := h.producing
    simp only [ProducerInv, hp] at hpi
    obtain ⟨hsub, hres⟩ := hpi
    have hlive : s.liveEnd = s.payloadTail := by simp only [liveEnd, hp, Producer.liveEnd]
    simp only [Ring.step, hp] at hs
    cases hs
    apply h.ofSameLive
    · refine ⟨rfl, rfl, rfl, rfl, rfl, rfl, Nat.le_of_eq hlive, fun _ _ => rfl, ?_⟩
      intro i m' offset' _ hm
      apply readWindow_congr
      intro cell hcell
      exact writeWindow_of_not_mem (reserved_disjoint hlive hres hm hcell)
    · exact Nat.le_refl _
    · exact h.span
    · exact h.payload_lt
    · exact ⟨hsub, hres, readWindow_writeWindow _ _ _ _⟩
  | _ => simp only [Ring.step, hp, reduceCtorEq] at hs

-- The slot of a submission in progress belongs to no live counter.
theorem submitting_slot {c : RingConfig} {s : Ring} {m : Message} {tail : Nat}
    (hsub : Submitting c s m tail) {i : Nat} (hi : s.Live i) :
    i % c.entries ≠ tail % c.entries := by
  obtain ⟨rfl, hroom, _⟩ := hsub
  obtain ⟨hlow, hup⟩ := hi
  intro heq
  have := eq_of_mod_eq_of_span hlow (by omega) (Nat.le_trans hlow (Nat.le_of_lt hup)) hroom heq
  omega

theorem Inv.writeDesc {c : RingConfig} {s t : Ring} (h : s.Inv c)
    (hs : s.step c .writeDesc = some t) : t.Inv c := by
  cases hp : s.producer with
  | copied m tail offset =>
    have hpi := h.producing
    simp only [ProducerInv, hp] at hpi
    obtain ⟨hsub, hres, hbytes⟩ := hpi
    have hlive : s.liveEnd = s.payloadTail := by simp only [liveEnd, hp, Producer.liveEnd]
    have hcut : offset < 2 ^ 32 := Nat.lt_of_le_of_lt (Nat.le_add_right _ _) hres.2.2.2
    simp only [Ring.step, hp, if_pos hcut] at hs
    cases hs
    apply h.ofSameLive
    · refine ⟨rfl, rfl, rfl, rfl, rfl, rfl, Nat.le_of_eq hlive, ?_, fun _ _ _ _ _ => rfl⟩
      intro i hi
      exact Function.update_of_ne (submitting_slot hsub hi) _ _
    · exact Nat.le_refl _
    · exact h.span
    · exact h.payload_lt
    · exact ⟨hsub, hres, hbytes, Function.update_self _ _ _⟩
  | _ => simp only [Ring.step, hp, reduceCtorEq] at hs

theorem Inv.publishPayloadTail {c : RingConfig} {s t : Ring} (h : s.Inv c)
    (hs : s.step c .publishPayloadTail = some t) : t.Inv c := by
  cases hp : s.producer with
  | described m tail offset =>
    have hpi := h.producing
    simp only [ProducerInv, hp] at hpi
    obtain ⟨hsub, ⟨hlow, hspan, hinside, hend⟩, hbytes, hdesc⟩ := hpi
    have hlive : s.liveEnd = s.payloadTail := by simp only [liveEnd, hp, Producer.liveEnd]
    simp only [Ring.step, hp, u32_of_lt hend] at hs
    cases hs
    apply h.ofSameLive
    · exact ⟨rfl, rfl, rfl, rfl, rfl, rfl, Nat.le_trans (Nat.le_of_eq hlive) hlow,
        fun _ _ => rfl, fun _ _ _ _ _ => rfl⟩
    · exact Nat.le_add_right _ _
    · exact hspan
    · exact hend
    · exact ⟨hsub, rfl, hinside, hbytes, hdesc⟩
  | _ => simp only [Ring.step, hp, reduceCtorEq] at hs

theorem Inv.publishTail {c : RingConfig} {s t : Ring} (h : s.Inv c)
    (hlt : s.BelowWrap c .publishTail) (hs : s.step c .publishTail = some t) : t.Inv c := by
  cases hp : s.producer with
  | published m tail offset =>
    have hpi := h.producing
    simp only [ProducerInv, hp] at hpi
    obtain ⟨⟨rfl, hroom, hadm⟩, hend, hinside, hbytes, hdesc⟩ := hpi
    have hlive : s.liveEnd = offset := by simp only [liveEnd, hp, Producer.liveEnd]
    have hlow : s.payloadHead ≤ offset := hlive ▸ h.payload_le
    simp only [Ring.step, hp, u32_of_lt (show s.tail + 1 < 2 ^ 32 from hlt)] at hs
    cases hs
    have hle := h.head_le
    have hcount := h.count
    -- The counters that were live before, or the new one.
    have hsplit : ∀ i, s.head ≤ i ∧ i < s.tail + 1 → s.Live i ∨ i = s.tail := by
      intro i hi
      unfold Live
      omega
    have htake : ∀ n, n ≤ s.tail → (s.accepted ++ [m]).take n = s.accepted.take n := by
      intro n hn
      exact List.take_append_of_le_length (by omega)
    exact
      { head_le := Nat.le_succ_of_le hle
        room := hroom
        tail_lt := hlt
        payload_le := Nat.le_trans hlow (hend ▸ Nat.le_add_right _ _)
        live_le := Nat.le_refl _
        span := h.span
        payload_lt := h.payload_lt
        count := by simp only [List.length_append, hcount, List.length_singleton]
        admitted := by
          intro m' hm'
          rcases List.mem_append.mp hm' with hold | hnew
          · exact h.admitted m' hold
          · rw [List.mem_singleton.mp hnew]
            exact hadm
        holds := by
          intro i hi
          rcases hsplit i hi with hold | rfl
          · obtain ⟨m', offset', hm⟩ := h.holds i hold
            have hacc : (s.accepted ++ [m])[i]? = some m' := by
              rw [List.getElem?_append_left (by rw [hcount]; exact hold.2)]
              exact hm.accepted
            have hupper : offset' + m'.payload.length ≤ s.payloadTail :=
              Nat.le_trans hm.upper h.live_le
            exact ⟨m', offset', hacc, hm.desc, hm.bytes, hm.lower, hupper, hm.inside⟩
          · have hacc : (s.accepted ++ [m])[s.tail]? = some m := by
              rw [← hcount]
              exact List.getElem?_concat_length
            exact ⟨m, offset, hacc, hdesc, hbytes, hlow, Nat.le_of_eq hend.symm, hinside⟩
        ordered := by
          intro i j hi hj hij
          rcases hsplit j hj with hold | rfl
          · exact h.ordered i j ⟨hi.1, Nat.lt_trans hij hold.2⟩ hold hij
          · obtain ⟨m', offset', hm⟩ := h.holds i ⟨hi.1, hij⟩
            change (s.slot c i).payloadOffset + (s.slot c i).payloadLen ≤
              (s.slot c s.tail).payloadOffset
            rw [hm.desc, hdesc]
            exact hlive ▸ hm.upper
        producing := trivial
        consuming := by
          have hc := h.consuming
          unfold ConsumerInv at hc ⊢
          cases hcons : s.consumer with
          | idle =>
            simp only [hcons] at hc ⊢
            rw [htake _ hle]
            exact hc
          | fetched head desc =>
            simp only [hcons] at hc ⊢
            rw [htake _ hle]
            exact ⟨hc.1, Nat.lt_succ_of_lt hc.2.1, hc.2.2⟩
          | consumed head desc =>
            simp only [hcons] at hc ⊢
            rw [htake _ hc.2.1]
            exact ⟨hc.1, Nat.lt_succ_of_lt hc.2.1, hc.2.2⟩
          | advanced desc =>
            simp only [hcons] at hc ⊢
            obtain ⟨hdel, hge, hup, hbefore⟩ := hc
            rw [htake _ hle]
            refine ⟨hdel, hge, Nat.le_trans hup h.live_le, ?_⟩
            intro i hi
            rcases hsplit i hi with hold | rfl
            · exact hbefore i hold
            · change desc.payloadOffset + desc.payloadLen ≤ (s.slot c s.tail).payloadOffset
              rw [hdesc]
              exact hlive ▸ hup }
  | _ => simp only [Ring.step, hp, reduceCtorEq] at hs

/-! ## Steps of the consumer -/

-- Fetching and consuming leave the shared region alone.
theorem Inv.withConsumer {c : RingConfig} {s : Ring} (h : s.Inv c) (k : Consumer)
    (delivered : List Message)
    (hc : ({ s with consumer := k, delivered := delivered } : Ring).ConsumerInv c) :
    ({ s with consumer := k, delivered := delivered } : Ring).Inv c where
  head_le := h.head_le
  room := h.room
  tail_lt := h.tail_lt
  payload_le := h.payload_le
  live_le := h.live_le
  span := h.span
  payload_lt := h.payload_lt
  count := h.count
  admitted := h.admitted
  holds := by
    intro i hi
    obtain ⟨m, offset, hm⟩ := h.holds i hi
    exact ⟨m, offset, hm.accepted, hm.desc, hm.bytes, hm.lower, hm.upper, hm.inside⟩
  ordered := h.ordered
  producing := h.producing
  consuming := hc

theorem Inv.fetch {c : RingConfig} {s t : Ring} (h : s.Inv c)
    (hs : s.step c .fetch = some t) : t.Inv c := by
  cases hcons : s.consumer with
  | idle =>
    have hc := h.consuming
    simp only [ConsumerInv, hcons] at hc
    simp only [Ring.step, hcons] at hs
    by_cases hempty : s.head = s.tail
    · simp only [if_pos hempty, reduceCtorEq] at hs
    · simp only [if_neg hempty] at hs
      split at hs
      · cases hs
        have hlt : s.head < s.tail := Nat.lt_of_le_of_ne h.head_le hempty
        exact h.withConsumer (.fetched s.head (s.slot c s.head)) s.delivered ⟨rfl, hlt, rfl, hc⟩
      · exact absurd hs (by simp)
  | _ => simp only [Ring.step, hcons, reduceCtorEq] at hs

-- The message that a counter's slot and window encode.
def decode (c : RingConfig) (s : Ring) (i : Nat) : Message :=
  messageOf c.kind (s.slot c i)
    (readWindow s.zone c.zoneSize (s.slot c i).payloadOffset (s.slot c i).payloadLen)

theorem messageOf_descOf {kind : RingKind} {session : UInt32} {m : Message} {offset : Nat}
    (hadm : admits kind m = true) :
    messageOf kind (descOf kind session m offset) m.payload = m := by
  cases kind with
  | control | transport => rfl
  | reply =>
    simp only [admits, Bool.and_eq_true, decide_eq_true_eq] at hadm
    simp only [messageOf, descOf, ← hadm.1]

/-- The consumer reads back the message that was accepted under the counter. -/
theorem Inv.decode_eq {c : RingConfig} {s : Ring} (h : s.Inv c) {i : Nat} (hi : s.Live i) :
    s.accepted[i]? = some (s.decode c i) := by
  obtain ⟨m, offset, hm⟩ := h.holds i hi
  have hadm := h.admitted m (List.mem_of_getElem? hm.accepted)
  have hbytes : readWindow s.zone c.zoneSize (descOf c.kind c.session m offset).payloadOffset
      (descOf c.kind c.session m offset).payloadLen = m.payload := hm.bytes
  rw [hm.accepted, decode, hm.desc, hbytes, messageOf_descOf hadm]

theorem Inv.consume {c : RingConfig} {s t : Ring} (h : s.Inv c)
    (hs : s.step c .consume = some t) : t.Inv c := by
  cases hcons : s.consumer with
  | fetched head desc =>
    have hc := h.consuming
    simp only [ConsumerInv, hcons] at hc
    obtain ⟨rfl, hlt, rfl, htake⟩ := hc
    simp only [Ring.step, hcons] at hs
    cases hs
    have hnext : s.delivered ++ [s.decode c s.head] = s.accepted.take (s.head + 1) := by
      rw [List.take_add_one, h.decode_eq ⟨Nat.le_refl _, hlt⟩, htake]
      rfl
    exact h.withConsumer (.consumed s.head (s.slot c s.head)) (s.delivered ++ [s.decode c s.head])
      ⟨rfl, hlt, rfl, hnext⟩
  | _ => simp only [Ring.step, hcons, reduceCtorEq] at hs

-- The producer only gains room when a head moves forward.
theorem ProducerInv.advance {c : RingConfig} {s : Ring} (h : s.ProducerInv c) {head ph : Nat}
    {k : Consumer} (hhead : s.head ≤ head) (hph : s.payloadHead ≤ ph) :
    ({ s with head := head, payloadHead := ph, consumer := k } : Ring).ProducerInv c := by
  have hsub : ∀ {m tail}, Submitting c s m tail →
      Submitting c { s with head := head, payloadHead := ph, consumer := k } m tail :=
    fun hm => ⟨hm.1, Nat.lt_of_lt_of_le hm.2.1 (Nat.add_le_add_right hhead _), hm.2.2⟩
  have hres : ∀ {m offset}, Reserved c s m offset →
      Reserved c { s with head := head, payloadHead := ph, consumer := k } m offset :=
    fun hm => ⟨hm.1, Nat.le_trans hm.2.1 (Nat.add_le_add_right hph _), hm.2.2⟩
  unfold ProducerInv at h ⊢
  cases hp : s.producer with
  | idle => trivial
  | checked m tail => simp only [hp] at h ⊢; exact hsub h
  | reserved m tail offset => simp only [hp] at h ⊢; exact ⟨hsub h.1, hres h.2⟩
  | copied m tail offset => simp only [hp] at h ⊢; exact ⟨hsub h.1, hres h.2.1, h.2.2⟩
  | described m tail offset => simp only [hp] at h ⊢; exact ⟨hsub h.1, hres h.2.1, h.2.2⟩
  | published m tail offset => simp only [hp] at h ⊢; exact ⟨hsub h.1, h.2⟩

theorem Inv.publishHead {c : RingConfig} {s t : Ring} (h : s.Inv c)
    (hs : s.step c .publishHead = some t) : t.Inv c := by
  cases hcons : s.consumer with
  | consumed head desc =>
    have hc := h.consuming
    simp only [ConsumerInv, hcons] at hc
    obtain ⟨rfl, hlt, rfl, htake⟩ := hc
    have htail := h.tail_lt
    have hroom := h.room
    simp only [Ring.step, hcons, u32_of_lt (show s.head + 1 < 2 ^ 32 by omega)] at hs
    cases hs
    have hlive : ∀ i, s.head + 1 ≤ i ∧ i < s.tail → s.Live i := by
      intro i hi
      exact ⟨by omega, hi.2⟩
    obtain ⟨m, offset, hm⟩ := h.holds s.head ⟨Nat.le_refl _, hlt⟩
    have hend : (s.slot c s.head).payloadOffset + (s.slot c s.head).payloadLen =
        offset + m.payload.length := by rw [hm.desc]; rfl
    exact
      { head_le := hlt
        room := by change s.tail ≤ s.head + 1 + c.entries; omega
        tail_lt := h.tail_lt
        payload_le := h.payload_le
        live_le := h.live_le
        span := h.span
        payload_lt := h.payload_lt
        count := h.count
        admitted := h.admitted
        holds := by
          intro i hi
          obtain ⟨m', offset', hm'⟩ := h.holds i (hlive i hi)
          exact ⟨m', offset', hm'.accepted, hm'.desc, hm'.bytes, hm'.lower, hm'.upper, hm'.inside⟩
        ordered := fun i j hi hj => h.ordered i j (hlive i hi) (hlive j hj)
        producing := h.producing.advance (Nat.le_succ _) (Nat.le_refl _)
        consuming := by
          refine ⟨htake, ?_, hend ▸ hm.upper, ?_⟩
          · have hlower := hm.lower
            change s.payloadHead ≤ _
            omega
          · intro i hi
            exact h.ordered s.head i ⟨Nat.le_refl _, hlt⟩ (hlive i hi) hi.1 }
  | _ => simp only [Ring.step, hcons, reduceCtorEq] at hs

theorem Inv.publishPayloadHead {c : RingConfig} {s t : Ring} (h : s.Inv c)
    (hs : s.step c .publishPayloadHead = some t) : t.Inv c := by
  cases hcons : s.consumer with
  | advanced desc =>
    have hc := h.consuming
    simp only [ConsumerInv, hcons] at hc
    obtain ⟨htake, hlow, hup, hbefore⟩ := hc
    have hend : desc.payloadOffset + desc.payloadLen < 2 ^ 32 :=
      Nat.lt_of_le_of_lt (Nat.le_trans hup h.live_le) h.payload_lt
    simp only [Ring.step, hcons, u32_of_lt hend] at hs
    cases hs
    exact
      { head_le := h.head_le
        room := h.room
        tail_lt := h.tail_lt
        payload_le := hup
        live_le := h.live_le
        span := Nat.le_trans h.span (Nat.add_le_add_right hlow _)
        payload_lt := h.payload_lt
        count := h.count
        admitted := h.admitted
        holds := by
          intro i hi
          obtain ⟨m, offset, hm⟩ := h.holds i hi
          have hlower : desc.payloadOffset + desc.payloadLen ≤ offset := by
            have := hbefore i hi
            rw [hm.desc] at this
            exact this
          exact ⟨m, offset, hm.accepted, hm.desc, hm.bytes, hlower, hm.upper, hm.inside⟩
        ordered := h.ordered
        producing := h.producing.advance (Nat.le_refl _) hlow
        consuming := htake }
  | _ => simp only [Ring.step, hcons, reduceCtorEq] at hs

/-! ## Whole runs -/

theorem Inv.step {c : RingConfig} {s t : Ring} {label : RingStep} (h : s.Inv c)
    (hok : s.BelowWrap c label) (hs : s.step c label = some t) : t.Inv c := by
  cases label with
  | submit m => exact h.submit hs
  | reserve => exact h.reserve hok hs
  | copyPayload => exact h.copyPayload hs
  | writeDesc => exact h.writeDesc hs
  | publishPayloadTail => exact h.publishPayloadTail hs
  | publishTail => exact h.publishTail hok hs
  | fetch => exact h.fetch hs
  | consume => exact h.consume hs
  | publishHead => exact h.publishHead hs
  | publishPayloadHead => exact h.publishPayloadHead hs

theorem inv_of_reach {c : RingConfig} {descs : Nat → Desc} {zone : Nat → UInt8} {s : Ring}
    (h : Reach (Ring.step c) (Ring.BelowWrap c) (Ring.init descs zone) s) : s.Inv c :=
  h.invariant (inv_init c descs zone) fun _ _ _ hi hok hs => hi.step hok hs

/-! ## Refinement of a FIFO queue -/

-- The first counter whose message the consumer has not taken out.
def next (s : Ring) : Nat :=
  match s.consumer with
  | .consumed head _ => head + 1
  | _ => s.head

-- The queue that the shared region stands for.
def contents (c : RingConfig) (s : Ring) : List Message :=
  (List.range' s.next (s.tail - s.next)).map (s.decode c)

-- The cells that a counter's payload occupies.
def Occupies (c : RingConfig) (s : Ring) (i cell : Nat) : Prop :=
  InWindow c.zoneSize (s.slot c i).payloadOffset (s.slot c i).payloadLen cell

/-- The ring behaves as a FIFO queue: what was accepted is what was delivered followed by what the
region holds, and nothing the producer writes touches what is still in the queue. -/
structure RefinesFifo (c : RingConfig) (s : Ring) : Prop where
  order : s.accepted = s.delivered ++ s.contents c
  capacity : (s.contents c).length ≤ c.entries
  available : s.consumer = .idle → s.contents c ≠ [] → ∃ t, s.step c .fetch = some t
  inside : ∀ i, s.Live i →
    (s.slot c i).payloadOffset % c.zoneSize + (s.slot c i).payloadLen ≤ c.zoneSize
  disjoint : ∀ i j, s.Live i → s.Live j → i ≠ j →
    ∀ cell, s.Occupies c i cell → ¬ s.Occupies c j cell
  payload_kept : ∀ m tail offset, s.producer = .reserved m tail offset → ∀ i, s.Live i →
    ∀ cell, s.Occupies c i cell → ¬ InWindow c.zoneSize offset m.payload.length cell
  desc_kept : ∀ m tail offset, s.producer = .copied m tail offset → ∀ i, s.Live i →
    i % c.entries ≠ tail % c.entries

theorem Inv.next_spec {c : RingConfig} {s : Ring} (h : s.Inv c) :
    s.delivered = s.accepted.take s.next ∧ s.head ≤ s.next ∧ s.next ≤ s.tail := by
  have hc := h.consuming
  have hle := h.head_le
  unfold ConsumerInv at hc
  unfold next
  cases hcons : s.consumer with
  | idle => simp only [hcons] at hc ⊢; exact ⟨hc, Nat.le_refl _, hle⟩
  | fetched head desc => simp only [hcons] at hc ⊢; exact ⟨hc.2.2.2, Nat.le_refl _, hle⟩
  | consumed head desc =>
    simp only [hcons] at hc ⊢
    obtain ⟨rfl, hlt, _, htake⟩ := hc
    exact ⟨htake, Nat.le_succ _, hlt⟩
  | advanced desc => simp only [hcons] at hc ⊢; exact ⟨hc.1, Nat.le_refl _, hle⟩

theorem Inv.contents_eq {c : RingConfig} {s : Ring} (h : s.Inv c) :
    s.contents c = s.accepted.drop s.next := by
  obtain ⟨_, hlow, hup⟩ := h.next_spec
  apply List.ext_getElem?
  intro k
  rw [contents, List.getElem?_map, List.getElem?_drop]
  by_cases hk : k < s.tail - s.next
  · rw [List.getElem?_range' hk, h.decode_eq ⟨by omega, by omega⟩]
    simp only [Option.map_some, Nat.one_mul]
  · rw [List.getElem?_eq_none (by rw [List.length_range']; omega),
      List.getElem?_eq_none (by rw [h.count]; omega)]
    rfl

theorem Inv.order {c : RingConfig} {s : Ring} (h : s.Inv c) :
    s.accepted = s.delivered ++ s.contents c := by
  rw [h.contents_eq, h.next_spec.1]
  exact (List.take_append_drop _ _).symm

theorem Inv.available {c : RingConfig} {s : Ring} (h : s.Inv c) (hcons : s.consumer = .idle)
    (hne : s.contents c ≠ []) : ∃ t, s.step c .fetch = some t := by
  have hnext : s.next = s.head := by simp only [next, hcons]
  have hlt : s.head < s.tail := by
    by_contra hge
    apply hne
    rw [contents, hnext, show s.tail - s.head = 0 by omega]
    rfl
  obtain ⟨m, offset, hm⟩ := h.holds s.head ⟨Nat.le_refl _, hlt⟩
  have hsession : (s.descs (s.head % c.entries)).sessionId = c.session := by
    rw [show s.descs (s.head % c.entries) = s.slot c s.head from rfl, hm.desc]
    rfl
  refine ⟨{ s with consumer := .fetched s.head (s.descs (s.head % c.entries)) }, ?_⟩
  simp only [Ring.step, hcons, if_neg (Nat.ne_of_lt hlt), if_pos hsession]

-- One order suffices: disjointness is symmetric.
theorem Inv.disjoint_of_lt {c : RingConfig} {s : Ring} (h : s.Inv c) {i j : Nat} (hi : s.Live i)
    (hj : s.Live j) (hij : i < j) {cell : Nat} (hcell : s.Occupies c i cell) :
    ¬ s.Occupies c j cell := by
  obtain ⟨m, offset, hm⟩ := h.holds i hi
  obtain ⟨m', offset', hm'⟩ := h.holds j hj
  have hord := h.ordered i j hi hj hij
  unfold Occupies at hcell ⊢
  rw [hm.desc, hm'.desc] at hord
  rw [hm.desc] at hcell
  rw [hm'.desc]
  have hend : offset' + m'.payload.length ≤ s.payloadHead + c.zoneSize :=
    Nat.le_trans hm'.upper (Nat.le_trans h.live_le h.span)
  exact windows_disjoint hm.lower hord hend hm.inside hm'.inside hcell

theorem Inv.refinesFifo {c : RingConfig} {s : Ring} (h : s.Inv c) : s.RefinesFifo c where
  order := h.order
  capacity := by
    obtain ⟨_, hlow, _⟩ := h.next_spec
    have hroom := h.room
    rw [contents, List.length_map, List.length_range']
    omega
  available := h.available
  inside := by
    intro i hi
    obtain ⟨m, offset, hm⟩ := h.holds i hi
    rw [hm.desc]
    exact hm.inside
  disjoint := by
    intro i j hi hj hne cell hcell hcell'
    rcases Nat.lt_or_gt_of_ne hne with hij | hji
    · exact h.disjoint_of_lt hi hj hij hcell hcell'
    · exact h.disjoint_of_lt hj hi hji hcell' hcell
  payload_kept := by
    intro m tail offset hp i hi cell hcell
    have hpi := h.producing
    simp only [ProducerInv, hp] at hpi
    have hlive : s.liveEnd = s.payloadTail := by simp only [liveEnd, hp, Producer.liveEnd]
    obtain ⟨m', offset', hm⟩ := h.holds i hi
    unfold Occupies at hcell
    rw [hm.desc] at hcell
    exact reserved_disjoint hlive hpi.2 hm hcell
  desc_kept := by
    intro m tail offset hp i hi
    have hpi := h.producing
    simp only [ProducerInv, hp] at hpi
    exact submitting_slot hpi.1 hi

-- One step of a FIFO queue `q` with its output `out`.
inductive FifoStep : List Message → List Message → List Message → List Message → Prop
  | stutter (q out : List Message) : FifoStep q out q out
  | enqueue (q out : List Message) (m : Message) : FifoStep q out (q ++ [m]) out
  | dequeue (q out : List Message) (m : Message) : FifoStep (m :: q) out q (out ++ [m])

-- Only `publishTail` accepts a message and only `consume` delivers one.
theorem step_history {c : RingConfig} {s t : Ring} {label : RingStep}
    (hs : s.step c label = some t) :
    (t.accepted = s.accepted ∧ t.delivered = s.delivered) ∨
      (∃ m, t.accepted = s.accepted ++ [m] ∧ t.delivered = s.delivered) ∨
        ∃ m, t.accepted = s.accepted ∧ t.delivered = s.delivered ++ [m] := by
  cases label with
  | publishTail =>
    unfold Ring.step at hs
    cases hp : s.producer <;> simp only [hp, reduceCtorEq, Option.some.injEq] at hs
    subst hs
    exact .inr (.inl ⟨_, rfl, rfl⟩)
  | consume =>
    unfold Ring.step at hs
    cases hp : s.consumer <;> simp only [hp, reduceCtorEq, Option.some.injEq] at hs
    subst hs
    exact .inr (.inr ⟨_, rfl, rfl⟩)
  | _ =>
    left
    simp only [Ring.step] at hs
    grind

theorem Inv.simulates {c : RingConfig} {s t : Ring} {label : RingStep} (h : s.Inv c)
    (hok : s.BelowWrap c label) (hs : s.step c label = some t) :
    FifoStep (s.contents c) s.delivered (t.contents c) t.delivered := by
  have hbefore := h.order
  have hafter := (h.step hok hs).order
  rcases step_history hs with ⟨hacc, hdel⟩ | ⟨m, hacc, hdel⟩ | ⟨m, hacc, hdel⟩
  · rw [hacc, hdel, hbefore] at hafter
    rw [← List.append_cancel_left hafter, hdel]
    exact .stutter _ _
  · rw [hacc, hdel, hbefore, List.append_assoc] at hafter
    rw [← List.append_cancel_left hafter, hdel]
    exact .enqueue _ _ _
  · rw [hacc, hdel, hbefore, List.append_assoc] at hafter
    rw [List.append_cancel_left hafter, hdel]
    exact .dequeue _ _ _

/-- Every ring of every accepted setup refines a FIFO queue along every interleaving of its producer
and its consumer that keeps the absolute cursors below `2 ^ 32`. -/
theorem ring_refinesFifo {c : RingConfig} {descs : Nat → Desc} {zone : Nat → UInt8} {s : Ring}
    (h : Reach (Ring.step c) (Ring.BelowWrap c) (Ring.init descs zone) s) :
    s.RefinesFifo c ∧
      ∀ label t, s.BelowWrap c label → s.step c label = some t →
        FifoStep (s.contents c) s.delivered (t.contents c) t.delivered :=
  ⟨(inv_of_reach h).refinesFifo, fun _ _ hok hs => (inv_of_reach h).simulates hok hs⟩

end Ring

/-! ## A reply on the default setup -/

-- `KernelBridge`'s defaults: 64, 128 and 128 entries and an 8 MiB arena.
def defaultSetup : AcceptedSetup where
  controlRingEntries := 64
  transportRingEntries := 128
  replyRingEntries := 128
  payloadArenaSize := 8 * 1024 * 1024
  control_valid := by decide
  transport_valid := by decide
  reply_valid := by decide
  arena_valid := by decide

def defaultReplies : RingConfig := ⟨defaultSetup, .reply, 1⟩

def blankDesc : Desc := ⟨0, 0, 0, 0, 0, 0, 0, 0, 0, 0⟩

-- An eight-byte `CMD_REPLY`: status 0 and no data.
def emptyReply : Message := ⟨cmdReply, 7, 1, [0, 0, 0, 0, 0, 0, 0, 0]⟩

-- The status 0 and one byte.
def byteReply : Message := ⟨cmdReply, 8, 1, [0, 0, 0, 0, 1, 0, 0, 0, 0x5a]⟩

def submitAll (m : Message) : List RingStep :=
  [.submit m, .reserve, .copyPayload, .writeDesc, .publishPayloadTail, .publishTail]

def drainOne : List RingStep := [.fetch, .consume, .publishHead, .publishPayloadHead]

/-- The second message is written while the first one is read. -/
def interleaved : List RingStep :=
  submitAll emptyReply ++
    [.submit byteReply, .reserve, .fetch, .copyPayload, .consume, .writeDesc, .publishHead,
      .publishPayloadTail, .publishPayloadHead, .publishTail] ++ drainOne

theorem reply_refinesFifo :
    ∃ s : Ring, s.delivered = [emptyReply, byteReply] ∧ s.RefinesFifo defaultReplies := by
  have hrun : (exec (guarded (Ring.step defaultReplies) (Ring.BelowWrap defaultReplies))
      (Ring.init (fun _ => blankDesc) fun _ => 0) interleaved).map
        Ring.delivered = some [emptyReply, byteReply] := by decide +kernel
  obtain ⟨s, hexec, hdel⟩ := Option.map_eq_some_iff.mp hrun
  exact ⟨s, hdel, (Ring.ring_refinesFifo (reach_of_exec hexec)).1⟩

end Sensorium.Bridge

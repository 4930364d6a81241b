import Sensorium.Lib.Words
import Sensorium.Bridge.Setup

/-!
# The two payload allocators

Both sides of the bridge reserve payload bytes from a zone addressed by absolute cursors: the
kernel in `sensorium_runtime_reserve_payload` with `u32` cursors and a `u64` comparison, the daemon
in `KernelBridge._reserve_payload` with unbounded integers that are cut to 32 bits when they are
stored.  A window that would cross the end of the zone starts at the next multiple of the zone size.
-/

namespace Sensorium.Bridge

open Lib

/-! ## The functions of the source -/

namespace Kernel

/-- `sensorium_runtime_reserve_payload`; `none` is the `false` verdict. -/
def reservePayload (head tail zoneSize payloadLen : Nat) : Option Nat :=
  let mod := tail % zoneSize
  if payloadLen = 0 then some tail
  else
    -- `mod + payload_len` is a `size_t`; `start += zone_size - mod` wraps at 32 bits.
    let start := if u64 (mod + payloadLen) > zoneSize then u32 (tail + (zoneSize - mod)) else tail
    if u64 (start + payloadLen + 2 ^ 64 - head) > zoneSize then none else some start

/-- The ring-full test of `sensorium_runtime_queue_transport_locked`. -/
def ringFull (ringHead ringTail ringEntries : Nat) : Bool :=
  decide (u32Sub ringTail ringHead ≥ ringEntries)

/-- The descriptor's `payload_offset` and the new `payload_tail`, both `u32` fields. -/
def storeReservation (payloadLen offset : Nat) : Nat × Nat :=
  (offset, u32 (offset + payloadLen))

end Kernel

namespace KernelBridge

/-- `KernelBridge._reserve_payload`; `none` is `BlockingIOError(EBUSY)`. -/
def reservePayload (head tail zoneSize payloadLen : Nat) : Option Nat :=
  let mod := tail % zoneSize
  if payloadLen = 0 then some tail
  else
    let start := if mod + payloadLen > zoneSize then tail + (zoneSize - mod) else tail
    if ((start + payloadLen : Nat) : Int) - head > zoneSize then none else some start

/-- The ring-full test of `_submit_ring_entry`. -/
def ringFull (ringHead ringTail ringEntries : Nat) : Bool :=
  decide ((ringTail : Int) - ringHead ≥ ringEntries)

/-- Storing the reservation: the descriptor's `I` field raises `struct.error` above 32 bits, and
`_set_control_word` masks the new tail. -/
def storeReservation (payloadLen offset : Nat) : Option (Nat × Nat) :=
  if offset < 2 ^ 32 then some (offset, u32 (offset + payloadLen)) else none

end KernelBridge

/-! ## What the verdicts mean -/

/-- Where the window of a payload starts, before any truncation. -/
def windowStart (tail zoneSize payloadLen : Nat) : Nat :=
  if tail % zoneSize + payloadLen > zoneSize then tail + (zoneSize - tail % zoneSize) else tail

/-- The window lies within `zoneSize` bytes of `head`, modulo `2 ^ 32`.  An empty window occupies
nothing. -/
def WindowFits (head tail zoneSize payloadLen : Nat) : Prop :=
  payloadLen = 0 ∨
    u32Sub (u32 (windowStart tail zoneSize payloadLen)) head + payloadLen ≤ zoneSize

/-- Both allocators give one verdict, the same `u32` offset and new tail, and the verdict says
whether the window fits. -/
def AllocatorsAgree (head tail zoneSize payloadLen : Nat) : Prop :=
  (Kernel.reservePayload head tail zoneSize payloadLen).map (Kernel.storeReservation payloadLen) =
      (KernelBridge.reservePayload head tail zoneSize payloadLen).bind
        (KernelBridge.storeReservation payloadLen) ∧
    ((Kernel.reservePayload head tail zoneSize payloadLen).isSome ↔
      WindowFits head tail zoneSize payloadLen)

theorem windowStart_ge (tail zoneSize payloadLen : Nat) :
    tail ≤ windowStart tail zoneSize payloadLen := by
  unfold windowStart
  split <;> omega

theorem windowStart_le (tail zoneSize payloadLen : Nat) :
    windowStart tail zoneSize payloadLen ≤ tail + zoneSize := by
  unfold windowStart
  split <;> omega

@[simp] theorem kernel_reservePayload_zero (head tail zoneSize : Nat) :
    Kernel.reservePayload head tail zoneSize 0 = some tail := rfl

@[simp] theorem bridge_reservePayload_zero (head tail zoneSize : Nat) :
    KernelBridge.reservePayload head tail zoneSize 0 = some tail := rfl

/-- The daemon compares in unbounded integers. -/
theorem bridge_reservePayload_eq {head tail zoneSize payloadLen : Nat} (hpos : 0 < payloadLen) :
    KernelBridge.reservePayload head tail zoneSize payloadLen =
      if windowStart tail zoneSize payloadLen + payloadLen ≤ head + zoneSize then
        some (windowStart tail zoneSize payloadLen)
      else none := by
  unfold KernelBridge.reservePayload
  simp only [if_neg (Nat.ne_of_gt hpos)]
  change (if ((windowStart tail zoneSize payloadLen + payloadLen : Nat) : Int) - head > zoneSize
    then none else some (windowStart tail zoneSize payloadLen)) = _
  generalize windowStart tail zoneSize payloadLen = start
  by_cases hfit : start + payloadLen ≤ head + zoneSize
  · rw [if_pos hfit, if_neg (by omega)]
  · rw [if_neg hfit, if_pos (by omega)]

/-- The kernel cuts the window start to 32 bits, then compares in 64 bits, where a negative
difference is a huge one. -/
theorem kernel_reservePayload_eq {head tail zoneSize payloadLen : Nat} (hpos : 0 < payloadLen)
    (hhead : head < 2 ^ 32) (htail : tail < 2 ^ 32) (hzone : zoneSize < 2 ^ 32)
    (hlen : payloadLen < 2 ^ 32) :
    Kernel.reservePayload head tail zoneSize payloadLen =
      if head ≤ u32 (windowStart tail zoneSize payloadLen) + payloadLen ∧
          u32 (windowStart tail zoneSize payloadLen) + payloadLen ≤ head + zoneSize then
        some (u32 (windowStart tail zoneSize payloadLen))
      else none := by
  have hmod : tail % zoneSize ≤ tail := Nat.mod_le _ _
  have hstart : (if u64 (tail % zoneSize + payloadLen) > zoneSize then
      u32 (tail + (zoneSize - tail % zoneSize)) else tail) =
        u32 (windowStart tail zoneSize payloadLen) := by
    rw [u64_of_lt (by omega)]
    unfold windowStart
    split
    · rfl
    · exact (u32_of_lt htail).symm
  unfold Kernel.reservePayload
  simp only [if_neg (Nat.ne_of_gt hpos)]
  rw [hstart]
  have hcut := u32_lt (windowStart tail zoneSize payloadLen)
  generalize u32 (windowStart tail zoneSize payloadLen) = start at *
  unfold u64
  by_cases hfit : head ≤ start + payloadLen ∧ start + payloadLen ≤ head + zoneSize
  · rw [if_pos hfit, if_neg (by omega)]
  · rw [if_neg hfit, if_pos (by omega)]

/-! ## Where they agree -/

/-- No cursor wrap separates `head` from the window, or the length is refused on both sides. -/
def AllocatorsAgreeWhen (head tail zoneSize payloadLen : Nat) : Prop :=
  let start := windowStart tail zoneSize payloadLen
  payloadLen = 0 ∨ (head ≤ start ∧ start < 2 ^ 32) ∨
    (head + zoneSize < start + payloadLen ∧
      (u32 start + payloadLen < head ∨ head + zoneSize < u32 start + payloadLen))

theorem allocatorsAgree_zero {head tail zoneSize : Nat} (htail : tail < 2 ^ 32) :
    AllocatorsAgree head tail zoneSize 0 := by
  refine ⟨?_, fun _ => .inl rfl, fun _ => rfl⟩
  simp only [kernel_reservePayload_zero, bridge_reservePayload_zero, Option.map_some,
    Option.bind_some, Kernel.storeReservation, KernelBridge.storeReservation, if_pos htail]

/-- Agreement is agreement of the verdicts: two accepted offsets below `2 ^ 32` are equal. -/
theorem sameReservation_iff {start payloadLen : Nat} {k d : Prop} [Decidable k] [Decidable d] :
    (if k then some (u32 start) else none).map (Kernel.storeReservation payloadLen) =
        (if d then some start else none).bind (KernelBridge.storeReservation payloadLen) ↔
      (k ↔ d ∧ start < 2 ^ 32) := by
  by_cases hk : k
  · by_cases hd : d
    · by_cases hcut : start < 2 ^ 32
      · simp only [if_pos hk, if_pos hd, Option.map_some, Option.bind_some, Kernel.storeReservation,
          KernelBridge.storeReservation, if_pos hcut, u32_of_lt hcut, true_iff]
        exact ⟨fun _ => ⟨hd, hcut⟩, fun _ => hk⟩
      · simp only [if_pos hk, if_pos hd, Option.map_some, Option.bind_some,
          KernelBridge.storeReservation, if_neg hcut, reduceCtorEq, false_iff]
        exact fun h => hcut (h.mp hk).2
    · simp only [if_pos hk, if_neg hd, Option.map_some, Option.bind_none, reduceCtorEq, false_iff]
      exact fun h => hd (h.mp hk).1
  · by_cases hd : d
    · by_cases hcut : start < 2 ^ 32
      · simp only [if_neg hk, if_pos hd, Option.map_none, Option.bind_some,
          KernelBridge.storeReservation, if_pos hcut, reduceCtorEq, false_iff]
        exact fun h => hk (h.mpr ⟨hd, hcut⟩)
      · simp only [if_neg hk, if_pos hd, Option.map_none, Option.bind_some,
          KernelBridge.storeReservation, if_neg hcut, true_iff]
        exact ⟨fun h => absurd h hk, fun h => absurd h.2 hcut⟩
    · simp only [if_neg hk, if_neg hd, Option.map_none, Option.bind_none, true_iff]
      exact ⟨fun h => absurd h hk, fun h => absurd h.1 hd⟩

/-- Exactly when the two allocators agree and their verdicts mean what they should. -/
theorem allocatorsAgree_iff {head tail zoneSize payloadLen : Nat}
    (hhead : head < 2 ^ 32) (htail : tail < 2 ^ 32) (hzone : zoneSize < 2 ^ 32)
    (hlen : payloadLen < 2 ^ 32) :
    AllocatorsAgree head tail zoneSize payloadLen ↔
      AllocatorsAgreeWhen head tail zoneSize payloadLen := by
  by_cases hzero : payloadLen = 0
  · subst hzero
    exact ⟨fun _ => .inl rfl, fun _ => allocatorsAgree_zero htail⟩
  have hpos : 0 < payloadLen := Nat.pos_of_ne_zero hzero
  unfold AllocatorsAgree AllocatorsAgreeWhen WindowFits
  rw [kernel_reservePayload_eq hpos hhead htail hzone hlen, bridge_reservePayload_eq hpos,
    sameReservation_iff]
  have hhi := windowStart_le tail zoneSize payloadLen
  generalize windowStart tail zoneSize payloadLen = start at *
  simp only [hzero, false_or, Option.isSome_ite]
  by_cases hcut : start < 2 ^ 32
  · rw [u32_of_lt hcut]
    by_cases hle : head ≤ start
    · rw [u32Sub_of_le hcut hle]
      omega
    · rw [u32Sub_of_lt hhead (by omega)]
      omega
  · have hwrap : u32 start = start - 2 ^ 32 := by unfold u32; omega
    rw [hwrap]
    by_cases hle : head ≤ start - 2 ^ 32
    · rw [u32Sub_of_le (by omega) hle]
      omega
    · rw [u32Sub_of_lt hhead (by omega)]
      omega

/-- The daemon's signed difference sees a full ring only while the cursors have not wrapped. -/
theorem ringFull_agree_iff {ringHead ringTail ringEntries : Nat}
    (hhead : ringHead < 2 ^ 32) (htail : ringTail < 2 ^ 32) :
    Kernel.ringFull ringHead ringTail ringEntries =
        KernelBridge.ringFull ringHead ringTail ringEntries ↔
      ringHead ≤ ringTail ∨ ringTail + 2 ^ 32 - ringHead < ringEntries := by
  unfold Kernel.ringFull KernelBridge.ringFull
  rw [decide_eq_decide]
  by_cases hle : ringHead ≤ ringTail
  · rw [u32Sub_of_le htail hle]
    omega
  · rw [u32Sub_of_lt hhead (by omega)]
    omega

/-- The allocators and the ring-full tests of the two sides agree exactly while no wrap past
`2 ^ 32` lies between head and tail, or where both refuse anyway. -/
theorem bridgeCursors_agree_iff {head tail zoneSize payloadLen ringHead ringTail ringEntries : Nat}
    (hhead : head < 2 ^ 32) (htail : tail < 2 ^ 32) (hzone : zoneSize < 2 ^ 32)
    (hlen : payloadLen < 2 ^ 32) (hringHead : ringHead < 2 ^ 32) (hringTail : ringTail < 2 ^ 32) :
    (AllocatorsAgree head tail zoneSize payloadLen ∧
        Kernel.ringFull ringHead ringTail ringEntries =
          KernelBridge.ringFull ringHead ringTail ringEntries) ↔
      AllocatorsAgreeWhen head tail zoneSize payloadLen ∧
        (ringHead ≤ ringTail ∨ ringTail + 2 ^ 32 - ringHead < ringEntries) := by
  rw [allocatorsAgree_iff hhead htail hzone hlen, ringFull_agree_iff hringHead hringTail]

theorem bridgeCursors_agree_before_wrap :
    AllocatorsAgree 1000 2097000 2097152 4096 ∧
      Kernel.ringFull 7 70 64 = KernelBridge.ringFull 7 70 64 :=
  (bridgeCursors_agree_iff (by decide) (by decide) (by decide) (by decide) (by decide)
    (by decide)).mpr ⟨.inr (.inl ⟨by decide, by decide⟩), .inl (by decide)⟩

/-- With the tail wrapped past `2 ^ 32` and the head just below it, the kernel refuses 100 bytes
that fit while the daemon accepts them. -/
theorem bridgeCursors_disagree_after_wrap :
    ¬ ∀ head tail zoneSize payloadLen ringHead ringTail ringEntries : Nat,
      head < 2 ^ 32 → tail < 2 ^ 32 → zoneSize < 2 ^ 32 → payloadLen < 2 ^ 32 →
      ringHead < 2 ^ 32 → ringTail < 2 ^ 32 →
        AllocatorsAgree head tail zoneSize payloadLen ∧
          Kernel.ringFull ringHead ringTail ringEntries =
            KernelBridge.ringFull ringHead ringTail ringEntries := by
  intro h
  have hpayload := (h 4294967000 1000 2097152 100 4294967290 58 64 (by decide) (by decide)
    (by decide) (by decide) (by decide) (by decide)).1
  have hkernel : Kernel.reservePayload 4294967000 1000 2097152 100 = none := by decide
  have hbridge : KernelBridge.reservePayload 4294967000 1000 2097152 100 = some 1000 := by decide
  have hsame := hpayload.1
  rw [hkernel, hbridge] at hsame
  exact absurd hsame (by decide)

end Sensorium.Bridge

import Sensorium.Bridge.RingFifo

/-!
# Payloads in a drained zone

With nothing live, `head` and `tail` are one cursor somewhere in the zone.  A payload that does not
fit before the end of the zone is moved to the next multiple of the zone size, and the bytes skipped
on the way are charged against the zone although nothing occupies them.
-/

namespace Sensorium.Bridge

open Lib

/-- Both allocators accept a payload of this length. -/
def ReserveSucceeds (cursorHead cursorTail zoneSize payloadLen : Nat) : Prop :=
  (Kernel.reservePayload cursorHead cursorTail zoneSize payloadLen).isSome = true ∧
    (KernelBridge.reservePayload cursorHead cursorTail zoneSize payloadLen).isSome = true

/-- The payload fits before the end of the zone, or in front of the cursor and the skip to the next
multiple of the zone size does not pass `2 ^ 32`. -/
def FitsDrained (cursor zoneSize payloadLen : Nat) : Prop :=
  cursor % zoneSize + payloadLen ≤ zoneSize ∨
    (payloadLen ≤ cursor % zoneSize ∧ cursor + (zoneSize - cursor % zoneSize) < 2 ^ 32)

theorem bridge_reserve_drained {cursor zoneSize payloadLen : Nat} (hz : 0 < zoneSize)
    (hpos : 0 < payloadLen) :
    (KernelBridge.reservePayload cursor cursor zoneSize payloadLen).isSome = true ↔
      cursor % zoneSize + payloadLen ≤ zoneSize ∨ payloadLen ≤ cursor % zoneSize := by
  have hmod := Nat.mod_lt cursor hz
  rw [bridge_reservePayload_eq hpos, Option.isSome_ite]
  unfold windowStart
  split <;> omega

theorem kernel_reserve_drained {cursor zoneSize payloadLen : Nat} (hz : 0 < zoneSize)
    (hzone : zoneSize ≤ 67108864) (hcursor : cursor < 2 ^ 32) (hpos : 0 < payloadLen)
    (hlen : payloadLen ≤ zoneSize) :
    (Kernel.reservePayload cursor cursor zoneSize payloadLen).isSome = true ↔
      FitsDrained cursor zoneSize payloadLen := by
  have hmod := Nat.mod_lt cursor hz
  rw [kernel_reservePayload_eq hpos hcursor hcursor (by omega) (by omega), Option.isSome_ite]
  unfold windowStart FitsDrained
  split
  · by_cases hcut : cursor + (zoneSize - cursor % zoneSize) < 2 ^ 32
    · rw [u32_of_lt hcut]
      omega
    · -- The start wraps to the bottom of the range, far below `head`.
      have hwrap : u32 (cursor + (zoneSize - cursor % zoneSize)) =
          cursor + (zoneSize - cursor % zoneSize) - 2 ^ 32 := by unfold u32; omega
      rw [hwrap]
      omega
  · rw [u32_of_lt hcursor]
    omega

theorem reserveSucceeds_drained {cursor zoneSize payloadLen : Nat} (hz : 0 < zoneSize)
    (hzone : zoneSize ≤ 67108864) (hcursor : cursor < 2 ^ 32) (hpos : 0 < payloadLen)
    (hlen : payloadLen ≤ zoneSize) :
    ReserveSucceeds cursor cursor zoneSize payloadLen ↔ FitsDrained cursor zoneSize payloadLen := by
  unfold ReserveSucceeds
  rw [kernel_reserve_drained hz hzone hcursor hpos hlen, bridge_reserve_drained hz hpos]
  unfold FitsDrained
  omega

theorem fitsDrained_all_iff {cursor zoneSize : Nat} (hz : 0 < zoneSize) :
    (∀ payloadLen, 1 ≤ payloadLen → payloadLen ≤ zoneSize →
        FitsDrained cursor zoneSize payloadLen) ↔ cursor % zoneSize = 0 := by
  have hmod := Nat.mod_lt cursor hz
  constructor
  · intro h
    -- The whole zone only fits with the cursor on a zone boundary.
    have hfull := h zoneSize hz (Nat.le_refl _)
    unfold FitsDrained at hfull
    omega
  · intro hzero payloadLen _ hlen
    unfold FitsDrained
    omega

namespace Ring

-- Every store to a payload cursor is cut to 32 bits, wrapped or not.
theorem payloadTail_lt {c : RingConfig} {descs : Nat → Desc} {zone : Nat → UInt8} {s : Ring}
    (h : Reach (Ring.step c) anyStep (Ring.init descs zone) s) : s.payloadTail < 2 ^ 32 := by
  apply h.invariant (I := fun s => s.payloadTail < 2 ^ 32)
  · show 0 < 2 ^ 32
    decide
  · intro s label t hlt _ hs
    cases label with
    | publishPayloadTail =>
      unfold Ring.step at hs
      cases hp : s.producer <;> simp only [hp, reduceCtorEq, Option.some.injEq] at hs
      subst hs
      exact u32_lt _
    | _ =>
      simp only [Ring.step] at hs
      grind

/-- A drained ring takes every payload up to the zone size exactly when its cursor lies on a zone
boundary, and a payload of one length exactly when it fits on one side of the cursor. -/
theorem drained_reserve_iff {c : RingConfig} {descs : Nat → Desc} {zone : Nat → UInt8} {s : Ring}
    (h : Reach (Ring.step c) anyStep (Ring.init descs zone) s)
    (hpayload : s.payloadHead = s.payloadTail) :
    ((∀ payloadLen, 1 ≤ payloadLen → payloadLen ≤ c.zoneSize →
        ReserveSucceeds s.payloadHead s.payloadTail c.zoneSize payloadLen) ↔
      s.payloadTail % c.zoneSize = 0) ∧
    ∀ payloadLen, 1 ≤ payloadLen → payloadLen ≤ c.zoneSize →
      (ReserveSucceeds s.payloadHead s.payloadTail c.zoneSize payloadLen ↔
        FitsDrained s.payloadTail c.zoneSize payloadLen) := by
  have hcursor := payloadTail_lt h
  have hzone := (c.setup.zoneSize_bounds c.kind).2
  have hlength : ∀ payloadLen, 1 ≤ payloadLen → payloadLen ≤ c.zoneSize →
      (ReserveSucceeds s.payloadHead s.payloadTail c.zoneSize payloadLen ↔
        FitsDrained s.payloadTail c.zoneSize payloadLen) := by
    intro payloadLen hpos hlen
    rw [hpayload]
    exact reserveSucceeds_drained (zoneSize_pos c) hzone hcursor hpos hlen
  refine ⟨?_, hlength⟩
  rw [← fitsDrained_all_iff (zoneSize_pos c)]
  exact ⟨fun hall n hpos hlen => (hlength n hpos hlen).mp (hall n hpos hlen),
    fun hall n hpos hlen => (hlength n hpos hlen).mpr (hall n hpos hlen)⟩

/-! ## A refusal does not clear -/

-- Idle on both sides, or retrying `m`, with the cursors of `s`.
def Retrying (s : Ring) (m : Message) (t : Ring) : Prop :=
  t.head = s.head ∧ t.tail = s.tail ∧ t.payloadHead = s.payloadHead ∧
    t.payloadTail = s.payloadTail ∧ t.accepted = s.accepted ∧ t.consumer = .idle ∧
    (t.producer = .idle ∨ ∃ tail, t.producer = .checked m tail)

/-- `_write_bridge_reply` retries one payload while the ring is drained: no number of retries and no
step of the consumer gets it through. -/
theorem refusal_persists {c : RingConfig} {s t : Ring} {m : Message}
    (hring : s.head = s.tail) (hprod : s.producer = .idle) (hcons : s.consumer = .idle)
    (hrefused : reservePayload c.kind s.payloadHead s.payloadTail c.zoneSize m.payload.length =
      none)
    (h : Reach (Ring.step c) (fun _ label => ∀ m', label = .submit m' → m' = m) s t) :
    t.accepted = s.accepted ∧ t.payloadTail = s.payloadTail := by
  suffices hretry : Retrying s m t from ⟨hretry.2.2.2.2.1, hretry.2.2.2.1⟩
  apply h.invariant (I := Retrying s m)
  · exact ⟨rfl, rfl, rfl, rfl, rfl, hcons, .inl hprod⟩
  · intro u label v hu hok hs
    obtain ⟨hh, ht, hph, hpt, hacc, hidle, hpc⟩ := hu
    cases label with
    | submit m' =>
      obtain rfl := hok m' rfl
      rcases hpc with hp | ⟨tail, hp⟩
      · simp only [Ring.step, hp] at hs
        split at hs
        · cases hs
          exact ⟨hh, ht, hph, hpt, hacc, hidle, .inr ⟨_, rfl⟩⟩
        · cases hs
          exact ⟨hh, ht, hph, hpt, hacc, hidle, .inl hp⟩
      · simp only [Ring.step, hp, reduceCtorEq] at hs
    | reserve =>
      rcases hpc with hp | ⟨tail, hp⟩
      · simp only [Ring.step, hp, reduceCtorEq] at hs
      · simp only [Ring.step, hp, hph, hpt, hrefused, Option.some.injEq] at hs
        subst hs
        exact ⟨hh, ht, rfl, rfl, hacc, hidle, .inl rfl⟩
    | fetch =>
      simp only [Ring.step, hidle, if_pos (hh.trans (hring.trans ht.symm)), reduceCtorEq] at hs
    | consume | publishHead | publishPayloadHead =>
      simp only [Ring.step, hidle, reduceCtorEq] at hs
    | _ => rcases hpc with hp | ⟨tail, hp⟩ <;> simp only [Ring.step, hp, reduceCtorEq] at hs

end Ring

/-! ## The default reply ring after one reply -/

theorem reply_drained_cursors :
    (exec (guarded (Ring.step defaultReplies) anyStep)
      (Ring.init (fun _ => blankDesc) fun _ => 0) (submitAll emptyReply ++ drainOne)).map
        (fun s => (s.head, s.tail, s.payloadHead, s.payloadTail)) = some (1, 1, 8, 8) := by
  decide

theorem drained_reserve_small : ReserveSucceeds 8 8 defaultReplies.zoneSize 4096 := by
  obtain ⟨s, hexec, hcursors⟩ := Option.map_eq_some_iff.mp reply_drained_cursors
  simp only [Prod.mk.injEq] at hcursors
  obtain ⟨_, _, hph, hpt⟩ := hcursors
  have hiff := (Ring.drained_reserve_iff (reach_of_exec hexec) (hph.trans hpt.symm)).2 4096
    (by decide) (by decide)
  rw [hph, hpt] at hiff
  exact hiff.mpr (.inl (by decide))

/-- After one eight-byte reply has come and gone the whole zone is refused. -/
theorem drained_reserve_refused :
    ¬ ∀ (c : RingConfig) (descs : Nat → Desc) (zone : Nat → UInt8) (s : Ring),
      Reach (Ring.step c) anyStep (Ring.init descs zone) s →
      s.head = s.tail → s.payloadHead = s.payloadTail →
      ∀ payloadLen, 1 ≤ payloadLen → payloadLen ≤ c.zoneSize →
        ReserveSucceeds s.payloadHead s.payloadTail c.zoneSize payloadLen := by
  intro h
  obtain ⟨s, hexec, hcursors⟩ := Option.map_eq_some_iff.mp reply_drained_cursors
  simp only [Prod.mk.injEq] at hcursors
  obtain ⟨hhead, htail, hph, hpt⟩ := hcursors
  have hok := h defaultReplies _ _ s (reach_of_exec hexec) (by rw [hhead, htail])
    (by rw [hph, hpt]) defaultReplies.zoneSize (by decide) (Nat.le_refl _)
  rw [hph, hpt] at hok
  exact absurd hok.2 (by decide)

end Sensorium.Bridge

import Mathlib.Tactic.Common

/-!
# Bridge setup

`SENSORIUM_RUNTIME_IOCTL_SETUP_V5` validates three ring sizes and the payload arena size, and cuts
the arena into a control, a transport and a reply zone.  An `AcceptedSetup` carries the checks, so
every ring below is built from sizes that the kernel has accepted.
-/

namespace Sensorium.Bridge

def minRingEntries : Nat := 8

def maxRingEntries : Nat := 1024

def minPayloadArena : Nat := 2 * 1024 * 1024

def maxPayloadArena : Nat := 64 * 1024 * 1024

/-- `SENSORIUM_RUNTIME_MAX_PAYLOAD` and `RUNTIME_MAX_PAYLOAD`. -/
def maxPayload : Nat := 4 * 1024 * 1024

def validateRingEntries (entries : Nat) : Bool :=
  minRingEntries ≤ entries && entries ≤ maxRingEntries

def validatePayloadArena (payloadArenaSize : Nat) : Bool :=
  minPayloadArena ≤ payloadArenaSize && payloadArenaSize ≤ maxPayloadArena

structure AcceptedSetup where
  controlRingEntries : Nat
  transportRingEntries : Nat
  replyRingEntries : Nat
  payloadArenaSize : Nat
  control_valid : validateRingEntries controlRingEntries = true
  transport_valid : validateRingEntries transportRingEntries = true
  reply_valid : validateRingEntries replyRingEntries = true
  arena_valid : validatePayloadArena payloadArenaSize = true

inductive RingKind
  | control
  | transport
  | reply
  deriving DecidableEq, Repr

def AcceptedSetup.ringEntries (setup : AcceptedSetup) : RingKind → Nat
  | .control => setup.controlRingEntries
  | .transport => setup.transportRingEntries
  | .reply => setup.replyRingEntries

def AcceptedSetup.controlPayloadSize (setup : AcceptedSetup) : Nat := setup.payloadArenaSize / 4

def AcceptedSetup.replyPayloadSize (setup : AcceptedSetup) : Nat := setup.payloadArenaSize / 4

def AcceptedSetup.transportPayloadSize (setup : AcceptedSetup) : Nat :=
  setup.payloadArenaSize - setup.controlPayloadSize - setup.replyPayloadSize

def AcceptedSetup.zoneSize (setup : AcceptedSetup) : RingKind → Nat
  | .control => setup.controlPayloadSize
  | .transport => setup.transportPayloadSize
  | .reply => setup.replyPayloadSize

theorem validateRingEntries_bounds {entries : Nat} (h : validateRingEntries entries = true) :
    8 ≤ entries ∧ entries ≤ 1024 := by
  simp only [validateRingEntries, Bool.and_eq_true, decide_eq_true_eq] at h
  exact h

theorem AcceptedSetup.ringEntries_bounds (setup : AcceptedSetup) (kind : RingKind) :
    8 ≤ setup.ringEntries kind ∧ setup.ringEntries kind ≤ 1024 := by
  cases kind with
  | control => exact validateRingEntries_bounds setup.control_valid
  | transport => exact validateRingEntries_bounds setup.transport_valid
  | reply => exact validateRingEntries_bounds setup.reply_valid

theorem AcceptedSetup.arena_bounds (setup : AcceptedSetup) :
    2097152 ≤ setup.payloadArenaSize ∧ setup.payloadArenaSize ≤ 67108864 := by
  have h := setup.arena_valid
  simp only [validatePayloadArena, Bool.and_eq_true, decide_eq_true_eq] at h
  exact h

/-- Every zone is non-empty and smaller than the whole arena. -/
theorem AcceptedSetup.zoneSize_bounds (setup : AcceptedSetup) (kind : RingKind) :
    524288 ≤ setup.zoneSize kind ∧ setup.zoneSize kind ≤ 67108864 := by
  have harena := setup.arena_bounds
  cases kind <;>
    simp only [AcceptedSetup.zoneSize, AcceptedSetup.controlPayloadSize,
      AcceptedSetup.replyPayloadSize, AcceptedSetup.transportPayloadSize] <;> omega

end Sensorium.Bridge

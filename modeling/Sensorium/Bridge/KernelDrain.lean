import Sensorium.Bridge.RingFifo

/-!
# The kernel's drains and a daemon that writes anything

`sensorium_runtime_drain_control_ring` and `sensorium_runtime_drain_reply_ring` read cursors, the
entry count, descriptors and payloads from pages that the daemon can write at any moment, also
between two reads of one word.  So every pass of a drain loop has a `View` of its own, with a value
for each read.  Where the rings and the zones lie, and how long the zones are, comes from the
kernel's own record of the accepted setup.
-/

namespace Sensorium.Bridge.KernelDrain

def eNoEnt : Int := 2
def eInval : Int := 22
def eProto : Int := 71
def eMsgSize : Int := 90

/-- What one pass of a drain loop reads. -/
structure View where
  -- `daemon_open` and `v5_started`, the kernel's own
  served : Bool
  -- the cursors as the loop compares them, and the head once more as it is reduced
  head : UInt32
  tail : UInt32
  slotHead : UInt32
  entries : UInt32
  -- the mapping from the start of the descriptor table on, also past the table's end
  slots : Nat → Desc
  -- `len` or `data_len` in the payload: in the length checks, and in the copy after the lock
  innerLen : UInt32
  copiedLen : UInt32
  -- what the command returns once its length checks have passed
  status : Int

/-! ## Commands -/

/-- What `sensorium_runtime_handle_control_message` does with a payload. -/
structure Handling where
  -- the payload goes to the code of the command
  handed : Bool
  -- the command goes past its length checks
  executed : Bool
  -- payload bytes from the start of the window on that the command reads at most
  used : Nat
  status : Int
  deriving DecidableEq, Repr

/-- A length check of `handle_control_message` itself. -/
def mismatch : Handling := ⟨false, false, 0, -eInval⟩

def cmdUartInject (v : View) (payloadLen : Nat) : Handling :=
  if payloadLen < 12 then ⟨true, false, 0, -eInval⟩
  else if 12 + v.innerLen.toNat > payloadLen then ⟨true, false, 12, -eInval⟩
  else ⟨true, true, 12 + v.copiedLen.toNat, v.status⟩

def cmdUartModem (v : View) (payloadLen : Nat) : Handling :=
  if payloadLen < 12 then ⟨true, false, 0, -eInval⟩ else ⟨true, true, 12, v.status⟩

def cmdReply (v : View) (payloadLen : Nat) : Handling :=
  if payloadLen < 8 then ⟨true, false, 0, -eInval⟩
  else if 8 + v.innerLen.toNat > payloadLen then ⟨true, false, 8, -eInval⟩
  else if v.innerLen.toNat > maxPayload then ⟨true, false, 8, -eMsgSize⟩
  else ⟨true, true, 8 + v.copiedLen.toNat, v.status⟩

/-- A command whose payload has one size. -/
def sized (size : Nat) (v : View) (payloadLen : Nat) : Handling :=
  if payloadLen ≠ size then mismatch else ⟨true, true, size, v.status⟩

def handleControlMessage (opcode : UInt16) (v : View) (payloadLen : Nat) : Handling :=
  if opcode = cmdReset then sized 0 v payloadLen
  else if opcode = cmdBusAdd then sized 76 v payloadLen
  else if opcode = cmdBusRemove then sized 4 v payloadLen
  else if opcode = cmdDeviceAdd then sized 92 v payloadLen
  else if opcode = cmdDeviceRemove then sized 4 v payloadLen
  else if opcode = cmdUartInjectRx then cmdUartInject v payloadLen
  else if opcode = cmdUartSetModem then
    if payloadLen ≠ 12 then mismatch else cmdUartModem v payloadLen
  else if opcode = Bridge.cmdReply then cmdReply v payloadLen
  else mismatch

/-- The length checks of `handle_control_message`. -/
def passesLength (opcode : UInt16) (payloadLen : Nat) : Bool :=
  match fixedCommandSize opcode with
  | some size => payloadLen = size
  | none => opcode = cmdUartInjectRx || opcode = Bridge.cmdReply

/-! ## The loops -/

inductive Outcome
  -- `-EPROTO` before the rings are read
  | closed
  | empty
  | divisionByZero
  -- `-EPROTO`, and `desynced` is set in the control page
  | desynced (slot : Nat)
  | handled (slot : Nat) (desc : Desc) (handling : Handling)

def Outcome.slotRead : Outcome → Option Nat
  | .desynced slot | .handled slot _ _ => some slot
  | .closed | .empty | .divisionByZero => none

/-- How a pass goes on: with the next one, with a `return`, or not at all. -/
inductive Next
  | again
  | returned (status : Int)
  | trapped
  deriving DecidableEq, Repr

variable (c : RingConfig)

def View.slot (v : View) : Nat := (v.slotHead % v.entries).toNat

def View.desc (v : View) : Desc := v.slots v.slot

/-- The opcode that a drain passes on. -/
def opcodeOf (desc : Desc) : UInt16 := (messageOf c.kind desc []).opcode

def drainPass (v : View) : Outcome :=
  if v.served = false then .closed
  else if v.head = v.tail then .empty
  else if v.entries = 0 then .divisionByZero
  else if v.desc.sessionId ≠ c.session then .desynced v.slot
  else
    .handled v.slot v.desc (handleControlMessage (opcodeOf c v.desc) v v.desc.payloadLen)

/-- The control drain stops at every error; the reply drain goes on after `-ENOENT`. -/
def next : Outcome → Next
  | .closed | .desynced _ => .returned (-eProto)
  | .empty => .returned 0
  | .divisionByZero => .trapped
  | .handled _ _ handling =>
    if handling.status = 0 ∨ c.kind = .reply ∧ handling.status = -eNoEnt then .again
    else .returned handling.status

/-- The passes of one call, each with what it has read. -/
def drain : List View → List (View × Outcome)
  | [] => []
  | v :: views =>
    (v, drainPass c v) :: if next c (drainPass c v) = .again then drain views else []

def drainControlRing (setup : AcceptedSetup) (session : UInt32) :
    List View → List (View × Outcome) :=
  drain ⟨setup, .control, session⟩

def drainReplyRing (setup : AcceptedSetup) (session : UInt32) : List View → List (View × Outcome) :=
  drain ⟨setup, .reply, session⟩

/-! ## Windows -/

/-- The window that a descriptor names lies inside the payload zone of its ring. -/
def Inside (desc : Desc) : Prop := desc.payloadOffset % c.zoneSize + desc.payloadLen ≤ c.zoneSize

instance (desc : Desc) : Decidable (Inside c desc) := by unfold Inside; infer_instance

/-- What a pass owes the kernel: it divides by no zero, reads a slot of the ring, hands over only
windows of the zone, and answers any other window with an error and without its command. -/
structure KeepsWindows (outcome : Outcome) : Prop where
  divides : outcome ≠ .divisionByZero
  slot : ∀ slot, outcome.slotRead = some slot → slot < c.entries
  window : ∀ slot desc handling, outcome = .handled slot desc handling →
    handling.handed = true → Inside c desc
  refuses : ∀ slot desc handling, outcome = .handled slot desc handling → ¬ Inside c desc →
    handling.executed = false ∧ handling.status < 0

/-- The reads of a pass that keeps to its windows. -/
structure WellFormed (v : View) : Prop where
  entries : v.entries ≠ 0
  slot : v.slot < c.entries
  window : v.desc.sessionId = c.session →
    passesLength (opcodeOf c v.desc) v.desc.payloadLen = true → Inside c v.desc

/-- A pass that gets as far as the ring finds a well-formed entry. -/
def Meets (v : View) : Prop := v.served = true → v.head ≠ v.tail → WellFormed c v

variable {c : RingConfig} {v : View} {opcode : UInt16} {payloadLen : Nat}

/-! ## What the commands do -/

/-- A payload that is not handed over is answered with `-EINVAL`.  A command reads no further than
the window, provided that its length field has not grown since the checks. -/
structure HandlingSpec (v : View) (payloadLen : Nat) (handling : Handling) : Prop where
  unhanded : handling.handed = false → handling = mismatch
  used : handling.executed = true → v.copiedLen.toNat ≤ v.innerLen.toNat →
    handling.used ≤ payloadLen

theorem mismatch_spec : HandlingSpec v payloadLen mismatch where
  unhanded _ := rfl
  used h := by cases h

theorem refused_spec (used : Nat) (status : Int) :
    HandlingSpec v payloadLen ⟨true, false, used, status⟩ where
  unhanded h := by cases h
  used h := by cases h

theorem executed_spec {used : Nat} {status : Int}
    (hused : v.copiedLen.toNat ≤ v.innerLen.toNat → used ≤ payloadLen) :
    HandlingSpec v payloadLen ⟨true, true, used, status⟩ where
  unhanded h := by cases h
  used _ hread := hused hread

theorem sized_spec (size : Nat) : HandlingSpec v payloadLen (sized size v payloadLen) := by
  unfold sized
  split_ifs with hsize
  · exact mismatch_spec
  · exact executed_spec fun _ => by omega

theorem cmdUartInject_spec : HandlingSpec v payloadLen (cmdUartInject v payloadLen) := by
  unfold cmdUartInject
  split_ifs with hheader hinner
  · exact refused_spec ..
  · exact refused_spec ..
  · exact executed_spec fun hread => by omega

theorem cmdUartModem_spec : HandlingSpec v payloadLen (cmdUartModem v payloadLen) := by
  unfold cmdUartModem
  split_ifs with hheader
  · exact refused_spec ..
  · exact executed_spec fun _ => by omega

theorem cmdReply_spec : HandlingSpec v payloadLen (cmdReply v payloadLen) := by
  unfold cmdReply
  split_ifs with hheader hinner hmax
  · exact refused_spec ..
  · exact refused_spec ..
  · exact refused_spec ..
  · exact executed_spec fun hread => by omega

theorem handleControlMessage_spec :
    HandlingSpec v payloadLen (handleControlMessage opcode v payloadLen) := by
  unfold handleControlMessage
  split_ifs
  · exact sized_spec 0
  · exact sized_spec 76
  · exact sized_spec 4
  · exact sized_spec 92
  · exact sized_spec 4
  · exact cmdUartInject_spec
  · exact mismatch_spec
  · exact cmdUartModem_spec
  · exact cmdReply_spec
  · exact mismatch_spec

@[simp] theorem sized_handed {size : Nat} :
    (sized size v payloadLen).handed = true ↔ payloadLen = size := by
  unfold sized
  split
  · simpa [mismatch] using ‹payloadLen ≠ size›
  · simpa using ‹¬ payloadLen ≠ size›

@[simp] theorem cmdUartInject_handed : (cmdUartInject v payloadLen).handed = true := by
  unfold cmdUartInject
  split_ifs <;> rfl

@[simp] theorem cmdUartModem_handed : (cmdUartModem v payloadLen).handed = true := by
  unfold cmdUartModem
  split_ifs <;> rfl

@[simp] theorem cmdReply_handed : (cmdReply v payloadLen).handed = true := by
  unfold cmdReply
  split_ifs <;> rfl

theorem handed_iff :
    (handleControlMessage opcode v payloadLen).handed = true ↔
      passesLength opcode payloadLen = true := by
  unfold handleControlMessage passesLength fixedCommandSize
  split_ifs <;> simp_all [mismatch, cmdUartInjectRx, cmdUartSetModem, Bridge.cmdReply]

/-! ## One pass -/

/-- A pass that reaches the ring has looked at a slot and, for its own session, handed on the
descriptor found there. -/
theorem drainPass_of_reached (hserved : v.served = true) (hwork : v.head ≠ v.tail)
    (hentries : v.entries ≠ 0) :
    drainPass c v = if v.desc.sessionId ≠ c.session then .desynced v.slot
      else .handled v.slot v.desc
        (handleControlMessage (opcodeOf c v.desc) v v.desc.payloadLen) := by
  rw [drainPass, if_neg (by simp [hserved]), if_neg hwork, if_neg hentries]

theorem drainPass_slotRead (hserved : v.served = true) (hwork : v.head ≠ v.tail)
    (hentries : v.entries ≠ 0) : (drainPass c v).slotRead = some v.slot := by
  rw [drainPass_of_reached hserved hwork hentries]
  split <;> rfl

theorem drainPass_of_session (hserved : v.served = true) (hwork : v.head ≠ v.tail)
    (hentries : v.entries ≠ 0) (hsession : v.desc.sessionId = c.session) :
    drainPass c v = .handled v.slot v.desc
      (handleControlMessage (opcodeOf c v.desc) v v.desc.payloadLen) := by
  rw [drainPass_of_reached hserved hwork hentries, if_neg (not_not_intro hsession)]

/-- The inversion: what is handled was reached, is of the session and comes from the slot read. -/
theorem of_drainPass_handled {slot : Nat} {desc : Desc} {handling : Handling}
    (h : drainPass c v = .handled slot desc handling) :
    v.desc.sessionId = c.session ∧ desc = v.desc ∧
      handling = handleControlMessage (opcodeOf c v.desc) v v.desc.payloadLen := by
  unfold drainPass at h
  split_ifs at h with hserved hempty hzero hsession
  injection h with hslot hdesc hhandling
  exact ⟨not_not.mp hsession, hdesc.symm, hhandling.symm⟩

theorem of_drainPass_slotRead {slot : Nat} (h : (drainPass c v).slotRead = some slot) :
    slot = v.slot := by
  unfold drainPass at h
  split_ifs at h <;> cases h <;> rfl

theorem Meets.keepsWindows (h : Meets c v) : KeepsWindows c (drainPass c v) := by
  by_cases hreached : v.served = true ∧ v.head ≠ v.tail
  · have hwell := h hreached.1 hreached.2
    constructor
    · intro hzero
      have hread := drainPass_slotRead (c := c) hreached.1 hreached.2 hwell.entries
      rw [hzero] at hread
      cases hread
    · intro slot hslot
      rw [of_drainPass_slotRead hslot]
      exact hwell.slot
    · intro slot desc handling hhandled hhanded
      obtain ⟨hsession, rfl, rfl⟩ := of_drainPass_handled hhandled
      exact hwell.window hsession (handed_iff.mp hhanded)
    · intro slot desc handling hhandled hout
      obtain ⟨hsession, rfl, rfl⟩ := of_drainPass_handled hhandled
      -- a window outside the zone is one that the length checks have turned away
      have hunhanded : (handleControlMessage (opcodeOf c v.desc) v v.desc.payloadLen).handed
          = false := by
        rw [Bool.eq_false_iff]
        exact fun hhanded => hout (hwell.window hsession (handed_iff.mp hhanded))
      rw [handleControlMessage_spec.unhanded hunhanded]
      decide
  · have hquiet : drainPass c v = .closed ∨ drainPass c v = .empty := by
      unfold drainPass
      by_cases hserved : v.served = true
      · have hempty : v.head = v.tail := by
          by_contra hwork
          exact hreached ⟨hserved, hwork⟩
        exact .inr (by rw [if_neg (by simp [hserved]), if_pos hempty])
      · exact .inl (by rw [if_pos (by simpa using hserved)])
    rcases hquiet with hquiet | hquiet <;> rw [hquiet] <;>
      exact ⟨by simp, by simp [Outcome.slotRead], by simp, by simp⟩

theorem KeepsWindows.meets (h : KeepsWindows c (drainPass c v)) : Meets c v := by
  intro hserved hwork
  have hentries : v.entries ≠ 0 := by
    intro hzero
    apply h.divides
    rw [drainPass, if_neg (by simp [hserved]), if_neg hwork, if_pos hzero]
  constructor
  · exact hentries
  · exact h.slot v.slot (drainPass_slotRead hserved hwork hentries)
  · intro hsession hpasses
    exact h.window _ _ _ (drainPass_of_session hserved hwork hentries hsession)
      (handed_iff.mpr hpasses)

/-! ## Calls -/

/-- Every entry of a drain is one pass over what that pass has read. -/
theorem drain_pass {views : List View} {pass : View × Outcome} (h : pass ∈ drain c views) :
    pass.2 = drainPass c pass.1 := by
  induction views with
  | nil => cases h
  | cons v views ih =>
    rw [drain, List.mem_cons] at h
    rcases h with rfl | h
    · rfl
    · split at h
      · exact ih h
      · cases h

theorem drain_keepsWindows_iff (views : List View) :
    (∀ pass ∈ drain c views, KeepsWindows c pass.2) ↔ ∀ pass ∈ drain c views, Meets c pass.1 := by
  apply forall₂_congr
  intro pass hpass
  rw [drain_pass hpass]
  exact ⟨KeepsWindows.meets, Meets.keepsWindows⟩

/-- For every content of the shared region, read by read: a call of a drain keeps to its windows
exactly when each pass that reaches the ring finds a non-zero entry count, a slot of the ring and,
under the session's id, a window of the zone or a length that `handle_control_message` refuses. -/
theorem drains_keep_windows_iff (setup : AcceptedSetup) (session : UInt32) (views : List View) :
    ((∀ pass ∈ drainControlRing setup session views,
        KeepsWindows ⟨setup, .control, session⟩ pass.2) ↔
      ∀ pass ∈ drainControlRing setup session views, Meets ⟨setup, .control, session⟩ pass.1) ∧
    ((∀ pass ∈ drainReplyRing setup session views,
        KeepsWindows ⟨setup, .reply, session⟩ pass.2) ↔
      ∀ pass ∈ drainReplyRing setup session views, Meets ⟨setup, .reply, session⟩ pass.1) :=
  ⟨drain_keepsWindows_iff views, drain_keepsWindows_iff views⟩

-- A `CMD_BUS_ADD` of the right length whose window starts at the last byte of the zone.
def edgeDesc : Desc := { blankDesc with
  sessionId := 1
  opcode := cmdBusAdd
  payloadOffset := defaultSetup.controlPayloadSize - 1
  payloadLen := 76 }

def edgeView : View where
  served := true
  head := 0
  tail := 1
  slotHead := 0
  entries := 64
  slots := fun _ => edgeDesc
  innerLen := 0
  copiedLen := 0
  status := 0

/-- The command is executed on the bytes behind the zone; with an entry count of zero the drain
divides by it. -/
theorem drain_leaves_windows :
    ¬ (∀ setup session views, ∀ pass ∈ drainControlRing setup session views,
      KeepsWindows ⟨setup, .control, session⟩ pass.2) ∧
    drainPass ⟨defaultSetup, .control, 1⟩ { edgeView with entries := 0 } = .divisionByZero := by
  constructor
  · intro h
    have hkeeps := h defaultSetup 1 [edgeView]
      (edgeView, drainPass ⟨defaultSetup, .control, 1⟩ edgeView) (List.mem_cons_self ..)
    have hinside := hkeeps.window 0 edgeDesc ⟨true, true, 76, 0⟩ rfl rfl
    exact absurd hinside (by decide)
  · rfl

/-- What a command reads stays in the zone, unless its length field grows between the two reads. -/
theorem executed_reads_zone {slot : Nat} {desc : Desc} {handling : Handling} (hmeets : Meets c v)
    (h : drainPass c v = .handled slot desc handling) (hexecuted : handling.executed = true)
    (hread : v.copiedLen.toNat ≤ v.innerLen.toNat) :
    desc.payloadOffset % c.zoneSize + handling.used ≤ c.zoneSize := by
  have hkeeps := hmeets.keepsWindows
  have hinside : Inside c desc := by
    by_contra hout
    have hrefused := (hkeeps.refuses slot desc handling h hout).1
    rw [hexecuted] at hrefused
    cases hrefused
  obtain ⟨-, rfl, rfl⟩ := of_drainPass_handled h
  have hused := handleControlMessage_spec.used hexecuted hread
  unfold Inside at hinside
  omega

/-! ## A daemon that writes what the bridge writes -/

/-- A pass that sees one state of a ring. -/
structure View.Shows (v : View) (c : RingConfig) (s : Ring) : Prop where
  head : v.head.toNat = s.head
  tail : v.tail.toNat = s.tail
  slotHead : v.slotHead.toNat = s.head
  entries : v.entries.toNat = c.entries
  slots : v.slots = s.descs

/-- Every pass over a ring that only `_submit_ring_entry` has written keeps to its windows. -/
theorem bridge_keeps_windows {s : Ring} {descs : Nat → Desc} {zone : Nat → UInt8}
    (hreach : Lib.Reach (Ring.step c) (Ring.BelowWrap c) (Ring.init descs zone) s)
    (hshows : v.Shows c s) : KeepsWindows c (drainPass c v) := by
  have hinv := Ring.inv_of_reach hreach
  apply Meets.keepsWindows
  intro hserved hwork
  have hslot : v.slot = s.head % c.entries := by
    rw [View.slot, UInt32.toNat_mod, hshows.slotHead, hshows.entries]
  have hlive : s.Live s.head := by
    have hle := hinv.head_le
    have hne : s.head ≠ s.tail := by
      intro heq
      apply hwork
      rw [← UInt32.toNat_inj, hshows.head, hshows.tail, heq]
    exact ⟨Nat.le_refl _, by omega⟩
  have hentries : 0 < c.entries := by
    have hbounds := c.setup.ringEntries_bounds c.kind
    show 0 < c.setup.ringEntries c.kind
    omega
  constructor
  · intro hzero
    have htoNat := hshows.entries
    rw [hzero] at htoNat
    exact absurd htoNat.symm hentries.ne'
  · rw [hslot]
    exact Nat.mod_lt _ hentries
  · intro _ _
    obtain ⟨m, offset, hholds⟩ := hinv.holds s.head hlive
    have hdesc : v.desc = descOf c.kind c.session m offset := by
      rw [View.desc, hslot, hshows.slots]
      exact hholds.desc
    rw [hdesc]
    exact hholds.inside
end Sensorium.Bridge.KernelDrain

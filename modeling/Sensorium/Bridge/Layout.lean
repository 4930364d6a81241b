import Sensorium.Bridge.Setup
import Sensorium.Lib.Regions
import Sensorium.Lib.Runs

/-!
# The layout of the shared region

`SENSORIUM_RUNTIME_IOCTL_SETUP_V5` lays out the control page, the three descriptor rings and the
three payload zones in one region.  The state keeps the offsets but not the sizes of the rings:
`sensorium_runtime_v5_init_shared_locked`, which three calls run, takes them from differences of
offsets.  Words are `UInt32`, as in the structures.
-/

namespace Sensorium.Bridge.Layout

open Lib

def eNoMem : Int := -12
def eFault : Int := -14
def eNoDev : Int := -19
def eInval : Int := -22
def eProto : Int := -71

def runtimeMagic : UInt32 := 0x5352544d
def runtimeVersion : UInt32 := 5

/-- `SENSORIUM_RUNTIME_REQUIRED_FEATURES`. -/
def requiredFeatures : UInt32 := 1 ||| 2 ||| 4

/-! ## Structures -/

/-- The widths of the fields of `struct sensorium_runtime_v5_desc`, which is packed. -/
def v5DescWidths : List Nat := [4, 4, 4, 2, 2, 4, 4, 4, 4, 4]

def sizeofV5Desc : UInt32 := UInt32.ofNat v5DescWidths.sum

/-- `struct sensorium_runtime_v5_control`, as `memset` leaves it. -/
structure V5Control where
  magic : UInt32 := 0
  abiVersion : UInt32 := 0
  sessionId : UInt32 := 0
  generation : UInt32 := 0
  flags : UInt32 := 0
  features : UInt32 := 0
  controlRingEntries : UInt32 := 0
  transportRingEntries : UInt32 := 0
  replyRingEntries : UInt32 := 0
  controlRingHead : UInt32 := 0
  controlRingTail : UInt32 := 0
  transportRingHead : UInt32 := 0
  transportRingTail : UInt32 := 0
  replyRingHead : UInt32 := 0
  replyRingTail : UInt32 := 0
  controlPayloadSize : UInt32 := 0
  transportPayloadSize : UInt32 := 0
  replyPayloadSize : UInt32 := 0
  controlPayloadHead : UInt32 := 0
  controlPayloadTail : UInt32 := 0
  transportPayloadHead : UInt32 := 0
  transportPayloadTail : UInt32 := 0
  replyPayloadHead : UInt32 := 0
  replyPayloadTail : UInt32 := 0
  inflightCreditLimit : UInt32 := 0
  inflightInUse : UInt32 := 0
  ebusyGeneration : UInt32 := 0
  ebusyTotal : UInt32 := 0
  requestCompletedTotal : UInt32 := 0
  requestTimeoutGeneration : UInt32 := 0
  requestTimeoutTotal : UInt32 := 0
  brokerEventfdRegistered : UInt32 := 0
  kernelEventfdRegistered : UInt32 := 0
  desynced : UInt32 := 0
  deriving DecidableEq, Repr

/-- The 34 words of the fields, and `reserved[5]`. -/
def sizeofV5Control : UInt32 := 4 * (34 + 5)

/-- `struct sensorium_runtime_v5_setup`: a request, and the answer in the same place. -/
structure V5Setup where
  abiVersion : UInt32
  controlRingEntries : UInt32
  transportRingEntries : UInt32
  replyRingEntries : UInt32
  payloadArenaSize : UInt32
  inflightCreditLimit : UInt32
  regionSize : UInt32
  sessionId : UInt32
  generation : UInt32
  features : UInt32
  controlPageOffset : UInt32
  controlRingOffset : UInt32
  transportRingOffset : UInt32
  replyRingOffset : UInt32
  controlPayloadOffset : UInt32
  controlPayloadSize : UInt32
  transportPayloadOffset : UInt32
  transportPayloadSize : UInt32
  replyPayloadOffset : UInt32
  replyPayloadSize : UInt32
  deriving DecidableEq, Repr

/-- The fields of `struct sensorium_runtime_state` for the region.  The control page stands at the
start of the shared area, so that there is one where there is the other. -/
structure V5State where
  daemonOpen : Bool := false
  sessionId : UInt32 := 0
  nextSessionId : UInt32 := 0
  generation : UInt32 := 0
  controlPage : Option V5Control := none
  sharedAreaLen : UInt32 := 0
  controlRingOffset : UInt32 := 0
  transportRingOffset : UInt32 := 0
  replyRingOffset : UInt32 := 0
  controlPayloadOffset : UInt32 := 0
  controlPayloadSize : UInt32 := 0
  transportPayloadOffset : UInt32 := 0
  transportPayloadSize : UInt32 := 0
  replyPayloadOffset : UInt32 := 0
  replyPayloadSize : UInt32 := 0
  inflightCreditLimit : UInt32 := 128
  v5Configured : Bool := false
  v5Started : Bool := false
  brokerEventfd : Bool := false
  kernelEventfd : Bool := false
  deriving DecidableEq, Repr

/-! ## Setup -/

namespace V5Setup

variable (setup : V5Setup)

/-- The zones of the arena. -/
def cutArena : V5Setup :=
  let controlPayloadSize := setup.payloadArenaSize / 4
  let replyPayloadSize := setup.payloadArenaSize / 4
  { setup with
    controlPayloadSize := controlPayloadSize
    transportPayloadSize := setup.payloadArenaSize - controlPayloadSize - replyPayloadSize
    replyPayloadSize := replyPayloadSize }

/-- The offsets, and the region on pages of `2 ^ pageShift` bytes. -/
def place (pageShift : Fin 32) : V5Setup :=
  let controlRingOffset := sizeofV5Control
  let transportRingOffset := controlRingOffset + setup.controlRingEntries * sizeofV5Desc
  let replyRingOffset := transportRingOffset + setup.transportRingEntries * sizeofV5Desc
  let controlPayloadOffset := replyRingOffset + setup.replyRingEntries * sizeofV5Desc
  let transportPayloadOffset := controlPayloadOffset + setup.controlPayloadSize
  let replyPayloadOffset := transportPayloadOffset + setup.transportPayloadSize
  { setup with
    controlPageOffset := 0
    controlRingOffset := controlRingOffset
    transportRingOffset := transportRingOffset
    replyRingOffset := replyRingOffset
    controlPayloadOffset := controlPayloadOffset
    transportPayloadOffset := transportPayloadOffset
    replyPayloadOffset := replyPayloadOffset
    regionSize := alignUp pageShift (replyPayloadOffset + setup.replyPayloadSize)
    sessionId := 0
    generation := 0
    features := requiredFeatures }

end V5Setup

/-- The part of `SETUP_V5` before the allocation. -/
def layOut (pageShift : Fin 32) (setup : V5Setup) : Except Int V5Setup :=
  if setup.abiVersion ≠ runtimeVersion then .error eProto
  else if !validateRingEntries setup.controlRingEntries.toNat ||
      !validateRingEntries setup.transportRingEntries.toNat ||
      !validateRingEntries setup.replyRingEntries.toNat then
    .error eInval
  else if !validatePayloadArena setup.payloadArenaSize.toNat then .error eInval
  else
    let setup := setup.cutArena
    if setup.controlPayloadSize = 0 ∨ setup.transportPayloadSize = 0 ∨ setup.replyPayloadSize = 0
    then .error eInval
    else .ok (setup.place pageShift)

namespace V5State

variable (s : V5State)

/-- What `sensorium_runtime_v5_init_shared_locked` writes into the control page. -/
def initialPage : V5Control where
  magic := runtimeMagic
  abiVersion := runtimeVersion
  sessionId := s.sessionId
  generation := s.generation
  flags := if s.v5Started then 1 else 0
  features := requiredFeatures
  controlRingEntries := (s.transportRingOffset - s.controlRingOffset) / sizeofV5Desc
  transportRingEntries := (s.replyRingOffset - s.transportRingOffset) / sizeofV5Desc
  replyRingEntries := (s.controlPayloadOffset - s.replyRingOffset) / sizeofV5Desc
  controlPayloadSize := s.controlPayloadSize
  transportPayloadSize := s.transportPayloadSize
  replyPayloadSize := s.replyPayloadSize
  inflightCreditLimit := s.inflightCreditLimit
  brokerEventfdRegistered := if s.brokerEventfd then 1 else 0
  kernelEventfdRegistered := if s.kernelEventfd then 1 else 0

/-- `sensorium_runtime_v5_init_shared_locked`. -/
def initShared : V5State := { s with controlPage := s.controlPage.map fun _ => s.initialPage }

/-- `sensorium_runtime_v5_teardown_locked`. -/
def teardown : V5State :=
  { s with
    brokerEventfd := false
    kernelEventfd := false
    controlPage := none
    sharedAreaLen := 0
    controlRingOffset := 0
    transportRingOffset := 0
    replyRingOffset := 0
    controlPayloadOffset := 0
    controlPayloadSize := 0
    transportPayloadOffset := 0
    transportPayloadSize := 0
    replyPayloadOffset := 0
    replyPayloadSize := 0
    v5Configured := false
    v5Started := false }

/-- The lock section of `SETUP_V5`, on a new region. -/
def configure (setup : V5Setup) : V5State :=
  initShared { s.teardown with
    controlPage := some {}
    sharedAreaLen := setup.regionSize
    controlRingOffset := setup.controlRingOffset
    transportRingOffset := setup.transportRingOffset
    replyRingOffset := setup.replyRingOffset
    controlPayloadOffset := setup.controlPayloadOffset
    controlPayloadSize := setup.controlPayloadSize
    transportPayloadOffset := setup.transportPayloadOffset
    transportPayloadSize := setup.transportPayloadSize
    replyPayloadOffset := setup.replyPayloadOffset
    replyPayloadSize := setup.replyPayloadSize
    inflightCreditLimit := max 1 setup.inflightCreditLimit
    v5Configured := true
    v5Started := false }

end V5State

/-- What the allocator and the copies to and from the daemon answer. -/
structure SetupAnswers where
  copyFromUser : Bool
  vmallocUser : Bool
  copyToUser : Bool

namespace V5State

variable (s : V5State)

/-- `SENSORIUM_RUNTIME_IOCTL_SETUP_V5`, with what the daemon gets back. -/
def setupV5 (pageShift : Fin 32) (w : SetupAnswers) (setup : V5Setup) :
    V5State × Int × Option V5Setup :=
  if !w.copyFromUser then (s, eFault, none)
  else
    match layOut pageShift setup with
    | .error ret => (s, ret, none)
    | .ok setup =>
      if !w.vmallocUser then (s, eNoMem, none)
      else if !s.daemonOpen then (s, eNoDev, none)
      else
        let s := s.configure setup
        let setup := { setup with sessionId := s.sessionId, generation := s.generation }
        if !w.copyToUser then (s, eFault, none) else (s, 0, some setup)

/-- `SENSORIUM_RUNTIME_IOCTL_REGISTER_EVENTFDS`; a descriptor below zero is none, and
`eventfd_ctx_fdget` answers with an error or with 0. -/
def registerEventfds (copyFromUser : Bool) (broker kernel brokerError kernelError : Int) :
    V5State × Int :=
  if !copyFromUser then (s, eFault)
  else if !s.v5Configured then (s, eProto)
  else
    let s := { s with brokerEventfd := false, kernelEventfd := false }
    if 0 ≤ broker ∧ brokerError ≠ 0 then (s, brokerError)
    else if 0 ≤ kernel ∧ kernelError ≠ 0 then (s, kernelError)
    else
      let s := { s with
        brokerEventfd := decide (0 ≤ broker)
        kernelEventfd := decide (0 ≤ kernel) }
      (s.initShared, 0)

/-- `SENSORIUM_RUNTIME_IOCTL_START_V5`. -/
def startV5 : V5State × Int :=
  if !s.daemonOpen || !s.v5Configured then (s, eProto)
  else (initShared { s with v5Started := true }, 0)

/-- `sensorium_runtime_bridge_open`. -/
def bridgeOpen : V5State :=
  if s.daemonOpen then s
  else
    { s with
      daemonOpen := true
      sessionId := s.nextSessionId + 1
      nextSessionId := s.nextSessionId + 1
      v5Configured := false
      v5Started := false }

/-- `sensorium_runtime_bridge_release`. -/
def bridgeRelease : V5State := teardown { s with daemonOpen := false, v5Started := false }

end V5State

/-- The calls of the daemon; `written` is what `RESET` does to the generation, and what either side
writes into the control page. -/
inductive V5Act
  | bridgeOpen
  | bridgeRelease
  | setup (w : SetupAnswers) (request : V5Setup)
  | registerEventfds (copyFromUser : Bool) (broker kernel brokerError kernelError : Int)
  | start
  | written (generation : UInt32) (page : V5Control)

/-- One call, under the lock. -/
def step (pageShift : Fin 32) (s : V5State) : V5Act → Option V5State
  | .bridgeOpen => some s.bridgeOpen
  | .bridgeRelease => some s.bridgeRelease
  | .setup w request => some (s.setupV5 pageShift w request).1
  | .registerEventfds copyFromUser broker kernel brokerError kernelError =>
    some (s.registerEventfds copyFromUser broker kernel brokerError kernelError).1
  | .start => some s.startV5.1
  | .written generation page =>
    some { s with generation := generation, controlPage := s.controlPage.map fun _ => page }

/-! ## What is accepted -/

def V5Setup.ringEntries (setup : V5Setup) : RingKind → UInt32
  | .control => setup.controlRingEntries
  | .transport => setup.transportRingEntries
  | .reply => setup.replyRingEntries

def V5Setup.payloadSize (setup : V5Setup) : RingKind → UInt32
  | .control => setup.controlPayloadSize
  | .transport => setup.transportPayloadSize
  | .reply => setup.replyPayloadSize

def V5Control.ringEntries (page : V5Control) : RingKind → UInt32
  | .control => page.controlRingEntries
  | .transport => page.transportRingEntries
  | .reply => page.replyRingEntries

/-- The control page, the rings and the zones. -/
def V5Setup.regions (setup : V5Setup) : List Region :=
  [⟨setup.controlPageOffset.toNat, sizeofV5Control.toNat⟩,
    ⟨setup.controlRingOffset.toNat, setup.controlRingEntries.toNat * sizeofV5Desc.toNat⟩,
    ⟨setup.transportRingOffset.toNat, setup.transportRingEntries.toNat * sizeofV5Desc.toNat⟩,
    ⟨setup.replyRingOffset.toNat, setup.replyRingEntries.toNat * sizeofV5Desc.toNat⟩,
    ⟨setup.controlPayloadOffset.toNat, setup.controlPayloadSize.toNat⟩,
    ⟨setup.transportPayloadOffset.toNat, setup.transportPayloadSize.toNat⟩,
    ⟨setup.replyPayloadOffset.toNat, setup.replyPayloadSize.toNat⟩]

def V5Setup.stop (setup : V5Setup) : Nat :=
  setup.replyPayloadOffset.toNat + setup.replyPayloadSize.toNat

/-- What `SETUP_V5` asks of a request. -/
structure V5Setup.Accepted (request : V5Setup) : Prop where
  abiVersion : request.abiVersion = runtimeVersion
  rings : ∀ kind, validateRingEntries (request.ringEntries kind).toNat = true
  arena : validatePayloadArena request.payloadArenaSize.toNat = true

namespace V5Setup.Accepted

variable {request : V5Setup} (h : request.Accepted)
include h

theorem arena_bounds : 2097152 ≤ request.payloadArenaSize.toNat ∧
    request.payloadArenaSize.toNat ≤ 67108864 := by
  have harena := h.arena
  simp only [validatePayloadArena, Bool.and_eq_true, decide_eq_true_eq] at harena
  exact harena

/-- The zones, without a wraparound. -/
theorem toNat_payloadSize :
    request.cutArena.controlPayloadSize.toNat = request.payloadArenaSize.toNat / 4 ∧
    request.cutArena.replyPayloadSize.toNat = request.payloadArenaSize.toNat / 4 ∧
    request.cutArena.transportPayloadSize.toNat = request.payloadArenaSize.toNat -
      request.payloadArenaSize.toNat / 4 - request.payloadArenaSize.toNat / 4 := by
  have hquarter : (request.payloadArenaSize / 4).toNat = request.payloadArenaSize.toNat / 4 :=
    UInt32.toNat_div _ _
  refine ⟨hquarter, hquarter, ?_⟩
  show (request.payloadArenaSize - request.payloadArenaSize / 4 -
    request.payloadArenaSize / 4).toNat = _
  have hbounds := h.arena_bounds
  rw [UInt32.toNat_sub, UInt32.toNat_sub, hquarter]
  omega

end V5Setup.Accepted

theorem layOut_eq_ok_iff {pageShift : Fin 32} {request setup : V5Setup} :
    layOut pageShift request = .ok setup ↔
      request.Accepted ∧ setup = request.cutArena.place pageShift := by
  unfold layOut
  constructor
  · intro h
    split at h
    · cases h
    · rename_i habi
      split at h
      · cases h
      · rename_i hrings
        split at h
        · cases h
        · rename_i harena
          dsimp only at h
          split at h
          · cases h
          · simp only [Bool.or_eq_true, Bool.not_eq_true', not_or, Bool.not_eq_false] at hrings
            refine ⟨⟨not_not.mp habi, fun kind => ?_, by simpa using harena⟩,
              (Except.ok.inj h).symm⟩
            cases kind with
            | control => exact hrings.1.1
            | transport => exact hrings.1.2
            | reply => exact hrings.2
  · rintro ⟨h, rfl⟩
    have hcontrol := h.rings .control
    have htransport := h.rings .transport
    have hreply := h.rings .reply
    obtain ⟨hc, hr, ht⟩ := h.toNat_payloadSize
    have hbounds := h.arena_bounds
    have hpos {x : UInt32} (hx : 0 < x.toNat) : x ≠ 0 := by
      rintro rfl
      exact absurd hx (by decide)
    simp only [V5Setup.ringEntries] at hcontrol htransport hreply
    rw [if_neg (not_not.mpr h.abiVersion), hcontrol, htransport, hreply, h.arena]
    simp only [Bool.not_true, Bool.or_false, Bool.false_eq_true, if_false]
    refine if_neg ?_
    rintro (hzero | hzero | hzero)
    · exact hpos (by omega) hzero
    · exact hpos (by omega) hzero
    · exact hpos (by omega) hzero

/-! ## The partition -/

theorem toNat_add_ring {offset entries : UInt32} (hoffset : offset.toNat ≤ 2 ^ 27)
    (hentries : entries.toNat ≤ 1024) : (offset + entries * sizeofV5Desc).toNat =
      offset.toNat + entries.toNat * sizeofV5Desc.toNat := by
  have hsize : sizeofV5Desc.toNat = 36 := rfl
  rw [UInt32.toNat_add, UInt32.toNat_mul, hsize]
  omega

theorem toNat_add_zone {offset size : UInt32} (hoffset : offset.toNat ≤ 2 ^ 27)
    (hsize : size.toNat ≤ 2 ^ 26) : (offset + size).toNat = offset.toNat + size.toNat := by
  rw [UInt32.toNat_add]
  omega

namespace V5Setup.Accepted

variable {request : V5Setup} (h : request.Accepted)
include h

theorem ringEntries_le (kind : RingKind) : (request.ringEntries kind).toNat ≤ 1024 :=
  (validateRingEntries_bounds (h.rings kind)).2

/-- No offset wraps around. -/
theorem toNat_offsets (pageShift : Fin 32) {setup : V5Setup}
    (hsetup : setup = request.cutArena.place pageShift) :
    setup.transportRingOffset.toNat = 156 + request.controlRingEntries.toNat * 36 ∧
    setup.replyRingOffset.toNat =
      setup.transportRingOffset.toNat + request.transportRingEntries.toNat * 36 ∧
    setup.controlPayloadOffset.toNat =
      setup.replyRingOffset.toNat + request.replyRingEntries.toNat * 36 ∧
    setup.transportPayloadOffset.toNat =
      setup.controlPayloadOffset.toNat + setup.controlPayloadSize.toNat ∧
    setup.replyPayloadOffset.toNat =
      setup.transportPayloadOffset.toNat + setup.transportPayloadSize.toNat ∧
    setup.stop ≤ 2 ^ 27 := by
  have hc : request.controlRingEntries.toNat ≤ 1024 := h.ringEntries_le .control
  have ht : request.transportRingEntries.toNat ≤ 1024 := h.ringEntries_le .transport
  have hr : request.replyRingEntries.toNat ≤ 1024 := h.ringEntries_le .reply
  obtain ⟨hzc, hzr, hzt⟩ := h.toNat_payloadSize
  have hbounds := h.arena_bounds
  have hstart : sizeofV5Control.toNat ≤ 2 ^ 27 := by decide
  subst hsetup
  have htransport : (request.cutArena.place pageShift).transportRingOffset.toNat =
      156 + request.controlRingEntries.toNat * 36 := toNat_add_ring hstart hc
  have hle : (request.cutArena.place pageShift).transportRingOffset.toNat ≤ 2 ^ 27 := by omega
  have hreply : (request.cutArena.place pageShift).replyRingOffset.toNat =
      (request.cutArena.place pageShift).transportRingOffset.toNat +
        request.transportRingEntries.toNat * 36 := toNat_add_ring hle ht
  have hle : (request.cutArena.place pageShift).replyRingOffset.toNat ≤ 2 ^ 27 := by omega
  have hzone : (request.cutArena.place pageShift).controlPayloadOffset.toNat =
      (request.cutArena.place pageShift).replyRingOffset.toNat +
        request.replyRingEntries.toNat * 36 := toNat_add_ring hle hr
  have hle : (request.cutArena.place pageShift).controlPayloadOffset.toNat ≤ 2 ^ 27 := by omega
  have hsecond : (request.cutArena.place pageShift).transportPayloadOffset.toNat =
      (request.cutArena.place pageShift).controlPayloadOffset.toNat +
        request.cutArena.controlPayloadSize.toNat := toNat_add_zone hle (by omega)
  have hle : (request.cutArena.place pageShift).transportPayloadOffset.toNat ≤ 2 ^ 27 := by omega
  have hthird : (request.cutArena.place pageShift).replyPayloadOffset.toNat =
      (request.cutArena.place pageShift).transportPayloadOffset.toNat +
        request.cutArena.transportPayloadSize.toNat := toNat_add_zone hle (by omega)
  refine ⟨htransport, hreply, hzone, hsecond, hthird, ?_⟩
  show (request.cutArena.place pageShift).replyPayloadOffset.toNat +
    request.cutArena.replyPayloadSize.toNat ≤ 2 ^ 27
  omega

/-- So every region starts where the one before ends. -/
theorem consecutive (pageShift : Fin 32) {setup : V5Setup}
    (hsetup : setup = request.cutArena.place pageShift) :
    Consecutive 0 setup.regions setup.stop := by
  obtain ⟨htransport, hreply, hzone, hsecond, hthird, -⟩ := h.toNat_offsets pageShift hsetup
  subst hsetup
  exact ⟨rfl, rfl, htransport, hreply, hzone, hsecond, hthird, rfl⟩

theorem regionSize (pageShift : Fin 32) {setup : V5Setup}
    (hsetup : setup = request.cutArena.place pageShift) :
    setup.stop ≤ setup.regionSize.toNat ∧
    setup.regionSize.toNat < setup.stop + 2 ^ pageShift.val ∧
    2 ^ pageShift.val ∣ setup.regionSize.toNat := by
  obtain ⟨-, -, -, -, -, hstop⟩ := h.toNat_offsets pageShift hsetup
  have hpage : 2 ^ pageShift.val ≤ 2 ^ 31 :=
    Nat.pow_le_pow_right (by decide) (Nat.le_of_lt_succ pageShift.isLt)
  have hsum : (setup.replyPayloadOffset + setup.replyPayloadSize).toNat = setup.stop := by
    unfold V5Setup.stop at hstop ⊢
    rw [UInt32.toNat_add]
    omega
  have hround := alignUp_spec (x := setup.replyPayloadOffset + setup.replyPayloadSize)
    pageShift.isLt (by omega)
  rw [hsum] at hround
  subst hsetup
  exact hround

theorem payloadSize (pageShift : Fin 32) {setup : V5Setup}
    (hsetup : setup = request.cutArena.place pageShift) :
    (∀ kind, 0 < (setup.payloadSize kind).toNat) ∧
    (setup.payloadSize .control).toNat + (setup.payloadSize .transport).toNat +
      (setup.payloadSize .reply).toNat = request.payloadArenaSize.toNat := by
  obtain ⟨hc, hr, ht⟩ := h.toNat_payloadSize
  have hbounds := h.arena_bounds
  subst hsetup
  have hcontrol : ((request.cutArena.place pageShift).payloadSize .control).toNat = _ := hc
  have htransport : ((request.cutArena.place pageShift).payloadSize .transport).toNat = _ := ht
  have hreply : ((request.cutArena.place pageShift).payloadSize .reply).toNat = _ := hr
  refine ⟨fun kind => ?_, by omega⟩
  cases kind with
  | control => omega
  | transport => omega
  | reply => omega

end V5Setup.Accepted

/-- The sizes with which the rings of the bridge are built. -/
def V5Setup.Accepted.toSetup {request : V5Setup} (h : request.Accepted) : AcceptedSetup where
  controlRingEntries := request.controlRingEntries.toNat
  transportRingEntries := request.transportRingEntries.toNat
  replyRingEntries := request.replyRingEntries.toNat
  payloadArenaSize := request.payloadArenaSize.toNat
  control_valid := h.rings .control
  transport_valid := h.rings .transport
  reply_valid := h.rings .reply
  arena_valid := h.arena

/-- They are those of the region. -/
theorem V5Setup.Accepted.sizes_toSetup {request : V5Setup} (h : request.Accepted)
    (pageShift : Fin 32) (kind : RingKind) :
    h.toSetup.ringEntries kind = (request.ringEntries kind).toNat ∧
      h.toSetup.zoneSize kind = ((request.cutArena.place pageShift).payloadSize kind).toNat := by
  obtain ⟨hc, hr, ht⟩ := h.toNat_payloadSize
  cases kind with
  | control => exact ⟨rfl, hc.symm⟩
  | transport => exact ⟨rfl, ht.symm⟩
  | reply => exact ⟨rfl, hr.symm⟩

/-! ## The counts -/

namespace V5State

/-- The state has the offsets and sizes of a region. -/
structure Holds (s : V5State) (setup : V5Setup) : Prop where
  sharedAreaLen : s.sharedAreaLen = setup.regionSize
  controlRingOffset : s.controlRingOffset = setup.controlRingOffset
  transportRingOffset : s.transportRingOffset = setup.transportRingOffset
  replyRingOffset : s.replyRingOffset = setup.replyRingOffset
  controlPayloadOffset : s.controlPayloadOffset = setup.controlPayloadOffset
  controlPayloadSize : s.controlPayloadSize = setup.controlPayloadSize
  transportPayloadOffset : s.transportPayloadOffset = setup.transportPayloadOffset
  transportPayloadSize : s.transportPayloadSize = setup.transportPayloadSize
  replyPayloadOffset : s.replyPayloadOffset = setup.replyPayloadOffset
  replyPayloadSize : s.replyPayloadSize = setup.replyPayloadSize

theorem holds_configure (s : V5State) (setup : V5Setup) : (s.configure setup).Holds setup :=
  ⟨rfl, rfl, rfl, rfl, rfl, rfl, rfl, rfl, rfl, rfl⟩

/-- A count is recovered where the offsets are that many descriptors apart. -/
theorem entries_eq {first next entries : UInt32}
    (h : next.toNat = first.toNat + entries.toNat * 36) :
    (next - first) / sizeofV5Desc = entries := by
  have hsize : sizeofV5Desc.toNat = 36 := rfl
  have hnext := next.toNat_lt
  have hfirst := first.toNat_lt
  rw [← UInt32.toNat_inj, UInt32.toNat_div, UInt32.toNat_sub, hsize]
  omega

/-- The counts in the control page are those of the request. -/
theorem ringEntries_initialPage {pageShift : Fin 32} {s : V5State} {request : V5Setup}
    (h : request.Accepted) (hs : s.Holds (request.cutArena.place pageShift)) (kind : RingKind) :
    s.initialPage.ringEntries kind = request.ringEntries kind := by
  obtain ⟨htransport, hreply, hzone, -⟩ := h.toNat_offsets pageShift rfl
  cases kind with
  | control =>
    show (s.transportRingOffset - s.controlRingOffset) / sizeofV5Desc = _
    rw [hs.transportRingOffset, hs.controlRingOffset]
    exact entries_eq htransport
  | transport =>
    show (s.replyRingOffset - s.transportRingOffset) / sizeofV5Desc = _
    rw [hs.replyRingOffset, hs.transportRingOffset]
    exact entries_eq hreply
  | reply =>
    show (s.controlPayloadOffset - s.replyRingOffset) / sizeofV5Desc = _
    rw [hs.controlPayloadOffset, hs.replyRingOffset]
    exact entries_eq hzone

end V5State

/-! ## Accepted requests -/

/-- What a call that returns 0 has done. -/
theorem setupV5_eq_zero {pageShift : Fin 32} {w : SetupAnswers} {s s' : V5State}
    {request setup : V5Setup} (h : s.setupV5 pageShift w request = (s', 0, some setup)) :
    request.Accepted ∧ s' = s.configure (request.cutArena.place pageShift) ∧
      setup = { request.cutArena.place pageShift with
        sessionId := s'.sessionId, generation := s'.generation } := by
  unfold V5State.setupV5 at h
  split at h
  · cases h
  · split at h
    · cases h
    · rename_i hlaid
      obtain ⟨haccepted, rfl⟩ := layOut_eq_ok_iff.mp hlaid
      split at h
      · cases h
      · split at h
        · cases h
        · dsimp only at h
          split at h
          · cases h
          · cases h
            exact ⟨haccepted, rfl, rfl⟩

/-- For every accepted request: from the control page on, each region starts where the one before
ends, without a wraparound; no two overlap, none leaves the region, and each byte up to the end of
the last is in one.  The zones are not empty and add up to the arena, and the counts that the
kernel recovers from the offsets are those of the request. -/
theorem shared_region_partition {pageShift : Fin 32} {w : SetupAnswers} {s s' : V5State}
    {request setup : V5Setup} (h : s.setupV5 pageShift w request = (s', 0, some setup)) :
    Consecutive 0 setup.regions setup.stop ∧
    setup.regions.Pairwise Region.Apart ∧
    (∀ r ∈ setup.regions, r.stop ≤ setup.regionSize.toNat) ∧
    (∀ pos < setup.stop, ∃ r ∈ setup.regions, r.Has pos) ∧
    (∀ kind, 0 < (setup.payloadSize kind).toNat) ∧
    (setup.payloadSize .control).toNat + (setup.payloadSize .transport).toNat +
      (setup.payloadSize .reply).toNat = request.payloadArenaSize.toNat ∧
    ∃ page, s'.controlPage = some page ∧
      ∀ kind, page.ringEntries kind = request.ringEntries kind := by
  obtain ⟨haccepted, rfl, rfl⟩ := setupV5_eq_zero h
  have hregions := haccepted.consecutive pageShift rfl
  have hend := (haccepted.regionSize pageShift rfl).1
  obtain ⟨hpos, hsum⟩ := haccepted.payloadSize pageShift rfl
  refine ⟨hregions, hregions.pairwise_apart, fun r hr => (hregions.within hr).2.trans hend,
    fun pos hp => hregions.covers (Nat.zero_le pos) hp, hpos, hsum, _, rfl, fun kind => ?_⟩
  exact V5State.ringEntries_initialPage haccepted (s.holds_configure _) kind

/-- A request with an odd arena, on pages of 4096 bytes. -/
def V5Setup.odd : V5Setup where
  abiVersion := 5
  controlRingEntries := 8
  transportRingEntries := 1024
  replyRingEntries := 100
  payloadArenaSize := 2097155
  inflightCreditLimit := 64
  regionSize := 0
  sessionId := 0
  generation := 0
  features := 0
  controlPageOffset := 0
  controlRingOffset := 0
  transportRingOffset := 0
  replyRingOffset := 0
  controlPayloadOffset := 0
  controlPayloadSize := 0
  transportPayloadOffset := 0
  transportPayloadSize := 0
  replyPayloadOffset := 0
  replyPayloadSize := 0

def V5Setup.oddAnswer : V5Setup :=
  { V5Setup.odd with
    regionSize := 2138112
    features := 7
    controlRingOffset := 156
    transportRingOffset := 444
    replyRingOffset := 37308
    controlPayloadOffset := 40908
    controlPayloadSize := 524288
    transportPayloadOffset := 565196
    transportPayloadSize := 1048579
    replyPayloadOffset := 1613775
    replyPayloadSize := 524288 }

theorem shared_region_partition_odd :
    Consecutive 0 V5Setup.oddAnswer.regions 2138063 ∧
    V5Setup.oddAnswer.regions.Pairwise Region.Apart ∧
    ∃ page, (V5State.configure { daemonOpen := true } V5Setup.oddAnswer).controlPage = some page ∧
      ∀ kind, page.ringEntries kind = V5Setup.odd.ringEntries kind := by
  have h : V5State.setupV5 { daemonOpen := true } 12 ⟨true, true, true⟩ V5Setup.odd =
      (V5State.configure { daemonOpen := true } V5Setup.oddAnswer, 0, some V5Setup.oddAnswer) := by
    decide
  obtain ⟨hregions, hapart, -, -, -, -, hcounts⟩ := shared_region_partition h
  exact ⟨hregions, hapart, hcounts⟩

/-! ## Runs -/

/-- The kernel's offsets are those of a request that it has accepted. -/
def V5State.Laid (pageShift : Fin 32) (s : V5State) : Prop :=
  s.controlPage.isSome = true →
    ∃ request : V5Setup, request.Accepted ∧ s.Holds (request.cutArena.place pageShift)

/-- A call that leaves the region as it is. -/
theorem V5State.Laid.keep {pageShift : Fin 32} {s t : V5State} (h : s.Laid pageShift)
    (hpage : t.controlPage.isSome = s.controlPage.isSome)
    (hkeep : ∀ setup, s.Holds setup → t.Holds setup) : t.Laid pageShift := by
  intro hmapped
  obtain ⟨request, haccepted, hs⟩ := h (hpage ▸ hmapped)
  exact ⟨request, haccepted, hkeep _ hs⟩

theorem isSome_initShared (s : V5State) :
    s.initShared.controlPage.isSome = s.controlPage.isSome := Option.isSome_map

theorem laid_step {pageShift : Fin 32} {s t : V5State} {a : V5Act} (h : s.Laid pageShift)
    (hs : step pageShift s a = some t) : t.Laid pageShift := by
  cases a with
  | bridgeOpen =>
    cases hs
    unfold V5State.bridgeOpen
    split
    · exact h
    · exact h.keep rfl fun setup hs => { hs with }
  | bridgeRelease =>
    cases hs
    intro hmapped
    cases hmapped
  | setup w request =>
    cases hs
    unfold V5State.setupV5
    split
    · exact h
    · split
      · exact h
      · rename_i hlaid
        obtain ⟨haccepted, rfl⟩ := layOut_eq_ok_iff.mp hlaid
        -- from here on the region is the new one, whatever the copy back answers
        have hnew : (s.configure (request.cutArena.place pageShift)).Laid pageShift :=
          fun _ => ⟨request, haccepted, s.holds_configure _⟩
        split
        · exact h
        · split
          · exact h
          · dsimp only
            split
            · exact hnew
            · exact hnew
  | registerEventfds copyFromUser broker kernel brokerError kernelError =>
    cases hs
    unfold V5State.registerEventfds
    split
    · exact h
    · split
      · exact h
      · dsimp only
        split
        · exact h.keep rfl fun setup hs => { hs with }
        · split
          · exact h.keep rfl fun setup hs => { hs with }
          · exact h.keep (isSome_initShared _) fun setup hs => { hs with }
  | start =>
    cases hs
    unfold V5State.startV5
    split
    · exact h
    · exact h.keep (isSome_initShared _) fun setup hs => { hs with }
  | written generation page =>
    cases hs
    exact h.keep Option.isSome_map fun setup hs => { hs with }

/-- So whichever call writes the counts into the control page, they are those of an accepted request
whose regions the offsets cut. -/
theorem layout_of_reach {pageShift : Fin 32} {s : V5State}
    (h : Reach (step pageShift) anyStep {} s) (hpage : s.controlPage.isSome = true) :
    ∃ request : V5Setup, request.Accepted ∧ s.Holds (request.cutArena.place pageShift) ∧
      ∀ kind, s.initialPage.ringEntries kind = request.ringEntries kind := by
  have hlaid : s.Laid pageShift := h.invariant (fun hmapped => by cases hmapped)
    fun _ _ _ hI _ hs => laid_step hI hs
  obtain ⟨request, haccepted, hs⟩ := hlaid hpage
  exact ⟨request, haccepted, hs, V5State.ringEntries_initialPage haccepted hs⟩

end Sensorium.Bridge.Layout

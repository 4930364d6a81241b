import Sensorium.Daemon.KeptTemplates

/-!
# Faults that are counted

A fault answers the requests to its device before they are dispatched, or shortens the replies that
they get.  Over a run of requests, handled one after another, a fault with a count is used that many
times and then gone; one without a count stays.
-/

namespace Sensorium.Daemon

open Lib Model Inventory Kernel Function

/-! ## Requests that reach the fault of a device -/

/-- What a handler does with a request that no fault answers. -/
inductive Work
  | mismatch
  | call (c : TemplateCall)
  | settings

/-- A request as it is when a handler comes to `_apply_fault_pre`. -/
structure Admitted where
  record : Inventory.DeviceRecord
  config : Option UartConfig
  work : Work

/-- How a request ends before that: with a status, or where new settings cannot be saved. -/
inductive Refusal
  | status (status : Int)
  | unsaved (c : UartConfig)

section

variable (d : Inventory.Daemon)

def admitI2c (payload : List UInt8) : Except Refusal Admitted :=
  match decodeI2c payload with
  | .error status => .error (.status status)
  | .ok (handle, messages) =>
    match recordByHandle d handle with
    | none => .error (.status eNoEnt)
    | some r =>
      .ok ⟨r, none, if messages.any fun m => some m.addr ≠ deviceAddress r.device then .mismatch
        else .call (.i2c messages)⟩

def admitSpi (payload : List UInt8) : Except Refusal Admitted :=
  match decodeSpi payload with
  | .error reject => .error (.status reject.status)
  | .ok frame =>
    match recordByHandle d frame.deviceHandle with
    | none => .error (.status SpiReject.unknownDevice.status)
    | some r =>
      if frame.chipSelect ≠ (deviceChipSelect r.device).getD frame.chipSelect then
        .error (.status SpiReject.chipSelectMismatch.status)
      else
        match cutTransfers (deviceBits r.device) frame.tx 0 frame.descs with
        | .error reject => .error (.status reject.status)
        | .ok transfers => .ok ⟨r, none, .call (.spi transfers)⟩

def admitUart (control : Bool) (payload : List UInt8) : Except Refusal Admitted :=
  if payload.length < 20 then .error (.status eProto)
  else if (payload.drop 20).length ≠ readLe payload 8 4 then .error (.status eProto)
  else
    match recordByHandle d (readLe payload 0 4) with
    | none => .error (.status eNoEnt)
    | some r =>
      if readLe payload 4 4 ≠ (if control then 1 else 0) then .error (.status eProto)
      else if readLe payload 12 4 &&& uartModemMask ≠ readLe payload 12 4 then
        .error (.status eOpNotSupp)
      else
        .ok ⟨r, none, .call (if control then
          .uartControl (readLe payload 12 4) (readLe payload 16 4) else .uart (payload.drop 20))⟩

def admitUartConfig (payload : List UInt8) (settingsSaved : Bool) : Except Refusal Admitted :=
  if payload.length ≠ 24 then .error (.status eProto)
  else
    match recordByHandle d (unpackUartConfig payload).handle with
    | none => .error (.status eNoEnt)
    | some r =>
      if settingsSaved = false then .error (.unsaved (unpackUartConfig payload))
      else .ok ⟨r, some (unpackUartConfig payload), .settings⟩

/-- What is before the fault. -/
def admission (q : BridgeRequest) : Except Refusal Admitted :=
  match q.kind with
  | .i2cXfer => admitI2c d q.payload
  | .spiXfer => admitSpi d q.payload
  | .uartTx => admitUart d false q.payload
  | .uartControl => admitUart d true q.payload
  | .uartConfig => admitUartConfig d q.payload q.outcomes.settingsSaved
  | .other => .error (.status eInval)

end

namespace Simulated

variable {s : Simulated}

/-- The settings that a UART configuration stores before the fault is looked at. -/
def configured (s : Simulated) : Option UartConfig → Simulated
  | none => s
  | some c => s.change (.uartConfig c)

/-- What a refused request leaves; `none` is an exception. -/
def turnAway (s : Simulated) : Refusal → Simulated × Option BridgeReply
  | .status status => s.refuse status
  | .unsaved c => (s.change (.uartConfig c), none)

/-- What is answered where there is no fault. -/
def answer (s : Simulated) (a : Admitted) (o : Outcomes) : Simulated × Option BridgeReply :=
  let fromController : Option BridgeReply := o.controller.map fun p => ⟨p.1, p.2, []⟩
  match a.work with
  | .mismatch => s.refuse eOpNotSupp
  | .call c =>
    if (templateKind a.record.device.part).isSome then
      let held := callHeld (s.templates a.record.object) c
      ({ s with templates := update s.templates a.record.object held.1 },
        (held.2.filter fun answer => answer.modem = [] || o.modemWritten).map fun answer =>
          ⟨0, answer.data, answer.modem⟩)
    else (s, fromController)
  | .settings =>
    if (templateKind a.record.device.part).isSome then (s, some ⟨0, [], []⟩)
    else (s, fromController)

/-- `_finalize_request` on what is answered. -/
def close (o : Outcomes) (r : Inventory.DeviceRecord) (p : Simulated × Option BridgeReply) :
    Simulated × Option BridgeReply :=
  match p.2 with
  | none => p
  | some reply => p.1.finalize o r reply.status reply.data reply.modem

theorem finalize_of_not {o : Outcomes} {r : Inventory.DeviceRecord} {status : Int}
    (h : ¬ (r.device.faults.mode = .shortReply ∧ status = 0)) (data : List UInt8)
    (modem : List (Text × Bool)) :
    s.finalize o r status data modem = (s, some ⟨status, data, modem⟩) := by
  have hpost : applyFaultPost r.device.faults status data = some (status, data) := by
    unfold applyFaultPost
    rw [if_pos (by
      by_contra hboth
      push Not at hboth
      exact h hboth)]
  unfold finalize
  rw [if_neg h, hpost]
  rfl

/-- A short reply goes out after the count, or not at all where the save of the count raises. -/
theorem finalize_of_short {o : Outcomes} {r : Inventory.DeviceRecord} {f : Faults}
    {reply : BridgeReply} {data : List UInt8} (hf : r.device.faults = f)
    (h : f.mode = .shortReply ∧ reply.status = 0)
    (hdata : applyFaultPost f 0 reply.data = some (0, data)) :
    s.finalize o r reply.status reply.data reply.modem =
      (s.change (.faultedRequest r.device.id),
        if o.counted f then some ⟨0, data, reply.modem⟩ else none) := by
  unfold finalize
  rw [hf, if_pos h, h.2, hdata]
  dsimp only [consumeFault]
  rw [hf]
  rfl

theorem close_refuse (o : Outcomes) (r : Inventory.DeviceRecord) (s : Simulated) :
    close o r (s.refuse eOpNotSupp) = s.refuse eOpNotSupp :=
  finalize_of_not (fun h => absurd h.2 (by decide)) [] []

theorem askController_eq (s : Simulated) (o : Outcomes) (r : Inventory.DeviceRecord) :
    s.askController o r = close o r (s, o.controller.map fun p => ⟨p.1, p.2, []⟩) := by
  unfold askController
  cases o.controller <;> rfl

theorem ask_eq (s : Simulated) (o : Outcomes) (r : Inventory.DeviceRecord)
    (config : Option UartConfig) (c : TemplateCall) :
    s.ask o r c = close o r (s.answer ⟨r, config, .call c⟩ o) := by
  unfold ask answer
  dsimp only
  split
  · cases (callHeld (s.templates r.object) c).2 with
    | none => rfl
    | some answer =>
      dsimp only
      split
      · rename_i hunwritten
        obtain ⟨hmodem, hfailed⟩ := hunwritten
        have hlost : (some answer).filter
            (fun answer => answer.modem = [] || o.modemWritten) = none := by
          simp [Option.filter, hmodem, hfailed]
        rw [hlost]
        rfl
      · rename_i hwritten
        have hkept : (some answer).filter
            (fun answer => answer.modem = [] || o.modemWritten) = some answer := by
          simp only [Option.filter, Bool.or_eq_true, decide_eq_true_eq, ite_eq_left_iff]
          intro hno
          push Not at hno
          exact absurd ⟨hno.1, Bool.eq_false_iff.mpr hno.2⟩ hwritten
        rw [hkept]
        rfl
  · exact s.askController_eq o r

/-- A request after its checks: the fault answers it, or its answer goes through the fault. -/
def serve (s : Simulated) (a : Admitted) (o : Outcomes) : Simulated × Option BridgeReply :=
  let s := s.configured a.config
  s.unlessFaulted o a.record (close o a.record (s.answer a o))

theorem handleI2cRequest_eq (s : Simulated) (payload : List UInt8) (o : Outcomes) :
    s.handleI2cRequest payload o =
      match admitI2c s.world.daemon payload with
      | .error refusal => s.turnAway refusal
      | .ok a => s.serve a o := by
  unfold handleI2cRequest admitI2c
  cases decodeI2c payload with
  | error status => rfl
  | ok head =>
    dsimp only
    cases recordByHandle s.world.daemon head.1 with
    | none => rfl
    | some r =>
      dsimp only [serve, configured]
      split
      · -- a mismatch is refused behind the fault, and a refusal is closed as it is
        rw [← close_refuse o r s]
        rfl
      · rw [ask_eq s o r none]

theorem handleSpiRequest_eq (s : Simulated) (payload : List UInt8) (o : Outcomes) :
    s.handleSpiRequest payload o =
      match admitSpi s.world.daemon payload with
      | .error refusal => s.turnAway refusal
      | .ok a => s.serve a o := by
  unfold handleSpiRequest admitSpi
  cases decodeSpi payload with
  | error reject => rfl
  | ok frame =>
    dsimp only
    cases recordByHandle s.world.daemon frame.deviceHandle with
    | none => rfl
    | some r =>
      dsimp only
      split
      · rfl
      cases cutTransfers (deviceBits r.device) frame.tx 0 frame.descs with
      | error reject => rfl
      | ok transfers =>
        dsimp only
        rw [ask_eq s o r none]
        rfl

theorem handleUartRequest_eq (s : Simulated) (control : Bool) (payload : List UInt8)
    (o : Outcomes) : s.handleUartRequest control payload o =
      match admitUart s.world.daemon control payload with
      | .error refusal => s.turnAway refusal
      | .ok a => s.serve a o := by
  unfold handleUartRequest admitUart
  dsimp only
  split
  · rfl
  split
  · rfl
  cases recordByHandle s.world.daemon (readLe payload 0 4) with
  | none => rfl
  | some r =>
    dsimp only
    generalize (if control = true then 1 else 0) = flags
    split
    · rfl
    split
    · rfl
    · rw [ask_eq s o r none]
      rfl

theorem handleUartConfigRequest_eq (s : Simulated) (payload : List UInt8) (o : Outcomes) :
    s.handleUartConfigRequest payload o =
      match admitUartConfig s.world.daemon payload o.settingsSaved with
      | .error refusal => s.turnAway refusal
      | .ok a => s.serve a o := by
  unfold handleUartConfigRequest admitUartConfig
  split
  · rfl
  dsimp only
  cases recordByHandle s.world.daemon (unpackUartConfig payload).handle with
  | none => rfl
  | some r =>
    dsimp only
    split
    · rfl
    · dsimp only [serve, configured, answer]
      split
      · rfl
      · rw [askController_eq]

theorem handle_eq (s : Simulated) (q : BridgeRequest) :
    s.handle q =
      match admission s.world.daemon q with
      | .error refusal => s.turnAway refusal
      | .ok a => s.serve a q.outcomes := by
  unfold handle admission
  cases q.kind with
  | i2cXfer => exact handleI2cRequest_eq s q.payload q.outcomes
  | spiXfer => exact handleSpiRequest_eq s q.payload q.outcomes
  | uartTx => exact handleUartRequest_eq s false q.payload q.outcomes
  | uartControl => exact handleUartRequest_eq s true q.payload q.outcomes
  | uartConfig => exact handleUartConfigRequest_eq s q.payload q.outcomes
  | other => rfl

end Simulated

/-! ## The fault of a device -/

/-- `device["faults"]` of the device `id`. -/
def faultsOf (d : Inventory.Daemon) (id : Text) : Option Faults :=
  (dictGet d.devices id).map fun r => r.device.faults

section

variable {d : Inventory.Daemon}

theorem mem_of_recordByHandle {handle : Nat} {r : Inventory.DeviceRecord}
    (h : recordByHandle d handle = some r) : ∃ id, (id, r) ∈ d.devices := by
  obtain ⟨object, -, h⟩ := Option.bind_eq_some_iff.mp h
  obtain ⟨p, hp, rfl⟩ := Option.map_eq_some_iff.mp h
  exact ⟨p.1, List.mem_of_find?_eq_some hp⟩

section Records

variable {payload : List UInt8} {a : Admitted}

theorem mem_of_admitI2c (h : admitI2c d payload = .ok a) : ∃ id, (id, a.record) ∈ d.devices := by
  unfold admitI2c at h
  split at h
  · cases h
  split at h
  · cases h
  · rename_i r hr
    cases h
    exact mem_of_recordByHandle hr

theorem mem_of_admitSpi (h : admitSpi d payload = .ok a) : ∃ id, (id, a.record) ∈ d.devices := by
  unfold admitSpi at h
  split at h
  · cases h
  split at h
  · cases h
  rename_i r hr
  split at h
  · cases h
  split at h
  · cases h
  · cases h
    exact mem_of_recordByHandle hr

theorem mem_of_admitUart {control : Bool} (h : admitUart d control payload = .ok a) :
    ∃ id, (id, a.record) ∈ d.devices := by
  unfold admitUart at h
  split at h
  · cases h
  split at h
  · cases h
  split at h
  · cases h
  rename_i r hr
  generalize (if control = true then 1 else 0) = flags at h
  split at h
  · cases h
  split at h
  · cases h
  · cases h
    exact mem_of_recordByHandle hr

theorem mem_of_admitUartConfig {settingsSaved : Bool}
    (h : admitUartConfig d payload settingsSaved = .ok a) : ∃ id, (id, a.record) ∈ d.devices := by
  unfold admitUartConfig at h
  split at h
  · cases h
  split at h
  · cases h
  · rename_i r hr
    split at h
    · cases h
    · cases h
      exact mem_of_recordByHandle hr

end Records

theorem mem_of_admission {q : BridgeRequest} {a : Admitted} (h : admission d q = .ok a) :
    ∃ id, (id, a.record) ∈ d.devices := by
  unfold admission at h
  split at h
  · exact mem_of_admitI2c h
  · exact mem_of_admitSpi h
  · exact mem_of_admitUart h
  · exact mem_of_admitUart h
  · exact mem_of_admitUartConfig h
  · cases h

/-- The record that a request has reached is the one of its identifier. -/
theorem faultsOf_admitted (hd : d.Filed) {q : BridgeRequest} {a : Admitted}
    (h : admission d q = .ok a) : faultsOf d a.record.device.id = some a.record.device.faults := by
  obtain ⟨id, hmem⟩ := mem_of_admission h
  have hid : a.record.device.id = id := (hd.devices _ hmem).1
  rw [faultsOf, hid, dictGet_of_mem hd.deviceIds hmem]
  rfl

-- A change of the records that leaves keys and faults leaves every fault.
theorem faultsOf_map {g : Text × Inventory.DeviceRecord → Text × Inventory.DeviceRecord}
    (hkey : ∀ p, (g p).1 = p.1) (hfaults : ∀ p, (g p).2.device.faults = p.2.device.faults)
    (devices : List (Text × Inventory.DeviceRecord)) (id : Text) :
    ((dictGet (devices.map g) id).map fun r => r.device.faults) =
      (dictGet devices id).map fun r => r.device.faults := by
  induction devices with
  | nil => rfl
  | cons p ps ih =>
    rw [List.map_cons, dictGet, dictGet, hkey]
    split
    · rw [Option.map_some, Option.map_some, hfaults]
    · exact ih

theorem faultsOf_uartConfig (d : Inventory.Daemon) (c : UartConfig) (id : Text) :
    faultsOf (d.uartConfig c) id = faultsOf d id := by
  unfold Inventory.Daemon.uartConfig Inventory.Daemon.modifyByHandle
  dsimp only
  split
  · rfl
  · refine faultsOf_map (fun p => ?_) (fun p => ?_) d.devices id
    · split <;> rfl
    · split <;> rfl

theorem faultsOf_faultedRequest_ne (d : Inventory.Daemon) {id other : Text} (h : id ≠ other) :
    faultsOf (d.faultedRequest other) id = faultsOf d id := by
  unfold faultsOf Inventory.Daemon.faultedRequest Inventory.Daemon.modifyDevice
  dsimp only
  induction d.devices with
  | nil => rfl
  | cons p ps ih =>
    rw [List.map_cons]
    by_cases hp : p.1 = other
    · rw [if_pos hp, dictGet, dictGet, if_neg fun heq => h (heq.symm.trans hp),
        if_neg fun heq => h (heq.symm.trans hp)]
      exact ih
    · rw [if_neg hp, dictGet, dictGet]
      split
      · rfl
      · exact ih

theorem faultsOf_faultedRequest {id : Text} {f : Faults} (h : faultsOf d id = some f)
    (hmode : f.mode ≠ .none) :
    faultsOf (d.faultedRequest id) id = some (Inventory.consumeFault f) := by
  unfold faultsOf at h ⊢
  unfold Inventory.Daemon.faultedRequest Inventory.Daemon.modifyDevice
  dsimp only
  revert h
  induction d.devices with
  | nil =>
    intro h
    cases h
  | cons p ps ih =>
    intro h
    rw [List.map_cons]
    rw [dictGet] at h
    by_cases hp : p.1 = id
    · rw [if_pos hp] at h
      rw [if_pos hp, dictGet, if_pos hp]
      cases h
      rw [if_neg hmode]
      rfl
    · rw [if_neg hp] at h
      rw [if_neg hp, dictGet, if_neg hp]
      exact ih h

end

/-! ## What one request does -/

/-- A request that has reached the fault of its device. -/
structure Faultable where
  before : Simulated
  request : BridgeRequest
  admitted : Admitted

namespace Faultable

variable (e : Faultable)

/-- The state and the reply after the request. -/
def result : Simulated × Option BridgeReply := e.before.handle e.request

/-- The state and the reply without a fault. -/
def plain : Simulated × Option BridgeReply :=
  (e.before.configured e.admitted.config).answer e.admitted e.request.outcomes

/-- Whether the fault is used: a short reply is for requests with status 0. -/
def uses (f : Faults) : Bool :=
  match f.mode with
  | .none => false
  | .timeout | .disconnect | .errno => true
  | .shortReply => e.plain.2.map BridgeReply.status = some 0

structure Unaffected : Prop where
  reply : e.result.2 = e.plain.2
  templates : e.result.1.templates = e.plain.1.templates

/-- What is answered with a fault that has been counted: an exception, if the count cannot be
saved. -/
def counted (f : Faults) (reply : BridgeReply) : Option BridgeReply :=
  if e.request.outcomes.counted f then some reply else none

/-- The request with another answer of the controller. -/
def redirected (controller : Option (Int × List UInt8)) : BridgeRequest :=
  { e.request with outcomes := { e.request.outcomes with controller := controller } }

/-- The fault's status, whatever the controller would answer and with the template as it was; or the
reply with its data exchanged or cut. -/
def Faulted (f : Faults) : Prop :=
  match applyFaultPre f with
  | some status =>
    e.result.2 = e.counted f ⟨status, [], []⟩ ∧ e.result.1.templates = e.before.templates ∧
      ∀ controller, e.before.handle (e.redirected controller) = e.result
  | none =>
    e.result.1.templates = e.plain.1.templates ∧ ∃ reply data, e.plain.2 = some reply ∧
      applyFaultPost f 0 reply.data = some (0, data) ∧
      e.result.2 = e.counted f ⟨0, data, reply.modem⟩

/-- Of a count that is above zero only that it is matters to a request. -/
theorem Faulted.recount {e : Faultable} {f : Faults} {n : Nat}
    (h : e.Faulted { f with remaining := n }) (hn : 0 < n) (hf : 0 < f.remaining) :
    e.Faulted f := by
  have hcounted : e.counted { f with remaining := n } = e.counted f := by
    funext reply
    unfold counted Outcomes.counted
    rw [decide_eq_false (Nat.ne_of_gt hn), decide_eq_false (Nat.ne_of_gt hf)]
  unfold Faulted at h ⊢
  rw [hcounted] at h
  exact h

end Faultable

namespace Simulated

variable {s : Simulated}

theorem sound_handle (h : s.Sound) (q : BridgeRequest) : (s.handle q).1.Sound :=
  h.handled (s.handled_handle q)

theorem faultsOf_configured (s : Simulated) (config : Option UartConfig) (id : Text) :
    faultsOf (s.configured config).world.daemon id = faultsOf s.world.daemon id := by
  cases config with
  | none => rfl
  | some c => exact faultsOf_uartConfig s.world.daemon c id

theorem templates_configured (s : Simulated) (config : Option UartConfig) :
    (s.configured config).templates = s.templates := by
  cases config <;> rfl

theorem world_answer (s : Simulated) (a : Admitted) (o : Outcomes) :
    (s.answer a o).1.world = s.world := by
  unfold answer
  split
  · rfl
  · split <;> rfl
  · split <;> rfl

theorem handle_admitted {q : BridgeRequest} {a : Admitted}
    (h : admission s.world.daemon q = .ok a) : s.handle q = s.serve a q.outcomes := by
  rw [handle_eq, h]

/-- A request that does not reach the fault of a device leaves it. -/
theorem faultsOf_handle_other {id : Text} (q : BridgeRequest)
    (hother : ∀ a, admission s.world.daemon q = .ok a → a.record.device.id ≠ id) :
    faultsOf (s.handle q).1.world.daemon id = faultsOf s.world.daemon id := by
  cases hadmission : admission s.world.daemon q with
  | error refusal =>
    rw [handle_eq, hadmission]
    cases refusal with
    | status status => rfl
    | unsaved c => exact faultsOf_uartConfig s.world.daemon c id
  | ok a =>
    have hne : id ≠ a.record.device.id := (hother a hadmission).symm
    have hused : ∀ s' : Simulated, s'.world = (s.configured a.config).world →
        faultsOf (s'.change (.faultedRequest a.record.device.id)).world.daemon id =
          faultsOf s.world.daemon id := by
      intro s' hs'
      rw [← faultsOf_configured s a.config, ← hs']
      exact faultsOf_faultedRequest_ne s'.world.daemon hne
    rw [handle_admitted hadmission]
    unfold serve unlessFaulted
    dsimp only
    split
    -- a fault that answers, or one that shortens the reply, is that of the other device
    · exact hused _ rfl
    · have hworld := (s.configured a.config).world_answer a q.outcomes
      unfold close
      split
      · rw [hworld, faultsOf_configured]
      · unfold finalize
        dsimp only
        split
        · exact hused _ hworld
        · show faultsOf (Simulated.answer _ a q.outcomes).1.world.daemon id = _
          rw [hworld, faultsOf_configured]

theorem uses_of_pre {e : Faultable} {f : Faults} {status : Int}
    (h : applyFaultPre f = some status) : f.mode ≠ .none ∧ e.uses f = true := by
  unfold Faultable.uses
  unfold applyFaultPre at h
  cases hmode : f.mode with
  | timeout | disconnect | errno => exact ⟨by decide, rfl⟩
  | none | shortReply =>
    rw [hmode] at h
    cases h

section

variable {q : BridgeRequest} {a : Admitted} {f : Faults}

/-- A fault that answers before the dispatch. -/
theorem handle_of_pre (h : s.Sound) (hadmission : admission s.world.daemon q = .ok a)
    (hf : faultsOf s.world.daemon a.record.device.id = some f) {status : Int}
    (hpre : applyFaultPre f = some status) :
    (Faultable.mk s q a).Faulted f ∧
      faultsOf (s.handle q).1.world.daemon a.record.device.id =
        some (Inventory.consumeFault f) := by
  have hfaults : a.record.device.faults = f :=
    Option.some.inj ((faultsOf_admitted h.kept.daemon hadmission).symm.trans hf)
  have hresult : ∀ controller, s.handle ((Faultable.mk s q a).redirected controller) =
      ((s.configured a.config).change (.faultedRequest a.record.device.id),
        (Faultable.mk s q a).counted f ⟨status, [], []⟩) := by
    intro controller
    have hsame : admission s.world.daemon ((Faultable.mk s q a).redirected controller) = .ok a :=
      hadmission
    rw [handle_admitted hsame]
    unfold serve unlessFaulted
    rw [hfaults, hpre]
    dsimp only [consumeFault]
    rw [hfaults]
    rfl
  have hself := hresult q.outcomes.controller
  change s.handle q = _ at hself
  constructor
  · unfold Faultable.Faulted
    rw [hpre]
    refine ⟨congrArg Prod.snd hself, ?_, fun controller => (hresult controller).trans hself.symm⟩
    exact (congrArg (fun p => p.1.templates) hself).trans (templates_configured s a.config)
  · have hmode : f.mode ≠ .none := (uses_of_pre (e := ⟨s, q, a⟩) hpre).1
    have hconfigured := (faultsOf_configured s a.config a.record.device.id).trans hf
    rw [hself]
    exact faultsOf_faultedRequest hconfigured hmode

/-- A short reply has its data in hexadecimal, or cuts those of the reply. -/
theorem exists_applyFaultPost (hmode : f.mode = .shortReply)
    (hreply : ∀ t, f.replyData = some t → (fromHex? t).isSome = true) (data : List UInt8) :
    ∃ data', applyFaultPost f 0 data = some (0, data') := by
  unfold applyFaultPost
  rw [if_neg (by simp [hmode])]
  split
  · exact ⟨_, rfl⟩
  · rename_i literal hliteral
    have hhex : (fromHex? (f.replyData.getD [])).isSome = true := by
      cases hdata : f.replyData with
      | none => exact absurd (by rw [hdata]; rfl) hliteral
      | some t => exact hreply t hdata
    obtain ⟨bs, hbs⟩ := Option.isSome_iff_exists.mp hhex
    exact ⟨bs, by rw [hbs]; rfl⟩

theorem handle_of_dispatched (hadmission : admission s.world.daemon q = .ok a)
    (hpre : applyFaultPre a.record.device.faults = none) :
    s.handle q = close q.outcomes a.record (Faultable.mk s q a).plain := by
  rw [handle_admitted hadmission]
  unfold serve unlessFaulted
  rw [hpre]
  rfl

/-- A fault that does not answer before the dispatch is used by a reply that it can shorten. -/
theorem uses_iff_of_dispatched {e : Faultable} (hpre : applyFaultPre f = none) :
    e.uses f = true ↔ f.mode = .shortReply ∧ e.plain.2.map BridgeReply.status = some 0 := by
  unfold Faultable.uses
  unfold applyFaultPre at hpre
  cases hmode : f.mode with
  | timeout | disconnect | errno =>
    rw [hmode] at hpre
    cases hpre
  | none => simp
  | shortReply => simp

/-- Where the request is dispatched, a fault is used by a short reply alone. -/
theorem handle_of_post (h : s.Sound) (hadmission : admission s.world.daemon q = .ok a)
    (hf : faultsOf s.world.daemon a.record.device.id = some f) (hpre : applyFaultPre f = none)
    (hreply : ∀ t, f.replyData = some t → (fromHex? t).isSome = true) :
    ((Faultable.mk s q a).uses f = true → (Faultable.mk s q a).Faulted f ∧
      faultsOf (s.handle q).1.world.daemon a.record.device.id =
        some (Inventory.consumeFault f)) ∧
    ((Faultable.mk s q a).uses f = false → (Faultable.mk s q a).Unaffected ∧
      faultsOf (s.handle q).1.world.daemon a.record.device.id = some f) := by
  have hfaults : a.record.device.faults = f :=
    Option.some.inj ((faultsOf_admitted h.kept.daemon hadmission).symm.trans hf)
  have hplain : faultsOf (Faultable.mk s q a).plain.1.world.daemon a.record.device.id = some f := by
    show faultsOf ((s.configured a.config).answer a q.outcomes).1.world.daemon _ = _
    rw [world_answer, faultsOf_configured, hf]
  have hclose : s.handle q = close q.outcomes a.record (Faultable.mk s q a).plain :=
    handle_of_dispatched hadmission (hfaults.symm ▸ hpre)
  have huses : (Faultable.mk s q a).uses f = true ↔ f.mode = .shortReply ∧
      (Faultable.mk s q a).plain.2.map BridgeReply.status = some 0 := uses_iff_of_dispatched hpre
  generalize hp : (Faultable.mk s q a).plain = p at hplain hclose huses
  have hunaffected : s.handle q = p →
      (Faultable.mk s q a).Unaffected ∧
        faultsOf (s.handle q).1.world.daemon a.record.device.id = some f := by
    intro hsame
    refine ⟨⟨?_, ?_⟩, by rw [hsame, hplain]⟩
    · rw [hp]
      exact congrArg Prod.snd hsame
    · rw [hp]
      exact congrArg (fun p => p.1.templates) hsame
  unfold close at hclose
  cases hp₂ : p.2 with
  | none =>
    -- the handler raised, and there is no reply to shorten
    rw [hp₂] at hclose huses
    refine ⟨fun hyes => ?_, fun _ => hunaffected hclose⟩
    cases (huses.mp hyes).2
  | some reply =>
    rw [hp₂] at hclose huses
    dsimp only at hclose
    by_cases hshort : f.mode = .shortReply ∧ reply.status = 0
    · refine ⟨fun _ => ?_, fun hno => ?_⟩
      · obtain ⟨data, hdata⟩ := exists_applyFaultPost hshort.1 hreply reply.data
        have hfinal : s.handle q =
            (p.1.change (.faultedRequest a.record.device.id),
              (Faultable.mk s q a).counted f ⟨0, data, reply.modem⟩) := by
          rw [hclose]
          exact finalize_of_short hfaults hshort hdata
        constructor
        · unfold Faultable.Faulted
          rw [hpre]
          dsimp only
          rw [hp]
          refine ⟨congrArg (fun p => p.1.templates) hfinal, reply, data, hp₂, hdata, ?_⟩
          exact congrArg Prod.snd hfinal
        · rw [hfinal]
          exact faultsOf_faultedRequest hplain (by rw [hshort.1]; decide)
      · have hyes := huses.mpr ⟨hshort.1, congrArg some hshort.2⟩
        rw [hyes] at hno
        cases hno
    · refine ⟨fun hyes => ?_, fun _ => hunaffected ?_⟩
      · obtain ⟨hmode, hstatus⟩ := huses.mp hyes
        exact absurd ⟨hmode, Option.some.inj hstatus⟩ hshort
      · rw [hclose, finalize_of_not (by rw [hfaults]; exact hshort)]
        exact Prod.ext rfl hp₂.symm

/-- A used fault is counted down, and any other one stays. -/
theorem handle_faultable (h : s.Sound) (hadmission : admission s.world.daemon q = .ok a)
    (hf : faultsOf s.world.daemon a.record.device.id = some f)
    (hreply : ∀ t, f.replyData = some t → (fromHex? t).isSome = true) :
    ((Faultable.mk s q a).uses f = true → (Faultable.mk s q a).Faulted f ∧
      faultsOf (s.handle q).1.world.daemon a.record.device.id =
        some (Inventory.consumeFault f)) ∧
    ((Faultable.mk s q a).uses f = false → (Faultable.mk s q a).Unaffected ∧
      faultsOf (s.handle q).1.world.daemon a.record.device.id = some f) := by
  cases hpre : applyFaultPre f with
  | none => exact handle_of_post h hadmission hf hpre hreply
  | some status =>
    refine ⟨fun _ => handle_of_pre h hadmission hf hpre, fun hno => ?_⟩
    rw [(uses_of_pre hpre).2] at hno
    cases hno

end

end Simulated

/-! ## Runs of requests -/

namespace Simulated

/-- The state after requests that are handled one after another. -/
def handleAll (s : Simulated) (qs : List BridgeRequest) : Simulated :=
  qs.foldl (fun s q => (s.handle q).1) s

/-- The requests that reach the fault of the device `id`. -/
def faultables (id : Text) : Simulated → List BridgeRequest → List Faultable
  | _, [] => []
  | s, q :: qs =>
    match admission s.world.daemon q with
    | .ok a =>
      if a.record.device.id = id then ⟨s, q, a⟩ :: faultables id (s.handle q).1 qs
      else faultables id (s.handle q).1 qs
    | .error _ => faultables id (s.handle q).1 qs

/-- Those that use the fault `f`. -/
def users (id : Text) (f : Faults) (s : Simulated) (qs : List BridgeRequest) : List Faultable :=
  (s.faultables id qs).filter fun e => e.uses f

/-- The fault after it has been used `k` times. -/
def spent (f : Faults) (k : Nat) : Faults :=
  if f.remaining = 0 then f
  else if k < f.remaining then { f with remaining := f.remaining - k }
  else ⟨.none, 0, none, none⟩

variable {id : Text} {f : Faults} {s : Simulated}

theorem spent_succ (h : 1 < f.remaining) (k : Nat) :
    spent { f with remaining := f.remaining - 1 } k = spent f (k + 1) := by
  have hless : f.remaining - 1 ≠ 0 := by omega
  have hmore : f.remaining ≠ 0 := by omega
  unfold spent
  dsimp only
  rw [if_neg hless, if_neg hmore]
  by_cases hk : k < f.remaining - 1
  · have hleft : f.remaining - 1 - k = f.remaining - (k + 1) := by omega
    have hk' : k + 1 < f.remaining := by omega
    rw [if_pos hk, if_pos hk', hleft]
  · have hk' : ¬ k + 1 < f.remaining := by omega
    rw [if_neg hk, if_neg hk']

/-- The next request reaches the fault and uses it, reaches it and does not, or passes it by. -/
theorem faultables_cases (h : s.Sound) (hf : faultsOf s.world.daemon id = some f)
    (hreply : ∀ t, f.replyData = some t → (fromHex? t).isSome = true) (q : BridgeRequest)
    (qs : List BridgeRequest) :
    (∃ e : Faultable, s.faultables id (q :: qs) = e :: (s.handle q).1.faultables id qs ∧
      e.uses f = true ∧ e.Faulted f ∧
      faultsOf (s.handle q).1.world.daemon id = some (Inventory.consumeFault f)) ∨
    (∃ e : Faultable, s.faultables id (q :: qs) = e :: (s.handle q).1.faultables id qs ∧
      e.uses f = false ∧ e.Unaffected ∧ faultsOf (s.handle q).1.world.daemon id = some f) ∨
    s.faultables id (q :: qs) = (s.handle q).1.faultables id qs ∧
      faultsOf (s.handle q).1.world.daemon id = some f := by
  cases hadmission : admission s.world.daemon q with
  | error refusal =>
    refine .inr (.inr ⟨by rw [faultables, hadmission], ?_⟩)
    rw [faultsOf_handle_other q fun a ha => ?_, hf]
    rw [hadmission] at ha
    cases ha
  | ok a =>
    by_cases hid : a.record.device.id = id
    · subst hid
      have hcons : s.faultables a.record.device.id (q :: qs) =
          ⟨s, q, a⟩ :: (s.handle q).1.faultables a.record.device.id qs := by
        rw [faultables, hadmission]
        exact if_pos rfl
      obtain ⟨hused, hunused⟩ := handle_faultable h hadmission hf hreply
      cases huses : (Faultable.mk s q a).uses f with
      | true => exact .inl ⟨_, hcons, huses, hused huses⟩
      | false => exact .inr (.inl ⟨_, hcons, huses, hunused huses⟩)
    · refine .inr (.inr ⟨?_, ?_⟩)
      · rw [faultables, hadmission]
        exact if_neg hid
      · rw [faultsOf_handle_other q fun a' ha' => ?_, hf]
        rw [hadmission] at ha'
        cases ha'
        exact hid

theorem consumeFault_of_zero (h : f.remaining = 0) : Inventory.consumeFault f = f := by
  unfold Inventory.consumeFault
  rw [if_pos h]

theorem unaffected_of_unused (h : s.Sound) (hf : faultsOf s.world.daemon id = some f)
    (hreply : ∀ t, f.replyData = some t → (fromHex? t).isSome = true) (hzero : f.remaining = 0)
    (qs : List BridgeRequest) :
    (∀ e ∈ s.faultables id qs, (e.uses f = true → e.Faulted f) ∧
      (e.uses f = false → e.Unaffected)) ∧
      faultsOf (s.handleAll qs).world.daemon id = some f := by
  induction qs generalizing s with
  | nil => exact ⟨fun e he => absurd he List.not_mem_nil, hf⟩
  | cons q qs ih =>
    have hnext := sound_handle h q
    rcases faultables_cases h hf hreply q qs with
      ⟨e, hcons, huses, hfaulted, hf'⟩ | ⟨e, hcons, huses, hunaffected, hf'⟩ | ⟨hsame, hf'⟩
    · rw [consumeFault_of_zero hzero] at hf'
      obtain ⟨hall, hend⟩ := ih hnext hf'
      refine ⟨fun e' he' => ?_, hend⟩
      rw [hcons] at he'
      rcases List.mem_cons.mp he' with rfl | he'
      · exact ⟨fun _ => hfaulted, fun hno => absurd (huses.symm.trans hno) (by decide)⟩
      · exact hall e' he'
    · obtain ⟨hall, hend⟩ := ih hnext hf'
      refine ⟨fun e' he' => ?_, hend⟩
      rw [hcons] at he'
      rcases List.mem_cons.mp he' with rfl | he'
      · exact ⟨fun hyes => absurd (hyes.symm.trans huses) (by decide), fun _ => hunaffected⟩
      · exact hall e' he'
    · rw [hsame]
      exact ih hnext hf'

/-- The first `remaining` requests that can use the fault do so, and then it is gone. -/
structure Counts (s : Simulated) (id : Text) (f : Faults) (qs : List BridgeRequest) : Prop where
  first : ∀ e ∈ (s.users id f qs).take f.remaining, e.Faulted f
  later : ∀ e ∈ (s.users id f qs).drop f.remaining, e.Unaffected
  unused : ∀ e ∈ s.faultables id qs, e.uses f = false → e.Unaffected
  after : faultsOf (s.handleAll qs).world.daemon id = some (spent f (s.users id f qs).length)

section

variable {e : Faultable} {q : BridgeRequest} {qs : List BridgeRequest}

theorem counts_nil (hf : faultsOf s.world.daemon id = some f) (hpos : 0 < f.remaining) :
    s.Counts id f [] where
  first e he := absurd (List.mem_of_mem_take he) List.not_mem_nil
  later e he := absurd (List.mem_of_mem_drop he) List.not_mem_nil
  unused e he := absurd he List.not_mem_nil
  after := by
    have hspent : spent f (List.length ([] : List Faultable)) = f := by
      unfold spent
      rw [if_neg (Nat.ne_of_gt hpos), List.length_nil, if_pos hpos, Nat.sub_zero]
    exact hf.trans (congrArg some hspent.symm)

theorem users_of_uses (hcons : s.faultables id (q :: qs) = e :: (s.handle q).1.faultables id qs)
    (huses : e.uses f = true) : s.users id f (q :: qs) = e :: (s.handle q).1.users id f qs := by
  rw [users, hcons, List.filter_cons_of_pos (by simpa using huses)]
  rfl

theorem users_of_unused (hcons : s.faultables id (q :: qs) = e :: (s.handle q).1.faultables id qs)
    (huses : e.uses f = false) : s.users id f (q :: qs) = (s.handle q).1.users id f qs := by
  rw [users, hcons, List.filter_cons_of_neg (by simp [huses])]
  rfl

/-- The request uses the last of the fault, and the fault is gone. -/
theorem counts_last (hcons : s.faultables id (q :: qs) = e :: (s.handle q).1.faultables id qs)
    (huses : e.uses f = true) (hfaulted : e.Faulted f) (hone : f.remaining = 1)
    (hrest : ∀ e' ∈ (s.handle q).1.faultables id qs, e'.Unaffected)
    (hend : faultsOf (s.handleAll (q :: qs)).world.daemon id = some ⟨.none, 0, none, none⟩) :
    s.Counts id f (q :: qs) := by
  have husers := users_of_uses hcons huses
  refine ⟨?_, ?_, ?_, ?_⟩
  · intro e' he'
    rw [husers, hone, List.take_succ_cons, List.take_zero] at he'
    rw [List.mem_singleton.mp he']
    exact hfaulted
  · intro e' he'
    rw [husers, hone, List.drop_succ_cons, List.drop_zero] at he'
    exact hrest e' (List.mem_of_mem_filter he')
  · intro e' he' hno
    rw [hcons] at he'
    rcases List.mem_cons.mp he' with rfl | he'
    · exact absurd (huses.symm.trans hno) (by decide)
    · exact hrest e' he'
  · have hspent : spent f (e :: (s.handle q).1.users id f qs).length = ⟨.none, 0, none, none⟩ := by
      unfold spent
      rw [if_neg (by omega), List.length_cons, if_neg (by omega)]
    rw [husers, hspent]
    exact hend

/-- The request uses the fault once, and the rest of it is for later ones. -/
theorem counts_more (hcons : s.faultables id (q :: qs) = e :: (s.handle q).1.faultables id qs)
    (huses : e.uses f = true) (hfaulted : e.Faulted f) (hmore : 1 < f.remaining)
    (hrest : (s.handle q).1.Counts id { f with remaining := f.remaining - 1 } qs) :
    s.Counts id f (q :: qs) := by
  have husers := users_of_uses hcons huses
  obtain ⟨hfirst, hlater, hunused, hend⟩ := hrest
  obtain ⟨m, hm⟩ : ∃ m, f.remaining = m + 1 := ⟨f.remaining - 1, by omega⟩
  dsimp only at hfirst hlater
  rw [hm, Nat.add_sub_cancel] at hfirst hlater
  refine ⟨?_, ?_, ?_, ?_⟩
  · intro e' he'
    rw [husers, hm, List.take_succ_cons] at he'
    rcases List.mem_cons.mp he' with rfl | he'
    · exact hfaulted
    · exact (hfirst e' he').recount (by omega) (by omega)
  · intro e' he'
    rw [husers, hm, List.drop_succ_cons] at he'
    exact hlater e' he'
  · intro e' he' hno
    rw [hcons] at he'
    rcases List.mem_cons.mp he' with rfl | he'
    · exact absurd (huses.symm.trans hno) (by decide)
    · exact hunused e' he' hno
  · rw [husers]
    exact hend.trans (congrArg some (spent_succ hmore _))

/-- The request reaches the fault and does not use it. -/
theorem counts_unused (hcons : s.faultables id (q :: qs) = e :: (s.handle q).1.faultables id qs)
    (huses : e.uses f = false) (hunaffected : e.Unaffected)
    (hrest : (s.handle q).1.Counts id f qs) : s.Counts id f (q :: qs) := by
  have husers := users_of_unused hcons huses
  refine ⟨husers ▸ hrest.first, husers ▸ hrest.later, fun e' he' hno => ?_, husers ▸ hrest.after⟩
  rw [hcons] at he'
  rcases List.mem_cons.mp he' with rfl | he'
  · exact hunaffected
  · exact hrest.unused e' he' hno

end

/-- A counted fault is used by the first `remaining` requests that can use it. -/
theorem counts_of_counted (h : s.Sound) (hf : faultsOf s.world.daemon id = some f)
    (hreply : ∀ t, f.replyData = some t → (fromHex? t).isSome = true) (hpos : 0 < f.remaining)
    (qs : List BridgeRequest) : s.Counts id f qs := by
  -- the fault is another one for each further request
  induction qs generalizing s f with
  | nil => exact counts_nil hf hpos
  | cons q qs ih =>
    have hnext := sound_handle h q
    rcases faultables_cases h hf hreply q qs with
      ⟨e, hcons, huses, hfaulted, hf'⟩ | ⟨e, hcons, huses, hunaffected, hf'⟩ | ⟨hsame, hf'⟩
    · by_cases hone : f.remaining = 1
      · have hgone : Inventory.consumeFault f = ⟨.none, 0, none, none⟩ := by
          unfold Inventory.consumeFault
          rw [if_neg (by omega), if_pos hone]
        rw [hgone] at hf'
        obtain ⟨hall, hend⟩ := unaffected_of_unused hnext hf' (fun t ht => by cases ht) rfl qs
        exact counts_last hcons huses hfaulted hone (fun e' he' => (hall e' he').2 rfl) hend
      · have hless : Inventory.consumeFault f = { f with remaining := f.remaining - 1 } := by
          unfold Inventory.consumeFault
          rw [if_neg (by omega), if_neg hone]
        rw [hless] at hf'
        have hmore : 1 < f.remaining := by omega
        exact counts_more hcons huses hfaulted hmore
          (ih hnext hf' hreply (show 0 < f.remaining - 1 by omega))
    · exact counts_unused hcons huses hunaffected (ih hnext hf' hreply hpos)
    · have husers : s.users id f (q :: qs) = (s.handle q).1.users id f qs := by
        rw [users, hsame]
        rfl
      have hrest := ih hnext hf' hreply hpos
      exact ⟨husers ▸ hrest.first, husers ▸ hrest.later, hsame ▸ hrest.unused, husers ▸ hrest.after⟩

end Simulated

theorem reply_of_normalizeFaults {v : Value} {label : Label} {f : Faults}
    (h : normalizeFaults v label = .ok f) :
    ∀ t, f.replyData = some t → (fromHex? t).isSome = true := by
  intro t ht
  obtain ⟨-, -, -, -, hreply⟩ := normalizeFaults_eq_ok h
  obtain ⟨w, l, hw⟩ := hreply t ht
  exact Option.isSome_iff_exists.mpr (fromHex?_of_normalizeBytesLiteral hw)

/-- From every state of every run, for a fault that `normalize_faults` accepts and any requests with
any answers of the controllers: a counted fault is used by exactly the first `remaining` requests to
its device that can use it, and is gone after them; a fault without a count is used by all of them.
What does not use it is answered as without it.  A count that cannot be saved stays all the same, and
only the reply is lost to the exception. -/
theorem counted_faults {k : Kernel} {generation n : Nat} {s : Simulated}
    (hr : Reach Simulated.step anyStep (.start k generation n) s) {id : Text} {f : Faults}
    (hf : faultsOf s.world.daemon id = some f) {v : Value} {label : Label}
    (hnormal : normalizeFaults v label = .ok f) (qs : List BridgeRequest) :
    (0 < f.remaining →
      (∀ e ∈ (s.users id f qs).take f.remaining, e.Faulted f) ∧
        ∀ e ∈ (s.users id f qs).drop f.remaining, e.Unaffected) ∧
    (f.remaining = 0 → ∀ e ∈ s.users id f qs, e.Faulted f) ∧
    (∀ e ∈ s.faultables id qs, e.uses f = false → e.Unaffected) ∧
    ((applyFaultPre f).isSome = true → s.users id f qs = s.faultables id qs) ∧
    faultsOf (s.handleAll qs).world.daemon id =
      some (Simulated.spent f (s.users id f qs).length) := by
  have hsound := Simulated.sound_of_reach hr
  have hreply := reply_of_normalizeFaults hnormal
  have hall : (applyFaultPre f).isSome = true → s.users id f qs = s.faultables id qs := by
    intro hpre
    obtain ⟨status, hstatus⟩ := Option.isSome_iff_exists.mp hpre
    exact List.filter_eq_self.mpr fun e _ => (Simulated.uses_of_pre hstatus).2
  -- a fault without a count stays as it is, so each request meets it
  rcases Nat.eq_zero_or_pos f.remaining with hzero | hpos
  · obtain ⟨hevery, hend⟩ := Simulated.unaffected_of_unused hsound hf hreply hzero qs
    have hlasting : Simulated.spent f (s.users id f qs).length = f := if_pos hzero
    refine ⟨fun hpos => absurd hzero (Nat.ne_of_gt hpos), fun _ e he => ?_, ?_, hall, ?_⟩
    · obtain ⟨hmem, huses⟩ := List.mem_filter.mp he
      exact (hevery e hmem).1 huses
    · exact fun e he => (hevery e he).2
    · rw [hlasting, hend]
  · obtain ⟨hfirst, hlater, hunused, hend⟩ :=
      Simulated.counts_of_counted hsound hf hreply hpos qs
    exact ⟨fun _ => ⟨hfirst, hlater⟩, fun hzero => absurd hzero (Nat.ne_of_gt hpos), hunused, hall,
      hend⟩

/-! ## A fault on the bench -/

def faultPatch (fields : List (String × Value)) : SimulatedAct :=
  .inventory (.change (.updateDevice (text "t0")
    (.dict [(.lit "faults", .dict (fields.map fun p => (.lit p.1, p.2)))])))

/-- The bench with a fault. -/
def faultyBench (fields : List (String × Value)) : Option Simulated :=
  exec (guarded Simulated.step anyStep) (.start .empty 0 1)
    ((applyTemplateBench "i2c-register-bank").map .inventory ++ [faultPatch fields])

def oneTimeout : List (String × Value) := [("mode", .lit "timeout"), ("remaining", .int 1)]

/-- The fault of the bench, and the replies of three reads. -/
def faultView (s : Simulated) : Option Faults × List (Option BridgeReply) :=
  (faultsOf s.world.daemon (text "t0"),
    answers Simulated.handle s [readRegister 5, readRegister 5, readRegister 5])

/-- The first of three reads times out. -/
theorem counted_faults_bench : ∃ s : Simulated,
    faultView s = (some ⟨.timeout, 1, none, none⟩,
      [some ⟨eTimedOut, [], []⟩, some ⟨0, [0], []⟩, some ⟨0, [0], []⟩]) ∧
    (∀ e ∈ (s.users (text "t0") ⟨.timeout, 1, none, none⟩
        [readRegister 5, readRegister 5, readRegister 5]).take 1,
      e.Faulted ⟨.timeout, 1, none, none⟩) ∧
    ∀ e ∈ (s.users (text "t0") ⟨.timeout, 1, none, none⟩
        [readRegister 5, readRegister 5, readRegister 5]).drop 1, e.Unaffected := by
  have hrun : (faultyBench oneTimeout).map faultView = some (some ⟨.timeout, 1, none, none⟩,
      [some ⟨eTimedOut, [], []⟩, some ⟨0, [0], []⟩, some ⟨0, [0], []⟩]) := by decide +kernel
  obtain ⟨s, hexec, hview⟩ := Option.map_eq_some_iff.mp hrun
  have hnormal : normalizeFaults (.dict [(.lit "mode", .lit "timeout"), (.lit "remaining", .int 1)])
      [] = .ok ⟨.timeout, 1, none, none⟩ := rfl
  have hf : faultsOf s.world.daemon (text "t0") = some ⟨.timeout, 1, none, none⟩ :=
    congrArg Prod.fst hview
  obtain ⟨hcounted, -⟩ := counted_faults (reach_of_exec hexec) hf hnormal
    [readRegister 5, readRegister 5, readRegister 5]
  exact ⟨s, hview, hcounted (by decide)⟩

def oneShortReply : List (String × Value) := [("mode", .lit "short-reply"), ("remaining", .int 1)]

def shortReply : Faults := ⟨.shortReply, 1, none, some []⟩

/-- The replies of two reads of one byte, with the fault and without it. -/
def shortView (s : Simulated) :
    Option Faults × List (Option BridgeReply × Option BridgeReply) :=
  (faultsOf s.world.daemon (text "t0"),
    (s.users (text "t0") shortReply [readRegister 5, readRegister 5]).map fun e =>
      (e.result.2, e.plain.2))

/-- Two reads of one byte each and a short reply that is counted once: neither reply is altered. -/
theorem short_reply_unaltered :
    ¬ ∀ s, Reach Simulated.step anyStep (.start .empty 0 1) s →
      ∀ (id : Text) (f : Faults) (v : Value) (label : Label),
        faultsOf s.world.daemon id = some f → normalizeFaults v label = .ok f →
        f.mode = .shortReply → 0 < f.remaining →
        ∀ (qs : List BridgeRequest) (i : Nat) (e : Faultable),
          (s.users id f qs)[i]? = some e → (e.result.2 ≠ e.plain.2 ↔ i < f.remaining) := by
  intro h
  have hrun : (faultyBench oneShortReply).map shortView = some (some shortReply,
      [(some ⟨0, [0], []⟩, some ⟨0, [0], []⟩), (some ⟨0, [0], []⟩, some ⟨0, [0], []⟩)]) := by
    decide +kernel
  obtain ⟨s, hexec, hview⟩ := Option.map_eq_some_iff.mp hrun
  have hf : faultsOf s.world.daemon (text "t0") = some shortReply := congrArg Prod.fst hview
  have husers : (s.users (text "t0") shortReply [readRegister 5, readRegister 5]).map
      (fun e => (e.result.2, e.plain.2)) = _ := congrArg Prod.snd hview
  have hnormal : normalizeFaults (.dict [(.lit "mode", .lit "short-reply"),
      (.lit "remaining", .int 1)]) [] = .ok shortReply := rfl
  obtain ⟨e, he, hsame⟩ : ∃ e, (s.users (text "t0") shortReply
      [readRegister 5, readRegister 5])[0]? = some e ∧ e.result.2 = e.plain.2 := by
    have hfirst := congrArg (fun l => l[0]?) husers
    rw [List.getElem?_map] at hfirst
    obtain ⟨e, he, hpair⟩ := Option.map_eq_some_iff.mp hfirst
    obtain ⟨hresult, hplain⟩ := Prod.mk.inj hpair
    exact ⟨e, he, hresult.trans hplain.symm⟩
  have haltered := (h s (reach_of_exec hexec) (text "t0") shortReply _ _ hf hnormal rfl (by decide)
    [readRegister 5, readRegister 5] 0 e he).mpr (by decide)
  exact haltered hsame

end Sensorium.Daemon

import Sensorium.Daemon.ServedTemplates
import Sensorium.Daemon.TemplateStates

/-!
# The devices that the daemon simulates

The inventory with the template object of every record, over runs of operations, updates and the
requests of the bridge.  A request changes the object that it is put to and uses up a fault; an add
and an update assign a new object.
-/

namespace Sensorium.Daemon

open Lib Model Inventory Kernel Function

/-- `templates` is `device["template"]`, by the record's own object. -/
structure Simulated where
  world : World
  templates : Nat → Option Template

/-! ## Requests -/

/-- The types of `_handle_bridge_request`. -/
inductive RequestKind
  | i2cXfer
  | spiXfer
  | uartTx
  | uartControl
  | uartConfig
  | other
  deriving DecidableEq, Repr

/-- What a handler meets where it leaves the records: the answer of `_dispatch_controller`, `none` if
it raises, and whether `write_frame` takes the modem lines that a template sets and
`_persist_snapshot_locked` saves new settings and the count of a fault, or raises. -/
structure Outcomes where
  controller : Option (Int × List UInt8)
  modemWritten : Bool
  settingsSaved : Bool
  faultSaved : Bool

/-- `_consume_fault` saves what it has counted; a fault without a count is not counted. -/
def Outcomes.counted (o : Outcomes) (f : Faults) : Bool := f.remaining = 0 || o.faultSaved

/-- A request as it arrives. -/
structure BridgeRequest where
  kind : RequestKind
  payload : List UInt8
  outcomes : Outcomes

/-- What the handler returns, with the modem lines that a UART's template sets. -/
structure BridgeReply where
  status : Int
  data : List UInt8
  modem : List (Text × Bool)
  deriving DecidableEq, Repr

/-- `_device_by_handle`. -/
def recordByHandle (d : Inventory.Daemon) (handle : Nat) : Option Inventory.DeviceRecord :=
  (dictGet d.devicesByHandle handle).bind fun object =>
    (d.devices.find? fun p => p.2.object = object).map Prod.snd

/-- `UART_MODEM_MASK`. -/
def uartModemMask : Nat := 0x1e6

/-- `UART_CFG_STRUCT.unpack(payload)`. -/
def unpackUartConfig (payload : List UInt8) : UartConfig where
  handle := readLe payload 0 4
  baudRate := readLe payload 4 4
  cflag := readLe payload 8 4
  iflag := readLe payload 12 4
  oflag := readLe payload 16 4
  lflag := readLe payload 20 4

namespace Simulated

variable (s : Simulated)

/-- A change of the records by a request. -/
def change (c : Change) : Simulated :=
  { s with world := { s.world with daemon := c.on s.world.daemon } }

/-- An answer that leaves everything as it is. -/
def refuse (status : Int) : Simulated × Option BridgeReply := (s, some ⟨status, [], []⟩)

/-- `_consume_fault` before a reply; `none` is an exception.  The count stays as stored when the save
raises. -/
def consumeFault (o : Outcomes) (r : Inventory.DeviceRecord) (reply : Option BridgeReply) :
    Simulated × Option BridgeReply :=
  (s.change (.faultedRequest r.device.id),
    if o.counted r.device.faults then reply else none)

/-- `_finalize_request`. -/
def finalize (o : Outcomes) (r : Inventory.DeviceRecord) (status : Int) (data : List UInt8)
    (modem : List (Text × Bool)) : Simulated × Option BridgeReply :=
  let reply := (applyFaultPost r.device.faults status data).map fun p => ⟨p.1, p.2, modem⟩
  if r.device.faults.mode = .shortReply ∧ status = 0 then s.consumeFault o r reply else (s, reply)

/-- `_apply_fault_pre`, and what the handler does when no fault answers. -/
def unlessFaulted (o : Outcomes) (r : Inventory.DeviceRecord)
    (unfaulted : Simulated × Option BridgeReply) : Simulated × Option BridgeReply :=
  match applyFaultPre r.device.faults with
  | some status => s.consumeFault o r (some ⟨status, [], []⟩)
  | none => unfaulted

/-- `_dispatch_controller`, and the end of the handler. -/
def askController (o : Outcomes) (r : Inventory.DeviceRecord) : Simulated × Option BridgeReply :=
  match o.controller with
  | none => (s, none)
  | some (status, data) => s.finalize o r status data []

/-- The template or the controller is asked.  The lines that a template sets are written before the
reply. -/
def ask (o : Outcomes) (r : Inventory.DeviceRecord) (c : TemplateCall) :
    Simulated × Option BridgeReply :=
  if (templateKind r.device.part).isSome then
    let held := callHeld (s.templates r.object) c
    let s := { s with templates := update s.templates r.object held.1 }
    match held.2 with
    | none => (s, none)
    | some answer =>
      if answer.modem ≠ [] ∧ o.modemWritten = false then (s, none)
      else s.finalize o r 0 answer.data answer.modem
  else s.askController o r

/-- `_handle_i2c_request`. -/
def handleI2cRequest (payload : List UInt8) (o : Outcomes) :
    Simulated × Option BridgeReply :=
  match decodeI2c payload with
  | .error status => s.refuse status
  | .ok (handle, messages) =>
    match recordByHandle s.world.daemon handle with
    | none => s.refuse eNoEnt
    | some r =>
      s.unlessFaulted o r
        (if messages.any fun m => some m.addr ≠ deviceAddress r.device then s.refuse eOpNotSupp
        else s.ask o r (.i2c messages))

/-- `_handle_spi_request`. -/
def handleSpiRequest (payload : List UInt8) (o : Outcomes) :
    Simulated × Option BridgeReply :=
  match decodeSpi payload with
  | .error reject => s.refuse reject.status
  | .ok frame =>
    match recordByHandle s.world.daemon frame.deviceHandle with
    | none => s.refuse SpiReject.unknownDevice.status
    | some r =>
      if frame.chipSelect ≠ (deviceChipSelect r.device).getD frame.chipSelect then
        s.refuse SpiReject.chipSelectMismatch.status
      else
        match cutTransfers (deviceBits r.device) frame.tx 0 frame.descs with
        | .error reject => s.refuse reject.status
        | .ok transfers => s.unlessFaulted o r (s.ask o r (.spi transfers))

/-- `_handle_uart_request`. -/
def handleUartRequest (control : Bool) (payload : List UInt8) (o : Outcomes) :
    Simulated × Option BridgeReply :=
  if payload.length < 20 then s.refuse eProto
  else
    let data := payload.drop 20
    let modemMask := readLe payload 12 4
    if data.length ≠ readLe payload 8 4 then s.refuse eProto
    else
      match recordByHandle s.world.daemon (readLe payload 0 4) with
      | none => s.refuse eNoEnt
      | some r =>
        if readLe payload 4 4 ≠ (if control then 1 else 0) then s.refuse eProto
        else if modemMask &&& uartModemMask ≠ modemMask then s.refuse eOpNotSupp
        else
          s.unlessFaulted o r (s.ask o r
            (if control then .uartControl modemMask (readLe payload 16 4) else .uart data))

/-- `_handle_uart_config_request`; a template is not told. -/
def handleUartConfigRequest (payload : List UInt8) (o : Outcomes) :
    Simulated × Option BridgeReply :=
  if payload.length ≠ 24 then s.refuse eProto
  else
    let c := unpackUartConfig payload
    match recordByHandle s.world.daemon c.handle with
    | none => s.refuse eNoEnt
    | some r =>
      let s := s.change (.uartConfig c)
      if o.settingsSaved = false then (s, none)
      else
        s.unlessFaulted o r
          (if (templateKind r.device.part).isSome then s.finalize o r 0 [] []
          else s.askController o r)

/-- `_handle_bridge_request`. -/
def handle (q : BridgeRequest) : Simulated × Option BridgeReply :=
  match q.kind with
  | .i2cXfer => s.handleI2cRequest q.payload q.outcomes
  | .spiXfer => s.handleSpiRequest q.payload q.outcomes
  | .uartTx => s.handleUartRequest false q.payload q.outcomes
  | .uartControl => s.handleUartRequest true q.payload q.outcomes
  | .uartConfig => s.handleUartConfigRequest q.payload q.outcomes
  | .other => s.refuse eInval

end Simulated

/-! ## Runs -/

/-- `device["template"] = self._build_template(device)`; an exception assigns nothing. -/
def assignBuilt (templates : Nat → Option Template) (object : Nat) (part : Part) :
    Nat → Option Template :=
  match Template.build part with
  | some t => update templates object t
  | none => templates

inductive SimulatedAct
  | inventory (a : Act)
  | request (q : BridgeRequest)

namespace Simulated

variable (s : Simulated)

/-- The objects after a step of the inventory. -/
def assign : Act → Nat → Option Template
  | .go t _ =>
    match s.world.pcs[t]? with
    | some (.adds _ [] (dev :: _) none) => assignBuilt s.templates s.world.daemon.objects dev.part
    | _ => s.templates
  | .change (.updateDevice id patch) =>
    match updated s.world.daemon id patch with
    | some (r, dev) => assignBuilt s.templates r.object dev.part
    | none => s.templates
  | _ => s.templates

def step : SimulatedAct → Option Simulated
  | .inventory a => (Inventory.step s.world a).map fun w => ⟨w, s.assign a⟩
  | .request q => some (s.handle q).1

/-- A daemon that has opened the bridge, with `n` workers. -/
def start (k : Kernel) (generation n : Nat) : Simulated :=
  ⟨Inventory.start k generation n, fun _ => none⟩

end Simulated

/-! ## What a request does -/

/-- A change that a request makes. -/
def requestChange (_ : World) (a : Act) : Prop := ∃ c : Change, a = .change c ∧ c.locks = false

namespace Simulated

/-- The records are changed as requests change them, and the objects are as they were or one of them
has been called. -/
structure Handled (s s' : Simulated) : Prop where
  world : Reach Inventory.step requestChange s.world s'.world
  templates : s'.templates = s.templates ∨ ∃ object c,
    s'.templates = update s.templates object (callHeld (s.templates object) c).1

variable {s s' : Simulated}

theorem Handled.refl (s : Simulated) : s.Handled s := ⟨.start, .inl rfl⟩

theorem Handled.change (h : s.Handled s') {c : Change} (hc : c.locks = false) :
    s.Handled (s'.change c) where
  world := by
    refine .next h.world ⟨c, rfl, hc⟩ ?_
    show (if c.locks && s'.world.locked then none else _) = _
    rw [hc]
    rfl
  templates := h.templates

theorem Handled.finalize (h : s.Handled s') (o : Outcomes) (r : Inventory.DeviceRecord)
    (status : Int) (data : List UInt8) (modem : List (Text × Bool)) :
    s.Handled (s'.finalize o r status data modem).1 := by
  unfold Simulated.finalize
  dsimp only
  split
  · exact h.change rfl
  · exact h

theorem Handled.unlessFaulted (o : Outcomes) (r : Inventory.DeviceRecord) (h : s.Handled s')
    {unfaulted : Simulated × Option BridgeReply} (hu : s.Handled unfaulted.1) :
    s.Handled (s'.unlessFaulted o r unfaulted).1 := by
  unfold Simulated.unlessFaulted
  split
  · exact h.change rfl
  · exact hu

theorem Handled.askController (h : s.Handled s') (o : Outcomes) (r : Inventory.DeviceRecord) :
    s.Handled (s'.askController o r).1 := by
  unfold Simulated.askController
  split
  · exact h
  · exact h.finalize o r _ _ _

theorem handled_ask (s : Simulated) (o : Outcomes) (r : Inventory.DeviceRecord)
    (c : TemplateCall) : s.Handled (s.ask o r c).1 := by
  unfold ask
  split
  · have hcalled : s.Handled { s with
        templates := update s.templates r.object (callHeld (s.templates r.object) c).1 } :=
      ⟨.start, .inr ⟨r.object, c, rfl⟩⟩
    dsimp only
    split
    · exact hcalled
    · split
      · exact hcalled
      · exact hcalled.finalize o r 0 _ _
  · exact (Handled.refl s).askController o r

theorem handled_refuse (s : Simulated) (status : Int) : s.Handled (s.refuse status).1 := .refl s

section Requests

variable (s : Simulated) (payload : List UInt8) (o : Outcomes)

theorem handled_handleI2cRequest : s.Handled (s.handleI2cRequest payload o).1 := by
  unfold handleI2cRequest
  split
  · exact s.handled_refuse _
  split
  · exact s.handled_refuse _
  · rename_i r _
    refine (Handled.refl s).unlessFaulted o r ?_
    split
    · exact s.handled_refuse _
    · exact s.handled_ask o r _

theorem handled_handleSpiRequest : s.Handled (s.handleSpiRequest payload o).1 := by
  unfold handleSpiRequest
  split
  · exact s.handled_refuse _
  split
  · exact s.handled_refuse _
  · rename_i r _
    split
    · exact s.handled_refuse _
    split
    · exact s.handled_refuse _
    · exact (Handled.refl s).unlessFaulted o r (s.handled_ask o r _)

theorem handled_handleUartRequest (control : Bool) :
    s.Handled (s.handleUartRequest control payload o).1 := by
  unfold handleUartRequest
  dsimp only
  split
  · exact s.handled_refuse _
  split
  · exact s.handled_refuse _
  split
  · exact s.handled_refuse _
  · rename_i r _
    generalize (if control = true then 1 else 0) = flags
    split
    · exact s.handled_refuse _
    split
    · exact s.handled_refuse _
    · exact (Handled.refl s).unlessFaulted o r (s.handled_ask o r _)

theorem handled_handleUartConfigRequest :
    s.Handled (s.handleUartConfigRequest payload o).1 := by
  unfold handleUartConfigRequest
  split
  · exact s.handled_refuse _
  dsimp only
  split
  · exact s.handled_refuse _
  · rename_i r _
    -- the settings are stored before the fault is asked
    have hset : s.Handled (s.change (.uartConfig (unpackUartConfig payload))) :=
      (Handled.refl s).change rfl
    split
    · exact hset
    refine hset.unlessFaulted o r ?_
    split
    · exact hset.finalize o r _ _ _
    · exact hset.askController o r

end Requests

theorem handled_handle (s : Simulated) (q : BridgeRequest) : s.Handled (s.handle q).1 := by
  unfold handle
  split
  · exact s.handled_handleI2cRequest _ _
  · exact s.handled_handleSpiRequest _ _
  · exact s.handled_handleUartRequest _ _ false
  · exact s.handled_handleUartRequest _ _ true
  · exact s.handled_handleUartConfigRequest _ _
  · exact s.handled_refuse _

end Simulated

/-! ## What the objects come from -/

/-- An object that the backend of a record would be built as, after some calls. -/
def Grown (part : Part) (held : Option Template) : Prop :=
  ∀ built, Template.build part = some built → ∃ calls, held = after callHeld built calls

theorem Grown.call {part : Part} {held : Option Template} (h : Grown part held) (c : TemplateCall) :
    Grown part (callHeld held c).1 := by
  intro built hbuilt
  obtain ⟨calls, rfl⟩ := h built hbuilt
  exact ⟨calls ++ [c], (after_append built calls [c]).symm⟩

/-- The object of every record comes from its backend. -/
def AllGrown (d : Inventory.Daemon) (templates : Nat → Option Template) : Prop :=
  ∀ p ∈ d.devices, Grown p.2.device.part (templates p.2.object)

theorem SameParts.allGrown {d d' : Inventory.Daemon} {templates : Nat → Option Template}
    (h : SameParts d d') (hd : AllGrown d templates) : AllGrown d' templates := by
  intro q hq
  obtain ⟨p, hp, hobject, hpart⟩ := h q hq
  rw [hobject, hpart]
  exact hd p hp

theorem assignBuilt_of_ne {templates : Nat → Option Template} {object other : Nat}
    (h : other ≠ object) (part : Part) :
    assignBuilt templates object part other = templates other := by
  unfold assignBuilt
  cases Template.build part with
  | none => rfl
  | some t => exact update_of_ne h _ _

theorem assignBuilt_self {part : Part} {built : Option Template}
    (h : Template.build part = some built) (templates : Nat → Option Template) (object : Nat) :
    assignBuilt templates object part object = built := by
  rw [assignBuilt, h]
  exact update_self object _ templates

/-- Whatever an assignment was for, the object that is assigned comes from the backend. -/
theorem grown_assignBuilt (templates : Nat → Option Template) (object : Nat) (part : Part) :
    Grown part (assignBuilt templates object part object) :=
  fun _ hbuilt => ⟨[], assignBuilt_self hbuilt templates object⟩

namespace Simulated

/-- The inventory and the objects beside it. -/
structure Sound (s : Simulated) : Prop where
  kept : s.world.Kept (fun d => d.Filed) fun d p => p.Filing d
  grown : AllGrown s.world.daemon s.templates

variable {s s' : Simulated}

theorem sound_start (k : Kernel) (generation n : Nat) : (start k generation n).Sound :=
  ⟨World.kept_start keeps_filed (filed_empty rfl rfl rfl), fun _ hp => absurd hp List.not_mem_nil⟩

theorem grown_update (h : s.Sound) (id : Text) (patch : Value) :
    AllGrown (s.world.daemon.updateDevice id patch)
      (s.assign (.change (.updateDevice id patch))) := by
  rw [assign]
  split
  · rename_i r dev hu
    obtain ⟨heq, hr, -⟩ := updated_eq_some hu
    rw [heq]
    intro q hq
    rcases updated_cases h.kept.daemon hr hq with ⟨hobject, hdev⟩ | ⟨hobject, hmem⟩
    · rw [hobject, hdev]
      exact grown_assignBuilt s.templates r.object dev.part
    · rw [assignBuilt_of_ne hobject]
      exact h.grown q hmem
  · rename_i hu
    rw [updated_eq_none hu]
    exact h.grown

theorem grown_go (h : s.Sound) {t : Nat} {o : Outside} {p : Pc} {m : Move}
    (hp : s.world.pcs[t]? = some p) (hm : advance s.world.daemon s.world.kernel o p = some m) :
    AllGrown m.daemon (s.assign (.go t o)) := by
  have hfiling : p.Filing s.world.daemon := h.kept.pcs t p hp
  rw [assign, hp]
  by_cases hadd : ∃ job dev ds, p = .adds job [] (dev :: ds) none
  · obtain ⟨job, dev, ds, rfl⟩ := hadd
    have hnew : dev.id ∉ keys s.world.daemon.devices :=
      notMem_of_nodup_append_cons hfiling.deviceIds
    -- No record has the object that the add will take.
    have hold : AllGrown s.world.daemon
        (assignBuilt s.templates s.world.daemon.objects dev.part) := by
      intro q hq
      have hlt := h.kept.daemon.objects_lt q hq
      rw [assignBuilt_of_ne (Nat.ne_of_lt hlt)]
      exact h.grown q hq
    rcases advance_device hnew hm with heq | ⟨-, q, heq, hobject, hdev⟩
    · exact (SameParts.of_eq heq).allGrown hold
    · intro e he
      rw [heq] at he
      rcases List.mem_append.mp he with he | he
      · exact hold e he
      · rw [List.mem_singleton.mp he, hobject, hdev]
        exact grown_assignBuilt s.templates s.world.daemon.objects dev.part
  · push Not at hadd
    have hsame := (SameParts.advance hm hadd).allGrown h.grown
    split
    · rename_i job dev ds heq
      exact absurd (Option.some.inj heq) (hadd job dev ds)
    · exact hsame

theorem Sound.handled (h : s.Sound) (hs : s.Handled s') : s'.Sound := by
  -- The records are as they were but for faults and settings.
  have hworld : s'.world.Kept (fun d => d.Filed) (fun d p => p.Filing d) ∧
      SameParts s.world.daemon s'.world.daemon := by
    refine hs.world.invariant (I := fun w => w.Kept (fun d => d.Filed) (fun d p => p.Filing d) ∧
      SameParts s.world.daemon w.daemon) ⟨h.kept, .of_eq rfl⟩ ?_
    rintro w a w' ⟨hkept, hsame⟩ ⟨c, rfl, hc⟩ hw
    refine ⟨World.kept_step keeps_filed hkept trivial hw, hsame.trans ?_⟩
    rw [Inventory.step, hc] at hw
    cases hw
    refine SameParts.change w.daemon fun id patch heq => ?_
    rw [heq] at hc
    cases hc
  refine ⟨hworld.1, ?_⟩
  apply hworld.2.allGrown
  rcases hs.templates with heq | ⟨object, c, heq⟩
  · rw [heq]
    exact h.grown
  · intro p hp
    rw [heq]
    by_cases hobject : p.2.object = object
    · rw [hobject, update_self]
      exact (hobject ▸ h.grown p hp).call c
    · rw [update_of_ne hobject]
      exact h.grown p hp

theorem sound_step {a : SimulatedAct} (h : s.Sound) (hs : s.step a = some s') : s'.Sound := by
  cases a with
  | request q =>
    cases hs
    exact h.handled (s.handled_handle q)
  | inventory a =>
    obtain ⟨w, hw, rfl⟩ := Option.map_eq_some_iff.mp hs
    refine ⟨World.kept_step keeps_filed h.kept trivial hw, ?_⟩
    cases a with
    | call t op o =>
      rw [Inventory.step] at hw
      split at hw
      · obtain ⟨⟨d, p⟩, hb, rfl⟩ := Option.map_eq_some_iff.mp hw
        exact (SameParts.of_begins (begins_of_begin hb)).allGrown h.grown
      · cases hw
    | go t o =>
      rw [Inventory.step] at hw
      split at hw
      · rename_i p hp
        split at hw
        · cases hw
        · obtain ⟨m, hm, rfl⟩ := Option.map_eq_some_iff.mp hw
          exact grown_go h hp hm
      · cases hw
    | change c =>
      rw [Inventory.step] at hw
      split at hw
      · cases hw
      · cases hw
        cases c with
        | updateDevice id patch => exact grown_update h id patch
        | attach _ _ | detach _ _ | uartConfig _ | faultedRequest _ | bridgeFailure
        | refreshWorkers _ | refreshBridgeMetrics _ =>
          refine SameParts.allGrown (SameParts.change s.world.daemon ?_) h.grown
          intro id patch heq
          cases heq

/-- In every state of every run the objects come from the backends of their records. -/
theorem sound_of_reach {k : Kernel} {generation n : Nat}
    (hr : Reach step anyStep (start k generation n) s) : s.Sound :=
  hr.invariant (sound_start k generation n) fun _ _ _ h _ hs => sound_step h hs

end Simulated

end Sensorium.Daemon

import Sensorium.Daemon.SimulatedDevices

/-!
# What an update does to a simulated device

`update_device` builds the object of a device anew, whether the patch touches the backend or not,
while the other handlers that store settings and faults leave it alone.  With the same backend the
new object is what the old one was before its calls; the update goes unnoticed exactly if those calls
have left nothing that a later call can tell.
-/

namespace Sensorium.Daemon

open Lib Model Inventory Kernel Function

/-! ## Objects that answer alike -/

/-- The same records, and objects that no sequence of calls tells apart. -/
structure Simulated.SameObjects (s t : Simulated) : Prop where
  world : s.world = t.world
  templates : ∀ object, Alike callHeld (s.templates object) (t.templates object)

/-- The same reply, and the same objects after it. -/
def SameReply (a b : Simulated × Option BridgeReply) : Prop := a.2 = b.2 ∧ a.1.SameObjects b.1

namespace Simulated.SameObjects

variable {s t : Simulated}

theorem change (h : s.SameObjects t) (c : Change) : (s.change c).SameObjects (t.change c) := by
  refine ⟨?_, h.templates⟩
  unfold Simulated.change
  rw [h.world]

theorem refuse (h : s.SameObjects t) (status : Int) : SameReply (s.refuse status) (t.refuse status) :=
  ⟨rfl, h⟩

theorem finalize (h : s.SameObjects t) (o : Outcomes) (r : Inventory.DeviceRecord) (status : Int)
    (data : List UInt8) (modem : List (Text × Bool)) :
    SameReply (s.finalize o r status data modem) (t.finalize o r status data modem) := by
  unfold Simulated.finalize
  dsimp only
  split
  · exact ⟨rfl, h.change _⟩
  · exact ⟨rfl, h⟩

theorem unlessFaulted (h : s.SameObjects t) (o : Outcomes) (r : Inventory.DeviceRecord)
    {a b : Simulated × Option BridgeReply} (hab : SameReply a b) :
    SameReply (s.unlessFaulted o r a) (t.unlessFaulted o r b) := by
  unfold Simulated.unlessFaulted
  cases applyFaultPre r.device.faults with
  | none => exact hab
  | some status => exact ⟨rfl, h.change _⟩

theorem askController (h : s.SameObjects t) (o : Outcomes) (r : Inventory.DeviceRecord) :
    SameReply (s.askController o r) (t.askController o r) := by
  unfold Simulated.askController
  cases o.controller with
  | none => exact ⟨rfl, h⟩
  | some answer => exact h.finalize o r answer.1 answer.2 []

theorem ask (h : s.SameObjects t) (o : Outcomes) (r : Inventory.DeviceRecord) (c : TemplateCall) :
    SameReply (s.ask o r c) (t.ask o r c) := by
  unfold Simulated.ask
  by_cases htemplate : (templateKind r.device.part).isSome = true
  · rw [if_pos htemplate, if_pos htemplate]
    have hcalled : SameObjects
        { s with templates := update s.templates r.object (callHeld (s.templates r.object) c).1 }
        { t with templates := update t.templates r.object (callHeld (t.templates r.object) c).1 } := by
      refine ⟨h.world, fun object => ?_⟩
      dsimp only
      by_cases hobject : object = r.object
      · rw [hobject, update_self, update_self]
        exact (h.templates r.object).next c
      · rw [update_of_ne hobject, update_of_ne hobject]
        exact h.templates object
    dsimp only
    rw [(h.templates r.object).answer c]
    cases (callHeld (t.templates r.object) c).2 with
    | none => exact ⟨rfl, hcalled⟩
    | some answer =>
      dsimp only
      by_cases hunwritten : answer.modem ≠ [] ∧ o.modemWritten = false
      · rw [if_pos hunwritten, if_pos hunwritten]
        exact ⟨rfl, hcalled⟩
      · rw [if_neg hunwritten, if_neg hunwritten]
        exact hcalled.finalize o r 0 answer.data answer.modem
  · rw [if_neg htemplate, if_neg htemplate]
    exact h.askController o r

theorem handleUartRequest (h : s.SameObjects t) (control : Bool) (payload : List UInt8)
    (o : Outcomes) :
    SameReply (s.handleUartRequest control payload o)
      (t.handleUartRequest control payload o) := by
  unfold Simulated.handleUartRequest
  rw [h.world]
  by_cases hshort : payload.length < 20
  · simp only [if_pos hshort]
    exact h.refuse _
  simp only [if_neg hshort]
  by_cases hlength : (payload.drop 20).length ≠ readLe payload 8 4
  · simp only [if_pos hlength]
    exact h.refuse _
  simp only [if_neg hlength]
  cases recordByHandle t.world.daemon (readLe payload 0 4) with
  | none => exact h.refuse _
  | some r =>
    dsimp only
    by_cases hflags : readLe payload 4 4 ≠ (if control then 1 else 0)
    · rw [if_pos hflags, if_pos hflags]
      exact h.refuse _
    rw [if_neg hflags, if_neg hflags]
    by_cases hmask : readLe payload 12 4 &&& uartModemMask ≠ readLe payload 12 4
    · rw [if_pos hmask, if_pos hmask]
      exact h.refuse _
    · rw [if_neg hmask, if_neg hmask]
      exact h.unlessFaulted o r (h.ask o r _)

theorem handleI2cRequest (h : s.SameObjects t) (payload : List UInt8)
    (o : Outcomes) :
    SameReply (s.handleI2cRequest payload o) (t.handleI2cRequest payload o) := by
  unfold Simulated.handleI2cRequest
  rw [h.world]
  cases decodeI2c payload with
  | error status => exact h.refuse status
  | ok received =>
    dsimp only
    cases recordByHandle t.world.daemon received.1 with
    | none => exact h.refuse _
    | some r =>
      dsimp only
      refine h.unlessFaulted o r ?_
      by_cases haddress :
          (received.2.any fun m => decide (some m.addr ≠ deviceAddress r.device)) = true
      · rw [if_pos haddress, if_pos haddress]
        exact h.refuse _
      · rw [if_neg haddress, if_neg haddress]
        exact h.ask o r _

theorem handleSpiRequest (h : s.SameObjects t) (payload : List UInt8)
    (o : Outcomes) :
    SameReply (s.handleSpiRequest payload o) (t.handleSpiRequest payload o) := by
  unfold Simulated.handleSpiRequest
  rw [h.world]
  cases decodeSpi payload with
  | error reject => exact h.refuse _
  | ok frame =>
    dsimp only
    cases recordByHandle t.world.daemon frame.deviceHandle with
    | none => exact h.refuse _
    | some r =>
      dsimp only
      by_cases hselect : frame.chipSelect ≠ (deviceChipSelect r.device).getD frame.chipSelect
      · rw [if_pos hselect, if_pos hselect]
        exact h.refuse _
      rw [if_neg hselect, if_neg hselect]
      cases cutTransfers (deviceBits r.device) frame.tx 0 frame.descs with
      | error reject => exact h.refuse _
      | ok transfers => exact h.unlessFaulted o r (h.ask o r _)

theorem handleUartConfigRequest (h : s.SameObjects t) (payload : List UInt8)
    (o : Outcomes) :
    SameReply (s.handleUartConfigRequest payload o)
      (t.handleUartConfigRequest payload o) := by
  unfold Simulated.handleUartConfigRequest
  rw [h.world]
  by_cases hlength : payload.length ≠ 24
  · rw [if_pos hlength, if_pos hlength]
    exact h.refuse _
  rw [if_neg hlength, if_neg hlength]
  dsimp only
  cases recordByHandle t.world.daemon (unpackUartConfig payload).handle with
  | none => exact h.refuse _
  | some r =>
    dsimp only
    -- the settings are stored before the fault is asked
    have hset := h.change (.uartConfig (unpackUartConfig payload))
    by_cases hunsaved : o.settingsSaved = false
    · rw [if_pos hunsaved, if_pos hunsaved]
      exact ⟨rfl, hset⟩
    rw [if_neg hunsaved, if_neg hunsaved]
    refine hset.unlessFaulted o r ?_
    by_cases htemplate : (templateKind r.device.part).isSome = true
    · rw [if_pos htemplate, if_pos htemplate]
      exact hset.finalize o r _ _ _
    · rw [if_neg htemplate, if_neg htemplate]
      exact hset.askController o r

/-- One request. -/
theorem handle (h : s.SameObjects t) (q : BridgeRequest) : SameReply (s.handle q) (t.handle q) := by
  unfold Simulated.handle
  cases q.kind with
  | i2cXfer => exact h.handleI2cRequest q.payload q.outcomes
  | spiXfer => exact h.handleSpiRequest q.payload q.outcomes
  | uartTx => exact h.handleUartRequest false q.payload q.outcomes
  | uartControl => exact h.handleUartRequest true q.payload q.outcomes
  | uartConfig => exact h.handleUartConfigRequest q.payload q.outcomes
  | other => exact h.refuse _

/-- Every sequence of requests gets the same replies. -/
theorem alike (h : s.SameObjects t) : Alike Simulated.handle s t :=
  Alike.of_relation (fun _ _ q hst => hst.handle q) h

end Simulated.SameObjects

/-! ## Updates -/

/-- Two values of `device["template"]` that are not told apart. -/
def HeldIndistinct : Option Template → Option Template → Prop
  | none, none => True
  | some t, some u => t.Indistinct u
  | _, _ => False

theorem heldIndistinct_refl (held : Option Template) : HeldIndistinct held held := by
  cases held with
  | none => trivial
  | some t =>
    cases t with
    | bank t => exact ⟨rfl, .inl rfl⟩
    | script t => exact .inr ⟨rfl, rfl, rfl⟩
    | uart t => exact fun _ _ => rfl

/-- What a device holds is not told apart from what its backend is built as.  A backend that cannot
be built leaves the object in place. -/
def Unnoticed (part : Part) (held : Option Template) : Prop :=
  ∀ built, Template.build part = some built → HeldIndistinct held built

/-- What an update should leave: the object of the device answers every sequence of calls as it
would have, and every sequence of requests gets the replies of the old objects with the faults and
settings of now. -/
structure Simulated.Undisturbed (before after : Simulated) (object : Nat) : Prop where
  calls : Alike callHeld (after.templates object) (before.templates object)
  requests : Alike Simulated.handle after ⟨after.world, before.templates⟩

theorem fixed_after {t : Template} (calls : List TemplateCall) :
    ∃ u, after callHeld (some t) calls = some u ∧ u.fixed = t.fixed ∧ (t.Wf → u.Wf) := by
  refine after_invariant (I := fun held => ∃ u, held = some u ∧ u.fixed = t.fixed ∧ (t.Wf → u.Wf))
    ?_ ⟨t, rfl, rfl, fun h => h⟩ calls
  rintro _ c ⟨u, rfl, hfixed, hwf⟩
  exact ⟨(u.call c).1, rfl, (u.fixed_call c).trans hfixed, fun h => (hwf h).call c⟩

theorem after_none (calls : List TemplateCall) : after callHeld none calls = none := by
  induction calls with
  | nil => rfl
  | cons c calls ih => exact ih

/-- For a backend that is built, the held object and the new one. -/
theorem unnoticed_iff {v : Value} {buses : List (Text × Bus)} {label : Label} {device : Device}
    (hnormal : normalizeRuntimeDeviceItem v buses label = .ok device) {held built : Option Template}
    (hheld : Grown device.part held) (hbuilt : Template.build device.part = some built) :
    Alike callHeld built held ↔ Unnoticed device.part held := by
  have hcondition : Unnoticed device.part held ↔ HeldIndistinct held built := by
    unfold Unnoticed
    rw [hbuilt]
    simp only [Option.some.injEq, forall_eq']
  rw [hcondition]
  obtain ⟨calls, rfl⟩ := hheld built hbuilt
  cases built with
  | none =>
    rw [after_none]
    exact iff_of_true (.refl none) trivial
  | some u =>
    obtain ⟨t, ht, hfixed, hwf⟩ := fixed_after (t := u) calls
    have hu := Template.wf_of_build hnormal hbuilt
    rw [ht]
    have hsymm : Alike callHeld (some u) (some t) ↔ Alike callHeld (some t) (some u) :=
      ⟨fun h is => (h is).symm, fun h is => (h is).symm⟩
    exact hsymm.trans (Template.alike_iff (hwf hu) hu hfixed)

/-- In every state of every run, an update that leaves the backend as it is leaves the simulated
device undisturbed exactly if what it holds is not told apart from what its backend is built as. -/
theorem update_undisturbed_iff {k : Kernel} {generation n : Nat} {s s' : Simulated}
    (hr : Reach Simulated.step anyStep (.start k generation n) s) {id : Text} {patch : Value}
    {r : Inventory.DeviceRecord} {dev : Device}
    (hu : updated s.world.daemon id patch = some (r, dev)) (hbackend : dev.part = r.device.part)
    (hs : s.step (.inventory (.change (.updateDevice id patch))) = some s') :
    s.Undisturbed s' r.object ↔ Unnoticed r.device.part (s.templates r.object) := by
  have hsound := Simulated.sound_of_reach hr
  obtain ⟨-, hget, hpatched⟩ := updated_eq_some hu
  obtain ⟨z, v, hz, -, -, rfl⟩ := Daemon.patched_eq_some hpatched
  have hgrown : Grown r.device.part (s.templates r.object) :=
    hsound.grown (id, r) (mem_of_dictGet hget)
  have htemplates : s'.templates = assignBuilt s.templates r.object r.device.part := by
    obtain ⟨w, -, rfl⟩ := Option.map_eq_some_iff.mp hs
    show s.assign (.change (.updateDevice id patch)) = _
    rw [Simulated.assign, hu]
    dsimp only
    rw [← hbackend]
  rw [← hbackend] at hgrown htemplates ⊢
  have hcalls : Alike callHeld (s'.templates r.object) (s.templates r.object) ↔
      Unnoticed z.part (s.templates r.object) := by
    rw [htemplates]
    cases hbuilt : Template.build z.part with
    | none =>
      -- the exception of `_build_template` comes before the assignment
      have hkept : assignBuilt s.templates r.object z.part = s.templates := by
        rw [assignBuilt, hbuilt]
      rw [hkept]
      refine iff_of_true (.refl _) fun built h => ?_
      rw [hbuilt] at h
      cases h
    | some built =>
      rw [assignBuilt_self hbuilt]
      exact unnoticed_iff hz hgrown hbuilt
  rw [← hcalls]
  refine ⟨fun h => h.calls, fun h => ⟨h, Simulated.SameObjects.alike ⟨rfl, fun object => ?_⟩⟩⟩
  by_cases hobject : object = r.object
  · rw [hobject]
    exact h
  · rw [htemplates, assignBuilt_of_ne hobject]
    exact .refl _

/-! ## A register that is written before an update -/

/-- A patch that touches the metadata only. -/
def notePatch : Value := .dict [(.lit "metadata", .dict [(.lit "note", .lit "spare")])]

def noteUpdate : SimulatedAct := .inventory (.change (.updateDevice (text "t0") notePatch))

/-- Messages to the device of the bench, with its handle and its address. -/
def benchMessages (messages : List (Nat × Nat)) (data : List UInt8) : BridgeRequest where
  kind := .i2cXfer
  payload := leBytes 4 1024 ++ leBytes 4 1 ++ leBytes 4 messages.length ++ leBytes 4 data.length ++
    messages.flatMap (fun m => leBytes 2 72 ++ leBytes 2 m.1 ++ leBytes 2 m.2 ++ leBytes 2 0) ++ data
  outcomes := ⟨some (0, []), true, true, true⟩

/-- One register written, and one read. -/
def writeRegister (register value : UInt8) : BridgeRequest :=
  benchMessages [(0, 2)] [register, value]

def readRegister (register : UInt8) : BridgeRequest := benchMessages [(0, 1), (1, 1)] [register]

def banked (requests : List BridgeRequest) : List SimulatedAct :=
  (applyTemplateBench "i2c-register-bank").map .inventory ++ requests.map .request

/-- The address and the bank of a device that a register bank serves. -/
def bankOf : Part → Option (Nat × RegisterBank)
  | .i2c address (.template .i2cRegisterBank bank) => some (address, bank)
  | _ => none

theorem eq_of_bankOf {part : Part} {address : Nat} {bank : RegisterBank}
    (h : bankOf part = some (address, bank)) :
    part = .i2c address (.template .i2cRegisterBank bank) := by
  unfold bankOf at h
  split at h
  · cases h
    rfl
  · cases h

/-- The bank before and after the update, whether the object is as it would be built and whether the
update is made. -/
def updateView (s : Simulated) :
    Option (Option (Nat × RegisterBank) × Option (Nat × RegisterBank) × Bool × Bool) :=
  (updated s.world.daemon (text "t0") notePatch).map fun u =>
    (bankOf u.1.device.part, bankOf u.2.part,
      decide (some (s.templates u.1.object) = Template.build u.1.device.part),
      (s.step noteUpdate).isSome)

def plainBank : RegisterBank := ⟨256, 1, true, [], [], []⟩

/-- A register is written and written back and the pointer set to 0; then the metadata is edited. -/
theorem update_undisturbed_bench :
    ∃ (s s' : Simulated) (r : Inventory.DeviceRecord),
      bankOf r.device.part = some (72, plainBank) ∧ s.Undisturbed s' r.object := by
  have hrun : (exec (guarded Simulated.step anyStep) (.start .empty 0 1)
      (banked [writeRegister 5 0x5a, benchMessages [(0, 2), (0, 1)] [5, 0, 0]])).bind updateView =
      some (some (72, plainBank), some (72, plainBank), true, true) := by decide +kernel
  obtain ⟨s, hexec, hview⟩ := Option.bind_eq_some_iff.mp hrun
  obtain ⟨⟨r, dev⟩, hu, hview⟩ := Option.map_eq_some_iff.mp hview
  simp only [Prod.mk.injEq, decide_eq_true_eq] at hview
  obtain ⟨hbefore, hafter, hbuilt, hstep⟩ := hview
  obtain ⟨s', hs⟩ := Option.isSome_iff_exists.mp hstep
  have hbackend : dev.part = r.device.part := by
    rw [eq_of_bankOf hbefore, eq_of_bankOf hafter]
  refine ⟨s, s', r, hbefore, (update_undisturbed_iff (reach_of_exec hexec) hu hbackend hs).mpr ?_⟩
  intro built h
  rw [← hbuilt] at h
  cases h
  exact heldIndistinct_refl _

/-- The replies to a read of the register after the update, and those of the object of before. -/
def repliesView (s : Simulated) : Option (List (Option BridgeReply) × List (Option BridgeReply)) :=
  (s.step noteUpdate).map fun s' =>
    (answers Simulated.handle s' [readRegister 5],
      answers Simulated.handle ⟨s'.world, s.templates⟩ [readRegister 5])

/-- A register is written, the metadata edited, and the register read. -/
theorem update_resets_register :
    ¬ ∀ s, Reach Simulated.step anyStep (.start .empty 0 1) s →
      ∀ (id : Text) (patch : Value) (r : Inventory.DeviceRecord) (dev : Device) (s' : Simulated),
        updated s.world.daemon id patch = some (r, dev) → dev.part = r.device.part →
        s.step (.inventory (.change (.updateDevice id patch))) = some s' →
        s.Undisturbed s' r.object := by
  intro h
  have hrun : (exec (guarded Simulated.step anyStep) (.start .empty 0 1)
      (banked [writeRegister 5 0x5a])).bind updateView =
      some (some (72, plainBank), some (72, plainBank), false, true) := by decide +kernel
  have hread : ((exec (guarded Simulated.step anyStep) (.start .empty 0 1)
      (banked [writeRegister 5 0x5a])).bind repliesView) =
      some ([some ⟨0, [0], []⟩], [some ⟨0, [0x5a], []⟩]) := by decide +kernel
  obtain ⟨s, hexec, hview⟩ := Option.bind_eq_some_iff.mp hrun
  rw [hexec] at hread
  obtain ⟨⟨r, dev⟩, hu, hview⟩ := Option.map_eq_some_iff.mp hview
  simp only [Prod.mk.injEq] at hview
  obtain ⟨hbefore, hafter, -, -⟩ := hview
  obtain ⟨s', hs, hreplies⟩ := Option.map_eq_some_iff.mp hread
  simp only [Prod.mk.injEq] at hreplies
  have hbackend : dev.part = r.device.part := by
    rw [eq_of_bankOf hbefore, eq_of_bankOf hafter]
  have hsame := (h s (reach_of_exec hexec) _ _ r dev s' hu hbackend hs).requests [readRegister 5]
  rw [hreplies.1, hreplies.2] at hsame
  exact absurd hsame (by decide)

end Sensorium.Daemon

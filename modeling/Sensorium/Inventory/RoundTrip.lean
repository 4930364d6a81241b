import Sensorium.Inventory.Rollback

/-!
# What an applied model is exported as

`_snapshot_bus` and `_snapshot_device` copy named fields of the stored records, and normalising the
copy is a second pass.  The round trip loses the metadata of a bus and whatever a second pass
changes in a byte literal, and nothing else.
-/

namespace Sensorium.Inventory

open Lib Model

/-! ## One worker on its own -/

/-- What every step of an operation keeps holds after any number of them. -/
theorem solo_invariant {P : Daemon → Kernel → Pc → Prop}
    (hstep : ∀ {d k o p m}, P d k p → advance d k o p = some m → P m.daemon m.kernel m.pc)
    {w w' : World} {t : Nat} {p : Pc} {os : List Outside} (hp : w.pcs[t]? = some p)
    (h0 : P w.daemon w.kernel p) (h : exec step w (os.map (Act.go t)) = some w') :
    ∃ q, w'.pcs[t]? = some q ∧ P w'.daemon w'.kernel q := by
  refine exec_invariant (I := fun w => ∃ q, w.pcs[t]? = some q ∧ P w.daemon w.kernel q)
    ⟨p, hp, h0⟩ ?_ h
  rintro v a v' ha ⟨q, hq, hP⟩ hs
  obtain ⟨o, _, rfl⟩ := List.mem_map.mp ha
  rw [step, hq] at hs
  dsimp only at hs
  split at hs
  · cases hs
  · obtain ⟨m, hm, rfl⟩ := Option.map_eq_some_iff.mp hs
    exact ⟨m.pc, getElem?_set_of_eq hq m.pc, hstep hP hm⟩

/-! ## The tables after an apply -/

theorem Rebuilt.map_bus {d : Daemon} {m : RuntimeModel} {devices : List Device}
    (h : Rebuilt d m [] devices) : (d.buses.map fun p => p.2.bus) = m.buses := by
  have hmap := congrArg (List.map Prod.snd) h.buses
  rw [List.map_append, Daemon.busTable, busesById, busesById, List.map_map, List.map_map] at hmap
  simpa [Function.comp_def] using hmap

theorem Rebuilt.pending {d : Daemon} {m : RuntimeModel} {buses : List Bus} {devices : List Device}
    (h : Rebuilt d m buses devices) : Pending d buses devices where
  busIds := by
    have hkeys := congrArg keys h.buses
    rw [keys, List.map_append] at hkeys
    have hids : keys d.buses ++ buses.map Bus.id = m.buses.map Bus.id := by
      simpa [keys, Daemon.busTable, busesById, Function.comp_def] using hkeys
    rw [hids]
    exact m.busIds
  deviceIds := by
    have hkeys : keys d.devices = d.devices.map fun p => p.2.device.id :=
      List.map_congr_left fun p hp => (h.unattached p hp).1
    have hids := m.deviceIds
    rw [← h.devices, List.map_append, List.map_map] at hids
    rw [hkeys]
    exact hids
  buses b hb := by
    refine m.busesNormal b ?_
    have hmem : (b.id, b) ∈ busesById m.buses := by
      rw [← h.buses]
      exact List.mem_append_right _ (List.mem_map_of_mem hb)
    obtain ⟨b', hb', heq⟩ := List.mem_map.mp hmem
    exact (Prod.mk.inj heq).2 ▸ hb'
  devices dev hdev := by
    refine m.devicesNormal dev ?_
    rw [← h.devices]
    exact List.mem_append_right _ hdev

theorem rebuilt_enter (d : Daemon) (m : RuntimeModel) :
    Rebuilt { d.clear with modelName := some m.name } m m.buses m.devices :=
  ⟨rfl, rfl, fun _ h => nomatch h⟩

/-- The tables hold a model as it was normalised, with nothing attached. -/
structure Daemon.Holds (d : Daemon) (m : RuntimeModel) : Prop where
  name : d.modelName = some m.name
  tables : Rebuilt d m [] []

theorem Daemon.Holds.exportModel {d : Daemon} {m : RuntimeModel} (h : d.Holds m) :
    d.exportModel = exportedModel m.name (m.buses.map Bus.toItem) (m.devices.map Device.toItem) := by
  have hdevices := h.tables.devices
  rw [List.append_nil] at hdevices
  rw [Daemon.exportModel, h.name, ← h.tables.map_bus, ← hdevices, List.map_map, List.map_map]
  rfl

/-- Where the worker of an `apply_model` of `m` can be, and what the tables hold if it returns. -/
def Pc.Applying (m : RuntimeModel) (d : Daemon) : Pc → Prop
  | .send (.apply c) | .sent (.apply c) => c.model = m
  | .adds (.apply c) buses devices _ =>
    c.model = m ∧ d.modelName = some m.name ∧ Rebuilt d m buses devices
  | .idle (some .returned) => d.Holds m
  | .idle _ | .send (.discard _) | .sent (.discard _) | .rollback _ _
  | .adds (.rollback _ _ _) _ _ _ | .settleFailed | .fatal => True
  | _ => False

theorem Job.AddStep.applying {c : Call} {d : Daemon} {k : Kernel} {buses : List Bus}
    {devices : List Device} {move : Move} {m : RuntimeModel}
    (h : (Job.apply c).AddStep d k buses devices move) (hc : c.model = m)
    (hn : d.modelName = some m.name) (hr : Rebuilt d m buses devices) :
    move.pc.Applying m move.daemon := by
  cases h with
  | failed _ _ => trivial
  | modem => exact ⟨hc, hn, hr⟩
  | bus hadd => exact ⟨hc, hadd.modelName.trans hn, hadd.rebuilt hr⟩
  | device hadd => exact ⟨hc, hadd.modelName.trans hn, hadd.rebuilt hr⟩
  | done hattach hd =>
    -- An apply restores no attachments.
    cases hattach
    rcases hd with rfl | rfl
    · exact ⟨hn, hr.buses, hr.devices, hr.unattached⟩
    · exact ⟨hn, hr.buses, hr.devices, hr.unattached⟩

theorem applying_advance {m : RuntimeModel} {d : Daemon} {k : Kernel} {o : Outside} {p : Pc}
    {move : Move} (hp : p.Applying m d) (h : advance d k o p = some move) :
    move.pc.Applying m move.daemon := by
  cases p with
  | idle _ => cases h
  | send x =>
    rw [advance] at h
    cases x with
    | reset | resync _ _ => exact hp.elim
    | apply c =>
      split at h
      · cases h
        trivial
      · cases h
        exact hp
    | discard c => split at h <;> cases h <;> trivial
  | sent x =>
    cases x with
    | reset | resync _ _ => exact hp.elim
    | apply c =>
      cases h
      -- the rebuild starts, and has added nothing yet
      have hc : c.model = m := hp
      subst hc
      rcases (Sender.apply c).accepted_cases d k o with he | ⟨_, he⟩
      · rw [he]
        exact ⟨rfl, rfl, rebuilt_enter d c.model⟩
      · rw [he]
        trivial
    | discard c =>
      cases h
      rcases (Sender.discard c).accepted_cases d k o with he | ⟨_, he⟩
      · rw [he]
        change c.discarded.Applying m _
        unfold Call.discarded
        split <;> trivial
      · rw [he]
        trivial
  | adds job buses devices modem =>
    cases h
    cases job with
    | apply c =>
      obtain ⟨hc, hn, hr⟩ := hp
      exact ((Job.apply c).add_cases k o modem hr.pending).applying hc hn hr
    | rollback c r a =>
      rcases (Job.rollback c r a).add_pc d k o buses devices modem with he | ⟨_, _, _, he⟩ | he
      · rw [he]
        trivial
      · rw [he]
        trivial
      · rw [he]
        trivial
    | resync _ _ => exact hp.elim
  | rollback c s =>
    rw [advance] at h
    split at h
    · cases h
      trivial
    · rename_i restored attachments _
      cases h
      rcases c.rolledBack_cases d k o restored attachments with he | ⟨_, _, he⟩ <;> rw [he] <;> trivial
  | settleFailed =>
    cases h
    dsimp only
    split <;> trivial
  | fatal =>
    cases h
    trivial
  | resyncFailed => exact hp.elim

theorem applying_begin {d d' : Daemon} {locked : Bool} {o : Outside} {raw : Value} {p : Pc}
    {m : RuntimeModel} (hm : normalizeRuntimeModelData raw = .ok m)
    (h : d.begin locked o (.apply raw) = some (d', p)) : p.Applying m d' := by
  cases begins_of_begin h with
  | invalid _ | applyDesynced _ _ _ | applyUnsaved _ _ _ _ _ => trivial
  | applyBlank hraw _ _ _ | applyOver hraw _ _ _ _ =>
    exact Except.ok.inj (hraw.symm.trans hm)

/-- After an `apply_model` that returned, the tables hold its normal form. -/
theorem holds_of_apply {w w' : World} {t : Nat} {raw : Value} {m : RuntimeModel} {o : Outside}
    {os : List Outside} (hm : normalizeRuntimeModelData raw = .ok m)
    (hrun : exec step w (.call t (.apply raw) o :: os.map (Act.go t)) = some w')
    (hret : w'.pcs[t]? = some (.idle (some .returned))) : w'.daemon.Holds m := by
  obtain ⟨v, hv, hrest⟩ := Option.bind_eq_some_iff.mp hrun
  rw [step] at hv
  split at hv
  swap
  · cases hv
  rename_i last hp
  obtain ⟨⟨d, p⟩, hb, rfl⟩ := Option.map_eq_some_iff.mp hv
  obtain ⟨q, hq, hholds⟩ := solo_invariant (P := fun d _ p => p.Applying m d)
    (fun hp hs => applying_advance hp hs) (getElem?_set_of_eq hp p) (applying_begin hm hb) hrest
  rw [hret] at hq
  cases hq
  exact hholds

/-! ## The second pass -/

/-- Nothing of the model is lost on the way through a snapshot. -/
structure Portable (m : RuntimeModel) : Prop where
  metadata : ∀ b ∈ m.buses, b.metadata = []
  literals : ∀ z ∈ m.devices, z.Literals Model.Settled

instance (m : RuntimeModel) : Decidable (Portable m) :=
  decidable_of_iff ((∀ b ∈ m.buses, b.metadata.isEmpty = true) ∧
      ∀ z ∈ m.devices, z.Literals Model.Settled)
    ⟨fun h => ⟨fun b hb => List.isEmpty_iff.mp (h.1 b hb), h.2⟩,
      fun h => ⟨fun b hb => List.isEmpty_iff.mpr (h.metadata b hb), h.literals⟩⟩

/-- The exported model is accepted and says the same. -/
def Daemon.Reproduces (d : Daemon) (m : RuntimeModel) : Prop :=
  ∃ m', normalizeRuntimeModelData d.exportModel = .ok m' ∧ m'.name = m.name ∧
    m'.buses = m.buses ∧ m'.devices = m.devices

section SecondPass

variable {d : Daemon} {raw : Value} {m : RuntimeModel}
  (hm : normalizeRuntimeModelData raw = .ok m) (hd : d.Holds m)

include hm

theorem normalized_of_mem {z : Device} (hz : z ∈ m.devices) :
    ∃ v l, normalizeRuntimeDeviceItem v (busesById m.buses) l = .ok z := by
  obtain ⟨_, _, _, _, _, _, _, _, hsource⟩ := source_of_normalizeRuntimeModelData hm
  obtain ⟨p, _, hp⟩ := exists_mem_of_forall₂ hsource.devices hz
  exact ⟨_, _, hp⟩

include hd in
theorem reproduces_of_portable (hp : Portable m) : d.Reproduces m := by
  rw [Daemon.Reproduces, hd.exportModel]
  refine normalizeRuntimeModelData_accepts (name_of_normalizeRuntimeModelData hm) ?_ m.busIds
    m.busNames ?_ m.deviceIds m.places
  · rw [List.zipIdx_map, List.forall₂_map_left_iff]
    refine forall₂_zipIdx_self fun b hb i => ?_
    obtain ⟨v, l, hnormal⟩ := m.busesNormal b hb
    have hself : normalizeRuntimeBusItem b.toItem (busLabel i) = .ok { b with metadata := [] } :=
      normalizeRuntimeBusItem_self hnormal
    have hmeta := hp.metadata b hb
    obtain ⟨id, transport, name, metadata⟩ := b
    cases hmeta
    exact hself
  · rw [List.zipIdx_map, List.forall₂_map_left_iff]
    refine forall₂_zipIdx_self fun z hz i => ?_
    obtain ⟨v, l, hv⟩ := normalized_of_mem hm hz
    exact normalizeRuntimeDeviceItem_self hv (hp.literals z hz)

omit hm in
include hd in
theorem portable_of_reproduces (hr : d.Reproduces m) : Portable m := by
  obtain ⟨m', hm', -, hbuses, hdevices⟩ := hr
  rw [hd.exportModel] at hm'
  have hsource := source_of_exportedModel hm'
  refine ⟨fun b hb => ?_, fun z hz => ?_⟩
  · have hall := hsource.buses
    rw [hbuses, List.zipIdx_map, List.forall₂_map_left_iff] at hall
    have hsame : List.Forall₂ (fun b c => c = { b with metadata := [] }) m.buses m.buses := by
      refine forall₂_of_zipIdx ((forall₂_mem hall).imp ?_)
      rintro p c ⟨hp, hc⟩
      obtain ⟨v, l, hnormal⟩ := m.busesNormal p.1 (List.fst_mem_of_mem_zipIdx hp)
      exact Except.ok.inj (hc.symm.trans (normalizeRuntimeBusItem_self hnormal))
    obtain ⟨c, _, hc⟩ := exists_mem_of_forall₂ hsame hb
    rw [hc]
  · have hall := hsource.devices
    rw [hbuses, hdevices, List.zipIdx_map, List.forall₂_map_left_iff] at hall
    obtain ⟨p, hp, hz'⟩ := exists_mem_of_forall₂ hall hz
    -- The literals of a second pass are settled, whatever those of the first are.
    exact settled_of_normalizeRuntimeDeviceItem
      (m.devicesNormal p.1 (List.fst_mem_of_mem_zipIdx hp)).literals hz'

end SecondPass

/-- After an `apply_model` that returned, normalising the exported model gives the normal form of
the applied one exactly when its buses carry no metadata and its byte literals are settled. -/
theorem export_reproduces_iff {w w' : World} {t : Nat} {raw : Value} {m : RuntimeModel}
    {o : Outside} {os : List Outside} (hm : normalizeRuntimeModelData raw = .ok m)
    (hrun : exec step w (.call t (.apply raw) o :: os.map (Act.go t)) = some w')
    (hret : w'.pcs[t]? = some (.idle (some .returned))) : w'.daemon.Reproduces m ↔ Portable m := by
  have hd := holds_of_apply hm hrun hret
  exact ⟨portable_of_reproduces hd, reproduces_of_portable hm hd⟩

/-- An apply of a model whose bus and device need five steps after the call. -/
def applySmall (raw : Value) : List Act :=
  .call 0 (.apply raw) calm :: (List.replicate 5 calm).map (Act.go 0)

theorem export_reproduces_bench : ∃ (w : World) (m : RuntimeModel),
    normalizeRuntimeModelData bench = .ok m ∧ w.daemon.entries = benchEntries ∧
      w.daemon.Reproduces m := by
  have hmodel : (normalizeRuntimeModelData bench).toOption.map (fun m => decide (Portable m)) =
      some true := by decide +kernel
  have hrun : (exec step (start .empty 0 1) (applySmall bench)).map
      (fun w => (w.daemon.entries, ending w 0)) = some (benchEntries, some .returned) := by
    decide +kernel
  obtain ⟨m, hm, hportable⟩ := Option.map_eq_some_iff.mp hmodel
  obtain ⟨w, hexec, hview⟩ := Option.map_eq_some_iff.mp hrun
  obtain ⟨hentries, hret⟩ := Prod.mk.inj hview
  have hiff := export_reproduces_iff (ok_of_toOption hm) hexec (pcs_of_ending hret)
  exact ⟨w, m, ok_of_toOption hm, hentries, hiff.mpr (of_decide_eq_true hportable)⟩

/-- The same bench with a note on its bus. -/
def notedBench : Value :=
  exportedModel (text "bench")
    [.dict [(.lit "id", .lit "b0"), (.lit "transport", .lit "i2c"), (.lit "name", .lit "i2c-7"),
      (.lit "metadata", .dict [(.lit "rack", .int 3)])]] []

def busNotes (m : RuntimeModel) : List Nat := m.buses.map fun b => b.metadata.length

/-- The note is not exported. -/
theorem export_loses_bus_metadata :
    ¬ ∀ (w w' : World) (raw : Value) (m : RuntimeModel) (os : List Outside),
      normalizeRuntimeModelData raw = .ok m →
      exec step w (.call 0 (.apply raw) calm :: os.map (Act.go 0)) = some w' →
      w'.pcs[0]? = some (.idle (some .returned)) → w'.daemon.Reproduces m := by
  intro h
  have hmodel : (normalizeRuntimeModelData notedBench).toOption.map busNotes = some [1] := by
    decide +kernel
  have hrun : (exec step (start .empty 0 1)
      (.call 0 (.apply notedBench) calm :: (List.replicate 4 calm).map (Act.go 0))).map
      (fun w => (ending w 0, (normalizeRuntimeModelData w.daemon.exportModel).toOption.map busNotes)) =
      some (some .returned, some [0]) := by decide +kernel
  obtain ⟨m, hm, hnotes⟩ := Option.map_eq_some_iff.mp hmodel
  obtain ⟨w, hexec, hview⟩ := Option.map_eq_some_iff.mp hrun
  obtain ⟨hret, hexport⟩ := Prod.mk.inj hview
  obtain ⟨m', hm', -, hbuses, -⟩ := h _ w notedBench m _ (ok_of_toOption hm) hexec (pcs_of_ending hret)
  rw [hm'] at hexport
  have hlost : busNotes m' = [0] := Option.some.inj hexport
  rw [busNotes, hbuses, ← busNotes, hnotes] at hlost
  exact absurd hlost (by decide)

end Sensorium.Inventory

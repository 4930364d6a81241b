import Sensorium.Inventory.Locking
import Mathlib.Data.Set.Function

/-!
# The indexes of the inventory

`devices_by_handle` is kept by hand beside `devices`, the handles come from two counters, and the
normaliser is what keeps places apart.  The tables hold together in every state, under any schedule
and any failures of the bridge.  The counters do where `_clear_state` returns: it restarts them
before it stops the managed workers, and empties the tables after.
-/

namespace Sensorium.Inventory

open Lib Model

/-! ## Sites -/

/-- Where a device is. -/
def site (dev : Device) : Text × Place := (dev.bus, dev.part.place)

/-- Two sites that one device each excludes. -/
def sitesClash : Text × Place → Text × Place → Bool
  | (b, .address x), (c, .address y) => b = c && x = y
  | (b, .chip x _), (c, .chip y _) => b = c && x = y
  | (_, .port x), (_, .port y) => x = y
  | _, _ => false

theorem clashes_eq_sitesClash (d e : Device) : d.clashes e = sitesClash (site d) (site e) := by
  unfold Device.clashes site
  cases d.part <;> cases e.part <;> rfl

theorem pairwise_clashes_iff {devices : List Device} :
    (devices.Pairwise fun d e => e.clashes d = false) ↔
      (devices.map site).Pairwise fun s t => sitesClash t s = false := by
  rw [List.pairwise_map]
  simp only [clashes_eq_sitesClash]

/-! ## The invariant -/

/-- The bus of a stored device, as the device knows it. -/
def DeviceRecord.OnBus (buses : List (Text × BusRecord)) (r : DeviceRecord) : Prop :=
  ∃ bus, dictGet buses r.device.bus = some bus ∧
    bus.bus.transport = r.device.part.transport ∧ r.busHandle = bus.handle

/-- The tables and the index by handle. -/
structure Daemon.Filed (d : Daemon) : Prop extends d.Tidy where
  index : d.devicesByHandle = d.devices.map fun p => (p.2.handle, p.2.object)
  busHandles : (d.buses.map fun p => p.2.handle).Nodup
  handles : (d.devices.map fun p => p.2.handle).Nodup
  objects : (d.devices.map fun p => p.2.object).Nodup
  objects_lt : ∀ p ∈ d.devices, p.2.object < d.objects
  onBus : ∀ p ∈ d.devices, p.2.OnBus d.buses
  places : (d.devices.map fun p => p.2.device).Pairwise fun e f => f.clashes e = false

/-- The counters are above the handles they have given. -/
structure Daemon.Counted (d : Daemon) : Prop where
  busHandles_lt : ∀ p ∈ d.buses, p.2.handle < d.nextBusHandle
  handles_lt : ∀ p ∈ d.devices, p.2.handle < d.nextDeviceHandle

/-- What is left to add finds its bus, an unused place and an unused handle. -/
structure Placeable (d : Daemon) (bs : List Bus) (ds : List Device) : Prop
    extends Pending d bs ds, d.Counted where
  onBus : ∀ dev ∈ ds, dev.OnBus ((d.buses.map fun p => p.2.bus) ++ bs)
  places : ((d.devices.map fun p => p.2.device) ++ ds).Pairwise fun e f => f.clashes e = false

theorem filed_empty {d : Daemon} (hb : d.buses = []) (hd : d.devices = [])
    (hi : d.devicesByHandle = []) : d.Filed where
  toTidy := tidy_empty hb hd
  index := by rw [hi, hd]; rfl
  busHandles := by rw [hb]; exact List.nodup_nil
  handles := by rw [hd]; exact List.nodup_nil
  objects := by rw [hd]; exact List.nodup_nil
  objects_lt := by rw [hd]; exact fun _ h => nomatch h
  onBus := by rw [hd]; exact fun _ h => nomatch h
  places := by rw [hd]; exact .nil

theorem counted_empty {d : Daemon} (hb : d.buses = []) (hd : d.devices = []) : d.Counted where
  busHandles_lt := by rw [hb]; exact fun _ h => nomatch h
  handles_lt := by rw [hd]; exact fun _ h => nomatch h

-- What a `_clear_state` that raises leaves in the tables.
theorem Daemon.Filed.unnamed {d : Daemon} (h : d.Filed) : d.unnamed.Filed :=
  ⟨⟨h.busIds, h.deviceIds, h.buses, h.devices⟩, h.index, h.busHandles, h.handles, h.objects,
    h.objects_lt, h.onBus, h.places⟩

theorem placeable_of_empty {d : Daemon} {m : RuntimeModel} (hb : d.buses = [])
    (hd : d.devices = []) :
    Placeable { d with modelName := some m.name } m.buses m.devices where
  toPending := pending_of_empty hb hd
  toCounted := counted_empty hb hd
  onBus := by
    rw [hb]
    exact m.onBus
  places := by
    rw [hd]
    exact m.places

/-! ## Changes in place -/

namespace Daemon.Revises

variable {d d' : Daemon} (h : d.Revises d')

include h

theorem map_handle : (d'.devices.map fun p => p.2.handle) = d.devices.map fun p => p.2.handle :=
  map_eq_of_forall₂ h.devices fun _ _ hpq => congrArg Entry.handle hpq.2.entry

theorem map_object : (d'.devices.map fun p => p.2.object) = d.devices.map fun p => p.2.object :=
  map_eq_of_forall₂ h.devices fun _ _ hpq => hpq.2.object

theorem map_site :
    (d'.devices.map fun p => site p.2.device) = d.devices.map fun p => site p.2.device :=
  map_eq_of_forall₂ h.devices fun _ _ hpq => Prod.ext hpq.2.bus hpq.2.place

theorem counted (hc : d.Counted) : d'.Counted where
  busHandles_lt := by
    rw [h.buses]
    exact fun p hp => (hc.busHandles_lt p hp).trans_le h.nextBusHandle
  handles_lt := by
    intro q hq
    obtain ⟨p, hp, _, hrev⟩ := exists_mem_of_forall₂ h.devices hq
    have hhandle : q.2.handle = p.2.handle := congrArg Entry.handle hrev.entry
    rw [hhandle]
    exact (hc.handles_lt p hp).trans_le h.nextDeviceHandle

theorem filed (hf : d.Filed) : d'.Filed where
  toTidy := h.tidy hf.toTidy
  index := by
    rw [h.index, hf.index]
    symm
    refine map_eq_of_forall₂ h.devices fun p q hpq => ?_
    exact Prod.ext (congrArg Entry.handle hpq.2.entry) hpq.2.object
  busHandles := h.buses ▸ hf.busHandles
  handles := h.map_handle ▸ hf.handles
  objects := h.map_object ▸ hf.objects
  objects_lt := by
    intro q hq
    obtain ⟨p, hp, _, hrev⟩ := exists_mem_of_forall₂ h.devices hq
    rw [hrev.object, h.objects]
    exact hf.objects_lt p hp
  onBus := by
    intro q hq
    obtain ⟨p, hp, _, hrev⟩ := exists_mem_of_forall₂ h.devices hq
    obtain ⟨bus, hbus, htransport, hhandle⟩ := hf.onBus p hp
    refine ⟨bus, ?_, ?_, ?_⟩
    · rw [h.buses, hrev.bus, hbus]
    · rw [htransport, transport_of_place hrev.place]
    · rw [hrev.busHandle, hhandle]
  places := by
    rw [pairwise_clashes_iff, List.map_map]
    have hplaces := pairwise_clashes_iff.mp hf.places
    rw [List.map_map] at hplaces
    exact h.map_site ▸ hplaces

theorem placeable {buses : List Bus} {devices : List Device} (hp : Placeable d buses devices) :
    Placeable d' buses devices where
  toPending := h.pending hp.toPending
  toCounted := h.counted hp.toCounted
  onBus := h.buses ▸ hp.onBus
  places := by
    have hplaces := pairwise_clashes_iff.mp hp.places
    rw [List.map_append, List.map_map] at hplaces
    rw [pairwise_clashes_iff, List.map_append, List.map_map]
    exact h.map_site ▸ hplaces

end Daemon.Revises

/-! ## Adds -/

section Added

variable {d : Daemon} {k : Kernel} {r : Added} {buses : List Bus} {devices : List Device}

theorem BusAdded.placeable {bus : Bus} (h : BusAdded d k bus r)
    (hp : Placeable d (bus :: buses) devices) : Placeable r.daemon buses devices where
  toPending := h.pending hp.toPending
  busHandles_lt := by
    rw [h.buses, h.nextBusHandle]
    refine forall_mem_append_singleton ?_ (Nat.lt_succ_self _)
    exact fun p hp' => (hp.busHandles_lt p hp').trans (Nat.lt_succ_self _)
  handles_lt := by
    rw [h.devices, h.nextDeviceHandle]
    exact hp.handles_lt
  onBus := by
    rw [h.buses, List.map_append, List.append_assoc]
    exact hp.onBus
  places := h.devices ▸ hp.places

theorem BusAdded.filed {bus : Bus} (h : BusAdded d k bus r) (hf : d.Filed)
    (hp : Placeable d (bus :: buses) devices) : r.daemon.Filed where
  toTidy := h.tidy hf.toTidy hp.toPending
  index := by rw [h.index, h.devices, hf.index]
  busHandles := by
    rw [h.buses, List.map_append, List.nodup_append]
    refine ⟨hf.busHandles, List.nodup_singleton _, ?_⟩
    rintro a ha b hb rfl
    obtain ⟨p, hp', rfl⟩ := List.mem_map.mp ha
    have hlt := hp.busHandles_lt p hp'
    have heq : p.2.handle = d.nextBusHandle := List.mem_singleton.mp hb
    omega
  handles := h.devices ▸ hf.handles
  objects := h.devices ▸ hf.objects
  objects_lt := by
    rw [h.devices, h.objects]
    exact hf.objects_lt
  onBus := by
    rw [h.devices, h.buses]
    intro p hp'
    obtain ⟨b, hb, hrest⟩ := hf.onBus p hp'
    exact ⟨b, dictGet_append_of_eq_some hb, hrest⟩
  places := h.devices ▸ hf.places

theorem DeviceAdded.placeable {dev : Device} (h : DeviceAdded d k dev r)
    (hp : Placeable d buses (dev :: devices)) : Placeable r.daemon buses devices where
  toPending := h.pending hp.toPending
  busHandles_lt := by
    rw [h.buses, h.nextBusHandle]
    exact hp.busHandles_lt
  handles_lt := by
    obtain ⟨_, _, hdevices⟩ := h.devices
    rw [hdevices, h.nextDeviceHandle]
    refine forall_mem_append_singleton ?_ (Nat.lt_succ_self _)
    exact fun p hp' => (hp.handles_lt p hp').trans (Nat.lt_succ_self _)
  onBus := by
    rw [h.buses]
    exact fun e he => hp.onBus e (List.mem_cons_of_mem _ he)
  places := by
    obtain ⟨_, _, hdevices⟩ := h.devices
    rw [hdevices, List.map_append, List.append_assoc]
    exact hp.places

-- The bus that the add looked up is the one the check found.
theorem Placeable.onBus_head {dev : Device} {bus : BusRecord} (hf : d.Filed)
    (hp : Placeable d [] (dev :: devices)) (hbus : dictGet d.buses dev.bus = some bus) :
    bus.bus.transport = dev.part.transport := by
  obtain ⟨b, hb, hid, htransport⟩ := hp.onBus dev List.mem_cons_self
  rw [List.append_nil] at hb
  obtain ⟨p, hp', rfl⟩ := List.mem_map.mp hb
  have hkey : p.1 = dev.bus := by rw [← (hf.buses p hp').1, hid]
  have hrecord : p.2 = bus := eq_of_dictGet hf.busIds hbus (hkey ▸ hp')
  rw [← hrecord, htransport]

theorem nodup_map_append_of_lt {α : Type} {f : α → Nat} {xs : List α} {x : α}
    (hxs : (xs.map f).Nodup) (hlt : ∀ y ∈ xs, f y < f x) : ((xs ++ [x]).map f).Nodup := by
  rw [List.map_append, List.nodup_append]
  refine ⟨hxs, List.nodup_singleton _, ?_⟩
  rintro a ha b hb rfl
  obtain ⟨y, hy, rfl⟩ := List.mem_map.mp ha
  exact absurd (List.mem_singleton.mp hb) (Nat.ne_of_lt (hlt y hy))

theorem DeviceAdded.filed {dev : Device} (h : DeviceAdded d k dev r) (hf : d.Filed)
    (hp : Placeable d [] (dev :: devices)) : r.daemon.Filed := by
  obtain ⟨bus, hbus, hdevices⟩ := h.devices
  have hfresh : d.nextDeviceHandle ∉ keys d.devicesByHandle := by
    rw [hf.index, keys, List.map_map]
    intro hmem
    obtain ⟨p, hp', heq⟩ := List.mem_map.mp hmem
    have hlt := hp.handles_lt p hp'
    have heq : p.2.handle = d.nextDeviceHandle := heq
    omega
  refine
    { toTidy := h.tidy hf.toTidy hp.toPending
      index := ?_
      busHandles := h.buses ▸ hf.busHandles
      handles := ?_
      objects := ?_
      objects_lt := ?_
      onBus := ?_
      places := ?_ }
  · rw [h.index, dictSet_of_notMem hfresh, hdevices, List.map_append, hf.index]
    rfl
  · rw [hdevices]
    exact nodup_map_append_of_lt hf.handles hp.handles_lt
  · rw [hdevices]
    exact nodup_map_append_of_lt hf.objects hf.objects_lt
  · rw [hdevices, h.objects]
    refine forall_mem_append_singleton ?_ (Nat.lt_succ_self _)
    exact fun p hp => (hf.objects_lt p hp).trans (Nat.lt_succ_self _)
  · rw [hdevices, h.buses]
    exact forall_mem_append_singleton hf.onBus ⟨bus, hbus, hp.onBus_head hf hbus, rfl⟩
  · have hplaces := (h.placeable hp).places
    exact (List.pairwise_append.mp hplaces).1

end Added

/-! ## Runs -/

/-- What a worker inside the lock needs of the tables. -/
def Pc.Filing (d : Daemon) : Pc → Prop
  | .adds _ buses devices _ => Placeable d buses devices
  | _ => True

theorem Pc.filing_of_not_holds {p : Pc} (h : p.holds = false) (d : Daemon) : p.Filing d := by
  cases p with
  | adds _ _ _ _ => cases h
  | idle _ | send _ | sent _ | rollback _ _ | settleFailed | fatal | resyncFailed => trivial

theorem Job.filing_failed (job : Job) (d : Daemon) : job.failed.Filing d := by
  cases job <;> trivial

theorem Job.filing_done (job : Job) (d : Daemon) : job.done.Filing d := by
  cases job <;> trivial

theorem Job.AddStep.filed {job : Job} {d : Daemon} {k : Kernel} {buses : List Bus}
    {devices : List Device} {m : Move} (h : job.AddStep d k buses devices m) (hf : d.Filed)
    (hp : Placeable d buses devices) : m.daemon.Filed ∧ m.pc.Filing m.daemon := by
  cases h with
  | failed hrev _ => exact ⟨hrev.filed hf, job.filing_failed _⟩
  | modem => exact ⟨hf, hp⟩
  | bus hadd => exact ⟨hadd.filed hf hp, hadd.placeable hp⟩
  | device hadd => exact ⟨hadd.filed hf hp, hadd.placeable hp⟩
  | done hr hd => exact ⟨(revises_of_done hr hd).filed hf, job.filing_done _⟩

theorem Job.filed_enter (job : Job) {d : Daemon} (k : Kernel) (hb : d.buses = [])
    (hd : d.devices = []) (hi : d.devicesByHandle = []) :
    (job.enter d k).daemon.Filed ∧ (job.enter d k).pc.Filing (job.enter d k).daemon :=
  ⟨filed_empty hb hd hi, placeable_of_empty hb hd⟩

theorem Sender.filed_cleared (x : Sender) (d : Daemon) (k : Kernel) :
    (x.cleared d.clear k).daemon.Filed ∧
      (x.cleared d.clear k).pc.Filing (x.cleared d.clear k).daemon := by
  cases x with
  | reset => exact ⟨filed_empty rfl rfl rfl, trivial⟩
  | apply c => exact Job.filed_enter _ k rfl rfl rfl
  | discard c =>
    refine ⟨filed_empty rfl rfl rfl, Pc.filing_of_not_holds ?_ _⟩
    change c.discarded.holds = false
    unfold Call.discarded
    split <;> rfl
  | resync m attachments => exact Job.filed_enter _ k rfl rfl rfl

theorem Sender.filed_accepted (x : Sender) {d : Daemon} (k : Kernel) (o : Outside)
    (hf : d.Filed) :
    (x.accepted d k o).daemon.Filed ∧
      (x.accepted d k o).pc.Filing (x.accepted d k o).daemon := by
  rcases x.accepted_cases d k o with h | ⟨_, h⟩
  · rw [h]
    exact x.filed_cleared d k
  · rw [h]
    refine ⟨hf.unnamed, Pc.filing_of_not_holds ?_ _⟩
    cases x <;> rfl

theorem filed_advance {d : Daemon} {k : Kernel} {o : Outside} {p : Pc} {m : Move} (hf : d.Filed)
    (hp : p.Filing d) (h : advance d k o p = some m) : m.daemon.Filed ∧ m.pc.Filing m.daemon := by
  cases p with
  | idle _ => cases h
  | send x =>
    obtain ⟨hd, hh⟩ := advance_daemon h rfl rfl
    rw [hd]
    exact ⟨hf, Pc.filing_of_not_holds hh d⟩
  | sent x =>
    cases h
    exact x.filed_accepted k o hf
  | adds job buses devices modem =>
    cases h
    exact (job.add_cases k o modem hp.toPending).filed hf hp
  | rollback c s =>
    rw [advance] at h
    split at h
    · cases h
      exact ⟨hf, trivial⟩
    · cases h
      rcases c.rolledBack_cases d k o _ _ with he | ⟨_, _, he⟩
      · rw [he]
        exact Job.filed_enter _ k rfl rfl rfl
      · rw [he]
        exact ⟨hf.unnamed, trivial⟩
  | settleFailed =>
    cases h
    refine ⟨(d.revises_settle o).filed hf, Pc.filing_of_not_holds ?_ _⟩
    dsimp only
    split <;> rfl
  | fatal | resyncFailed =>
    cases h
    exact ⟨(d.revises_settle o).filed hf, trivial⟩

theorem keeps_filed : Keeps anyStep Daemon.Filed fun d p => p.Filing d where
  idle _ := trivial
  frame hh _ := Pc.filing_of_not_holds hh _
  begins _ hf hb := ⟨(begins_of_begin hb).calm.1.filed hf, Pc.filing_of_not_holds (begin_holds hb) _⟩
  advances _ _ hf hp hm := filed_advance hf hp hm
  changes {_ c} _ hf := (c.revises hf.toTidy).filed hf
  loose {_ c p} _ _ hf hp := by
    cases p with
    | adds job buses devices modem => exact (c.revises hf.toTidy).placeable hp
    | idle _ | send _ | sent _ | rollback _ _ | settleFailed | fatal | resyncFailed => trivial

/-! ## The counters -/

/-- A `_clear_state` that raises. -/
def raisesInClear (w : World) : Act → Bool
  | .go t o =>
    match w.pcs[t]? with
    | some (.sent _) => !(w.daemon.clearState o).2
    | some (.rollback _ s) => s.restore.isSome && !(w.daemon.clearState o).2
    | _ => false
  | _ => false

/-- Every `_clear_state` returns. -/
def stopping (w : World) (a : Act) : Prop := raisesInClear w a = false

instance (w : World) (a : Act) : Decidable (stopping w a) :=
  inferInstanceAs (Decidable (raisesInClear w a = false))

theorem Job.AddStep.counted {job : Job} {d : Daemon} {k : Kernel} {buses : List Bus}
    {devices : List Device} {m : Move} (h : job.AddStep d k buses devices m)
    (hp : Placeable d buses devices) : m.daemon.Counted := by
  cases h with
  | failed hrev _ => exact hrev.counted hp.toCounted
  | modem => exact hp.toCounted
  | bus hadd => exact (hadd.placeable hp).toCounted
  | device hadd => exact (hadd.placeable hp).toCounted
  | done hr hd => exact (revises_of_done hr hd).counted hp.toCounted

theorem Sender.counted_cleared (x : Sender) (d : Daemon) (k : Kernel) :
    (x.cleared d.clear k).daemon.Counted := by
  cases x <;> exact counted_empty rfl rfl

theorem counted_advance {w : World} {t : Nat} {o : Outside} {p : Pc} {m : Move}
    (hok : stopping w (.go t o)) (ht : w.pcs[t]? = some p) (hc : w.daemon.Counted)
    (hp : p.Filing w.daemon) (h : advance w.daemon w.kernel o p = some m) : m.daemon.Counted := by
  rw [stopping, raisesInClear, ht] at hok
  cases p with
  | idle _ => cases h
  | send x =>
    rw [(advance_daemon h rfl rfl).1]
    exact hc
  | sent x =>
    cases h
    rcases x.accepted_cases w.daemon w.kernel o with he | ⟨hraised, _⟩
    · rw [he]
      exact x.counted_cleared w.daemon w.kernel
    · simp [hraised] at hok
  | adds job buses devices modem =>
    cases h
    exact (job.add_cases w.kernel o modem hp.toPending).counted hp
  | rollback c s =>
    rw [advance] at h
    split at h
    · cases h
      exact hc
    · rename_i restored attachments hrestore
      cases h
      rcases c.rolledBack_cases w.daemon w.kernel o restored attachments with he | ⟨_, hraised, _⟩
      · rw [he]
        exact counted_empty rfl rfl
      · simp [hrestore, hraised] at hok
  | settleFailed | fatal | resyncFailed =>
    cases h
    exact (w.daemon.revises_settle o).counted hc

theorem keeps_counted : Keeps stopping (fun d => d.Filed ∧ d.Counted) fun d p => p.Filing d where
  idle _ := trivial
  frame hh _ := Pc.filing_of_not_holds hh _
  begins {_ t _ _ _ _} _ hI hb := by
    obtain ⟨hf, hp⟩ := keeps_filed.begins (t := t) trivial hI.1 hb
    exact ⟨⟨hf, (begins_of_begin hb).calm.1.counted hI.2⟩, hp⟩
  advances {_ t _ _ _} hok ht hI hp hm := by
    obtain ⟨hf, hp'⟩ := filed_advance hI.1 hp hm
    exact ⟨⟨hf, counted_advance hok ht hI.2 hp hm⟩, hp'⟩
  changes {_ c} _ hI :=
    ⟨keeps_filed.changes trivial hI.1, (c.revises hI.1.toTidy).counted hI.2⟩
  loose _ hc hI hp := keeps_filed.loose trivial hc hI.1 hp

/-! ## The indexes as they are read -/

/-- The two tables, `devices_by_handle` and the counters agree.  Records are told apart by their
objects, which is what the index refers to. -/
structure Daemon.Indexed (d : Daemon) : Prop where
  deviceIds : (keys d.devices).Nodup
  records : (d.devices.map fun p => p.2.object).Nodup
  byHandle : ∀ p ∈ d.devices, dictGet d.devicesByHandle p.2.handle = some p.2.object
  bijective : Set.BijOn (dictGet d.devicesByHandle) {h | h ∈ keys d.devicesByHandle}
    {x | ∃ p ∈ d.devices, x = some p.2.object}
  busHandles : (d.buses.map fun p => p.2.handle).Nodup
  busHandles_lt : ∀ p ∈ d.buses, p.2.handle < d.nextBusHandle
  handles : (d.devices.map fun p => p.2.handle).Nodup
  handles_lt : ∀ p ∈ d.devices, p.2.handle < d.nextDeviceHandle
  onBus : ∀ p ∈ d.devices, p.2.OnBus d.buses
  places : (d.devices.map fun p => p.2.device).Pairwise fun e f => f.clashes e = false

namespace Daemon.Filed

variable {d : Daemon} (h : d.Filed)

include h

theorem keys_index : keys d.devicesByHandle = d.devices.map fun p => p.2.handle := by
  rw [h.index, keys, List.map_map]
  rfl

theorem byHandle {p : Text × DeviceRecord} (hp : p ∈ d.devices) :
    dictGet d.devicesByHandle p.2.handle = some p.2.object := by
  refine dictGet_of_mem ?_ ?_
  · rw [h.keys_index]
    exact h.handles
  · rw [h.index]
    exact List.mem_map.mpr ⟨p, hp, rfl⟩

theorem mem_keys_index {n : Nat} (hn : n ∈ keys d.devicesByHandle) :
    ∃ p ∈ d.devices, p.2.handle = n := by
  rw [h.keys_index] at hn
  exact List.mem_map.mp hn

theorem bijective : Set.BijOn (dictGet d.devicesByHandle) {n | n ∈ keys d.devicesByHandle}
    {x | ∃ p ∈ d.devices, x = some p.2.object} := by
  refine ⟨?_, ?_, ?_⟩
  · intro n hn
    obtain ⟨p, hp, rfl⟩ := h.mem_keys_index hn
    exact ⟨p, hp, h.byHandle hp⟩
  · intro n hn m hm hnm
    obtain ⟨p, hp, rfl⟩ := h.mem_keys_index hn
    obtain ⟨q, hq, rfl⟩ := h.mem_keys_index hm
    rw [h.byHandle hp, h.byHandle hq] at hnm
    -- One object belongs to one record.
    rw [List.inj_on_of_nodup_map h.objects hp hq (Option.some.inj hnm)]
  · rintro x ⟨p, hp, rfl⟩
    refine ⟨p.2.handle, ?_, h.byHandle hp⟩
    change p.2.handle ∈ keys d.devicesByHandle
    rw [h.keys_index]
    exact List.mem_map.mpr ⟨p, hp, rfl⟩

theorem indexed (hc : d.Counted) : d.Indexed where
  deviceIds := h.deviceIds
  records := h.objects
  byHandle := fun _ hp => h.byHandle hp
  bijective := h.bijective
  busHandles := h.busHandles
  busHandles_lt := hc.busHandles_lt
  handles := h.handles
  handles_lt := hc.handles_lt
  onBus := h.onBus
  places := h.places

end Daemon.Filed

/-- Every run in which `_clear_state` returns keeps the indexes, whatever the bridge does and however
the workers interleave, also between the writes of a section that rebuilds the inventory. -/
theorem inventory_indexed {k : Kernel} {generation n : Nat} {w : World}
    (hr : Reach step stopping (start k generation n) w) : w.daemon.Indexed := by
  have hempty : (start k generation n).daemon.Filed ∧ (start k generation n).daemon.Counted :=
    ⟨filed_empty rfl rfl rfl, counted_empty rfl rfl⟩
  obtain ⟨hf, hc⟩ := (World.kept_of_reach keeps_counted hempty hr).daemon
  exact hf.indexed hc

/-- The indexes between an accepted `RESET` of one worker and its lock section. -/
theorem inventory_indexed_bench : ∃ w : World, w.daemon.entries = benchEntries ∧
    w.daemon.devicesByHandle = [(1024, 0)] ∧ w.daemon.Indexed := by
  have hrun : (exec (guarded step stopping) (start .empty 0 2)
      ([.call 0 .reset calm, .go 0 calm] ++ applyBench 1)).map
      (fun w => (w.daemon.entries, w.daemon.devicesByHandle)) =
      some (benchEntries, [(1024, 0)]) := by decide +kernel
  obtain ⟨w, hexec, hview⟩ := Option.map_eq_some_iff.mp hrun
  obtain ⟨hentries, hindex⟩ := Prod.mk.inj hview
  exact ⟨w, hentries, hindex, inventory_indexed (reach_of_exec hexec)⟩

/-! ## A worker that cannot be stopped -/

/-- The model is applied; then a reset cannot stop the worker of its device. -/
def resetUnkillable : List Act :=
  applyOf managedBench 0 ++ [.call 0 .reset calm, .go 0 calm, .go 0 unkillable]

/-- With the lock free, the device keeps the handle that the counter gives next. -/
theorem counters_restart_over_records :
    ¬ ∀ w, Reach step anyStep (start .empty 0 2) w → w.locked = false → w.daemon.Indexed := by
  intro h
  have hrun : (exec (guarded step anyStep) (start .empty 0 2) resetUnkillable).map
      (fun w => (w.locked, w.daemon.nextDeviceHandle, w.daemon.devices.map fun p => p.2.handle)) =
      some (false, 1024, [1024]) := by decide +kernel
  obtain ⟨w, hexec, hview⟩ := Option.map_eq_some_iff.mp hrun
  simp only [Prod.mk.injEq] at hview
  obtain ⟨hfree, hnext, hhandles⟩ := hview
  obtain ⟨p, hp, hhandle⟩ : ∃ p ∈ w.daemon.devices, p.2.handle = 1024 :=
    List.mem_map.mp (by rw [hhandles]; exact List.mem_singleton.mpr rfl)
  have hlt := (h w (reach_of_exec hexec) hfree).handles_lt p hp
  rw [hnext, hhandle] at hlt
  exact absurd hlt (Nat.lt_irrefl 1024)

end Sensorium.Inventory

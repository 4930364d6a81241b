import Sensorium.Model.Settle

/-!
# Whole models

`normalize_runtime_model_data`: the buses, then the devices, each checked on its own and against the
ones before it.  A normal model carries that its bus and device identifiers are different.
-/

namespace Sensorium.Model

open Lib

/-! ## Tables -/

/-- Two buses of one transport and name. -/
def Bus.sameName (b c : Bus) : Bool := c.transport = b.transport && c.name = b.name

/-- The buses accepted so far. -/
structure BusTable where
  buses : List Bus
  nodup : (buses.map Bus.id).Nodup
  names : buses.Pairwise fun b c => c.sameName b = false
  normal : ∀ b ∈ buses, b.Normal

def BusTable.empty : BusTable := ⟨[], List.nodup_nil, .nil, fun _ h => nomatch h⟩

theorem nodup_map_append_singleton {α : Type} {f : α → Text} {xs : List α} {x : α}
    (hxs : (xs.map f).Nodup) (hx : f x ∉ xs.map f) : ((xs ++ [x]).map f).Nodup := by
  rw [List.map_append, List.nodup_append]
  refine ⟨hxs, List.nodup_singleton _, ?_⟩
  rintro a ha b hb rfl
  have hab : a = f x := List.mem_singleton.mp hb
  exact hx (hab ▸ ha)

theorem forall_mem_append_singleton {α : Type} {p : α → Prop} {xs : List α} {x : α}
    (hxs : ∀ y ∈ xs, p y) (hx : p x) : ∀ y ∈ xs ++ [x], p y := by
  intro y hy
  rcases List.mem_append.mp hy with hy | hy
  · exact hxs y hy
  · exact List.mem_singleton.mp hy ▸ hx

-- The check that nothing in the table clashes with the new item.
theorem pairwise_append_of_any {α : Type} {f : α → α → Bool} {xs : List α} {x : α}
    (hxs : xs.Pairwise fun y z => f z y = false) (hx : ¬ xs.any (f x) = true) :
    (xs ++ [x]).Pairwise fun y z => f z y = false := by
  refine List.pairwise_append.mpr ⟨hxs, List.pairwise_singleton _ x, ?_⟩
  intro y hy z hz
  rw [List.mem_singleton.mp hz]
  by_contra hf
  exact hx (List.any_eq_true.mpr ⟨y, hy, by simpa using hf⟩)

def BusTable.add (t : BusTable) (bus : Bus) (hn : bus.Normal) : Checked BusTable :=
  if h : bus.id ∈ t.buses.map Bus.id then reject [] s!"duplicate bus id: {shown bus.id}"
  else if hs : t.buses.any bus.sameName then
    let transport := shown bus.transport.spelling
    reject [] s!"duplicate {transport} bus name: {shown bus.name}"
  else
    .ok ⟨t.buses ++ [bus], nodup_map_append_singleton t.nodup h,
      pairwise_append_of_any t.names hs, forall_mem_append_singleton t.normal hn⟩

/-- Two devices of one transport at the same place: an I2C address or a chip select on one bus, or
one port name. -/
def Device.clashes (d e : Device) : Bool :=
  match d.part, e.part with
  | .i2c a _, .i2c b _ => d.bus = e.bus && a = b
  | .spi a _ _, .spi b _ _ => d.bus = e.bus && a = b
  | .uart a _, .uart b _ => a = b
  | _, _ => false

def Device.clashMessage (d : Device) : String :=
  match d.part with
  | .i2c address _ =>
    let register := shown (hexWord 2 address)
    s!"duplicate i2c address on bus {shown d.bus}: {register}"
  | .spi chipSelect _ _ => s!"duplicate spi chip_select on bus {shown d.bus}: {chipSelect}"
  | .uart portName _ => s!"duplicate uart port_name: {shown portName}"

/-- The device's bus is there and has its transport. -/
def Device.OnBus (buses : List Bus) (d : Device) : Prop :=
  ∃ b ∈ buses, b.id = d.bus ∧ b.transport = d.part.transport

/-- The devices accepted so far. -/
structure DeviceTable (buses : List Bus) where
  devices : List Device
  nodup : (devices.map Device.id).Nodup
  places : devices.Pairwise fun d e => e.clashes d = false
  onBus : ∀ d ∈ devices, d.OnBus buses
  normal : ∀ d ∈ devices, d.Normal

def DeviceTable.empty (buses : List Bus) : DeviceTable buses :=
  ⟨[], List.nodup_nil, .nil, fun _ h => (nomatch h), fun _ h => (nomatch h)⟩

def DeviceTable.add {buses : List Bus} (t : DeviceTable buses) (device : Device)
    (hb : device.OnBus buses) (hn : device.Normal) : Checked (DeviceTable buses) :=
  if h : device.id ∈ t.devices.map Device.id then
    reject [] s!"duplicate device id: {shown device.id}"
  else if hc : t.devices.any device.clashes then reject [] device.clashMessage
  else
    .ok ⟨t.devices ++ [device], nodup_map_append_singleton t.nodup h,
      pairwise_append_of_any t.places hc, forall_mem_append_singleton t.onBus hb,
      forall_mem_append_singleton t.normal hn⟩

/-! ## Models -/

/-- A normal model: identifiers, bus names and places are different, devices are on buses of their
transport, and every item is a result of its check. -/
structure RuntimeModel where
  name : Text
  buses : List Bus
  devices : List Device
  busIds : (buses.map Bus.id).Nodup
  busNames : buses.Pairwise fun b c => c.sameName b = false
  deviceIds : (devices.map Device.id).Nodup
  places : devices.Pairwise fun d e => e.clashes d = false
  onBus : ∀ d ∈ devices, d.OnBus buses
  busesNormal : ∀ b ∈ buses, b.Normal
  devicesNormal : ∀ d ∈ devices, d.Normal

def busesById (buses : List Bus) : List (Text × Bus) := buses.map fun b => (b.id, b)

theorem onBus_of_normalizeRuntimeDeviceItem {v : Value} {buses : List Bus} {label : Label}
    {z : Device} (h : normalizeRuntimeDeviceItem v (busesById buses) label = .ok z) :
    z.OnBus buses := by
  obtain ⟨item, bus, fields, head, _, hbus, hz⟩ := normalizeRuntimeDeviceItem_eq_ok.mp h
  obtain ⟨b, hb, heq⟩ := List.mem_map.mp (mem_of_dictGet hbus)
  obtain ⟨hid, rfl⟩ := Prod.mk.inj heq
  exact ⟨b, hb, hid, hz.same.symm⟩

def busLabel (i : Nat) : Label := [.field "runtime", .field "buses", .index i]

def deviceLabel (i : Nat) : Label := [.field "runtime", .field "devices", .index i]

def normalizeBuses : BusTable → List (Value × Nat) → Checked BusTable
  | t, [] => .ok t
  | t, (item, i) :: items =>
    match h : normalizeRuntimeBusItem item (busLabel i) with
    | .error e => .error e
    | .ok bus => do
      let t' ← t.add bus ⟨_, _, h⟩
      normalizeBuses t' items

def normalizeDevices (buses : List Bus) :
    DeviceTable buses → List (Value × Nat) → Checked (DeviceTable buses)
  | t, [] => .ok t
  | t, (item, i) :: items =>
    match h : normalizeRuntimeDeviceItem item (busesById buses) (deviceLabel i) with
    | .error e => .error e
    | .ok device => do
      let t' ← t.add device (onBus_of_normalizeRuntimeDeviceItem h)
        (normal_of_normalizeRuntimeDeviceItem h)
      normalizeDevices buses t' items

/-- `RUNTIME_MODEL_SCHEMA_VERSION`. -/
def modelSchemaVersion : Int := 2

def normalizeRuntimeSchemaVersion (v : Value) (label : Label) : Checked Int :=
  match v with
  | .null => .ok modelSchemaVersion
  | v => do
    let version ← expectInt v label
    if version = modelSchemaVersion then .ok version else reject label s!"must be {modelSchemaVersion}"

def checkAdapter (adapter : Text) : Checked Unit :=
  if adapter = text "runtime" then .ok ()
  else reject [] "runtime model must use adapter=runtime"

def normalizeRuntimeModelData (raw : Value) : Checked RuntimeModel := do
  let raw ← expectMapping raw [.field "model"]
  let name ← expectString (get raw "name") [.field "name"]
  let adapter ← expectString (get raw "adapter") [.field "adapter"]
  let _ ← checkAdapter adapter
  let _ ← normalizeRuntimeSchemaVersion (get raw "schema_version") [.field "schema_version"]
  let runtime ← expectMapping (get raw "runtime") [.field "runtime"]
  let busesRaw ← expectList (get runtime "buses") [.field "runtime", .field "buses"]
  let devicesRaw ← expectList (get runtime "devices") [.field "runtime", .field "devices"]
  let buses ← normalizeBuses .empty busesRaw.zipIdx
  let devices ← normalizeDevices buses.buses (.empty buses.buses) devicesRaw.zipIdx
  pure
    { name := name
      buses := buses.buses
      devices := devices.devices
      busIds := buses.nodup
      busNames := buses.names
      deviceIds := devices.nodup
      places := devices.places
      onBus := devices.onBus
      busesNormal := buses.normal
      devicesNormal := devices.normal }

/-! ## Item by item -/

theorem BusTable.add_eq_ok {t t' : BusTable} {b : Bus} {hn : b.Normal} (h : t.add b hn = .ok t') :
    t'.buses = t.buses ++ [b] := by
  unfold BusTable.add at h
  split at h
  · cases h
  · split at h
    · cases h
    · cases h
      rfl

theorem DeviceTable.add_eq_ok {buses : List Bus} {t t' : DeviceTable buses} {d : Device}
    {hb : d.OnBus buses} {hn : d.Normal} (h : t.add d hb hn = .ok t') :
    t'.devices = t.devices ++ [d] := by
  unfold DeviceTable.add at h
  split at h
  · cases h
  · split at h
    · cases h
    · cases h
      rfl

theorem normalizeBuses_eq_ok {t t' : BusTable} {items : List (Value × Nat)}
    (h : normalizeBuses t items = .ok t') :
    ∃ bs, t'.buses = t.buses ++ bs ∧
      List.Forall₂ (fun p b => normalizeRuntimeBusItem p.1 (busLabel p.2) = .ok b) items bs := by
  induction items generalizing t with
  | nil =>
    cases h
    exact ⟨[], by simp, .nil⟩
  | cons p items ih =>
    rw [normalizeBuses] at h
    split at h
    · cases h
    rename_i b hb
    obtain ⟨u, hu, h⟩ := bind_eq_ok.mp h
    obtain ⟨bs, hbs, hall⟩ := ih h
    refine ⟨b :: bs, ?_, .cons hb hall⟩
    rw [hbs, BusTable.add_eq_ok hu]
    simp

theorem normalizeDevices_eq_ok {buses : List Bus} {t t' : DeviceTable buses}
    {items : List (Value × Nat)} (h : normalizeDevices buses t items = .ok t') :
    ∃ ds, t'.devices = t.devices ++ ds ∧
      List.Forall₂ (fun p d =>
        normalizeRuntimeDeviceItem p.1 (busesById buses) (deviceLabel p.2) = .ok d) items ds := by
  induction items generalizing t with
  | nil =>
    cases h
    exact ⟨[], by simp, .nil⟩
  | cons p items ih =>
    rw [normalizeDevices] at h
    split at h
    · cases h
    rename_i d hd
    obtain ⟨u, hu, h⟩ := bind_eq_ok.mp h
    obtain ⟨ds, hds, hall⟩ := ih h
    refine ⟨d :: ds, ?_, .cons hd hall⟩
    rw [hds, DeviceTable.add_eq_ok hu]
    simp

/-- The raw items of an accepted model and the normal forms made of them. -/
structure Source (m : RuntimeModel) (busesRaw devicesRaw : List Value) : Prop where
  buses : List.Forall₂ (fun p b => normalizeRuntimeBusItem p.1 (busLabel p.2) = .ok b)
    busesRaw.zipIdx m.buses
  devices : List.Forall₂ (fun p d =>
    normalizeRuntimeDeviceItem p.1 (busesById m.buses) (deviceLabel p.2) = .ok d)
    devicesRaw.zipIdx m.devices

theorem source_of_normalizeRuntimeModelData {raw : Value} {m : RuntimeModel}
    (h : normalizeRuntimeModelData raw = .ok m) :
    ∃ es runtime busesRaw devicesRaw, expectMapping raw [.field "model"] = .ok es ∧
      expectMapping (get es "runtime") [.field "runtime"] = .ok runtime ∧
      expectList (get runtime "buses") [.field "runtime", .field "buses"] = .ok busesRaw ∧
      expectList (get runtime "devices") [.field "runtime", .field "devices"] = .ok devicesRaw ∧
      Source m busesRaw devicesRaw := by
  unfold normalizeRuntimeModelData at h
  obtain ⟨es, hes, h⟩ := bind_eq_ok.mp h
  obtain ⟨name, _, h⟩ := bind_eq_ok.mp h
  obtain ⟨adapter, _, h⟩ := bind_eq_ok.mp h
  obtain ⟨_, _, h⟩ := bind_eq_ok.mp h
  obtain ⟨version, _, h⟩ := bind_eq_ok.mp h
  obtain ⟨runtime, hruntime, h⟩ := bind_eq_ok.mp h
  obtain ⟨busesRaw, hbusesRaw, h⟩ := bind_eq_ok.mp h
  obtain ⟨devicesRaw, hdevicesRaw, h⟩ := bind_eq_ok.mp h
  obtain ⟨buses, hbuses, h⟩ := bind_eq_ok.mp h
  obtain ⟨devices, hdevices, h⟩ := bind_eq_ok.mp h
  cases h
  obtain ⟨bs, hbs, hall⟩ := normalizeBuses_eq_ok hbuses
  obtain ⟨ds, hds, hdall⟩ := normalizeDevices_eq_ok hdevices
  rw [show bs = buses.buses from hbs.symm] at hall
  rw [show ds = devices.devices from hds.symm] at hdall
  exact ⟨es, runtime, busesRaw, devicesRaw, hes, hruntime, hbusesRaw, hdevicesRaw, hall, hdall⟩

theorem name_of_normalizeRuntimeModelData {raw : Value} {m : RuntimeModel}
    (h : normalizeRuntimeModelData raw = .ok m) : ∃ v l, expectString v l = .ok m.name := by
  unfold normalizeRuntimeModelData at h
  obtain ⟨es, _, h⟩ := bind_eq_ok.mp h
  obtain ⟨name, hname, h⟩ := bind_eq_ok.mp h
  obtain ⟨adapter, _, h⟩ := bind_eq_ok.mp h
  obtain ⟨_, _, h⟩ := bind_eq_ok.mp h
  obtain ⟨version, _, h⟩ := bind_eq_ok.mp h
  obtain ⟨runtime, _, h⟩ := bind_eq_ok.mp h
  obtain ⟨busesRaw, _, h⟩ := bind_eq_ok.mp h
  obtain ⟨devicesRaw, _, h⟩ := bind_eq_ok.mp h
  obtain ⟨buses, _, h⟩ := bind_eq_ok.mp h
  obtain ⟨devices, _, h⟩ := bind_eq_ok.mp h
  cases h
  exact ⟨_, _, hname⟩

/-- The dictionary that `_export_model_locked` builds. -/
def exportedModel (name : Text) (buses devices : List Value) : Value :=
  .dict [(.lit "name", .str name), (.lit "schema_version", .int modelSchemaVersion),
    (.lit "adapter", .lit "runtime"),
    (.lit "runtime", .dict [(.lit "buses", .list buses), (.lit "devices", .list devices)])]

theorem source_of_exportedModel {name : Text} {buses devices : List Value} {m : RuntimeModel}
    (h : normalizeRuntimeModelData (exportedModel name buses devices) = .ok m) :
    Source m buses devices := by
  obtain ⟨es, runtime, bs, ds, hes, hruntime, hbs, hds, hsource⟩ :=
    source_of_normalizeRuntimeModelData h
  cases hes
  cases hruntime
  cases hbs
  cases hds
  exact hsource

/-! ## Accepting a list of items -/

theorem BusTable.add_accepts {t : BusTable} {b : Bus} (hn : b.Normal)
    (hid : b.id ∉ t.buses.map Bus.id) (hname : ∀ c ∈ t.buses, b.sameName c = false) :
    ∃ t', t.add b hn = .ok t' := by
  have hany : ¬ t.buses.any b.sameName = true := by
    intro h
    obtain ⟨c, hc, hsame⟩ := List.any_eq_true.mp h
    rw [hname c hc] at hsame
    cases hsame
  rw [BusTable.add, dif_neg hid, dif_neg hany]
  exact ⟨_, rfl⟩

theorem DeviceTable.add_accepts {buses : List Bus} {t : DeviceTable buses} {d : Device}
    (hb : d.OnBus buses) (hn : d.Normal) (hid : d.id ∉ t.devices.map Device.id)
    (hplace : ∀ e ∈ t.devices, d.clashes e = false) : ∃ t', t.add d hb hn = .ok t' := by
  have hany : ¬ t.devices.any d.clashes = true := by
    intro h
    obtain ⟨e, he, hclash⟩ := List.any_eq_true.mp h
    rw [hplace e he] at hclash
    cases hclash
  rw [DeviceTable.add, dif_neg hid, dif_neg hany]
  exact ⟨_, rfl⟩

-- The first item of the rest is new to everything before it.
theorem new_of_append_cons {α : Type} {f : α → Text} {g : α → α → Bool} {xs ys : List α} {x : α}
    (hf : ((xs ++ x :: ys).map f).Nodup)
    (hg : (xs ++ x :: ys).Pairwise fun y z => g z y = false) :
    f x ∉ xs.map f ∧ ∀ y ∈ xs, g x y = false := by
  rw [List.map_append, List.map_cons] at hf
  refine ⟨fun hmem => ?_, fun y hy => ?_⟩
  · exact (List.nodup_append.mp hf).2.2 _ hmem _ List.mem_cons_self rfl
  · exact (List.pairwise_append.mp hg).2.2 y hy x List.mem_cons_self

theorem normalizeBuses_accepts {t : BusTable} {items : List (Value × Nat)} {bs : List Bus}
    (h : List.Forall₂ (fun p b => normalizeRuntimeBusItem p.1 (busLabel p.2) = .ok b) items bs)
    (hids : ((t.buses ++ bs).map Bus.id).Nodup)
    (hnames : (t.buses ++ bs).Pairwise fun b c => c.sameName b = false) :
    ∃ t', normalizeBuses t items = .ok t' ∧ t'.buses = t.buses ++ bs := by
  induction h generalizing t with
  | nil => exact ⟨t, rfl, by simp⟩
  | @cons p b items bs hb hrest ih =>
    obtain ⟨hid, hname⟩ := new_of_append_cons hids hnames
    obtain ⟨u, hu⟩ := BusTable.add_accepts ⟨_, _, hb⟩ hid hname
    have hbuses := BusTable.add_eq_ok hu
    rw [List.append_cons, ← hbuses] at hids hnames
    obtain ⟨t', ht', heq⟩ := ih hids hnames
    refine ⟨t', ?_, by rw [heq, hbuses, List.append_assoc]; rfl⟩
    rw [normalizeBuses]
    split
    · rename_i e he
      cases he.symm.trans hb
    · rename_i b' hb'
      cases hb'.symm.trans hb
      exact bind_eq_ok.mpr ⟨u, hu, ht'⟩

theorem normalizeDevices_accepts {buses : List Bus} {t : DeviceTable buses}
    {items : List (Value × Nat)} {ds : List Device}
    (h : List.Forall₂ (fun p d =>
      normalizeRuntimeDeviceItem p.1 (busesById buses) (deviceLabel p.2) = .ok d) items ds)
    (hids : ((t.devices ++ ds).map Device.id).Nodup)
    (hplaces : (t.devices ++ ds).Pairwise fun d e => e.clashes d = false) :
    ∃ t', normalizeDevices buses t items = .ok t' ∧ t'.devices = t.devices ++ ds := by
  induction h generalizing t with
  | nil => exact ⟨t, rfl, by simp⟩
  | @cons p d items ds hd hrest ih =>
    obtain ⟨hid, hplace⟩ := new_of_append_cons hids hplaces
    obtain ⟨u, hu⟩ := DeviceTable.add_accepts (onBus_of_normalizeRuntimeDeviceItem hd)
      (normal_of_normalizeRuntimeDeviceItem hd) hid hplace
    have hdevices := DeviceTable.add_eq_ok hu
    rw [List.append_cons, ← hdevices] at hids hplaces
    obtain ⟨t', ht', heq⟩ := ih hids hplaces
    refine ⟨t', ?_, by rw [heq, hdevices, List.append_assoc]; rfl⟩
    rw [normalizeDevices]
    split
    · rename_i e he
      cases he.symm.trans hd
    · rename_i d' hd'
      cases hd'.symm.trans hd
      exact bind_eq_ok.mpr ⟨u, hu, ht'⟩

/-- An exported model is accepted when its items are, one by one and beside each other. -/
theorem normalizeRuntimeModelData_accepts {name : Text} {buses devices : List Value}
    {bs : List Bus} {ds : List Device} (hname : ∃ v l, expectString v l = .ok name)
    (hbuses : List.Forall₂ (fun p b => normalizeRuntimeBusItem p.1 (busLabel p.2) = .ok b)
      buses.zipIdx bs)
    (hbusIds : (bs.map Bus.id).Nodup) (hbusNames : bs.Pairwise fun b c => c.sameName b = false)
    (hdevices : List.Forall₂ (fun p d =>
      normalizeRuntimeDeviceItem p.1 (busesById bs) (deviceLabel p.2) = .ok d) devices.zipIdx ds)
    (hids : (ds.map Device.id).Nodup) (hplaces : ds.Pairwise fun d e => e.clashes d = false) :
    ∃ m, normalizeRuntimeModelData (exportedModel name buses devices) = .ok m ∧ m.name = name ∧
      m.buses = bs ∧ m.devices = ds := by
  obtain ⟨_, _, hname⟩ := hname
  obtain ⟨t, ht, htb⟩ := normalizeBuses_accepts (t := .empty) hbuses hbusIds hbusNames
  change t.buses = bs at htb
  subst htb
  obtain ⟨u, hu, hud⟩ := normalizeDevices_accepts (t := .empty t.buses) hdevices hids hplaces
  change u.devices = ds at hud
  subst hud
  refine ⟨⟨name, t.buses, u.devices, t.nodup, t.names, u.nodup, u.places, u.onBus, t.normal,
    u.normal⟩, ?_, rfl, rfl, rfl⟩
  unfold normalizeRuntimeModelData
  refine bind_eq_ok.mpr ⟨_, rfl, ?_⟩
  refine bind_eq_ok.mpr ⟨name, expectString_self hname, ?_⟩
  refine bind_eq_ok.mpr ⟨text "runtime", rfl, bind_eq_ok.mpr ⟨(), rfl, ?_⟩⟩
  refine bind_eq_ok.mpr ⟨modelSchemaVersion, rfl, bind_eq_ok.mpr ⟨_, rfl, ?_⟩⟩
  refine bind_eq_ok.mpr ⟨buses, rfl, bind_eq_ok.mpr ⟨devices, rfl, ?_⟩⟩
  exact bind_eq_ok.mpr ⟨t, ht, bind_eq_ok.mpr ⟨u, hu, rfl⟩⟩

end Sensorium.Model

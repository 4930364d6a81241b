import Sensorium.Model.Data

/-!
# Normalising twice

`normalize_runtime_model_data` returns a dictionary that its own checks accept.  It comes back
unchanged when the byte literals of the raw model hold no white space other than spaces: white space
of another kind may stay in a literal and be stripped by the second pass.
-/

namespace Sensorium.Model

open Lib

/-! ## The dictionary of a normal model -/

/-- `str(value)`, where `repr` is the representation of a value that is not a string. -/
def pyStr (repr : Value → Text) : Value → Text
  | .str s => s
  | v => repr v

/-- A normal model with the path that goes with it. -/
structure LocatedModel where
  path : Text
  model : RuntimeModel

/-- `normalize_runtime_model_data` with the path of its result. -/
def normalizeLocatedModel (repr : Value → Text) (source : Text) (raw : Value) :
    Checked LocatedModel := do
  let model ← normalizeRuntimeModelData raw
  let raw ← expectMapping raw [.field "model"]
  .ok ⟨pyStr repr (getD raw "path" (.str source)), model⟩

/-- The dictionary that `normalize_runtime_bus_item` returns. -/
def Bus.toNormal (b : Bus) : Value :=
  .dict [(.lit "id", .str b.id), (.lit "transport", .str b.transport.spelling),
    (.lit "name", .str b.name), (.lit "metadata", .dict b.metadata)]

/-- The fields of a device in the order of `normalize_runtime_device_item`. -/
def Device.fields (d : Device) : List (Text × Value) :=
  [(text "id", .str d.id), (text "bus", .str d.bus),
    (text "transport", .str d.part.transport.spelling), (text "backend", .dict d.part.backendEntries),
    (text "metadata", .dict d.metadata), (text "faults", .dict d.faults.toEntries)] ++
    (match d.part with
    | .i2c address _ => [(text "address", .int address)]
    | .spi chipSelect deviceName _ =>
      [(text "chip_select", .int chipSelect), (text "device_name", .str deviceName)]
    | .uart portName _ => [(text "port_name", .str portName)]) ++
    [(text "settings", .dict d.settings)]

/-- The dictionary that `normalize_runtime_device_item` returns. -/
def Device.toNormal (d : Device) : Value := .dict (d.fields.map fun p => (.str p.1, p.2))

/-- The dictionary that `normalize_runtime_model_data` returns. -/
def LocatedModel.toNormal (m : LocatedModel) : Value :=
  .dict [(.lit "path", .str m.path), (.lit "name", .str m.model.name),
    (.lit "schema_version", .int modelSchemaVersion), (.lit "adapter", .lit "runtime"),
    (.lit "runtime", .dict [(.lit "buses", .list (m.model.buses.map Bus.toNormal)),
      (.lit "devices", .list (m.model.devices.map Device.toNormal))])]

/-! ## The byte literals of a raw model -/

/-- White space other than spaces does not occur. -/
def Value.OnlySpaces : Value → Prop
  | .str s => ∀ c ∈ s, isSpace c = true → c = 32
  | _ => True

instance (v : Value) : Decidable v.OnlySpaces :=
  match v with
  | .str s => inferInstanceAs (Decidable (∀ c ∈ s, isSpace c = true → c = 32))
  | .null | .bool _ | .int _ | .float _ | .bytes _ | .list _ | .dict _ => .isTrue trivial

def Value.entries : Value → Entries
  | .dict es => es
  | _ => []

def Value.items : Value → List Value
  | .list xs => xs
  | _ => []

/-- The keys and values of a table of byte literals. -/
def tableLiterals (backend : Entries) (field : String) : List Value :=
  (get backend field).entries.flatMap fun e => [e.1, e.2]

/-- The byte literals of a template backend. -/
def backendLiterals (backend : Entries) : Transport → List Value
  | .i2c => []
  | .spi =>
    tableLiterals backend "responses" ++ tableLiterals backend "prefix_responses" ++
      [getD backend "default_response" (.lit ""), getD backend "flash_jedec_id" (.lit "")]
  | .uart =>
    tableLiterals backend "binary_responses" ++ [getD backend "default_response" (.lit "")]

/-- The values of a device item that are read as byte literals. -/
def itemLiterals (item : Value) : List Value :=
  let es := item.entries
  let backend := (get es "backend").entries
  getD (get es "faults").entries "reply_data" (.lit "") ::
    match expectString (get backend "kind") [], expectTransport (get es "transport") [] with
    | .ok kind, .ok transport =>
      if kind = text "template" then backendLiterals backend transport else []
    | _, _ => []

def modelLiterals (raw : Value) : List Value :=
  (get (get raw.entries "runtime").entries "devices").items.flatMap itemLiterals

/-! ## Literals without other white space settle -/

theorem strip_of_noSpace {s : Text} (h : ∀ c ∈ s, isSpace c = false) : strip s = s := by
  have hkeep (t : Text) (ht : ∀ c ∈ t, isSpace c = false) : t.filter (fun c => !isSpace c) = t :=
    List.filter_eq_self.mpr fun c hc => by simp [ht c hc]
  have hfilter := filter_strip s (fun c => !isSpace c) fun c hc => by simpa using hc
  rw [hkeep s h, hkeep _ fun c hc => h c (mem_of_mem_strip hc)] at hfilter
  exact hfilter

/-- The digits that are left of a literal come from it, the added zero apart. -/
theorem mem_of_mem_compactHex {s : Text} {c : Nat} (h : c ∈ compactHex s) : c = 48 ∨ c ∈ s := by
  have hdrop : ∀ d ∈ dropMarker (s.filter fun c => c ≠ 32 && c ≠ 95), d ∈ s := by
    intro d hd
    unfold dropMarker at hd
    split at hd
    · exact (List.mem_filter.mp (List.mem_of_mem_drop hd)).1
    · exact (List.mem_filter.mp hd).1
  unfold compactHex padEven at h
  split at h
  · exact (List.mem_cons.mp h).imp_right (hdrop c)
  · exact .inr (hdrop c h)

theorem isSpace_lowerAscii {c : Nat} (h : isSpace c = false) : isSpace (lowerAscii c) = false := by
  unfold lowerAscii
  split
  · rename_i hupper
    simp only [Bool.and_eq_true, decide_eq_true_eq] at hupper
    simp only [isSpace, isAsciiSpace, Bool.or_eq_false_iff, Bool.and_eq_false_iff,
      decide_eq_false_iff_not]
    omega
  · exact h

theorem noSpace_toHex {bs : List UInt8} {c : Nat} (h : c ∈ toHex bs) : isSpace c = false := by
  have hnibble : ∀ n < 16, isSpace (nibble n) = false := by decide
  obtain ⟨b, _, hc⟩ := List.mem_flatMap.mp h
  have hb := b.toNat_lt
  simp only [List.mem_cons, List.not_mem_nil, or_false] at hc
  rcases hc with rfl | rfl
  · exact hnibble _ (by omega)
  · exact hnibble _ (by omega)

theorem noSpace_of_normalizeBytesLiteral {v : Value} {label : Label} {s : Text}
    (hv : v.OnlySpaces) (h : normalizeBytesLiteral v label = .ok s) :
    ∀ c ∈ s, isSpace c = false := by
  intro c hc
  cases v with
  | bytes bs =>
    cases h
    exact noSpace_toHex hc
  | str t =>
    simp only [normalizeBytesLiteral] at h
    split at h
    · split at h
      · cases h
        exact noSpace_toHex hc
      · cases h
    · split at h
      · cases h
        obtain ⟨d, hd, rfl⟩ := List.mem_map.mp hc
        apply isSpace_lowerAscii
        rcases mem_of_mem_compactHex hd with rfl | hmem
        · decide
        · -- the one kind of white space that the literal may hold has been removed
          rw [← Bool.not_eq_true]
          exact fun hspace => mem_compactHex hd (hv d (mem_of_mem_strip hmem) hspace)
      · cases h
  | _ => cases h

theorem settled_of_made {s : Text} (h : Made Value.OnlySpaces s) : Settled s := by
  obtain ⟨v, l, hv, hs⟩ := h
  have hhex := hexText_of_normalizeBytesLiteral hs
  have hspace := noSpace_of_normalizeBytesLiteral hv hs
  obtain ⟨bs, hbs⟩ := fromHex?_of_normalizeBytesLiteral hs
  have heven : s.length % 2 = 0 := by
    have heven := hhex.even
    rw [List.filter_eq_self.mpr fun c hc => ?_] at heven
    · exact heven
    · have hc := hspace c hc
      simp only [isSpace, Bool.or_eq_false_iff] at hc
      simp [hc]
  intro label
  have hpad : padEven s = s := if_neg (by omega)
  simp only [normalizeBytesLiteral, strip_of_noSpace hspace, hhex.not_text, hhex.compactHex_eq,
    hpad, hbs, hhex.map_lowerAscii, Bool.false_eq_true, if_false]

/-! ## The literals of a device come from its item -/

section Origin

variable {v : Value} {label label' : Label} {q : Value → Prop}

theorem entries_of_expectMapping {es : Entries} (h : expectMapping v label = .ok es) :
    v.entries = es := by
  cases v with
  | null | dict es =>
    cases h
    rfl
  | _ => cases h

theorem items_of_expectList {xs : List Value} (h : expectList v label = .ok xs) :
    v.items = xs := by
  cases v with
  | null | list xs =>
    cases h
    rfl
  | _ => cases h

theorem expectString_relabel {s : Text} (h : expectString v label = .ok s) :
    expectString v label' = .ok s := by
  cases v with
  | str t =>
    simp only [expectString, expectStringIn] at h ⊢
    split at h
    · cases h
    · rename_i hne
      rw [if_neg hne]
      exact h
  | _ => cases h

theorem expectTransport_relabel {t : Transport} (h : expectTransport v label = .ok t) :
    expectTransport v label' = .ok t := by
  unfold expectTransport oneOf at h ⊢
  obtain ⟨name, hname, h⟩ := bind_eq_ok.mp h
  refine bind_eq_ok.mpr ⟨name, expectString_relabel hname, ?_⟩
  split at h
  · exact h
  · cases h

theorem fieldAll_of_tableLiterals {es : Entries} {field : String}
    (h : ∀ w ∈ tableLiterals es field, q w) : FieldAll q es field := by
  intro l m hm e he
  rw [tableLiterals, entries_of_expectMapping hm] at h
  have hmem (w : Value) (hw : w ∈ [e.1, e.2]) : q w := h w (List.mem_flatMap.mpr ⟨e, he, hw⟩)
  exact ⟨hmem e.1 (by simp), hmem e.2 (by simp)⟩

-- A controller has no byte literals.
theorem literals_of_controller {transport : Transport} {item backend : Entries}
    {worker : Option Worker} {bus : Bus} {fields : Part × Entries} {P : Text → Prop}
    (h : normalizePart transport item backend (.controller worker) bus label = .ok fields) :
    fields.1.Literals P := by
  cases transport with
  | i2c =>
    obtain ⟨address, _, h⟩ := bind_eq_ok.mp h
    cases h
    trivial
  | spi =>
    obtain ⟨chipSelect, _, h⟩ := bind_eq_ok.mp h
    obtain ⟨index, _, h⟩ := bind_eq_ok.mp h
    obtain ⟨name, _, h⟩ := bind_eq_ok.mp h
    obtain ⟨_, _, h⟩ := bind_eq_ok.mp h
    obtain ⟨settings, _, h⟩ := bind_eq_ok.mp h
    cases h
    trivial
  | uart =>
    obtain ⟨port, _, h⟩ := bind_eq_ok.mp h
    obtain ⟨settings, _, h⟩ := bind_eq_ok.mp h
    cases h
    trivial

theorem made_of_backendLiterals {transport : Transport} {item backend : Entries}
    {head : BackendHead} {bus : Bus} {fields : Part × Entries}
    (h : normalizePart transport item backend head bus label = .ok fields)
    (hq : ∀ w ∈ backendLiterals backend transport, q w) : fields.1.Literals (Made q) := by
  refine made_of_normalizePart h (fun l c ht hc => ?_) fun l c ht hc => ?_
  · subst ht
    simp only [backendLiterals, List.forall_mem_append, List.forall_mem_cons] at hq
    exact made_of_normalizeSpiScript hc (fieldAll_of_tableLiterals hq.1.1)
      (fieldAll_of_tableLiterals hq.1.2) hq.2.1 hq.2.2.1
  · subst ht
    simp only [backendLiterals, List.forall_mem_append, List.forall_mem_cons] at hq
    exact made_of_normalizeUartScript hc (fieldAll_of_tableLiterals hq.1) hq.2.1

theorem made_of_itemLiterals {busesById : List (Text × Bus)} {z : Device}
    (h : normalizeRuntimeDeviceItem v busesById label = .ok z) (hq : ∀ w ∈ itemLiterals v, q w) :
    z.Literals (Made q) := by
  obtain ⟨item, bus, backend, head, hitem, _, hz⟩ := normalizeRuntimeDeviceItem_eq_ok.mp h
  unfold itemLiterals at hq
  rw [entries_of_expectMapping hitem] at hq
  dsimp only at hq
  rw [entries_of_expectMapping hz.backend, expectTransport_relabel hz.transport] at hq
  obtain ⟨hreply, hbackend⟩ := List.forall_mem_cons.mp hq
  refine ⟨made_of_normalizeFaults hz.faults (fun l m hm => (entries_of_expectMapping hm).symm)
    hreply, ?_⟩
  have hhead := hz.head
  unfold normalizeBackendHead at hhead
  obtain ⟨kind, hkind, hhead⟩ := bind_eq_ok.mp hhead
  rw [expectString_relabel hkind] at hbackend
  dsimp only at hbackend
  by_cases htemplate : kind = text "template"
  · rw [if_pos htemplate] at hbackend
    exact made_of_backendLiterals hz.part hbackend
  · rw [if_neg htemplate] at hhead
    have hworker : ∃ worker, head = .controller worker := by
      split at hhead
      · split at hhead
        · cases hhead
          exact ⟨none, rfl⟩
        · obtain ⟨worker, _, hhead⟩ := bind_eq_ok.mp hhead
          cases hhead
          exact ⟨some worker, rfl⟩
      · cases hhead
    obtain ⟨worker, rfl⟩ := hworker
    exact literals_of_controller hz.part

end Origin

/-! ## The order of the keys -/

theorem lookup_fields (ps : List (Text × Value)) (k : Text) :
    lookup (ps.map fun p => (.str p.1, p.2)) k = dictGet ps k := by
  induction ps with
  | nil => rfl
  | cons p ps ih => rw [List.map_cons, lookup, dictGet, ih]

/-- The fields of a device in the order of a snapshot. -/
def Device.snapshotFields (d : Device) : List (Text × Value) :=
  [(text "id", .str d.id), (text "bus", .str d.bus),
    (text "transport", .str d.part.transport.spelling)] ++
    (match d.part with
    | .i2c address _ => [(text "address", .int address)]
    | .spi chipSelect deviceName _ =>
      [(text "chip_select", .int chipSelect), (text "device_name", .str deviceName)]
    | .uart portName _ => [(text "port_name", .str portName)]) ++
    [(text "backend", .dict d.part.backendEntries), (text "metadata", .dict d.metadata),
      (text "faults", .dict d.faults.toEntries), (text "settings", .dict d.settings)]

theorem Device.toEntries_eq (d : Device) :
    d.toEntries = d.snapshotFields.map fun p => (.str p.1, p.2) := by
  unfold Device.toEntries Device.snapshotFields
  cases d.part <;> rfl

theorem Device.fields_perm (d : Device) : d.fields.Perm d.snapshotFields := by
  unfold Device.fields Device.snapshotFields
  simp only [List.append_assoc]
  exact .append_left [_, _, _] (List.perm_append_comm_assoc [_, _, _] _ _)

theorem Device.nodup_fields (d : Device) : (keys d.fields).Nodup := by
  obtain ⟨id, bus, part, metadata, faults, settings⟩ := d
  have hnodup : ∀ own ∈ [["address"], ["chip_select", "device_name"], ["port_name"]],
      ((["id", "bus", "transport", "backend", "metadata", "faults"] ++ own ++
        ["settings"]).map text).Nodup := by decide
  cases part with
  | i2c => exact hnodup ["address"] (by decide)
  | spi => exact hnodup ["chip_select", "device_name"] (by decide)
  | uart => exact hnodup ["port_name"] (by decide)

theorem lookup_toNormal (d : Device) :
    lookup (d.fields.map fun p => (.str p.1, p.2)) = lookup d.toEntries := by
  funext k
  rw [d.toEntries_eq, lookup_fields, lookup_fields]
  exact dictGet_perm d.fields_perm d.nodup_fields k

/-- The checks of a device look its fields up by name. -/
theorem normalizeRuntimeDeviceItem_lookup {es es' : Entries} (h : lookup es = lookup es')
    (busesById : List (Text × Bus)) (label : Label) :
    normalizeRuntimeDeviceItem (.dict es) busesById label =
      normalizeRuntimeDeviceItem (.dict es') busesById label := by
  unfold normalizeRuntimeDeviceItem normalizePart normalizeI2cPart normalizeSpiPart
    normalizeUartPart expectMapping
  simp only [get, getD, h, bind, Except.bind]

/-- The checks of a model look these four fields up. -/
theorem normalizeRuntimeModelData_get {es es' : Entries}
    (h : ∀ k ∈ ["name", "adapter", "schema_version", "runtime"], get es k = get es' k) :
    normalizeRuntimeModelData (.dict es) = normalizeRuntimeModelData (.dict es') := by
  unfold normalizeRuntimeModelData expectMapping
  simp only [h "name" (by decide), h "adapter" (by decide), h "schema_version" (by decide),
    h "runtime" (by decide), bind, Except.bind]

theorem get_cons_of_ne {key k : String} (h : text key ≠ text k) (v : Value) (es : Entries) :
    get ((.lit key, v) :: es) k = get es k := by
  show (lookup ((.lit key, v) :: es) (text k)).getD .null = (lookup es (text k)).getD .null
  rw [Value.lit, lookup, if_neg h]

/-- `path` is not among the fields that are checked. -/
theorem normalizeRuntimeModelData_toNormal_eq (m : LocatedModel) :
    normalizeRuntimeModelData m.toNormal =
      normalizeRuntimeModelData (exportedModel m.model.name (m.model.buses.map Bus.toNormal)
        (m.model.devices.map Device.toNormal)) := by
  have hpath : ∀ k ∈ ["name", "adapter", "schema_version", "runtime"], text "path" ≠ text k := by
    decide
  exact normalizeRuntimeModelData_get fun k hk => get_cons_of_ne (hpath k hk) _ _

/-! ## The second pass -/

section SecondPass

variable {raw : Value} {m : RuntimeModel}

theorem normalizeRuntimeBusItem_toNormal {v : Value} {label label' : Label} {b : Bus}
    (h : normalizeRuntimeBusItem v label = .ok b) :
    normalizeRuntimeBusItem b.toNormal label' = .ok b := by
  have hself : normalizeRuntimeBusItem b.toItem label' = .ok { b with metadata := [] } :=
    normalizeRuntimeBusItem_self h
  unfold normalizeRuntimeBusItem at hself ⊢
  obtain ⟨item, hitem, hself⟩ := bind_eq_ok.mp hself
  cases hitem
  obtain ⟨id, hid, hself⟩ := bind_eq_ok.mp hself
  obtain ⟨transport, htransport, hself⟩ := bind_eq_ok.mp hself
  refine bind_eq_ok.mpr ⟨_, rfl, bind_eq_ok.mpr ⟨id, hid, ?_⟩⟩
  refine bind_eq_ok.mpr ⟨transport, htransport, ?_⟩
  cases transport with
  | i2c | spi | uart =>
    obtain ⟨name, hname, hself⟩ := bind_eq_ok.mp hself
    obtain ⟨metadata, _, hself⟩ := bind_eq_ok.mp hself
    obtain ⟨bid, btransport, bname, bmetadata⟩ := b
    cases hself
    exact bind_eq_ok.mpr ⟨bname, hname, bind_eq_ok.mpr ⟨bmetadata, rfl, rfl⟩⟩

theorem settled_of_modelLiterals (hm : normalizeRuntimeModelData raw = .ok m)
    (hliterals : ∀ w ∈ modelLiterals raw, w.OnlySpaces) {z : Device} (hz : z ∈ m.devices) :
    ∃ v l, normalizeRuntimeDeviceItem v (busesById m.buses) l = .ok z ∧ z.Literals Settled := by
  obtain ⟨es, runtime, busesRaw, devicesRaw, hes, hruntime, _, hdevices, hsource⟩ :=
    source_of_normalizeRuntimeModelData hm
  obtain ⟨p, hp, hitem⟩ := exists_mem_of_forall₂ hsource.devices hz
  rw [modelLiterals, entries_of_expectMapping hes, entries_of_expectMapping hruntime,
    items_of_expectList hdevices] at hliterals
  have hown : ∀ w ∈ itemLiterals p.1, w.OnlySpaces := fun w hw =>
    hliterals w (List.mem_flatMap.mpr ⟨p.1, List.fst_mem_of_mem_zipIdx hp, hw⟩)
  exact ⟨p.1, _, hitem, (made_of_itemLiterals hitem hown).imp fun _ => settled_of_made⟩

theorem normalizeRuntimeModelData_toNormal (hm : normalizeRuntimeModelData raw = .ok m)
    (hliterals : ∀ w ∈ modelLiterals raw, w.OnlySpaces) (path : Text) :
    normalizeRuntimeModelData (LocatedModel.toNormal ⟨path, m⟩) = .ok m := by
  have hbuses : List.Forall₂ (fun p b => normalizeRuntimeBusItem p.1 (busLabel p.2) = .ok b)
      (m.buses.map Bus.toNormal).zipIdx m.buses := by
    rw [List.zipIdx_map, List.forall₂_map_left_iff]
    refine forall₂_zipIdx_self fun b hb i => ?_
    obtain ⟨v, l, hnormal⟩ := m.busesNormal b hb
    exact normalizeRuntimeBusItem_toNormal hnormal
  have hdevices : List.Forall₂ (fun p d =>
      normalizeRuntimeDeviceItem p.1 (busesById m.buses) (deviceLabel p.2) = .ok d)
      (m.devices.map Device.toNormal).zipIdx m.devices := by
    rw [List.zipIdx_map, List.forall₂_map_left_iff]
    refine forall₂_zipIdx_self fun z hz i => ?_
    obtain ⟨v, l, hnormal, hsettled⟩ := settled_of_modelLiterals hm hliterals hz
    show normalizeRuntimeDeviceItem (.dict (z.fields.map fun p => (.str p.1, p.2))) _ _ = _
    rw [normalizeRuntimeDeviceItem_lookup (lookup_toNormal z)]
    exact normalizeRuntimeDeviceItem_self hnormal hsettled
  obtain ⟨m', hm', hname, hb, hd⟩ := normalizeRuntimeModelData_accepts
    (name_of_normalizeRuntimeModelData hm) hbuses m.busIds m.busNames hdevices m.deviceIds m.places
  have hsame : m' = m := by
    cases m
    cases m'
    cases hname
    cases hb
    cases hd
    rfl
  rw [hsame] at hm'
  exact (normalizeRuntimeModelData_toNormal_eq ⟨path, m⟩).trans hm'

/-- A model whose byte literals hold no white space but spaces is normalised once and for all. -/
theorem normalization_idempotent (repr : Value → Text) {source : Text} {m : LocatedModel}
    (h : normalizeLocatedModel repr source raw = .ok m)
    (hliterals : ∀ w ∈ modelLiterals raw, w.OnlySpaces) (source' : Text) :
    normalizeLocatedModel repr source' m.toNormal = .ok m := by
  unfold normalizeLocatedModel at h
  obtain ⟨model, hmodel, h⟩ := bind_eq_ok.mp h
  obtain ⟨es, _, h⟩ := bind_eq_ok.mp h
  cases h
  refine bind_eq_ok.mpr ⟨model, normalizeRuntimeModelData_toNormal hmodel hliterals _, ?_⟩
  exact bind_eq_ok.mpr ⟨_, rfl, rfl⟩

end SecondPass

/-- A scripted SPI device with a literal in text and one in spaced digits. -/
def spacedModel : Value :=
  .dict [(.lit "name", .lit "bench"), (.lit "adapter", .lit "runtime"),
    (.lit "runtime", .dict [
      (.lit "buses", .list [.dict [(.lit "id", .lit "s"), (.lit "transport", .lit "spi"),
        (.lit "name", .lit "spi0"), (.lit "metadata", .dict [(.lit "rack", .int 2)])]]),
      (.lit "devices", .list [.dict [(.lit "id", .lit "rom"), (.lit "bus", .lit "s"),
        (.lit "transport", .lit "spi"), (.lit "chip_select", .lit "0x1"),
        (.lit "backend", .dict [(.lit "kind", .lit "template"), (.lit "template", .lit "spi-script"),
          (.lit "responses", .dict [(.lit " 0x9 F", .lit "text:id")])])]])])]

/-- The response is stored under `9f` and both passes return it. -/
theorem normalization_idempotent_spaced :
    ∃ m, normalizeLocatedModel (fun _ => text "None") (text "bench.yaml") spacedModel = .ok m ∧
      m.model.devices.map Device.literals = [[text "9f", text "6964", []]] ∧
      normalizeLocatedModel (fun _ => text "None") [] m.toNormal = .ok m := by
  have hrun : (normalizeLocatedModel (fun _ => text "None") (text "bench.yaml")
      spacedModel).toOption.map (fun m => m.model.devices.map Device.literals) =
      some [[text "9f", text "6964", []]] := by decide +kernel
  obtain ⟨m, hm, hview⟩ := Option.map_eq_some_iff.mp hrun
  have hok := ok_of_toOption hm
  exact ⟨m, hok, hview, normalization_idempotent _ hok (by decide +kernel) []⟩

end Sensorium.Model

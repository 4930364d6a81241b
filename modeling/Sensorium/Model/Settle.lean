import Sensorium.Model.Normalize

/-!
# Normal forms pass normalisation unchanged

The dictionary of a normal form is accepted again and gives the same record, provided its byte
literals are settled.  The literals of a first pass need not be; those of a second pass are.
-/

namespace Sensorium.Model

open Lib

variable {v : Value} {label label' : Label} {P Q : Text → Prop}

/-! ## Byte literals of a device -/

def Backend.All {σ : Type} (p : σ → Prop) : Backend σ → Prop
  | .controller _ => True
  | .template _ script => p script

structure SpiScript.Literals (P : Text → Prop) (c : SpiScript) : Prop where
  responses : ∀ p ∈ c.responses, P p.1 ∧ P p.2
  prefixResponses : ∀ p ∈ c.prefixResponses, P p.1 ∧ P p.2
  defaultResponse : P c.defaultResponse
  flash : ∀ f, c.flash = some f → P f.jedecId

structure UartScript.Literals (P : Text → Prop) (c : UartScript) : Prop where
  binaryResponses : ∀ p ∈ c.binaryResponses, P p.1 ∧ P p.2
  defaultResponse : P c.defaultResponse

def Part.Literals (P : Text → Prop) : Part → Prop
  | .i2c _ _ => True
  | .spi _ _ backend => backend.All (SpiScript.Literals P)
  | .uart _ backend => backend.All (UartScript.Literals P)

structure Device.Literals (P : Text → Prop) (d : Device) : Prop where
  reply : ∀ r, d.faults.replyData = some r → P r
  part : d.part.Literals P

/-! ### All literals of a device -/

def Backend.literals {σ : Type} (literals : σ → List Text) : Backend σ → List Text
  | .controller _ => []
  | .template _ script => literals script

def pairTexts (ps : List (Text × Text)) : List Text := ps.flatMap fun p => [p.1, p.2]

def SpiScript.literals (c : SpiScript) : List Text :=
  pairTexts c.responses ++ pairTexts c.prefixResponses ++ c.defaultResponse ::
    (c.flash.map Flash.jedecId).toList

def UartScript.literals (c : UartScript) : List Text :=
  c.defaultResponse :: pairTexts c.binaryResponses

def Part.literals : Part → List Text
  | .i2c _ _ => []
  | .spi _ _ backend => backend.literals SpiScript.literals
  | .uart _ backend => backend.literals UartScript.literals

def Device.literals (d : Device) : List Text := d.faults.replyData.toList ++ d.part.literals

theorem forall_mem_pairTexts {P : Text → Prop} {ps : List (Text × Text)} :
    (∀ s ∈ pairTexts ps, P s) ↔ ∀ p ∈ ps, P p.1 ∧ P p.2 := by
  simp only [pairTexts, List.forall_mem_flatMap, List.forall_mem_cons, List.not_mem_nil,
    false_implies, implies_true, and_true]

theorem SpiScript.literals_iff {P : Text → Prop} {c : SpiScript} :
    c.Literals P ↔ ∀ s ∈ c.literals, P s := by
  simp only [SpiScript.literals, List.forall_mem_append, List.forall_mem_cons,
    forall_mem_pairTexts]
  constructor
  · intro h
    refine ⟨⟨h.responses, h.prefixResponses⟩, h.defaultResponse, fun s hs => ?_⟩
    obtain ⟨f, hf, rfl⟩ := Option.map_eq_some_iff.mp (Option.mem_toList.mp hs)
    exact h.flash f hf
  · rintro ⟨⟨hr, hp⟩, hd, hf⟩
    refine ⟨hr, hp, hd, fun f hflash => hf _ (Option.mem_toList.mpr ?_)⟩
    rw [hflash]
    rfl

theorem UartScript.literals_iff {P : Text → Prop} {c : UartScript} :
    c.Literals P ↔ ∀ s ∈ c.literals, P s := by
  simp only [UartScript.literals, List.forall_mem_cons, forall_mem_pairTexts]
  exact ⟨fun h => ⟨h.defaultResponse, h.binaryResponses⟩, fun h => ⟨h.2, h.1⟩⟩

theorem Backend.literals_iff {σ : Type} {P : Text → Prop} {p : σ → Prop}
    {literals : σ → List Text} (h : ∀ s, p s ↔ ∀ t ∈ literals s, P t) (b : Backend σ) :
    b.All p ↔ ∀ s ∈ b.literals literals, P s := by
  cases b with
  | controller w => simp [Backend.All, Backend.literals]
  | template kind script => exact h script

theorem Device.literals_iff {P : Text → Prop} {d : Device} :
    d.Literals P ↔ ∀ s ∈ d.literals, P s := by
  have hpart : d.part.Literals P ↔ ∀ s ∈ d.part.literals, P s := by
    cases d.part with
    | i2c address b => simp [Part.Literals, Part.literals]
    | spi chipSelect deviceName b =>
      exact b.literals_iff (p := SpiScript.Literals P) fun _ => SpiScript.literals_iff
    | uart portName b =>
      exact b.literals_iff (p := UartScript.Literals P) fun _ => UartScript.literals_iff
  simp only [Device.literals, List.forall_mem_append, Option.mem_toList]
  exact ⟨fun h => ⟨h.reply, hpart.mp h.part⟩, fun h => ⟨h.1, hpart.mpr h.2⟩⟩

instance (P : Text → Prop) [DecidablePred P] (d : Device) : Decidable (d.Literals P) :=
  decidable_of_iff _ Device.literals_iff.symm

/-- A literal made from a value with a given property. -/
def Made (q : Value → Prop) (s : Text) : Prop :=
  ∃ w l, q w ∧ normalizeBytesLiteral w l = .ok s

theorem Made.hexText {q : Value → Prop} {s : Text} (h : Made q s) : HexText s := by
  obtain ⟨w, l, _, hs⟩ := h
  exact hexText_of_normalizeBytesLiteral hs

/-- Values that are results of a first pass. -/
def Passed (w : Value) : Prop := ∃ t, w = .str t ∧ HexText t

theorem Made.settled {s : Text} (h : Made Passed s) : Settled s := by
  obtain ⟨_, l, ⟨t, rfl, ht⟩, hs⟩ := h
  exact ht.settled hs

theorem hexText_nil : HexText [] := ⟨by simp, rfl⟩

theorem passed_lit_nil : Passed (.lit "") := ⟨[], rfl, hexText_nil⟩

theorem Backend.All.imp {σ : Type} {p q : σ → Prop} (hpq : ∀ s, p s → q s) {b : Backend σ}
    (h : b.All p) : b.All q := by
  cases b with
  | controller w => trivial
  | template k s => exact hpq s h

theorem SpiScript.Literals.imp (hPQ : ∀ s, P s → Q s) {c : SpiScript} (h : c.Literals P) :
    c.Literals Q :=
  ⟨fun p hp => (h.responses p hp).imp (hPQ _) (hPQ _),
    fun p hp => (h.prefixResponses p hp).imp (hPQ _) (hPQ _), hPQ _ h.defaultResponse,
    fun f hf => hPQ _ (h.flash f hf)⟩

theorem UartScript.Literals.imp (hPQ : ∀ s, P s → Q s) {c : UartScript} (h : c.Literals P) :
    c.Literals Q :=
  ⟨fun p hp => (h.binaryResponses p hp).imp (hPQ _) (hPQ _), hPQ _ h.defaultResponse⟩

theorem Device.Literals.imp (hPQ : ∀ s, P s → Q s) {d : Device} (h : d.Literals P) :
    d.Literals Q := by
  refine ⟨fun r hr => hPQ r (h.reply r hr), ?_⟩
  have hpart := h.part
  cases hd : d.part with
  | i2c address backend => trivial
  | spi chipSelect deviceName backend =>
    rw [hd] at hpart
    exact Backend.All.imp (fun _ => SpiScript.Literals.imp hPQ) hpart
  | uart portName backend =>
    rw [hd] at hpart
    exact Backend.All.imp (fun _ => UartScript.Literals.imp hPQ) hpart

/-! ## Where the literals of a result come from -/

section

variable {q : Value → Prop} {es : Entries}

/-- Every key and value of a mapping field has a property. -/
def FieldAll (q : Value → Prop) (es : Entries) (field : String) : Prop :=
  ∀ l m, expectMapping (get es field) l = .ok m → ∀ e ∈ m, q e.1 ∧ q e.2

theorem made_of_normalizeLiterals {field : String} {out : List (Text × Text)}
    (h : normalizeLiterals es field label = .ok out) (hq : FieldAll q es field) :
    ∀ p ∈ out, Made q p.1 ∧ Made q p.2 := by
  intro p hp
  unfold normalizeLiterals at h
  obtain ⟨m, hm, h⟩ := bind_eq_ok.mp h
  obtain ⟨e, he, hent⟩ := (mem_of_collect h hp).resolve_left (by simp)
  obtain ⟨key, hkey, hent⟩ := bind_eq_ok.mp hent
  obtain ⟨value, hvalue, hent⟩ := bind_eq_ok.mp hent
  cases hent
  exact ⟨⟨_, _, (hq _ m hm e he).1, hkey⟩, ⟨_, _, (hq _ m hm e he).2, hvalue⟩⟩

theorem made_of_normalizeSpiScript {c : SpiScript} (h : normalizeSpiScript es label = .ok c)
    (hresponses : FieldAll q es "responses") (hbefore : FieldAll q es "prefix_responses")
    (hdefault : q (getD es "default_response" (.lit "")))
    (hflash : q (getD es "flash_jedec_id" (.lit ""))) : c.Literals (Made q) := by
  unfold normalizeSpiScript at h
  obtain ⟨responses, hr, h⟩ := bind_eq_ok.mp h
  obtain ⟨prefixResponses, hp, h⟩ := bind_eq_ok.mp h
  obtain ⟨response, hd, h⟩ := bind_eq_ok.mp h
  obtain ⟨echo, _, h⟩ := bind_eq_ok.mp h
  obtain ⟨flash, hf, h⟩ := bind_eq_ok.mp h
  cases h
  refine ⟨made_of_normalizeLiterals hr hresponses, made_of_normalizeLiterals hp hbefore,
    ⟨_, _, hdefault, hd⟩, ?_⟩
  rintro f rfl
  have hfl := (onlyIf_eq_some hf).2
  unfold normalizeFlash at hfl
  obtain ⟨jedec, hj, hfl⟩ := bind_eq_ok.mp hfl
  obtain ⟨status, _, hfl⟩ := bind_eq_ok.mp hfl
  obtain ⟨cycles, _, hfl⟩ := bind_eq_ok.mp hfl
  cases hfl
  exact ⟨_, _, hflash, hj⟩

theorem made_of_normalizeUartScript {c : UartScript} (h : normalizeUartScript es label = .ok c)
    (hbinary : FieldAll q es "binary_responses")
    (hdefault : q (getD es "default_response" (.lit ""))) : c.Literals (Made q) := by
  unfold normalizeUartScript at h
  obtain ⟨lines, _, h⟩ := bind_eq_ok.mp h
  obtain ⟨binary, hb, h⟩ := bind_eq_ok.mp h
  obtain ⟨echo, _, h⟩ := bind_eq_ok.mp h
  obtain ⟨response, hd, h⟩ := bind_eq_ok.mp h
  obtain ⟨control, _, h⟩ := bind_eq_ok.mp h
  obtain ⟨cts, _, h⟩ := bind_eq_ok.mp h
  obtain ⟨carrier, _, h⟩ := bind_eq_ok.mp h
  cases h
  exact ⟨made_of_normalizeLiterals hb hbinary, ⟨_, _, hdefault, hd⟩⟩

theorem made_of_normalizeFaults {f : Faults} {m : Entries}
    (h : normalizeFaults v label = .ok f) (hm : ∀ l m', expectMapping v l = .ok m' → m' = m)
    (hreply : q (getD m "reply_data" (.lit ""))) :
    ∀ r, f.replyData = some r → Made q r := by
  intro r hr
  unfold normalizeFaults at h
  obtain ⟨faults, hfaults, h⟩ := bind_eq_ok.mp h
  obtain ⟨name, _, h⟩ := bind_eq_ok.mp h
  obtain ⟨mode, _, h⟩ := bind_eq_ok.mp h
  obtain ⟨remaining, _, h⟩ := bind_eq_ok.mp h
  obtain ⟨errno, _, h⟩ := bind_eq_ok.mp h
  obtain ⟨replyData, hd, h⟩ := bind_eq_ok.mp h
  cases h
  cases hr
  rw [hm _ _ hfaults] at hd
  exact ⟨_, _, hreply, (onlyIf_eq_some hd).2⟩

theorem finishBackend_eq_template {σ : Type} {head : BackendHead} {script : Checked σ}
    {b : Backend σ} {p : σ → Prop} (h : finishBackend head script = .ok b)
    (hscript : ∀ s, script = .ok s → p s) : b.All p := by
  cases head with
  | controller w =>
    cases h
    trivial
  | template kind =>
    obtain ⟨s, hs, h⟩ := bind_eq_ok.mp h
    cases h
    exact hscript s hs

end

/-! ## What acceptance of a device says -/

theorem normalizePart_transport {transport : Transport} {item backend : Entries}
    {head : BackendHead} {bus : Bus} {fields : Part × Entries}
    (h : normalizePart transport item backend head bus label = .ok fields) :
    fields.1.transport = transport := by
  cases transport with
  | i2c =>
    obtain ⟨address, _, h⟩ := bind_eq_ok.mp h
    obtain ⟨full, _, h⟩ := bind_eq_ok.mp h
    cases h
    rfl
  | spi =>
    obtain ⟨chipSelect, _, h⟩ := bind_eq_ok.mp h
    obtain ⟨index, _, h⟩ := bind_eq_ok.mp h
    obtain ⟨name, _, h⟩ := bind_eq_ok.mp h
    obtain ⟨_, _, h⟩ := bind_eq_ok.mp h
    obtain ⟨settings, _, h⟩ := bind_eq_ok.mp h
    obtain ⟨full, _, h⟩ := bind_eq_ok.mp h
    cases h
    rfl
  | uart =>
    obtain ⟨port, _, h⟩ := bind_eq_ok.mp h
    obtain ⟨settings, _, h⟩ := bind_eq_ok.mp h
    obtain ⟨full, _, h⟩ := bind_eq_ok.mp h
    cases h
    rfl

/-- The checks that a device on `bus` has passed, with the dictionaries they read. -/
structure Accepted (item : Entries) (bus : Bus) (fields : Entries) (kind : BackendHead)
    (label : Label) (z : Device) : Prop where
  id : expectName (get item "id") (label.dot "id") = .ok z.id
  busId : expectName (get item "bus") (label.dot "bus") = .ok z.bus
  transport : expectTransport (get item "transport") (label.dot "transport") = .ok z.part.transport
  same : z.part.transport = bus.transport
  backend : expectMapping (get item "backend") (label.dot "backend") = .ok fields
  head : normalizeBackendHead fields (label.dot "backend") = .ok kind
  metadata : expectMapping (get item "metadata") (label.dot "metadata") = .ok z.metadata
  faults : normalizeFaults (get item "faults") (label.dot "faults") = .ok z.faults
  part : normalizePart z.part.transport item fields kind bus label = .ok (z.part, z.settings)

theorem normalizeRuntimeDeviceItem_eq_ok {busesById : List (Text × Bus)} {z : Device} :
    normalizeRuntimeDeviceItem v busesById label = .ok z ↔
      ∃ item bus backend head, expectMapping v label = .ok item ∧
        dictGet busesById z.bus = some bus ∧ Accepted item bus backend head label z := by
  constructor
  · intro h
    unfold normalizeRuntimeDeviceItem at h
    obtain ⟨item, hitem, h⟩ := bind_eq_ok.mp h
    obtain ⟨id, hid, h⟩ := bind_eq_ok.mp h
    obtain ⟨busId, hbusId, h⟩ := bind_eq_ok.mp h
    obtain ⟨bus, hbus, h⟩ := bind_eq_ok.mp h
    obtain ⟨transport, htransport, h⟩ := bind_eq_ok.mp h
    obtain ⟨_, hsame, h⟩ := bind_eq_ok.mp h
    obtain ⟨backend, hbackend, h⟩ := bind_eq_ok.mp h
    obtain ⟨head, hhead, h⟩ := bind_eq_ok.mp h
    obtain ⟨metadata, hmetadata, h⟩ := bind_eq_ok.mp h
    obtain ⟨faults, hfaults, h⟩ := bind_eq_ok.mp h
    obtain ⟨fields, hfields, h⟩ := bind_eq_ok.mp h
    cases h
    have ht := normalizePart_transport hfields
    subst ht
    refine ⟨item, bus, backend, head, hitem, ?_, hid, hbusId, htransport, ?_, hbackend, hhead,
      hmetadata, hfaults, hfields⟩
    · unfold findBus at hbus
      split at hbus
      · rename_i b hb
        cases hbus
        exact hb
      · cases hbus
    · unfold checkTransport at hsame
      split at hsame
      · assumption
      · cases hsame
  · rintro ⟨item, bus, backend, head, hitem, hbus, h⟩
    unfold normalizeRuntimeDeviceItem
    refine bind_eq_ok.mpr ⟨item, hitem, ?_⟩
    refine bind_eq_ok.mpr ⟨z.id, h.id, bind_eq_ok.mpr ⟨z.bus, h.busId, ?_⟩⟩
    refine bind_eq_ok.mpr ⟨bus, by simp only [findBus, hbus], ?_⟩
    refine bind_eq_ok.mpr ⟨z.part.transport, h.transport, ?_⟩
    refine bind_eq_ok.mpr ⟨(), by rw [checkTransport, if_pos h.same], ?_⟩
    refine bind_eq_ok.mpr ⟨backend, h.backend, bind_eq_ok.mpr ⟨head, h.head, ?_⟩⟩
    refine bind_eq_ok.mpr ⟨z.metadata, h.metadata, bind_eq_ok.mpr ⟨z.faults, h.faults, ?_⟩⟩
    exact bind_eq_ok.mpr ⟨_, h.part, rfl⟩

/-- Only the identity, the transport and the name of the bus are read. -/
theorem normalizeRuntimeDeviceItem_congr {buses buses' : List (Text × Bus)} {z : Device}
    (hsame : ∀ k b, dictGet buses k = some b →
      ∃ b', dictGet buses' k = some b' ∧ b'.transport = b.transport ∧ b'.name = b.name)
    (h : normalizeRuntimeDeviceItem v buses label = .ok z) :
    normalizeRuntimeDeviceItem v buses' label = .ok z := by
  obtain ⟨item, bus, backend, head, hitem, hbus, hz⟩ := normalizeRuntimeDeviceItem_eq_ok.mp h
  obtain ⟨bus', hbus', ht, hn⟩ := hsame _ _ hbus
  refine normalizeRuntimeDeviceItem_eq_ok.mpr
    ⟨item, bus', backend, head, hitem, hbus', { hz with same := ?_, part := ?_ }⟩
  · rw [ht]
    exact hz.same
  · have hpart := hz.part
    cases hpt : z.part.transport with
    | i2c =>
      rw [hpt] at hpart
      exact hpart
    | uart =>
      rw [hpt] at hpart
      exact hpart
    | spi =>
      rw [hpt] at hpart
      unfold normalizePart normalizeSpiPart checkDeviceName at hpart ⊢
      rw [hn]
      exact hpart

/-! ## The literals of a device after one pass and after two -/

theorem fieldAll_of_null {q : Value → Prop} {es : Entries} {field : String}
    (h : get es field = .null) : FieldAll q es field := by
  intro l m hm e he
  rw [h] at hm
  cases hm
  cases he

theorem fieldAll_textEntries {es : Entries} {field : String} {ps : List (Text × Text)}
    (h : get es field = .dict (textEntries ps)) (hps : ∀ p ∈ ps, HexText p.1 ∧ HexText p.2) :
    FieldAll Passed es field := by
  intro l m hm e he
  rw [h] at hm
  cases hm
  obtain ⟨p, hp, rfl⟩ := List.mem_map.mp he
  exact ⟨⟨p.1, rfl, (hps p hp).1⟩, ⟨p.2, rfl, (hps p hp).2⟩⟩

/-- The literals of the transport's part, from what is known of the backend's dictionary. -/
theorem made_of_normalizePart {q : Value → Prop} {transport : Transport} {item backend : Entries}
    {head : BackendHead} {bus : Bus} {fields : Part × Entries}
    (h : normalizePart transport item backend head bus label = .ok fields)
    (hspi : ∀ l c, transport = .spi → normalizeSpiScript backend l = .ok c → c.Literals (Made q))
    (huart : ∀ l c, transport = .uart → normalizeUartScript backend l = .ok c →
      c.Literals (Made q)) : fields.1.Literals (Made q) := by
  cases transport with
  | i2c =>
    obtain ⟨address, _, h⟩ := bind_eq_ok.mp h
    obtain ⟨full, _, h⟩ := bind_eq_ok.mp h
    cases h
    trivial
  | spi =>
    obtain ⟨chipSelect, _, h⟩ := bind_eq_ok.mp h
    obtain ⟨index, _, h⟩ := bind_eq_ok.mp h
    obtain ⟨name, _, h⟩ := bind_eq_ok.mp h
    obtain ⟨_, _, h⟩ := bind_eq_ok.mp h
    obtain ⟨settings, _, h⟩ := bind_eq_ok.mp h
    obtain ⟨full, hfull, h⟩ := bind_eq_ok.mp h
    cases h
    exact finishBackend_eq_template hfull fun c hc => hspi _ c rfl hc
  | uart =>
    obtain ⟨port, _, h⟩ := bind_eq_ok.mp h
    obtain ⟨settings, _, h⟩ := bind_eq_ok.mp h
    obtain ⟨full, hfull, h⟩ := bind_eq_ok.mp h
    cases h
    exact finishBackend_eq_template hfull fun c hc => huart _ c rfl hc

/-- Every literal of an accepted device is a result of `normalize_bytes_literal`. -/
theorem made_of_normalizeRuntimeDeviceItem {busesById : List (Text × Bus)} {z : Device}
    (h : normalizeRuntimeDeviceItem v busesById label = .ok z) :
    z.Literals (Made fun _ => True) := by
  obtain ⟨item, bus, backend, head, _, _, hz⟩ := normalizeRuntimeDeviceItem_eq_ok.mp h
  refine ⟨?_, ?_⟩
  · intro r hr
    obtain ⟨w, l, hw⟩ := (normalizeFaults_eq_ok hz.faults).2.2.2.2 r hr
    exact ⟨w, l, trivial, hw⟩
  · exact made_of_normalizePart hz.part
      (fun l c _ hc => made_of_normalizeSpiScript hc (fun _ _ _ _ _ => ⟨trivial, trivial⟩)
        (fun _ _ _ _ _ => ⟨trivial, trivial⟩) trivial trivial)
      (fun l c _ hc => made_of_normalizeUartScript hc (fun _ _ _ _ _ => ⟨trivial, trivial⟩)
        trivial)

theorem literals_of_normalizeRuntimeDeviceItem {busesById : List (Text × Bus)} {z : Device}
    (h : normalizeRuntimeDeviceItem v busesById label = .ok z) : z.Literals HexText :=
  (made_of_normalizeRuntimeDeviceItem h).imp fun _ hs => hs.hexText

theorem expectTransport_spelling (t : Transport) : expectTransport (.str t.spelling) label = .ok t := by
  cases t <;> rfl

theorem made_of_spiBackend {c : SpiScript} {b : Backend SpiScript}
    (hb : b.All (SpiScript.Literals HexText))
    (h : normalizeSpiScript (b.toEntries SpiScript.toEntries) label = .ok c) :
    c.Literals (Made Passed) := by
  cases b with
  | controller worker =>
    cases worker <;>
      exact made_of_normalizeSpiScript h (fieldAll_of_null rfl) (fieldAll_of_null rfl)
        passed_lit_nil passed_lit_nil
  | template kind script =>
    obtain ⟨responses, prefixResponses, response, echo, flash⟩ := script
    have hscript : SpiScript.Literals HexText _ := hb
    refine made_of_normalizeSpiScript h (fieldAll_textEntries rfl hscript.responses)
      (fieldAll_textEntries rfl hscript.prefixResponses) ⟨response, rfl, hscript.defaultResponse⟩ ?_
    cases flash with
    | none => exact passed_lit_nil
    | some f => exact ⟨f.jedecId, rfl, hscript.flash f rfl⟩

theorem made_of_uartBackend {c : UartScript} {b : Backend UartScript}
    (hb : b.All (UartScript.Literals HexText))
    (h : normalizeUartScript (b.toEntries UartScript.toEntries) label = .ok c) :
    c.Literals (Made Passed) := by
  cases b with
  | controller worker =>
    cases worker <;>
      exact made_of_normalizeUartScript h (fieldAll_of_null rfl) passed_lit_nil
  | template kind script =>
    have hscript : UartScript.Literals HexText _ := hb
    exact made_of_normalizeUartScript h (fieldAll_textEntries rfl hscript.binaryResponses)
      ⟨script.defaultResponse, rfl, hscript.defaultResponse⟩

theorem settled_of_normalizeRuntimeDeviceItem {busesById : List (Text × Bus)} {d z : Device}
    (hd : d.Literals HexText) (h : normalizeRuntimeDeviceItem d.toItem busesById label = .ok z) :
    z.Literals Settled := by
  obtain ⟨item, bus, backend, head, hitem, _, hz⟩ := normalizeRuntimeDeviceItem_eq_ok.mp h
  cases hitem
  have hbackend := hz.backend
  rw [d.get_backend] at hbackend
  cases hbackend
  have htransport : z.part.transport = d.part.transport := by
    have ht := hz.transport
    rw [d.get_transport, expectTransport_spelling] at ht
    exact (Except.ok.inj ht).symm
  have hfaults := hz.faults
  rw [d.get_faults] at hfaults
  have hmade : z.Literals (Made Passed) := by
    refine ⟨made_of_normalizeFaults hfaults (fun l m hm => by cases hm; rfl) ?_, ?_⟩
    · have hreply := hd.reply
      generalize d.faults = f at hreply ⊢
      obtain ⟨mode, remaining, errno, replyData⟩ := f
      cases replyData with
      | none => cases errno <;> exact passed_lit_nil
      | some r => cases errno <;> exact ⟨r, rfl, hreply r rfl⟩
    · have hpart := hd.part
      refine made_of_normalizePart hz.part (fun l c ht hc => ?_) (fun l c ht hc => ?_)
      · cases hp : d.part with
        | spi chipSelect deviceName b =>
          rw [hp] at hpart hc
          exact made_of_spiBackend hpart hc
        | i2c address b => rw [htransport, hp] at ht; cases ht
        | uart portName b => rw [htransport, hp] at ht; cases ht
      · cases hp : d.part with
        | uart portName b =>
          rw [hp] at hpart hc
          exact made_of_uartBackend hpart hc
        | i2c address b => rw [htransport, hp] at ht; cases ht
        | spi chipSelect deviceName b => rw [htransport, hp] at ht; cases ht
  exact hmade.imp fun _ hs => hs.settled

/-! ## A second pass over a settled record -/

theorem collect_textEntries_self {entry : Value × Value → Checked (Text × Text)}
    {ps : List (Text × Text)} (hent : ∀ p ∈ ps, entry (.str p.1, .str p.2) = .ok p)
    (hnodup : (keys ps).Nodup) : collect entry [] (textEntries ps) = .ok ps :=
  collect_map_self hent hnodup

theorem normalizeWorker_self {w : Worker} (h : normalizeWorker v label = .ok w) :
    normalizeWorker (.dict w.toEntries) label' = .ok w := by
  unfold normalizeWorker at h
  obtain ⟨worker, _, h⟩ := bind_eq_ok.mp h
  obtain ⟨raw, _, h⟩ := bind_eq_ok.mp h
  obtain ⟨command, hcommand, h⟩ := bind_eq_ok.mp h
  split at h
  · cases h
  rename_i hne
  obtain ⟨limit, hlimit, h⟩ := bind_eq_ok.mp h
  obtain ⟨backoff, hbackoff, h⟩ := bind_eq_ok.mp h
  obtain ⟨cwd, hcwd, h⟩ := bind_eq_ok.mp h
  obtain ⟨envRaw, _, h⟩ := bind_eq_ok.mp h
  obtain ⟨env, henv, h⟩ := bind_eq_ok.mp h
  cases h
  -- each part is read back on its own, under any label
  have hself : ∀ l, (command.map Value.str).mapM (fun item => expectString item l) = .ok command :=
    fun l => mapM_map_self fun s hs => by
      obtain ⟨item, _, hitem⟩ := mem_of_mapM_eq_ok hcommand hs
      exact expectString_self hitem
  have hent : ∀ l p, p ∈ env → ((do
      let value ← expectString (.str p.2) (l ++ [.key (.str p.1)])
      let key ← expectString (.str p.1) (l ++ [.keyOf])
      .ok (key, value)) : Checked (Text × Text)) = .ok p := by
    intro l p hp
    obtain ⟨e, _, he⟩ := (mem_of_collect henv hp).resolve_left (by simp)
    obtain ⟨value, hvalue, he⟩ := bind_eq_ok.mp he
    obtain ⟨key, hkey, he⟩ := bind_eq_ok.mp he
    cases he
    exact bind_eq_ok.mpr ⟨value, expectString_self hvalue,
      bind_eq_ok.mpr ⟨key, expectString_self hkey, rfl⟩⟩
  have hcollect : ∀ l, collect (fun e : Value × Value => (do
      let value ← expectString e.2 (l ++ [.key e.1])
      let key ← expectString e.1 (l ++ [.keyOf])
      .ok (key, value) : Checked (Text × Text))) [] (textEntries env) = .ok env := fun l =>
    collect_textEntries_self (hent l) (nodup_keys_of_collect henv List.nodup_nil)
  unfold normalizeWorker
  refine bind_eq_ok.mpr ⟨_, rfl, bind_eq_ok.mpr ⟨_, rfl, ?_⟩⟩
  refine bind_eq_ok.mpr ⟨command, hself _, ?_⟩
  rw [if_neg hne]
  refine bind_eq_ok.mpr ⟨limit, expectHexInt_self hlimit, ?_⟩
  refine bind_eq_ok.mpr ⟨backoff, expectHexInt_self hbackoff, ?_⟩
  refine bind_eq_ok.mpr ⟨cwd, ?_, ?_⟩
  · cases cwd with
    | none => cases env <;> rfl
    | some d => exact onlyIf_true (expectString_self (onlyIf_eq_some hcwd).2)
  · cases env with
    | nil => cases cwd <;> exact bind_eq_ok.mpr ⟨[], rfl, rfl⟩
    | cons p ps =>
      refine bind_eq_ok.mpr ⟨textEntries (p :: ps), by cases cwd <;> rfl, ?_⟩
      exact bind_eq_ok.mpr ⟨p :: ps, hcollect _, rfl⟩

theorem worker_of_normalizeBackendHead {es : Entries} {w : Worker}
    (h : normalizeBackendHead es label = .ok (.controller (some w))) :
    ∃ v l, normalizeWorker v l = .ok w := by
  unfold normalizeBackendHead at h
  obtain ⟨kind, _, h⟩ := bind_eq_ok.mp h
  split at h
  · obtain ⟨name, _, h⟩ := bind_eq_ok.mp h
    obtain ⟨template, _, h⟩ := bind_eq_ok.mp h
    cases h
  · split at h
    · split at h
      · cases h
      · obtain ⟨worker, hworker, h⟩ := bind_eq_ok.mp h
        cases h
        exact ⟨_, _, hworker⟩
    · cases h

/-- The dictionary of a finished backend has the head it was made with. -/
theorem normalizeBackendHead_self {σ : Type} {es : Entries} {head : BackendHead}
    {script : Checked σ} {b : Backend σ} (enc : σ → Entries)
    (hhead : normalizeBackendHead es label = .ok head) (h : finishBackend head script = .ok b) :
    normalizeBackendHead (b.toEntries enc) label' = .ok head := by
  cases head with
  | controller worker =>
    cases h
    cases worker with
    | none => rfl
    | some w =>
      obtain ⟨v, l, hw⟩ := worker_of_normalizeBackendHead hhead
      unfold normalizeBackendHead
      refine bind_eq_ok.mpr ⟨text "controller", rfl, ?_⟩
      rw [if_neg (by decide), if_pos rfl]
      exact bind_eq_ok.mpr ⟨w, normalizeWorker_self hw, rfl⟩
  | template kind =>
    obtain ⟨s, _, h⟩ := bind_eq_ok.mp h
    cases h
    cases kind <;> rfl

theorem finishBackend_again {σ : Type} {head : BackendHead} {script : Checked σ}
    (script' : Checked σ) {b : Backend σ} {P : σ → Prop} (h : finishBackend head script = .ok b)
    (hscript : ∀ kind s, b = .template kind s → script = .ok s →
      ∃ s', script' = .ok s' ∧ (P s → s' = s)) :
    ∃ b', finishBackend head script' = .ok b' ∧ (b.All P → b' = b) := by
  cases head with
  | controller worker => exact ⟨b, h, fun _ => rfl⟩
  | template kind =>
    obtain ⟨s, hs, h⟩ := bind_eq_ok.mp h
    cases h
    obtain ⟨s', hs', hsame⟩ := hscript kind s rfl hs
    exact ⟨.template kind s', bind_eq_ok.mpr ⟨s', hs', rfl⟩, fun hp => by rw [hsame hp]⟩

theorem normalizeRegisterBank_self {es : Entries} {b : RegisterBank} (kind : TemplateKind)
    (h : normalizeRegisterBank es label = .ok b) :
    normalizeRegisterBank ((Backend.template kind b).toEntries RegisterBank.toEntries) label' =
      .ok b := by
  unfold normalizeRegisterBank at h
  obtain ⟨size, hsize, h⟩ := bind_eq_ok.mp h
  obtain ⟨width, hwidth, h⟩ := bind_eq_ok.mp h
  obtain ⟨increment, _, h⟩ := bind_eq_ok.mp h
  obtain ⟨registers, hregisters, h⟩ := bind_eq_ok.mp h
  obtain ⟨clearRaw, _, h⟩ := bind_eq_ok.mp h
  obtain ⟨clear, hclear, h⟩ := bind_eq_ok.mp h
  obtain ⟨effectsRaw, _, h⟩ := bind_eq_ok.mp h
  obtain ⟨effects, heffects, h⟩ := bind_eq_ok.mp h
  cases h
  unfold normalizeRegisterBank
  refine bind_eq_ok.mpr ⟨size, expectHexInt_self hsize, ?_⟩
  refine bind_eq_ok.mpr ⟨width, expectHexInt_self hwidth, ?_⟩
  refine bind_eq_ok.mpr ⟨increment, rfl, ?_⟩
  refine bind_eq_ok.mpr ⟨registers, normalizeI2cRegisters_self hregisters, ?_⟩
  refine bind_eq_ok.mpr ⟨_, rfl, ?_⟩
  refine bind_eq_ok.mpr ⟨clear.dedup.insertionSort (· ≤ ·), ?_, ?_⟩
  · apply mapM_map_self
    intro t ht
    have hmem : t ∈ clear := List.mem_dedup.mp ((List.mem_insertionSort _).mp ht)
    obtain ⟨item, _, hitem⟩ := mem_of_mapM_eq_ok hclear hmem
    obtain ⟨reg, hreg, hitem⟩ := bind_eq_ok.mp hitem
    cases hitem
    exact bind_eq_ok.mpr ⟨reg, expectHexInt_hexWord _ hreg, rfl⟩
  · refine bind_eq_ok.mpr ⟨_, rfl, bind_eq_ok.mpr ⟨effects, ?_, ?_⟩⟩
    · refine collect_map_self (fun p hp => ?_) (nodup_keys_of_collect heffects List.nodup_nil)
      obtain ⟨e, _, he⟩ := (mem_of_collect heffects hp).resolve_left (by simp)
      obtain ⟨reg, hreg, he⟩ := bind_eq_ok.mp he
      obtain ⟨table, htable, he⟩ := bind_eq_ok.mp he
      cases he
      exact bind_eq_ok.mpr ⟨reg, expectHexInt_hexWord _ hreg,
        bind_eq_ok.mpr ⟨table, normalizeI2cRegisters_self htable, rfl⟩⟩
    · -- sorting the sorted list without duplicates changes nothing
      have hnodup : (clear.dedup.insertionSort (· ≤ ·)).Nodup :=
        (List.perm_insertionSort _ _).nodup_iff.mpr (List.nodup_dedup clear)
      rw [List.dedup_eq_self.mpr hnodup,
        (List.pairwise_insertionSort _ clear.dedup).insertionSort_eq]
      rfl

theorem normalizeLiterals_again {es : Entries} (es' : Entries) {field : String}
    {ps : List (Text × Text)} (h : normalizeLiterals es field label = .ok ps)
    (hget : get es' field = .dict (textEntries ps))
    (hlegible : ∀ p ∈ ps, Legible p.1 ∧ Legible p.2) (label' : Label) :
    ∃ ps', normalizeLiterals es' field label' = .ok ps' ∧
      ((∀ p ∈ ps, Settled p.1 ∧ Settled p.2) → ps' = ps) := by
  unfold normalizeLiterals at h ⊢
  obtain ⟨m, _, h⟩ := bind_eq_ok.mp h
  let entry (e : Value × Value) : Checked (Text × Text) := do
    let key ← normalizeBytesLiteral e.1 [.field "backend", .field field, .keyOf]
    let value ← normalizeBytesLiteral e.2 (label'.dot field ++ [.key e.1])
    .ok (key, value)
  obtain ⟨ps', hps'⟩ : ∃ ps', collect entry [] (textEntries ps) = .ok ps' := by
    refine collect_accepts [] fun e he => ?_
    obtain ⟨p, hp, rfl⟩ := List.mem_map.mp he
    obtain ⟨k, hk, _⟩ := (hlegible p hp).1.again [.field "backend", .field field, .keyOf]
    obtain ⟨x, hx, _⟩ := (hlegible p hp).2.again (label'.dot field ++ [.key (.str p.1)])
    exact ⟨(k, x), bind_eq_ok.mpr ⟨k, hk, bind_eq_ok.mpr ⟨x, hx, rfl⟩⟩⟩
  refine ⟨ps', bind_eq_ok.mpr ⟨textEntries ps, by rw [hget]; rfl, hps'⟩, fun hsettled => ?_⟩
  have hself : collect entry [] (textEntries ps) = .ok ps := by
    refine collect_textEntries_self (fun p hp => ?_) (nodup_keys_of_collect h List.nodup_nil)
    exact bind_eq_ok.mpr ⟨p.1, (hsettled p hp).1 _,
      bind_eq_ok.mpr ⟨p.2, (hsettled p hp).2 _, rfl⟩⟩
  exact Except.ok.inj (hps'.symm.trans hself)

theorem normalizeFlash_again {es : Entries} (es' : Entries) {f : Flash}
    (h : normalizeFlash es label = .ok f)
    (hid : getD es' "flash_jedec_id" (.lit "") = .str f.jedecId)
    (hstatus : getD es' "flash_status_register" (.int 0) = .int f.statusRegister)
    (hcycles : getD es' "flash_write_busy_cycles" (.int 0) = .int f.writeBusyCycles)
    (hlegible : Legible f.jedecId) (label' : Label) :
    ∃ f', normalizeFlash es' label' = .ok f' ∧ (Settled f.jedecId → f' = f) := by
  unfold normalizeFlash at h ⊢
  obtain ⟨jedec, _, h⟩ := bind_eq_ok.mp h
  obtain ⟨status, hs, h⟩ := bind_eq_ok.mp h
  obtain ⟨cycles, hc, h⟩ := bind_eq_ok.mp h
  cases h
  obtain ⟨t, ht, hsame⟩ := hlegible.again (label'.dot "flash_jedec_id")
  refine ⟨⟨t, status, cycles⟩, ?_, fun hsettled => by rw [hsame hsettled]⟩
  rw [hid, hstatus, hcycles]
  refine bind_eq_ok.mpr ⟨t, ht, bind_eq_ok.mpr ⟨status, expectHexInt_self hs, ?_⟩⟩
  exact bind_eq_ok.mpr ⟨cycles, expectHexInt_self hc, rfl⟩

theorem normalizeSpiScript_again {es : Entries} {c : SpiScript} (kind : TemplateKind)
    (h : normalizeSpiScript es label = .ok c) (hc : c.Literals Legible) (label' : Label) :
    ∃ c', normalizeSpiScript ((Backend.template kind c).toEntries SpiScript.toEntries) label' =
      .ok c' ∧ (c.Literals Settled → c' = c) := by
  unfold normalizeSpiScript at h
  obtain ⟨responses, hresponses, h⟩ := bind_eq_ok.mp h
  obtain ⟨prefixResponses, hbefore, h⟩ := bind_eq_ok.mp h
  obtain ⟨response, _, h⟩ := bind_eq_ok.mp h
  obtain ⟨echo, _, h⟩ := bind_eq_ok.mp h
  obtain ⟨flash, hflash, h⟩ := bind_eq_ok.mp h
  cases h
  let es' := (Backend.template kind (⟨responses, prefixResponses, response, echo, flash⟩ :
    SpiScript)).toEntries SpiScript.toEntries
  obtain ⟨responses', hresponses', hsame⟩ :=
    normalizeLiterals_again es' hresponses rfl hc.responses label'
  obtain ⟨before', hbefore', hsameBefore⟩ :=
    normalizeLiterals_again es' hbefore rfl hc.prefixResponses label'
  obtain ⟨response', hresponse', hsameResponse⟩ :=
    hc.defaultResponse.again (label'.dot "default_response")
  obtain ⟨flash', hflash', hsameFlash⟩ : ∃ flash',
      onlyIf (has es' "flash_jedec_id") (normalizeFlash es' label') = .ok flash' ∧
        ((∀ f, flash = some f → Settled f.jedecId) → flash' = flash) := by
    cases flash with
    | none => exact ⟨none, rfl, fun _ => rfl⟩
    | some f =>
      obtain ⟨f', hf', hsameF⟩ := normalizeFlash_again es' (onlyIf_eq_some hflash).2 rfl rfl
        rfl (hc.flash f rfl) label'
      exact ⟨some f', onlyIf_true hf', fun hs => by rw [hsameF (hs f rfl)]⟩
  refine ⟨⟨responses', before', response', echo, flash'⟩, ?_, fun hs => ?_⟩
  · unfold normalizeSpiScript
    refine bind_eq_ok.mpr ⟨responses', hresponses', bind_eq_ok.mpr ⟨before', hbefore', ?_⟩⟩
    refine bind_eq_ok.mpr ⟨response', hresponse', ?_⟩
    exact bind_eq_ok.mpr ⟨echo, rfl, bind_eq_ok.mpr ⟨flash', hflash', rfl⟩⟩
  · rw [hsame hs.responses, hsameBefore hs.prefixResponses, hsameResponse hs.defaultResponse,
      hsameFlash hs.flash]

theorem normalizeLineResponses_self {es es' : Entries} {lines : List (Text × Text)}
    (h : normalizeLineResponses es label = .ok lines)
    (hget : get es' "line_responses" = .dict (textEntries lines)) :
    normalizeLineResponses es' label' = .ok lines := by
  unfold normalizeLineResponses at h ⊢
  obtain ⟨m, _, h⟩ := bind_eq_ok.mp h
  refine bind_eq_ok.mpr ⟨textEntries lines, by rw [hget]; rfl, ?_⟩
  refine collect_textEntries_self (fun p hp => ?_) (nodup_keys_of_collect h List.nodup_nil)
  obtain ⟨e, _, he⟩ := (mem_of_collect h hp).resolve_left (by simp)
  obtain ⟨value, hvalue, he⟩ := bind_eq_ok.mp he
  obtain ⟨key, hkey, he⟩ := bind_eq_ok.mp he
  cases he
  exact bind_eq_ok.mpr ⟨value, expectRawString_self hvalue,
    bind_eq_ok.mpr ⟨key, expectString_self hkey, rfl⟩⟩

theorem normalizeControlDefaults_self {es es' : Entries} {control : List (Text × Bool)}
    (h : normalizeControlDefaults es label = .ok control)
    (hget : get es' "control_defaults" = .dict (control.map fun p => (.str p.1, .bool p.2))) :
    normalizeControlDefaults es' label' = .ok control := by
  unfold normalizeControlDefaults at h ⊢
  obtain ⟨m, _, h⟩ := bind_eq_ok.mp h
  refine bind_eq_ok.mpr ⟨_, by rw [hget]; rfl, ?_⟩
  refine collect_map_self (fun p hp => ?_) (nodup_keys_of_collect h List.nodup_nil)
  obtain ⟨e, _, he⟩ := (mem_of_collect h hp).resolve_left (by simp)
  obtain ⟨value, _, he⟩ := bind_eq_ok.mp he
  obtain ⟨key, hkey, he⟩ := bind_eq_ok.mp he
  cases he
  exact bind_eq_ok.mpr ⟨value, rfl, bind_eq_ok.mpr ⟨key, expectString_self hkey, rfl⟩⟩

theorem normalizeUartScript_again {es : Entries} {c : UartScript} (kind : TemplateKind)
    (h : normalizeUartScript es label = .ok c) (hc : c.Literals Legible) (label' : Label) :
    ∃ c', normalizeUartScript ((Backend.template kind c).toEntries UartScript.toEntries) label' =
      .ok c' ∧ (c.Literals Settled → c' = c) := by
  unfold normalizeUartScript at h
  obtain ⟨lines, hlines, h⟩ := bind_eq_ok.mp h
  obtain ⟨binary, hbinary, h⟩ := bind_eq_ok.mp h
  obtain ⟨echo, _, h⟩ := bind_eq_ok.mp h
  obtain ⟨response, _, h⟩ := bind_eq_ok.mp h
  obtain ⟨control, hcontrol, h⟩ := bind_eq_ok.mp h
  obtain ⟨cts, _, h⟩ := bind_eq_ok.mp h
  obtain ⟨carrier, _, h⟩ := bind_eq_ok.mp h
  cases h
  let es' := (Backend.template kind (⟨echo, lines, binary, response, control, cts, carrier⟩ :
    UartScript)).toEntries UartScript.toEntries
  obtain ⟨binary', hbinary', hsame⟩ :=
    normalizeLiterals_again es' hbinary rfl hc.binaryResponses label'
  obtain ⟨response', hresponse', hsameResponse⟩ :=
    hc.defaultResponse.again (label'.dot "default_response")
  refine ⟨⟨echo, lines, binary', response', control, cts, carrier⟩, ?_, fun hs => ?_⟩
  · unfold normalizeUartScript
    refine bind_eq_ok.mpr ⟨lines, normalizeLineResponses_self hlines rfl, ?_⟩
    refine bind_eq_ok.mpr ⟨binary', hbinary', bind_eq_ok.mpr ⟨echo, rfl, ?_⟩⟩
    refine bind_eq_ok.mpr ⟨response', hresponse', ?_⟩
    refine bind_eq_ok.mpr ⟨control, normalizeControlDefaults_self hcontrol rfl, ?_⟩
    exact bind_eq_ok.mpr ⟨cts, rfl, bind_eq_ok.mpr ⟨carrier, rfl, rfl⟩⟩
  · rw [hsame hs.binaryResponses, hsameResponse hs.defaultResponse]

/-- The settings of a device of the transport; an I2C device has none. -/
def normalizeSettings : Transport → Value → Label → Checked Entries
  | .i2c, _, _ => .ok []
  | .spi, v, label => normalizeSpiSettings v label
  | .uart, v, label => normalizeUartSettings v label

/-- The part of a device in use, with the settings it has by then. -/
theorem normalizePart_again {item fields settings : Entries} {head : BackendHead} {bus : Bus}
    {d : Device} (hhead : normalizeBackendHead fields (label.dot "backend") = .ok head)
    (h : normalizePart d.part.transport item fields head bus label = .ok (d.part, settings))
    (hd : d.part.Literals Legible)
    (hsettings : ∀ l, ∃ es, normalizeSettings d.part.transport (.dict d.settings) l = .ok es)
    (label' : Label) :
    normalizeBackendHead d.part.backendEntries (label'.dot "backend") = .ok head ∧
      ∃ part es, normalizePart d.part.transport d.toEntries d.part.backendEntries head bus label' =
          .ok (part, es) ∧ part.transport = d.part.transport ∧
        normalizeSettings d.part.transport (.dict d.settings) (label'.dot "settings") = .ok es ∧
        (d.part.Literals Settled → part = d.part) := by
  obtain ⟨id, busId, part, metadata, faults, now⟩ := d
  dsimp only at h hd hsettings ⊢
  obtain ⟨es, hes⟩ := hsettings (label'.dot "settings")
  cases part with
  | i2c address backend =>
    obtain ⟨address', haddress, h⟩ := bind_eq_ok.mp h
    obtain ⟨full, hfull, h⟩ := bind_eq_ok.mp h
    cases h
    refine ⟨normalizeBackendHead_self _ hhead hfull, .i2c address backend, [], ?_, rfl, rfl,
      fun _ => rfl⟩
    refine bind_eq_ok.mpr ⟨address, expectHexInt_self haddress, ?_⟩
    obtain ⟨b, hb, hsame⟩ := finishBackend_again (P := fun _ => True)
      (normalizeRegisterBank (backend.toEntries RegisterBank.toEntries) (label'.dot "backend")) hfull
      (by rintro kind bank rfl hbank; exact ⟨bank, normalizeRegisterBank_self kind hbank, fun _ => rfl⟩)
    rw [hsame (by cases backend <;> trivial)] at hb
    exact bind_eq_ok.mpr ⟨backend, hb, rfl⟩
  | spi chipSelect deviceName backend =>
    obtain ⟨chipSelect', hselect, h⟩ := bind_eq_ok.mp h
    obtain ⟨index, hindex, h⟩ := bind_eq_ok.mp h
    obtain ⟨name, hname, h⟩ := bind_eq_ok.mp h
    obtain ⟨_, hcheck, h⟩ := bind_eq_ok.mp h
    obtain ⟨settings', _, h⟩ := bind_eq_ok.mp h
    obtain ⟨full, hfull, h⟩ := bind_eq_ok.mp h
    cases h
    obtain ⟨b, hb, hsame⟩ := finishBackend_again (P := SpiScript.Literals Settled)
      (normalizeSpiScript (backend.toEntries SpiScript.toEntries) (label'.dot "backend")) hfull
      (by rintro kind script rfl hscript; exact normalizeSpiScript_again kind hscript hd _)
    refine ⟨normalizeBackendHead_self _ hhead hfull, .spi chipSelect deviceName b, es, ?_, rfl, hes,
      fun hs => by rw [hsame hs]⟩
    refine bind_eq_ok.mpr ⟨chipSelect, expectHexInt_self hselect, ?_⟩
    refine bind_eq_ok.mpr ⟨index, hindex, ?_⟩
    refine bind_eq_ok.mpr ⟨deviceName, expectName_self hname, ?_⟩
    refine bind_eq_ok.mpr ⟨(), ?_, ?_⟩
    · unfold checkDeviceName at hcheck ⊢
      split at hcheck
      · rename_i heq
        rw [if_pos heq]
      · cases hcheck
    · exact bind_eq_ok.mpr ⟨es, hes, bind_eq_ok.mpr ⟨b, hb, rfl⟩⟩
  | uart portName backend =>
    obtain ⟨port, hport, h⟩ := bind_eq_ok.mp h
    obtain ⟨settings', _, h⟩ := bind_eq_ok.mp h
    obtain ⟨full, hfull, h⟩ := bind_eq_ok.mp h
    cases h
    obtain ⟨b, hb, hsame⟩ := finishBackend_again (P := UartScript.Literals Settled)
      (normalizeUartScript (backend.toEntries UartScript.toEntries) (label'.dot "backend")) hfull
      (by rintro kind script rfl hscript; exact normalizeUartScript_again kind hscript hd _)
    refine ⟨normalizeBackendHead_self _ hhead hfull, .uart portName b, es, ?_, rfl, hes,
      fun hs => by rw [hsame hs]⟩
    refine bind_eq_ok.mpr ⟨portName, expectRuntimeUartPortName_self hport, ?_⟩
    exact bind_eq_ok.mpr ⟨es, hes, bind_eq_ok.mpr ⟨b, hb, rfl⟩⟩

theorem normalizeSettings_of_normalizePart {transport : Transport} {item fields : Entries}
    {head : BackendHead} {bus : Bus} {r : Part × Entries}
    (h : normalizePart transport item fields head bus label = .ok r) (label' : Label) :
    normalizeSettings transport (.dict r.2) label' = .ok r.2 := by
  cases transport with
  | i2c =>
    obtain ⟨address, _, h⟩ := bind_eq_ok.mp h
    obtain ⟨full, _, h⟩ := bind_eq_ok.mp h
    cases h
    rfl
  | spi =>
    obtain ⟨chipSelect, _, h⟩ := bind_eq_ok.mp h
    obtain ⟨index, _, h⟩ := bind_eq_ok.mp h
    obtain ⟨name, _, h⟩ := bind_eq_ok.mp h
    obtain ⟨_, _, h⟩ := bind_eq_ok.mp h
    obtain ⟨settings, hsettings, h⟩ := bind_eq_ok.mp h
    obtain ⟨full, _, h⟩ := bind_eq_ok.mp h
    cases h
    exact normalizeSpiSettings_self hsettings
  | uart =>
    obtain ⟨port, _, h⟩ := bind_eq_ok.mp h
    obtain ⟨settings, hsettings, h⟩ := bind_eq_ok.mp h
    obtain ⟨full, _, h⟩ := bind_eq_ok.mp h
    cases h
    exact normalizeUartSettings_self hsettings

/-- A stored device whose dictionary passes the checks again.  Its part comes from a check; the
settings and the faults may have changed since. -/
structure Device.Presentable (buses : List (Text × Bus)) (d : Device) : Prop where
  id : ∃ v l, expectName v l = .ok d.id
  part : ∃ v l z, normalizeRuntimeDeviceItem v buses l = .ok z ∧ z.part = d.part ∧ z.bus = d.bus
  literals : d.Literals Legible
  faults : d.faults.Ranged
  settings : ∀ l, ∃ es, normalizeSettings d.part.transport (.dict d.settings) l = .ok es

theorem Device.Presentable.again {buses : List (Text × Bus)} {d : Device} (h : d.Presentable buses)
    (label : Label) :
    ∃ z, normalizeRuntimeDeviceItem d.toItem buses label = .ok z ∧
      (d.Literals Settled → (∀ l, normalizeSettings d.part.transport (.dict d.settings) l =
        .ok d.settings) → z = d) := by
  obtain ⟨_, _, hid⟩ := h.id
  obtain ⟨v, l, z, hz, hpart, hbus⟩ := h.part
  obtain ⟨item, bus, fields, head, _, hget, hacc⟩ := normalizeRuntimeDeviceItem_eq_ok.mp hz
  have hold := hacc.part
  rw [hpart] at hold
  obtain ⟨hhead, part, es, hnew, htransport, hes, hsame⟩ :=
    normalizePart_again hacc.head hold h.literals.part h.settings label
  obtain ⟨faults, hfaults, hsameFaults⟩ := h.faults.again h.literals.reply (label.dot "faults")
  refine ⟨⟨d.id, d.bus, part, d.metadata, faults, es⟩, ?_, fun hs hset => ?_⟩
  · refine normalizeRuntimeDeviceItem_eq_ok.mpr
      ⟨d.toEntries, bus, d.part.backendEntries, head, rfl, hbus ▸ hget, ?_⟩
    have hbusId := hacc.busId
    rw [hbus] at hbusId
    exact
      { id := expectName_self hid
        busId := expectName_self hbusId
        transport := by rw [d.get_transport, htransport]; exact expectTransport_spelling _
        same := by rw [htransport, ← hpart]; exact hacc.same
        backend := by rw [d.get_backend]; rfl
        head := hhead
        metadata := by rw [d.get_metadata]; rfl
        faults := by rw [d.get_faults]; exact hfaults
        part := by rw [htransport]; exact hnew }
  · rw [hsame hs.part, hsameFaults hs.reply, Except.ok.inj (hes.symm.trans (hset _))]

theorem presentable_of_normalizeRuntimeDeviceItem {buses : List (Text × Bus)} {z : Device}
    (h : normalizeRuntimeDeviceItem v buses label = .ok z) (hz : z.Literals Legible) :
    z.Presentable buses := by
  obtain ⟨item, bus, fields, head, _, _, hacc⟩ := normalizeRuntimeDeviceItem_eq_ok.mp h
  exact
    { id := ⟨_, _, hacc.id⟩
      part := ⟨v, label, z, h, rfl, rfl⟩
      literals := hz
      faults := ranged_of_normalizeFaults hacc.faults
      settings := fun l => ⟨z.settings, normalizeSettings_of_normalizePart hacc.part l⟩ }

theorem normalizeRuntimeDeviceItem_self {busesById : List (Text × Bus)} {z : Device}
    (h : normalizeRuntimeDeviceItem v busesById label = .ok z) (hz : z.Literals Settled) :
    normalizeRuntimeDeviceItem z.toItem busesById label' = .ok z := by
  have hpresent := presentable_of_normalizeRuntimeDeviceItem h (hz.imp fun _ hs => hs.legible)
  obtain ⟨z', hz', hsame⟩ := hpresent.again label'
  obtain ⟨item, bus, fields, head, _, _, hacc⟩ := normalizeRuntimeDeviceItem_eq_ok.mp h
  rw [hz', hsame hz fun l => normalizeSettings_of_normalizePart hacc.part l]

/-- The dictionary of a bus keeps its identity, transport and name. -/
theorem normalizeRuntimeBusItem_self {b : Bus} (h : normalizeRuntimeBusItem v label = .ok b) :
    normalizeRuntimeBusItem b.toItem label' = .ok { b with metadata := [] } := by
  unfold normalizeRuntimeBusItem at h
  obtain ⟨item, _, h⟩ := bind_eq_ok.mp h
  obtain ⟨id, hid, h⟩ := bind_eq_ok.mp h
  obtain ⟨transport, _, h⟩ := bind_eq_ok.mp h
  unfold normalizeRuntimeBusItem
  refine bind_eq_ok.mpr ⟨_, rfl, ?_⟩
  cases transport with
  | i2c =>
    obtain ⟨name, hname, h⟩ := bind_eq_ok.mp h
    obtain ⟨metadata, _, h⟩ := bind_eq_ok.mp h
    cases h
    refine bind_eq_ok.mpr ⟨id, expectName_self hid, bind_eq_ok.mpr ⟨.i2c, rfl, ?_⟩⟩
    exact bind_eq_ok.mpr ⟨name, expectNumberedBusName_self hname, rfl⟩
  | spi =>
    obtain ⟨name, hname, h⟩ := bind_eq_ok.mp h
    obtain ⟨metadata, _, h⟩ := bind_eq_ok.mp h
    cases h
    refine bind_eq_ok.mpr ⟨id, expectName_self hid, bind_eq_ok.mpr ⟨.spi, rfl, ?_⟩⟩
    exact bind_eq_ok.mpr ⟨name, expectNumberedBusName_self hname, rfl⟩
  | uart =>
    obtain ⟨name, hname, h⟩ := bind_eq_ok.mp h
    obtain ⟨metadata, _, h⟩ := bind_eq_ok.mp h
    cases h
    refine bind_eq_ok.mpr ⟨id, expectName_self hid, bind_eq_ok.mpr ⟨.uart, rfl, ?_⟩⟩
    exact bind_eq_ok.mpr ⟨name, expectName_self hname, rfl⟩

/-! ## Records in use

A stored device changes its settings and faults, but its identity stays what a check returned.
-/

def Bus.Normal (b : Bus) : Prop := ∃ v l, normalizeRuntimeBusItem v l = .ok b

def Part.Placed : Part → Prop
  | .i2c _ _ => True
  | .spi _ deviceName _ => ∃ v l, expectName v l = .ok deviceName
  | .uart portName _ => ∃ v l, expectRuntimeUartPortName v l = .ok portName

structure Device.Normal (d : Device) : Prop where
  id : ∃ v l, expectName v l = .ok d.id
  bus : ∃ v l, expectName v l = .ok d.bus
  placed : d.part.Placed
  literals : d.Literals HexText

theorem placed_of_normalizePart {transport : Transport} {item backend : Entries}
    {head : BackendHead} {bus : Bus} {fields : Part × Entries}
    (h : normalizePart transport item backend head bus label = .ok fields) : fields.1.Placed := by
  cases transport with
  | i2c =>
    obtain ⟨address, _, h⟩ := bind_eq_ok.mp h
    obtain ⟨full, _, h⟩ := bind_eq_ok.mp h
    cases h
    trivial
  | spi =>
    obtain ⟨chipSelect, _, h⟩ := bind_eq_ok.mp h
    obtain ⟨index, _, h⟩ := bind_eq_ok.mp h
    obtain ⟨name, hname, h⟩ := bind_eq_ok.mp h
    obtain ⟨_, _, h⟩ := bind_eq_ok.mp h
    obtain ⟨settings, _, h⟩ := bind_eq_ok.mp h
    obtain ⟨full, _, h⟩ := bind_eq_ok.mp h
    cases h
    exact ⟨_, _, hname⟩
  | uart =>
    obtain ⟨port, hport, h⟩ := bind_eq_ok.mp h
    obtain ⟨settings, _, h⟩ := bind_eq_ok.mp h
    obtain ⟨full, _, h⟩ := bind_eq_ok.mp h
    cases h
    exact ⟨_, _, hport⟩

theorem normal_of_normalizeRuntimeDeviceItem {busesById : List (Text × Bus)} {z : Device}
    (h : normalizeRuntimeDeviceItem v busesById label = .ok z) : z.Normal := by
  have hliterals := literals_of_normalizeRuntimeDeviceItem h
  obtain ⟨item, bus, fields, head, _, _, hz⟩ := normalizeRuntimeDeviceItem_eq_ok.mp h
  exact ⟨⟨_, _, hz.id⟩, ⟨_, _, hz.busId⟩, placed_of_normalizePart hz.part, hliterals⟩

/-- Normalising a stored device keeps its identity. -/
theorem Device.Normal.identity {busesById : List (Text × Bus)} {d z : Device} (hd : d.Normal)
    (h : normalizeRuntimeDeviceItem d.toItem busesById label = .ok z) :
    z.id = d.id ∧ z.bus = d.bus ∧ z.part.place = d.part.place := by
  obtain ⟨item, bus, fields, head, hitem, _, hz⟩ := normalizeRuntimeDeviceItem_eq_ok.mp h
  cases hitem
  obtain ⟨_, _, hid⟩ := hd.id
  obtain ⟨_, _, hbus⟩ := hd.bus
  have hzid := hz.id
  rw [d.get_id, expectName_self hid] at hzid
  have hzbus := hz.busId
  rw [d.get_bus, expectName_self hbus] at hzbus
  -- the identifiers are read back as they are stored; the place depends on the transport
  refine ⟨(Except.ok.inj hzid).symm, (Except.ok.inj hzbus).symm, ?_⟩
  have htransport := hz.transport
  rw [d.get_transport, expectTransport_spelling] at htransport
  have ht := Except.ok.inj htransport
  have hplaced := hd.placed
  have hpart := hz.part
  rw [← ht] at hpart
  obtain ⟨id, busId, part, metadata, faults, settings⟩ := d
  dsimp only at ht hplaced hpart ⊢
  cases part with
  | i2c address backend =>
    obtain ⟨address', haddress, hpart⟩ := bind_eq_ok.mp hpart
    obtain ⟨full, _, hpart⟩ := bind_eq_ok.mp hpart
    rw [← (Prod.mk.inj (Except.ok.inj hpart)).1]
    have hread := Except.ok.inj (expectHexInt_eq_ok.mp haddress).1
    have hsame : address = address' := by exact_mod_cast hread
    rw [hsame]
    rfl
  | spi chipSelect deviceName backend =>
    obtain ⟨chipSelect', hselect, hpart⟩ := bind_eq_ok.mp hpart
    obtain ⟨index, _, hpart⟩ := bind_eq_ok.mp hpart
    obtain ⟨name, hname, hpart⟩ := bind_eq_ok.mp hpart
    obtain ⟨_, _, hpart⟩ := bind_eq_ok.mp hpart
    obtain ⟨settings', _, hpart⟩ := bind_eq_ok.mp hpart
    obtain ⟨full, _, hpart⟩ := bind_eq_ok.mp hpart
    rw [← (Prod.mk.inj (Except.ok.inj hpart)).1]
    have hread := Except.ok.inj (expectHexInt_eq_ok.mp hselect).1
    have hsame : chipSelect = chipSelect' := by exact_mod_cast hread
    obtain ⟨_, _, hplaced⟩ := hplaced
    have hnames : deviceName = name :=
      Except.ok.inj ((expectName_self hplaced).symm.trans hname)
    rw [hsame, hnames]
    rfl
  | uart portName backend =>
    obtain ⟨port, hport, hpart⟩ := bind_eq_ok.mp hpart
    obtain ⟨settings', _, hpart⟩ := bind_eq_ok.mp hpart
    obtain ⟨full, _, hpart⟩ := bind_eq_ok.mp hpart
    rw [← (Prod.mk.inj (Except.ok.inj hpart)).1]
    obtain ⟨_, _, hplaced⟩ := hplaced
    have hnames : portName = port :=
      Except.ok.inj ((expectRuntimeUartPortName_self hplaced).symm.trans hport)
    rw [hnames]
    rfl

end Sensorium.Model

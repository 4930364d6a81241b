import Sensorium.Daemon.TemplateReplies
import Sensorium.Inventory.Restorable

/-!
# Which template object a device holds

The name of a template is checked against one set for all transports, the object is built from the
name alone, and the handler that is called on it belongs to the request of the kernel.  A device is
served as long as the three agree; `update_device` has also replaced the backend by the time it
builds the object.
-/

namespace Sensorium.Daemon

open Lib Model Inventory

/-! ## Classes and handlers -/

inductive Handler
  | handleI2c
  | handleSpiMessage
  | handleUart
  | handleUartControl
  deriving DecidableEq, Repr

/-- The handlers that the class of a template has. -/
def classHandlers : TemplateKind → List Handler
  | .i2cRegisterBank => [.handleI2c]
  | .spiScript => [.handleSpiMessage]
  | .uartScript => [.handleUart, .handleUartControl]

/-- The handlers that the requests of a transport are dispatched to. -/
def dispatched : Transport → List Handler
  | .i2c => [.handleI2c]
  | .spi => [.handleSpiMessage]
  | .uart => [.handleUart, .handleUartControl]

/-- The class with the handlers of a transport. -/
def ownKind : Transport → TemplateKind
  | .i2c => .i2cRegisterBank
  | .spi => .spiScript
  | .uart => .uartScript

theorem implements_iff {kind : TemplateKind} {transport : Transport} :
    (∀ h ∈ dispatched transport, h ∈ classHandlers kind) ↔ kind = ownKind transport := by
  cases kind <;> cases transport <;> decide

def backendKind {σ : Type} : Model.Backend σ → Option TemplateKind
  | .controller _ => none
  | .template kind _ => some kind

/-- The template that the backend of a device names. -/
def templateKind : Part → Option TemplateKind
  | .i2c _ backend => backendKind backend
  | .spi _ _ backend => backendKind backend
  | .uart _ backend => backendKind backend

def Template.kind : Template → TemplateKind
  | .bank _ => .i2cRegisterBank
  | .script _ => .spiScript
  | .uart _ => .uartScript

/-- The object is of the class that the backend names. -/
theorem kind_of_build {part : Part} {t : Option Template}
    (h : Template.build part = some t) : t.map Template.kind = templateKind part := by
  unfold Template.build at h
  split at h
  all_goals first
    | (cases h; rfl)
    | (obtain ⟨_, _, rfl⟩ := Option.map_eq_some_iff.mp h; rfl)

/-- The backend is no template, or one of the class that serves the transport. -/
def Matched (part : Part) : Prop := ∀ kind ∈ templateKind part, kind = ownKind part.transport

instance (part : Part) : Decidable (Matched part) :=
  inferInstanceAs (Decidable (∀ kind ∈ templateKind part, kind = ownKind part.transport))

/-! ## Templates that are built -/

/-- Of the fields of a normalised script only the line responses may not be encoded. -/
theorem UartTemplate.build_isSome {script : UartScript}
    (h : script.Literals (Made fun _ => True)) : (UartTemplate.build script).isSome = true ↔
      ∀ p ∈ script.lineResponses, (utf8? p.2).isSome = true := by
  obtain ⟨pairs, hpairs⟩ := ScriptTemplate.literalPairs_some h.binaryResponses
  obtain ⟨_, _, _, hmade⟩ := h.defaultResponse
  obtain ⟨default, hdefault⟩ := fromHex?_of_normalizeBytesLiteral hmade
  have hbuild : (UartTemplate.build script).isSome =
      (script.lineResponses.mapM fun p => (utf8? p.2).map fun bs => (p.1, bs)).isSome := by
    unfold UartTemplate.build
    rw [hpairs, hdefault]
    cases script.lineResponses.mapM fun p => (utf8? p.2).map fun bs => (p.1, bs) <;> rfl
  rw [hbuild, isSome_mapM]
  refine forall₂_congr fun p _ => ?_
  rw [Option.isSome_map]

/-- `_build_template` raises on an accepted device only where a line response is not encoded. -/
theorem Template.build_isSome {v : Value} {buses : List (Text × Bus)} {label : Label}
    {device : Device} (h : normalizeRuntimeDeviceItem v buses label = .ok device) :
    (Template.build device.part).isSome = buildsTemplate device.part := by
  have hliterals := (made_of_normalizeRuntimeDeviceItem h).part
  cases hpart : device.part with
  | i2c address backend =>
    cases backend with
    | controller _ => rfl
    | template kind bank =>
      cases kind with
      | i2cRegisterBank =>
        obtain ⟨t, ht, _⟩ := BankTemplate.build_some (fields_of_i2cDevice h hpart)
        rw [Template.build, ht]
        rfl
      | spiScript => rfl
      | uartScript => rfl
  | spi chipSelect name backend =>
    rw [hpart] at hliterals
    cases backend with
    | controller _ => rfl
    | template kind script =>
      have hscript : script.Literals (Made fun _ => True) := hliterals
      cases kind with
      | i2cRegisterBank => rfl
      | spiScript =>
        obtain ⟨t, ht⟩ := ScriptTemplate.build_some hscript
        rw [Template.build, ht]
        rfl
      | uartScript =>
        -- another kind of template is built plain, and a plain one always is
        have hplain : (UartTemplate.plain script.echo script.defaultResponse).isSome = true :=
          (UartTemplate.build_isSome
            ⟨fun p hp => (List.not_mem_nil hp).elim, hscript.defaultResponse⟩).mpr
            fun _ hp => (List.not_mem_nil hp).elim
        rw [Template.build, Option.isSome_map]
        exact hplain
  | uart portName backend =>
    rw [hpart] at hliterals
    cases backend with
    | controller _ => rfl
    | template kind script =>
      have hscript : script.Literals (Made fun _ => True) := hliterals
      cases kind with
      | i2cRegisterBank => rfl
      | spiScript =>
        obtain ⟨t, ht⟩ : ∃ t, ScriptTemplate.plain script.echo script.defaultResponse = some t :=
          ScriptTemplate.build_some
            ⟨fun _ hp => (List.not_mem_nil hp).elim, fun _ hp => (List.not_mem_nil hp).elim,
              hscript.defaultResponse, fun _ hp => by cases hp⟩
        rw [Template.build, ht]
        rfl
      | uartScript =>
        rw [Template.build, Option.isSome_map, buildsTemplate, Bool.eq_iff_iff,
          UartTemplate.build_isSome hscript, List.all_eq_true]

/-! ## A second pass -/

def headKind : BackendHead → Option TemplateKind
  | .controller _ => none
  | .template kind => some kind

theorem backendKind_finishBackend {σ : Type} {head : BackendHead} {script : Checked σ}
    {b : Model.Backend σ} (h : finishBackend head script = .ok b) :
    backendKind b = headKind head := by
  cases head with
  | controller worker =>
    cases h
    rfl
  | template kind =>
    obtain ⟨_, _, h⟩ := bind_eq_ok.mp h
    cases h
    rfl

theorem templateKind_of_normalizePart {transport : Transport} {item backend : Entries}
    {head : BackendHead} {bus : Bus} {label : Label} {r : Part × Entries}
    (h : normalizePart transport item backend head bus label = .ok r) :
    templateKind r.1 = headKind head := by
  cases transport with
  | i2c =>
    obtain ⟨_, _, h⟩ := bind_eq_ok.mp h
    obtain ⟨_, hfull, h⟩ := bind_eq_ok.mp h
    cases h
    exact backendKind_finishBackend hfull
  | spi =>
    obtain ⟨_, _, h⟩ := bind_eq_ok.mp h
    obtain ⟨_, _, h⟩ := bind_eq_ok.mp h
    obtain ⟨_, _, h⟩ := bind_eq_ok.mp h
    obtain ⟨_, _, h⟩ := bind_eq_ok.mp h
    obtain ⟨_, _, h⟩ := bind_eq_ok.mp h
    obtain ⟨_, hfull, h⟩ := bind_eq_ok.mp h
    cases h
    exact backendKind_finishBackend hfull
  | uart =>
    obtain ⟨_, _, h⟩ := bind_eq_ok.mp h
    obtain ⟨_, _, h⟩ := bind_eq_ok.mp h
    obtain ⟨_, hfull, h⟩ := bind_eq_ok.mp h
    cases h
    exact backendKind_finishBackend hfull

theorem headKind_toEntries {σ : Type} {enc : σ → Entries} {b : Model.Backend σ} {label : Label}
    {head : BackendHead} (h : normalizeBackendHead (b.toEntries enc) label = .ok head) :
    headKind head = backendKind b := by
  cases b with
  | controller worker =>
    cases worker with
    | none =>
      cases h
      rfl
    | some w =>
      have hworker : (normalizeWorker (.dict w.toEntries) (label.dot "worker") >>= fun worker =>
          .ok (.controller (some worker))) = .ok head := h
      obtain ⟨_, _, h⟩ := bind_eq_ok.mp hworker
      cases h
      rfl
  | template kind script =>
    cases kind <;> (cases h; rfl)

/-- A device that is read back from an export names the template that it was stored with. -/
theorem templateKind_of_toItem {buses : List (Text × Bus)} {d z : Device} {label : Label}
    (h : normalizeRuntimeDeviceItem d.toItem buses label = .ok z) :
    templateKind z.part = templateKind d.part := by
  obtain ⟨item, bus, fields, head, hitem, _, hz⟩ := normalizeRuntimeDeviceItem_eq_ok.mp h
  cases hitem
  have hfields := hz.backend
  rw [d.get_backend] at hfields
  cases hfields
  rw [templateKind_of_normalizePart hz.part]
  have hhead := hz.head
  cases hpart : d.part with
  | i2c _ _ | spi _ _ _ | uart _ _ =>
    rw [hpart] at hhead
    exact headKind_toEntries hhead

end Sensorium.Daemon

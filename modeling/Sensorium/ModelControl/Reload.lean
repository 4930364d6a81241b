import Mathlib.Logic.Function.Basic
import Sensorium.Lib.CommandLines
import Sensorium.ModelControl.Normalize
import Sensorium.Rpc.Responses

/-!
# From a model to the parameters of the module

`build_apply_env` puts a model into environment variables, the reload script makes the arguments of
`insmod` from them, and the module shows its parameters in files that `read_module_state` reads.
The pathname expansion of the shell and the loading of the module are not part of the repository;
`Machine.Documented` says what is used of them.
-/

namespace Sensorium.ModelControl

open Lib Function
open Sensorium.Rpc (intText)

/-! ## The environment -/

abbrev Environment := String → Option Text

def Environment.set (env : Environment) (name : String) (value : Text) : Environment :=
  update env name (some value)

def Iio.numbers (i : Iio) : List (String × Int) :=
  [("iio_temperature_millic", i.temperatureMillic), ("iio_pressure_pascal", i.pressurePascal),
    ("iio_temperature_step_millic", i.temperatureStepMillic),
    ("iio_pressure_step_pascal", i.pressureStepPascal),
    ("iio_humidity_millipercent", i.humidityMillipercent),
    ("iio_humidity_step_millipercent", i.humidityStepMillipercent),
    ("iio_temperature_thresh_rising_millic", i.temperatureThreshRisingMillic),
    ("update_interval_ms", i.updateIntervalMs)]

def ModuleModel.address (m : ModuleModel) : Option Address :=
  match m.part with
  | .iio { wire := .i2c address, .. } => some address
  | _ => none

/-- The arguments that have no variable of their own; a number of too many digits has no text. -/
def moduleArgs : Part → Option (List Text)
  | .camera c => some (if c.repeatLastFrame then [] else [text "repeat_last_frame=0"])
  | .iio i => do
    let numbers ← i.numbers.mapM fun p => (intText p.2).map (assignment (text p.1))
    some (assignment (text "iio_profile") i.profile.spelling :: numbers)

/-- The arguments that are set in the environment already come first. -/
def prependGiven (environ : Environment) (args : List Text) : List Text :=
  let given := (environ "SENSORIUM_INSMOD_ARGS").getD []
  if given = [] then args else given :: args

def buildApplyEnv (environ : Environment) (m : ModuleModel) : Option Environment := do
  let args ← moduleArgs m.part
  let args := prependGiven environ args
  let env := environ.set "SENSORIUM_ADAPTER" m.adapter.spelling
  let env := env.set "SENSORIUM_TRANSPORT" m.transport.spelling
  let env := env.set "SENSORIUM_INSTANCE" m.name
  let env := env.set "SENSORIUM_TRANSPORT_DEVICE_NAME" ((m.deviceName.map Subtype.val).getD [])
  let env :=
    match m.address with
    | some address => env.set "SENSORIUM_I2C_ADDRESS" (hexWord 0 address)
    | none => env
  let env := env.set "SENSORIUM_FAULT_MODE" m.faultMode.spelling
  let env :=
    match m.part with
    | .camera c => (env.set "SENSORIUM_FAMILY" c.family).set "SENSORIUM_SENSOR" c.sensor
    | .iio _ => env
  some (env.set "SENSORIUM_INSMOD_ARGS" (strip (joinWords 32 args)))

/-! ## The reload script -/

/-- `${NAME:-default}`. -/
def expandVar (env : Environment) (name default : String) : Text :=
  match env name with
  | some value => if value = [] then text default else value
  | none => text default

/-- One more argument behind the others, unless its value is empty. -/
def appendArg (name : String) (value args : Text) : Text :=
  if value = [] then args
  else (if args = [] then [] else args ++ [32]) ++ assignment (text name) value

/-- The text `module_args` of the script when the module is loaded. -/
def reloadArgs (env : Environment) : Text :=
  let adapter := expandVar env "SENSORIUM_ADAPTER" "camera"
  let transport := expandVar env "SENSORIUM_TRANSPORT" "virtual"
  let deviceName := expandVar env "SENSORIUM_TRANSPORT_DEVICE_NAME" ""
  let camera (name : String) (value args : Text) : Text :=
    if adapter = text "camera" then appendArg name value args else args
  let args := expandVar env "SENSORIUM_INSMOD_ARGS" ""
  let args := appendArg "adapter" adapter args
  let args := appendArg "transport" transport args
  let args := appendArg "instance" (expandVar env "SENSORIUM_INSTANCE" "default") args
  let args := appendArg "transport_device_name" deviceName args
  let args :=
    if transport = text "i2c" then
      appendArg "i2c_address" (expandVar env "SENSORIUM_I2C_ADDRESS" "") args
    else args
  let args := appendArg "fault_mode" (expandVar env "SENSORIUM_FAULT_MODE" "none") args
  let args := camera "family" (expandVar env "SENSORIUM_FAMILY" "imx") args
  camera "sensor" (expandVar env "SENSORIUM_SENSOR" "imx708") args

/-- The separators of words in an unquoted expansion. -/
def isIfs (c : Nat) : Bool := c = 32 || c = 9 || c = 10

/-! ## The module -/

inductive Kind
  | charp
  | int
  | uint
  | bool
  deriving DecidableEq, Repr

def kstrtobool : Text → Option Bool
  | c :: cs =>
    if c ∈ text "yYtT1" then some true
    else if c ∈ text "nNfF0" then some false
    else if c ∈ text "oO" then
      match cs with
      | d :: _ => if d ∈ text "nN" then some true else if d ∈ text "fF" then some false else none
      | [] => none
    else none
  | [] => none

/-- What a parameter shows after it was given a value, or nothing if it rejects the value. -/
def Kind.store : Kind → Text → Option Text
  | .charp, value => if value.length ≤ 1024 then some value else none
  | .int, value =>
    ((cInteger? value).filter fun n => -2 ^ 31 ≤ n && n < 2 ^ 31).map signed
  | .uint, value =>
    let digits := if value.head? = some 43 then value.tail else value
    ((cMagnitude? digits).filter (· < 2 ^ 32)).map decimal
  | .bool, value => (kstrtobool value).map fun b => if b then text "Y" else text "N"

structure Parameter where
  name : String
  kind : Kind
  default : Text
  deriving DecidableEq

/-- The parameters that `read_module_state` reads, with what they show when they are not given. -/
def moduleParams : List Parameter :=
  [⟨"adapter", .charp, text "camera"⟩, ⟨"transport", .charp, text "virtual"⟩,
    ⟨"instance", .charp, text "default"⟩, ⟨"transport_device_name", .charp, text "(null)"⟩,
    ⟨"i2c_address", .uint, text "118"⟩, ⟨"fault_mode", .charp, text "none"⟩,
    ⟨"family", .charp, text "imx"⟩, ⟨"sensor", .charp, text "imx708"⟩,
    ⟨"repeat_last_frame", .bool, text "Y"⟩, ⟨"iio_profile", .charp, text "environment-basic"⟩,
    ⟨"iio_temperature_millic", .int, text "21500"⟩, ⟨"iio_pressure_pascal", .int, text "101325"⟩,
    ⟨"iio_temperature_step_millic", .int, text "250"⟩,
    ⟨"iio_pressure_step_pascal", .int, text "120"⟩,
    ⟨"iio_humidity_millipercent", .int, text "45500"⟩,
    ⟨"iio_humidity_step_millipercent", .int, text "350"⟩,
    ⟨"iio_temperature_thresh_rising_millic", .int, text "26000"⟩,
    ⟨"update_interval_ms", .uint, text "1000"⟩]

/-- What a parameter shows after the module was loaded with arguments. -/
def Parameter.contents (p : Parameter) (args : List Text) : Option Text :=
  (assigned args (text p.name)).elim (some p.default) p.kind.store

/-- The files under `parameters` of the loaded module. -/
abbrev Files := String → Text

/-- The shell's pathname expansion, and the loading of the module with arguments. -/
structure Machine where
  expand : Text → List Text
  load : List Text → Option Files

/-- No white space, no quote, and no character of a pathname pattern. -/
def isPlainChar (c : Nat) : Bool :=
  33 ≤ c && c ≤ 126 && c ≠ 34 && c ≠ 42 && c ≠ 63 && c ≠ 91 && c ≠ 92

def Plain (s : Text) : Prop := ∀ c ∈ s, isPlainChar c = true

/-- A word without special characters is no pattern, and of assignments to the parameters of the
module the last one to a parameter sets it. -/
structure Machine.Documented (k : Machine) : Prop where
  expand : ∀ w, Plain w → k.expand w = [w]
  files : ∀ {args : List (Text × Text)} {files : Files},
    (∀ a ∈ args, a.1 ∈ moduleParams.map fun p => text p.name) →
    (∀ a ∈ args, Plain (assignment a.1 a.2)) →
    k.load (args.map fun a => assignment a.1 a.2) = some files →
    ∀ p ∈ moduleParams, ∃ shown,
      p.contents (args.map fun a => assignment a.1 a.2) = some shown ∧
      files p.name = shown ++ [10]

def Machine.insmodArgs (k : Machine) (env : Environment) : List Text :=
  (words isIfs (reloadArgs env)).flatMap k.expand

/-! ## The arguments of a model -/

def Part.ownArgs : Part → List (Text × Text)
  | .camera c => if c.repeatLastFrame then [] else [(text "repeat_last_frame", text "0")]
  | .iio i => (text "iio_profile", i.profile.spelling) ::
      i.numbers.map fun p => (text p.1, signed p.2)

/-- The parameters that a model gives, in the order in which the script has them. -/
def ModuleModel.arguments (m : ModuleModel) : List (Text × Text) :=
  m.part.ownArgs ++
  [(text "adapter", m.adapter.spelling), (text "transport", m.transport.spelling),
    (text "instance", m.name.val)] ++
  (m.deviceName.map fun name => (text "transport_device_name", name.val)).toList ++
  (m.address.map fun address => (text "i2c_address", hexWord 0 address.val)).toList ++
  [(text "fault_mode", m.faultMode.spelling)] ++
  match m.part with
  | .camera c => [(text "family", c.family.val), (text "sensor", c.sensor.val)]
  | .iio _ => []

/-- The texts of a model whose characters no check restricts. -/
def ModuleModel.texts (m : ModuleModel) : List Text :=
  m.name.val ::
  match m.part with
  | .camera c => [c.family.val, c.sensor.val]
  | .iio _ => []

def ModuleModel.Plain (m : ModuleModel) : Prop := ∀ s ∈ m.texts, ModelControl.Plain s

instance (m : ModuleModel) : Decidable m.Plain :=
  inferInstanceAs (Decidable (∀ s ∈ m.texts, ∀ c ∈ s, isPlainChar c = true))

section Plain

variable {m : ModuleModel}

theorem ModuleModel.Plain.name (h : m.Plain) : ModelControl.Plain m.name :=
  h _ List.mem_cons_self

theorem ModuleModel.Plain.family (h : m.Plain) {c : Camera} (hc : m.part = .camera c) :
    ModelControl.Plain c.family :=
  h _ (by simp [ModuleModel.texts, hc])

theorem ModuleModel.Plain.sensor (h : m.Plain) {c : Camera} (hc : m.part = .camera c) :
    ModelControl.Plain c.sensor :=
  h _ (by simp [ModuleModel.texts, hc])

theorem plain_of_digits {s : Text} (h : ∀ c ∈ s, isDigit c = true) : Plain s := by
  intro c hc
  have hdigit := h c hc
  simp only [isDigit, isPlainChar, Bool.and_eq_true, decide_eq_true_eq] at hdigit ⊢
  omega

theorem plain_decimal (n : Nat) : Plain (decimal n) :=
  plain_of_digits fun _ hc => isDigit_of_mem_decimal hc

theorem plain_append {s t : Text} (hs : Plain s) (ht : Plain t) : Plain (s ++ t) := by
  intro c hc
  rcases List.mem_append.mp hc with hc | hc
  · exact hs c hc
  · exact ht c hc

theorem plain_cons {c : Nat} {s : Text} (hc : isPlainChar c = true) (hs : Plain s) :
    Plain (c :: s) := by
  intro d hd
  rcases List.mem_cons.mp hd with rfl | hd
  · exact hc
  · exact hs d hd

theorem plain_signed (n : Int) : Plain (signed n) := by
  unfold signed
  split
  · exact plain_cons (by decide) (plain_decimal _)
  · exact plain_decimal _

theorem plain_hexWord (n : Nat) : Plain (hexWord 0 n) := by
  rw [hexWord_eq]
  refine plain_cons (by decide) (plain_cons (by decide) ?_)
  intro c hc
  obtain ⟨d, hd, rfl⟩ := List.mem_map.mp hc
  have hnibble : ∀ d < 16, isPlainChar (nibble d) = true := by decide
  exact hnibble d (hexWordDigits_lt hd)

theorem plain_deviceName (name : DeviceName) : Plain name.val := by
  intro c hc
  have hchar := List.all_eq_true.mp name.property.2 c hc
  simp only [isDeviceNameChar, isLetter, isDigit, isPlainChar, Bool.or_eq_true, Bool.and_eq_true,
    decide_eq_true_eq] at hchar ⊢
  omega

theorem plain_assignment {name value : Text} (hname : Plain name) (hvalue : Plain value) :
    Plain (assignment name value) :=
  plain_append hname (plain_cons (by decide) hvalue)

end Plain

/-! ## What the script gets from the environment -/

theorem eq_signed_of_intText {n : Int} {t : Text} (h : intText n = some t) : t = signed n := by
  unfold intText at h
  split at h
  · cases h
  · exact (Option.some.inj h).symm

theorem numbers_of_mapM {ps : List (String × Int)} {args : List Text}
    (h : (ps.mapM fun p => (intText p.2).map (assignment (text p.1))) = some args) :
    args = ps.map fun p => assignment (text p.1) (signed p.2) := by
  induction ps generalizing args with
  | nil =>
    cases h
    rfl
  | cons p ps ih =>
    simp only [List.mapM_cons, Option.bind_eq_bind, Option.bind_eq_some_iff, Option.map_eq_some_iff]
      at h
    obtain ⟨arg, ⟨t, ht, rfl⟩, rest, hrest, h⟩ := h
    cases h
    rw [List.map_cons, ih hrest, eq_signed_of_intText ht]

theorem moduleArgs_eq {part : Part} {args : List Text} (h : moduleArgs part = some args) :
    args = part.ownArgs.map fun p => assignment p.1 p.2 := by
  cases part with
  | camera c =>
    cases hrepeat : c.repeatLastFrame with
    | true =>
      simp only [moduleArgs, hrepeat, if_true, Option.some.injEq] at h
      rw [← h, Part.ownArgs, hrepeat]
      rfl
    | false =>
      simp only [moduleArgs, hrepeat, Bool.false_eq_true, if_false, Option.some.injEq] at h
      rw [← h, Part.ownArgs, hrepeat]
      rfl
  | iio i =>
    simp only [moduleArgs, Option.bind_eq_bind, Option.bind_eq_some_iff, Option.some.injEq] at h
    obtain ⟨numbers, hnumbers, rfl⟩ := h
    rw [numbers_of_mapM hnumbers, Part.ownArgs, List.map_cons, List.map_map]
    rfl

/-- The variables that the script reads, as `build_apply_env` sets them. -/
structure Environment.For (env : Environment) (m : ModuleModel) : Prop where
  adapter : env "SENSORIUM_ADAPTER" = some m.adapter.spelling
  transport : env "SENSORIUM_TRANSPORT" = some m.transport.spelling
  name : env "SENSORIUM_INSTANCE" = some m.name.val
  deviceName : env "SENSORIUM_TRANSPORT_DEVICE_NAME" =
    some ((m.deviceName.map Subtype.val).getD [])
  address : ∀ a, m.address = some a → env "SENSORIUM_I2C_ADDRESS" = some (hexWord 0 a)
  faultMode : env "SENSORIUM_FAULT_MODE" = some m.faultMode.spelling
  family : ∀ c, m.part = .camera c → env "SENSORIUM_FAMILY" = some c.family.val
  sensor : ∀ c, m.part = .camera c → env "SENSORIUM_SENSOR" = some c.sensor.val
  args : env "SENSORIUM_INSMOD_ARGS" =
    some (strip (joinWords 32 (m.part.ownArgs.map fun p => assignment p.1 p.2)))

theorem buildApplyEnv_for {environ env : Environment} {m : ModuleModel}
    (hclean : (environ "SENSORIUM_INSMOD_ARGS").getD [] = [])
    (h : buildApplyEnv environ m = some env) : env.For m := by
  simp only [buildApplyEnv, Option.bind_eq_bind, Option.bind_eq_some_iff, Option.some.injEq] at h
  obtain ⟨args, hargs, rfl⟩ := h
  have hgiven : prependGiven environ args = args := if_pos hclean
  rw [hgiven, moduleArgs_eq hargs]
  cases hpart : m.part with
  | camera c =>
    have haddress : m.address = none := by simp [ModuleModel.address, hpart]
    constructor
    case address => simp [haddress]
    case family =>
      intro c' hc'
      cases hpart.symm.trans hc'
      simp [Environment.set, update]
    case sensor =>
      intro c' hc'
      cases hpart.symm.trans hc'
      simp [Environment.set, update]
    all_goals simp [Environment.set, update, haddress, hpart]
  | iio i =>
    constructor
    case address =>
      intro a ha
      simp [Environment.set, update, ha]
    case family => exact fun c hc => by cases hpart.symm.trans hc
    case sensor => exact fun c hc => by cases hpart.symm.trans hc
    all_goals cases haddress : m.address <;> simp [Environment.set, update, hpart]

/-! ## What `insmod` gets -/

theorem assignment_ne_nil (name value : Text) : assignment name value ≠ [] := by
  simp [assignment]

theorem appendArg_joinWords {ps : List (Text × Text)} (name : String) {value : Text}
    (hvalue : value ≠ []) :
    appendArg name value (joinWords 32 (ps.map fun p => assignment p.1 p.2)) =
      joinWords 32 ((ps ++ [(text name, value)]).map fun p => assignment p.1 p.2) := by
  have hwords : ∀ w ∈ ps.map fun p => assignment p.1 p.2, w ≠ [] := by
    intro w hw
    obtain ⟨p, _, rfl⟩ := List.mem_map.mp hw
    exact assignment_ne_nil p.1 p.2
  rw [appendArg, if_neg hvalue, List.map_append, List.map_singleton]
  by_cases hps : ps = []
  · subst hps
    exact (joinWords_singleton 32 _).symm
  · have hne : ps.map (fun p => assignment p.1 p.2) ≠ [] := fun h => hps (List.map_eq_nil_iff.mp h)
    rw [if_neg fun h => hne ((joinWords_eq_nil hwords).mp h), joinWords_concat 32 hne,
      List.append_assoc]
    rfl

theorem appendArg_deviceName (ps : List (Text × Text)) (name : Option DeviceName) :
    appendArg "transport_device_name" ((name.map Subtype.val).getD [])
        (joinWords 32 (ps.map fun p => assignment p.1 p.2)) =
      joinWords 32 ((ps ++ (name.map fun name =>
        (text "transport_device_name", name.val)).toList).map fun p => assignment p.1 p.2) := by
  cases name with
  | none =>
    rw [Option.map_none, Option.map_none, Option.toList_none, List.append_nil]
    exact if_pos rfl
  | some name => exact appendArg_joinWords _ name.property.1

theorem expandVar_of_eq {env : Environment} {name default : String} {value : Text}
    (h : env name = some value) (hvalue : value ≠ []) : expandVar env name default = value := by
  simp [expandVar, h, hvalue]

theorem expandVar_empty {env : Environment} {name : String} {value : Text}
    (h : env name = some value) : expandVar env name "" = value := by
  simp only [expandVar, h]
  split
  · rename_i hnil
    exact hnil.symm
  · rfl

def numberNames : List String :=
  ["iio_temperature_millic", "iio_pressure_pascal", "iio_temperature_step_millic",
    "iio_pressure_step_pascal", "iio_humidity_millipercent", "iio_humidity_step_millipercent",
    "iio_temperature_thresh_rising_millic", "update_interval_ms"]

theorem Iio.numbers_names (i : Iio) : i.numbers.map Prod.fst = numberNames := rfl

theorem plain_text {s : String} (h : (text s).all isPlainChar = true) : Plain (text s) :=
  List.all_eq_true.mp h

theorem plain_ownArgs (part : Part) : ∀ p ∈ part.ownArgs, Plain (assignment p.1 p.2) := by
  intro p hp
  cases part with
  | camera c =>
    simp only [Part.ownArgs] at hp
    split at hp
    · exact absurd hp List.not_mem_nil
    · rw [List.mem_singleton.mp hp]
      exact plain_assignment (plain_text (by decide)) (plain_text (by decide))
  | iio i =>
    simp only [Part.ownArgs] at hp
    rcases List.mem_cons.mp hp with rfl | hp
    · cases i.profile
      · exact plain_assignment (plain_text (by decide)) (plain_text (by decide))
      · exact plain_assignment (plain_text (by decide)) (plain_text (by decide))
    · obtain ⟨q, hq, rfl⟩ := List.mem_map.mp hp
      have hname : q.1 ∈ numberNames := i.numbers_names ▸ List.mem_map_of_mem hq
      have hplain : ∀ name ∈ numberNames, (text name).all isPlainChar = true := by decide
      exact plain_assignment (plain_text (hplain q.1 hname)) (plain_signed q.2)

theorem isWord_of_plain {sep : Nat → Bool} (hsep : ∀ c, isPlainChar c = true → sep c = false)
    {w : Text} (hne : w ≠ []) (hw : Plain w) : IsWord sep w :=
  ⟨hne, fun c hc => hsep c (hw c hc)⟩

theorem isSpace_of_isPlainChar {c : Nat} (h : isPlainChar c = true) : isSpace c = false := by
  simp only [isPlainChar, Bool.and_eq_true, decide_eq_true_eq] at h
  simp only [isSpace, isAsciiSpace, Bool.or_eq_false_iff, Bool.and_eq_false_iff,
    decide_eq_false_iff_not]
  omega

theorem isIfs_of_isPlainChar {c : Nat} (h : isPlainChar c = true) : isIfs c = false := by
  simp only [isPlainChar, Bool.and_eq_true, decide_eq_true_eq] at h
  simp only [isIfs, Bool.or_eq_false_iff, decide_eq_false_iff_not]
  omega

theorem transport_spelling_i2c (m : ModuleModel) :
    m.transport.spelling = text "i2c" ↔ m.address.isSome = true := by
  have hother : text "virtual" ≠ text "i2c" ∧ text "spi" ≠ text "i2c" ∧
      text "uart" ≠ text "i2c" := by decide
  obtain ⟨name, faultMode, part⟩ := m
  cases part with
  | camera c => exact iff_of_false hother.1 Bool.false_ne_true
  | iio i =>
    obtain ⟨wire, deviceName⟩ := i
    cases wire with
    | i2c address => exact iff_of_true rfl rfl
    | spi => exact iff_of_false hother.2.1 Bool.false_ne_true
    | uart => exact iff_of_false hother.2.2 Bool.false_ne_true

theorem appendArg_address {env : Environment} {m : ModuleModel} (h : env.For m)
    (ps : List (Text × Text)) :
    (if m.transport.spelling = text "i2c" then
      appendArg "i2c_address" (expandVar env "SENSORIUM_I2C_ADDRESS" "")
        (joinWords 32 (ps.map fun p => assignment p.1 p.2))
    else joinWords 32 (ps.map fun p => assignment p.1 p.2)) =
      joinWords 32 ((ps ++ (m.address.map fun address =>
        (text "i2c_address", hexWord 0 address.val)).toList).map fun p => assignment p.1 p.2) := by
  cases haddress : m.address with
  | none =>
    have hne : m.transport.spelling ≠ text "i2c" := fun heq => by
      have hsome := (transport_spelling_i2c m).mp heq
      rw [haddress] at hsome
      cases hsome
    rw [if_neg hne, Option.map_none, Option.toList_none, List.append_nil]
  | some address =>
    have hi2c : m.transport.spelling = text "i2c" :=
      (transport_spelling_i2c m).mpr (by rw [haddress]; rfl)
    have hne : hexWord 0 address.val ≠ [] := by
      rw [hexWord_eq]
      exact List.cons_ne_nil _ _
    rw [if_pos hi2c, expandVar_empty (h.address address haddress), appendArg_joinWords _ hne]
    rfl

theorem reloadArgs_eq {env : Environment} {m : ModuleModel} (h : env.For m) :
    reloadArgs env = joinWords 32 (m.arguments.map fun p => assignment p.1 p.2) := by
  have hown : expandVar env "SENSORIUM_INSMOD_ARGS" "" =
      joinWords 32 (m.part.ownArgs.map fun p => assignment p.1 p.2) := by
    have hstrip : strip (joinWords 32 (m.part.ownArgs.map fun p => assignment p.1 p.2)) = _ :=
      strip_joinWords fun w hw => by
        obtain ⟨p, hp, rfl⟩ := List.mem_map.mp hw
        exact isWord_of_plain (fun c => isSpace_of_isPlainChar) (assignment_ne_nil p.1 p.2)
          (plain_ownArgs m.part p hp)
    rw [expandVar_empty h.args, hstrip]
  have hadapter : expandVar env "SENSORIUM_ADAPTER" "camera" = m.adapter.spelling :=
    expandVar_of_eq h.adapter (by cases m.adapter <;> decide)
  have htransport : expandVar env "SENSORIUM_TRANSPORT" "virtual" = m.transport.spelling :=
    expandVar_of_eq h.transport (by cases m.transport <;> decide)
  have hname : expandVar env "SENSORIUM_INSTANCE" "default" = m.name.val :=
    expandVar_of_eq h.name m.name.property
  have hfault : expandVar env "SENSORIUM_FAULT_MODE" "none" = m.faultMode.spelling :=
    expandVar_of_eq h.faultMode (by cases m.faultMode <;> decide)
  have hadapterNe : m.adapter.spelling ≠ [] := by cases m.adapter <;> decide
  have htransportNe : m.transport.spelling ≠ [] := by cases m.transport <;> decide
  have hfaultNe : m.faultMode.spelling ≠ [] := by cases m.faultMode <;> decide
  have hdevice := expandVar_empty h.deviceName
  unfold reloadArgs
  simp only [hown, hadapter, htransport, hname, hfault, hdevice]
  rw [appendArg_joinWords _ hadapterNe, appendArg_joinWords _ htransportNe,
    appendArg_joinWords _ m.name.property, appendArg_deviceName, appendArg_address h,
    appendArg_joinWords _ hfaultNe]
  cases hpart : m.part with
  | camera c =>
    have hcamera : m.adapter.spelling = text "camera" := by
      simp only [ModuleModel.adapter, hpart]
      rfl
    rw [if_pos hcamera, if_pos hcamera, expandVar_of_eq (h.family c hpart) c.family.property,
      expandVar_of_eq (h.sensor c hpart) c.sensor.property,
      appendArg_joinWords _ c.family.property, appendArg_joinWords _ c.sensor.property]
    simp [ModuleModel.arguments, hpart]
  | iio i =>
    have hiio : m.adapter.spelling ≠ text "camera" := by
      simp only [ModuleModel.adapter, hpart]
      decide
    rw [if_neg hiio, if_neg hiio]
    simp [ModuleModel.arguments, hpart]

end Sensorium.ModelControl

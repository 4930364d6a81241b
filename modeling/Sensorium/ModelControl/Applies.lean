import Sensorium.Lib.Runs
import Sensorium.ModelControl.Parameters

/-!
# Runs of `sensoriumctl apply`

An apply is skipped when the parameters of the loaded module are those of the model, and otherwise
loads the module anew.  A host keeps what the module shows, and beside it the model of the last
apply that was skipped or loaded the module, unless a later one has left no module.
-/

namespace Sensorium.ModelControl

open Lib
open Sensorium.Model (Value)

/-! ## The state of the module -/

def moduleStateKeys : List String :=
  ["adapter", "transport", "instance", "transport_device_name", "i2c_address", "fault_mode",
    "family", "sensor", "repeat_last_frame", "iio_profile", "iio_temperature_millic",
    "iio_pressure_pascal", "iio_temperature_step_millic", "iio_pressure_step_pascal",
    "iio_humidity_millipercent", "iio_humidity_step_millipercent",
    "iio_temperature_thresh_rising_millic", "update_interval_ms"]

abbrev ModuleState := List (String × Text)

def stateOf (files : Files) : ModuleState :=
  moduleStateKeys.map fun key => (key, strip (files key))

/-- Without a loaded module there is no directory of parameters. -/
def readModuleState (module : Option Files) : Option ModuleState := module.map stateOf

def parseModuleInt (value : Option Text) : Option Int :=
  value.bind fun s => if s = [] then none else intLiteral? s

def parseModuleBool (value : Option Text) : Option Bool :=
  value.bind fun s =>
    let normalized := (strip s).map lowerAscii
    if normalized ∈ [text "1", text "y", text "yes", text "true", text "on"] then some true
    else if normalized ∈ [text "0", text "n", text "no", text "false", text "off"] then some false
    else none

def showsText (state : ModuleState) (key : String) (expected : Text) : Bool :=
  strip ((dictGet state key).getD []) = expected

def showsInt (state : ModuleState) (key : String) (expected : Int) : Bool :=
  parseModuleInt (dictGet state key) = some expected

def Part.matchesState (state : ModuleState) : Part → Bool
  | .camera c =>
    showsText state "family" c.family && showsText state "sensor" c.sensor &&
      parseModuleBool (dictGet state "repeat_last_frame") = some c.repeatLastFrame
  | .iio i =>
    showsText state "iio_profile" i.profile.spelling &&
      i.numbers.all fun p => showsInt state p.1 p.2

def modelMatchesModuleState (m : ModuleModel) : Option ModuleState → Bool
  | none => false
  | some state =>
    !state.isEmpty && showsText state "adapter" m.adapter.spelling &&
      showsText state "transport" m.transport.spelling && showsText state "instance" m.name &&
      showsText state "transport_device_name" ((m.deviceName.map Subtype.val).getD []) &&
      showsText state "fault_mode" m.faultMode.spelling &&
      (m.address.all fun address => showsInt state "i2c_address" address.val) &&
      m.part.matchesState state

/-! ## A module that shows a model -/

theorem strip_line {s : Text} (h : Plain s) : strip (s ++ [10]) = s := by
  have hword : ∀ t : Text, Plain t → t.dropWhile isSpace = t ∧ t.rdropWhile isSpace = t := by
    intro t ht
    constructor
    · cases t with
      | nil => rfl
      | cons c cs =>
        rw [List.dropWhile_cons, isSpace_of_isPlainChar (ht c List.mem_cons_self),
          if_neg Bool.false_ne_true]
    · rw [List.rdropWhile_eq_self_iff]
      intro hne
      rw [isSpace_of_isPlainChar (ht _ (List.getLast_mem hne))]
      decide
  have hfront : (s ++ [10]).dropWhile isSpace = if s = [] then [] else s ++ [10] := by
    cases s with
    | nil => rfl
    | cons c cs =>
      rw [List.cons_append, List.dropWhile_cons,
        isSpace_of_isPlainChar (h c List.mem_cons_self), if_neg Bool.false_ne_true,
        if_neg (List.cons_ne_nil c cs)]
  rw [strip, hfront]
  split
  · rename_i hs
    rw [hs]
    rfl
  · rw [List.rdropWhile_concat_pos _ _ _ (by decide)]
    exact (hword s h).2

theorem plain_shown {m : ModuleModel} (hm : m.Plain) : ∀ p ∈ m.shown, Plain p.2 := by
  obtain ⟨hadapter, htransport, hfault⟩ := plain_spellings m
  intro p hp
  simp only [ModuleModel.shown, List.mem_append, List.mem_cons, List.not_mem_nil, or_false] at hp
  rcases hp with (hp | hp) | hp
  · rcases hp with rfl | rfl | rfl | rfl | rfl
    · exact hadapter
    · exact htransport
    · exact hm.name
    · cases m.deviceName with
      | none => exact plain_text (by decide)
      | some name => exact plain_deviceName name
    · exact hfault
  · obtain ⟨address, -, rfl⟩ := Option.map_eq_some_iff.mp (Option.mem_toList.mp hp)
    exact plain_decimal address
  · cases hpart : m.part with
    | camera c =>
      simp only [hpart, List.mem_cons, List.not_mem_nil, or_false] at hp
      rcases hp with rfl | rfl | rfl
      · exact hm.family hpart
      · exact hm.sensor hpart
      · cases c.repeatLastFrame <;> exact plain_text (by decide)
    | iio i =>
      simp only [hpart, List.mem_cons, List.mem_map] at hp
      rcases hp with rfl | ⟨q, -, rfl⟩
      · exact plain_profile i.profile
      · exact plain_signed q.2

section Shows

variable {m m' : ModuleModel} {files : Files}

theorem shown_keys : ∀ p ∈ m.shown, p.1 ∈ moduleStateKeys := by
  intro p hp
  simp only [ModuleModel.shown, List.mem_append, List.mem_cons, List.not_mem_nil, or_false] at hp
  rcases hp with (hp | hp) | hp
  · rcases hp with rfl | rfl | rfl | rfl | rfl <;> simp [moduleStateKeys]
  · obtain ⟨address, -, rfl⟩ := Option.map_eq_some_iff.mp (Option.mem_toList.mp hp)
    simp [moduleStateKeys]
  · cases hpart : m.part with
    | camera c =>
      simp only [hpart, List.mem_cons, List.not_mem_nil, or_false] at hp
      rcases hp with rfl | rfl | rfl <;> simp [moduleStateKeys]
    | iio i =>
      have hnumbers : ∀ name ∈ numberNames, name ∈ moduleStateKeys := by decide
      simp only [hpart, List.mem_cons, List.mem_map] at hp
      rcases hp with rfl | ⟨q, hq, rfl⟩
      · simp [moduleStateKeys]
      · exact hnumbers q.1 (i.numbers_names ▸ List.mem_map_of_mem hq)

theorem dictGet_stateOf (h : Loaded files m) (hm : m.Plain) {key : String} {value : Text}
    (hp : (key, value) ∈ m.shown) : dictGet (stateOf files) key = some value := by
  have hnodup : (keys (stateOf files)).Nodup := by
    have hkeys : keys (stateOf files) = moduleStateKeys := rfl
    rw [hkeys]
    decide
  apply dictGet_of_mem hnodup
  refine List.mem_map.mpr ⟨key, shown_keys _ hp, ?_⟩
  rw [h.shown _ hp, strip_line (plain_shown hm _ hp)]

theorem strip_of_plain {s : Text} (h : Plain s) : strip s = s := by
  rw [← strip_line h, strip_strip]

/-- A text is found in the state just when it is the one that is shown. -/
theorem showsText_iff (h : Loaded files m) (hm : m.Plain) {key : String} {value : Text}
    (hp : (key, value) ∈ m.shown) (expected : Text) :
    showsText (stateOf files) key expected = true ↔ expected = value := by
  rw [showsText, dictGet_stateOf h hm hp, Option.getD_some, decide_eq_true_eq,
    strip_of_plain (plain_shown hm _ hp)]
  exact eq_comm

theorem parseModuleInt_signed {n : Int} (hn : n.natAbs < 2 ^ 32) :
    parseModuleInt (some (signed n)) = some n := by
  have hne : signed n ≠ [] := by
    unfold signed
    split
    · exact List.cons_ne_nil _ _
    · exact decimal_ne_nil _
  have hlen : (decimal n.natAbs).length ≤ 10 :=
    length_decimal_le (by omega) (lt_of_lt_of_le hn (by norm_num))
  show (if signed n = [] then none else intLiteral? (signed n)) = some n
  rw [if_neg hne, intLiteral?_signed (by omega)]

theorem showsInt_iff (h : Loaded files m) (hm : m.Plain) {key : String} {n : Int}
    (hp : (key, signed n) ∈ m.shown) (hn : n.natAbs < 2 ^ 32) (expected : Int) :
    showsInt (stateOf files) key expected = true ↔ expected = n := by
  rw [showsInt, dictGet_stateOf h hm hp, parseModuleInt_signed hn, decide_eq_true_eq,
    Option.some.injEq]
  exact eq_comm

theorem showsBool_iff (h : Loaded files m) (hm : m.Plain) {c : Camera} (hc : m.part = .camera c)
    (expected : Bool) :
    parseModuleBool (dictGet (stateOf files) "repeat_last_frame") = some expected ↔
      expected = c.repeatLastFrame := by
  have hparse : ∀ b : Bool, parseModuleBool (some (if b then text "Y" else text "N")) = some b := by
    decide
  have hmem : ("repeat_last_frame", if c.repeatLastFrame then text "Y" else text "N") ∈
      m.shown := by simp [ModuleModel.shown, hc]
  rw [dictGet_stateOf h hm hmem, hparse, Option.some.injEq]
  exact eq_comm

theorem matchesCamera_iff (h : Loaded files m) (hm : m.Plain) {c : Camera} (hc : m.part = .camera c)
    (c' : Camera) : (Part.camera c').matchesState (stateOf files) = true ↔
      c'.family = c.family ∧ c'.sensor = c.sensor ∧ c'.repeatLastFrame = c.repeatLastFrame := by
  have hfamily : ("family", c.family.val) ∈ m.shown := by simp [ModuleModel.shown, hc]
  have hsensor : ("sensor", c.sensor.val) ∈ m.shown := by simp [ModuleModel.shown, hc]
  simp only [Part.matchesState, Bool.and_eq_true, decide_eq_true_eq, showsText_iff h hm hfamily,
    showsText_iff h hm hsensor, showsBool_iff h hm hc, Subtype.ext_iff, and_assoc]

theorem all_eq_iff {shows : String → Int → Bool} {ps ps' : List (String × Int)}
    (hnames : ps'.map Prod.fst = ps.map Prod.fst)
    (hshows : ∀ p ∈ ps, ∀ n, shows p.1 n = true ↔ n = p.2) :
    (ps'.all fun p => shows p.1 p.2) = true ↔ ps' = ps := by
  induction ps' generalizing ps with
  | nil =>
    cases ps with
    | nil => simp
    | cons p ps => cases hnames
  | cons p' ps' ih =>
    cases ps with
    | nil => cases hnames
    | cons p ps =>
      rw [List.map_cons, List.map_cons, List.cons.injEq] at hnames
      rw [List.all_cons, Bool.and_eq_true,
        ih hnames.2 fun q hq => hshows q (List.mem_cons_of_mem p hq), hnames.1,
        hshows p List.mem_cons_self, List.cons.injEq, Prod.ext_iff]
      simp [hnames.1]

theorem matchesIio_iff (h : Loaded files m) (hm : m.Plain) {i : Iio} (hi : m.part = .iio i)
    (i' : Iio) : (Part.iio i').matchesState (stateOf files) = true ↔
      i'.profile = i.profile ∧ i'.numbers = i.numbers := by
  have hprofile : ("iio_profile", i.profile.spelling) ∈ m.shown := by simp [ModuleModel.shown, hi]
  have hspelling : i'.profile.spelling = i.profile.spelling ↔ i'.profile = i.profile := by
    cases i'.profile <;> cases i.profile <;> decide
  have hnumbers : ∀ p ∈ i.numbers, ∀ n, showsInt (stateOf files) p.1 n = true ↔ n = p.2 := by
    intro p hp
    apply showsInt_iff h hm _ (h.range i hi p hp)
    simp only [ModuleModel.shown, hi, List.mem_append, List.mem_cons, List.mem_map]
    exact .inr (.inr ⟨p, hp, rfl⟩)
  rw [Part.matchesState, Bool.and_eq_true, showsText_iff h hm hprofile, hspelling,
    all_eq_iff (i'.numbers_names.trans i.numbers_names.symm) hnumbers]

theorem deviceName_iff (name name' : Option DeviceName) :
    (name'.map Subtype.val).getD [] = (name.map Subtype.val).getD (text "(null)") ↔
      name' = name ∧ name.isSome = true := by
  cases name with
  | none =>
    cases name' with
    | none => exact iff_of_false (by decide) (by simp)
    | some name' =>
      refine iff_of_false (fun heq => ?_) (by simp)
      have hname : name'.val = text "(null)" := heq
      have hchars := name'.property.2
      rw [hname] at hchars
      exact absurd hchars (by decide)
  | some name =>
    cases name' with
    | none => exact iff_of_false (fun heq => name.property.1 heq.symm) (by simp)
    | some name' => simp [Subtype.ext_iff]

end Shows

/-! ## When the parameters are those of a model -/

section Matches

variable {m m' : ModuleModel} {files : Files}

theorem iio_eq {i i' : Iio} (hwire : i'.wire = i.wire) (hname : i'.deviceName = i.deviceName)
    (hprofile : i'.profile = i.profile) (hnumbers : i'.numbers = i.numbers) : i' = i := by
  simp only [Iio.numbers, List.cons.injEq, Prod.mk.injEq, true_and, and_true] at hnumbers
  obtain ⟨h1, h2, h3, h4, h5, h6, h7, h8⟩ := hnumbers
  exact Iio.ext hwire hname hprofile h1 h2 h3 h4 h5 h6 h7 h8

theorem address_of_wire {i : Iio} (hi : m.part = .iio i) {a : Address} (ha : i.wire = .i2c a) :
    m.address = some a := by
  obtain ⟨wire, deviceName⟩ := i
  have hwire : wire = .i2c a := ha
  subst hwire
  simp [ModuleModel.address, hi]

theorem wire_eq {i i' : Iio} (hi : m.part = .iio i) (hi' : m'.part = .iio i')
    (htransport : m'.transport.spelling = m.transport.spelling)
    (haddress : ∀ a', m'.address = some a' → ∀ a, m.address = some a → a' = a) :
    i'.wire = i.wire := by
  have hspelling : ∀ t t' : Transport, t'.spelling = t.spelling → t' = t := by
    intro t t'
    cases t <;> cases t' <;> decide
  have hsame := hspelling _ _ htransport
  simp only [ModuleModel.transport, hi, hi'] at hsame
  cases hw : i.wire with
  | i2c a =>
    cases hw' : i'.wire with
    | i2c a' =>
      rw [haddress a' (address_of_wire hi' hw') a (address_of_wire hi hw)]
    | spi | uart =>
      rw [hw, hw'] at hsame
      cases hsame
  | spi =>
    cases hw' : i'.wire with
    | spi => rfl
    | i2c _ | uart =>
      rw [hw, hw'] at hsame
      cases hsame
  | uart =>
    cases hw' : i'.wire with
    | uart => rfl
    | i2c _ | spi =>
      rw [hw, hw'] at hsame
      cases hsame

theorem part_eq (h : Loaded files m) (hm : m.Plain)
    (hadapter : m'.adapter.spelling = m.adapter.spelling)
    (htransport : m'.transport.spelling = m.transport.spelling)
    (hname : m'.deviceName = m.deviceName)
    (haddress : ∀ a', m'.address = some a' → ∀ a, m.address = some a → a' = a)
    (hpart : m'.part.matchesState (stateOf files) = true) : m'.part = m.part := by
  have hadapters : text "camera" ≠ text "iio" := by decide
  cases hp : m.part with
  | camera c =>
    cases hp' : m'.part with
    | camera c' =>
      rw [hp', matchesCamera_iff h hm hp] at hpart
      simp only [ModuleModel.deviceName, hp, hp'] at hname
      exact congrArg Part.camera (Camera.ext hname hpart.1 hpart.2.1 hpart.2.2)
    | iio i' =>
      simp only [ModuleModel.adapter, hp, hp'] at hadapter
      exact absurd hadapter.symm hadapters
  | iio i =>
    cases hp' : m'.part with
    | camera c' =>
      simp only [ModuleModel.adapter, hp, hp'] at hadapter
      exact absurd hadapter hadapters
    | iio i' =>
      rw [hp', matchesIio_iff h hm hp] at hpart
      simp only [ModuleModel.deviceName, hp, hp', Option.some.injEq] at hname
      have hwire : i'.wire = i.wire := wire_eq hp hp' htransport haddress
      exact congrArg Part.iio (iio_eq hwire hname hpart.1 hpart.2)

/-- The parameters of a module that was loaded for a model are those of this model only, and of
none when it has no device name. -/
theorem matchesState_iff (h : Loaded files m) (hm : m.Plain) :
    modelMatchesModuleState m' (some (stateOf files)) = true ↔
      m' = m ∧ m.deviceName.isSome = true := by
  have hadapter : ("adapter", m.adapter.spelling) ∈ m.shown := by simp [ModuleModel.shown]
  have htransport : ("transport", m.transport.spelling) ∈ m.shown := by simp [ModuleModel.shown]
  have hinstance : ("instance", m.name.val) ∈ m.shown := by simp [ModuleModel.shown]
  have hdevice : ("transport_device_name",
      (m.deviceName.map Subtype.val).getD (text "(null)")) ∈ m.shown := by simp [ModuleModel.shown]
  have hfault : ("fault_mode", m.faultMode.spelling) ∈ m.shown := by simp [ModuleModel.shown]
  have haddress : ∀ a, m.address = some a → ∀ n : Int,
      showsInt (stateOf files) "i2c_address" n = true ↔ n = (a.val : Int) := by
    intro a ha n
    have hsigned : signed (a.val : Int) = decimal a.val := if_neg (by omega)
    have hshown : ("i2c_address", signed (a.val : Int)) ∈ m.shown := by
      simp [ModuleModel.shown, ha, hsigned]
    have hlt := a.property
    exact showsInt_iff h hm hshown (by omega) n
  have hsome : (stateOf files).isEmpty = false := rfl
  simp only [modelMatchesModuleState, Bool.and_eq_true, hsome, Bool.not_false, true_and,
    showsText_iff h hm hadapter, showsText_iff h hm htransport, showsText_iff h hm hinstance,
    showsText_iff h hm hdevice, showsText_iff h hm hfault, deviceName_iff]
  constructor
  · rintro ⟨⟨⟨⟨⟨⟨ha, ht⟩, hn⟩, hname, hpresent⟩, hf⟩, hi2c⟩, hpart⟩
    have hmode : m'.faultMode = m.faultMode := by
      revert hf
      cases m'.faultMode <;> cases m.faultMode <;> decide
    have haddresses : ∀ a', m'.address = some a' → ∀ a, m.address = some a → a' = a := by
      intro a' ha' a ha
      rw [ha', Option.all_some, haddress a ha] at hi2c
      exact Subtype.ext (by omega)
    exact ⟨ModuleModel.ext (Subtype.ext hn) hmode (part_eq h hm ha ht hname haddresses hpart),
      hpresent⟩
  · rintro ⟨rfl, hpresent⟩
    refine ⟨⟨⟨⟨⟨⟨rfl, rfl⟩, rfl⟩, rfl, hpresent⟩, rfl⟩, ?_⟩, ?_⟩
    · cases ha : m'.address with
      | none => rfl
      | some a => exact (haddress a ha _).mpr rfl
    · cases hp : m'.part with
      | camera c => exact (matchesCamera_iff h hm hp c).mpr ⟨rfl, rfl, rfl⟩
      | iio i => exact (matchesIio_iff h hm hp i).mpr ⟨rfl, rfl⟩

end Matches

/-! ## Applies -/

structure Host where
  module : Option Files
  /-- The model that the last apply found loaded or has loaded. -/
  active : Option ModuleModel

def Host.start : Host := ⟨none, none⟩

/-- Where the reload script ends: before it has unloaded the module, between the unloading and the
loading, or behind an `insmod` whose arguments alone decide. -/
inductive Script
  | stops
  | unloads
  | loads
  deriving DecidableEq

/-- One call of `sensoriumctl apply`: the model, the environment, whether the daemon lets it pass,
whether the build is current, and how far the script comes. -/
structure Apply where
  raw : Value
  environ : Environment
  admitted : Bool
  current : Bool
  script : Script

def Apply.model (a : Apply) : Option ModuleModel :=
  match normalizeModel a.raw with
  | .ok (.module m) => some m
  | _ => none

def Apply.forced (a : Apply) : Bool := a.environ "SENSORIUM_FORCE_RELOAD" = some (text "1")

namespace Host

variable (k : Machine) (h : Host)

def skips (a : Apply) (m : ModuleModel) : Bool :=
  !a.forced && modelMatchesModuleState m (readModuleState h.module) && a.current

/-- The reload script: it unloads the module and loads it with the arguments of the model. -/
def reload (a : Apply) (m : ModuleModel) : Host :=
  match buildApplyEnv a.environ m with
  | none => h
  | some env =>
    match a.script with
    | .stops => h
    | .unloads => { module := none, active := none }
    | .loads =>
      match k.load (k.insmodArgs env) with
      | some files => { module := some files, active := some m }
      | none => { module := none, active := none }

def applyModel (a : Apply) : Host :=
  match a.model with
  | none => h
  | some m =>
    if !a.admitted then h
    else if h.skips a m then { h with active := some m }
    else h.reload k a m

def step (a : Apply) : Option Host := some (h.applyModel k a)

/-- No arguments are set in the environment, and the names have no special characters. -/
def Usual (_ : Host) (a : Apply) : Prop :=
  (a.environ "SENSORIUM_INSMOD_ARGS").getD [] = [] ∧ ∀ m ∈ a.model, m.Plain

instance (h : Host) (a : Apply) : Decidable (Usual h a) :=
  inferInstanceAs (Decidable (_ ∧ ∀ m ∈ a.model, m.Plain))

/-- The module is loaded just when there is an active model, and then it shows this model. -/
structure Sound (h : Host) : Prop where
  loaded : ∀ m, h.active = some m → m.Plain ∧ ∃ files, h.module = some files ∧ Loaded files m
  unloaded : h.active = none → h.module = none

variable {k h}

theorem Sound.matches_iff (hs : h.Sound) (m : ModuleModel) :
    modelMatchesModuleState m (readModuleState h.module) = true ↔
      h.active = some m ∧ m.deviceName.isSome = true := by
  cases hactive : h.active with
  | none =>
    rw [hs.unloaded hactive]
    exact iff_of_false Bool.false_ne_true fun hm => by cases hm.1
  | some active =>
    obtain ⟨hplain, files, hmodule, hloaded⟩ := hs.loaded active hactive
    rw [hmodule, readModuleState, Option.map_some, matchesState_iff hloaded hplain,
      Option.some.injEq, eq_comm]
    exact and_congr_right fun heq => by rw [heq]

theorem Sound.reload (hk : k.Documented) (hs : h.Sound) {a : Apply} {m : ModuleModel}
    (hclean : (a.environ "SENSORIUM_INSMOD_ARGS").getD [] = []) (hm : m.Plain) :
    (h.reload k a m).Sound := by
  unfold Host.reload
  cases henv : buildApplyEnv a.environ m with
  | none => exact hs
  | some env =>
    have hnone : (⟨none, none⟩ : Host).Sound :=
      ⟨fun _ hactive => (by cases hactive), fun _ => rfl⟩
    cases a.script with
    | stops => exact hs
    | unloads => exact hnone
    | loads =>
      dsimp only
      cases hload : k.load (k.insmodArgs env) with
      | none => exact hnone
      | some files =>
        have hloaded := loaded_of_load hk (buildApplyEnv_for hclean henv) hm hload
        refine ⟨fun m' hactive => ?_, fun hactive => by cases hactive⟩
        cases hactive
        exact ⟨hm, files, rfl, hloaded⟩

theorem Sound.applyModel (hk : k.Documented) (hs : h.Sound) {a : Apply} (ha : Usual h a) :
    (h.applyModel k a).Sound := by
  unfold Host.applyModel
  cases hmodel : a.model with
  | none => exact hs
  | some m =>
    have hm : m.Plain := ha.2 m hmodel
    by_cases hadmitted : a.admitted = true
    · by_cases hskips : h.skips a m = true
      · have hmatches : modelMatchesModuleState m (readModuleState h.module) = true := by
          simp only [Host.skips, Bool.and_eq_true] at hskips
          exact hskips.1.2
        have hactive := ((hs.matches_iff m).mp hmatches).1
        have hsame : { h with active := some m } = h := by rw [← hactive]
        simp only [hadmitted, hskips, Bool.not_true, Bool.false_eq_true, if_false, if_true, hsame]
        exact hs
      · simp only [hadmitted, hskips, Bool.not_true, Bool.false_eq_true, if_false]
        exact hs.reload hk ha.1 hm
    · simp only [hadmitted, Bool.not_false, if_true]
      exact hs

end Host

/-- In every run of applies the loaded module shows the model of the last apply that was skipped or
loaded it, and when a later one has left no module there is none; and the module has the parameters
of a model just when it is this one, and the model has a device name. -/
theorem applied_model_is_loaded {k : Machine} (hk : k.Documented) {h : Host}
    (hr : Reach (Host.step k) Host.Usual Host.start h) :
    (∀ m, h.active = some m →
      ∃ files, h.module = some files ∧ ∀ p ∈ m.shown, files p.1 = p.2 ++ [10]) ∧
    (h.active = none → h.module = none) ∧
    ∀ m, modelMatchesModuleState m (readModuleState h.module) = true ↔
      h.active = some m ∧ m.deviceName.isSome = true := by
  have hs : h.Sound := by
    apply hr.invariant
    · exact ⟨fun _ hactive => (by cases hactive), fun _ => rfl⟩
    · intro h a h' hs ha hstep
      cases hstep
      exact hs.applyModel hk ha
  refine ⟨fun m hm => ?_, hs.unloaded, hs.matches_iff⟩
  obtain ⟨-, files, hmodule, hloaded⟩ := hs.loaded m hm
  exact ⟨files, hmodule, hloaded.shown⟩

/-- A machine that shows what its parameters were given, if they take it. -/
def exampleMachine : Machine where
  expand := fun w => [w]
  load := fun args =>
    if moduleParams.all fun p => (p.contents args).isSome then
      some fun name => ((moduleParams.find? fun p => p.name = name).bind fun p =>
        p.contents args).getD [] ++ [10]
    else none

theorem exampleMachine_documented : exampleMachine.Documented where
  expand := fun _ _ => rfl
  files := by
    intro args files _ _ hload p hp
    have hfind : ∀ p ∈ moduleParams, (moduleParams.find? fun q => q.name = p.name) = some p := by
      decide
    simp only [exampleMachine, Option.ite_none_right_eq_some, Option.some.injEq] at hload
    obtain ⟨hall, rfl⟩ := hload
    obtain ⟨shown, hshown⟩ := Option.isSome_iff_exists.mp (List.all_eq_true.mp hall p hp)
    refine ⟨shown, hshown, ?_⟩
    show ((moduleParams.find? fun q => q.name = p.name).bind fun q =>
      q.contents (args.map fun a => assignment a.1 a.2)).getD [] ++ [10] = shown ++ [10]
    rw [hfind p hp, Option.bind_some, hshown, Option.getD_some]

def exampleCamera : Value := .dict [(.lit "name", .lit "bench"), (.lit "adapter", .lit "camera"),
  (.lit "timing", .dict [(.lit "repeat_last_frame", .bool false)]),
  (.lit "config", .dict [(.lit "transport", .dict [(.lit "device_name", .lit "cam0")]),
    (.lit "camera", .dict [(.lit "family", .lit "imx"), (.lit "sensor", .lit "imx219")])])]

def exampleApply : Apply := ⟨exampleCamera, fun _ => none, true, true, .loads⟩

def exampleModel : ModuleModel where
  name := ⟨text "bench", by decide⟩
  faultMode := .none
  part := .camera ⟨some ⟨text "cam0", by decide⟩, ⟨text "imx", by decide⟩,
    ⟨text "imx219", by decide⟩, false⟩

/-- After a camera was applied, the module shows its sensor, and another apply of it is skipped. -/
theorem applied_model_is_loaded_camera : ∃ h : Host, exampleApply.model = some exampleModel ∧
    (∃ files, h.module = some files ∧ files "sensor" = text "imx219" ++ [10]) ∧
    h.skips exampleApply exampleModel = true := by
  have hmodel : exampleApply.model = some exampleModel := by decide +kernel
  have hrun : (exec (guarded (Host.step exampleMachine) Host.Usual) Host.start [exampleApply]).map
      Host.active = some (some exampleModel) := by decide +kernel
  obtain ⟨h, hexec, hactive⟩ := Option.map_eq_some_iff.mp hrun
  obtain ⟨hshown, -, hmatches⟩ :=
    applied_model_is_loaded exampleMachine_documented (reach_of_exec hexec)
  obtain ⟨files, hmodule, hfiles⟩ := hshown exampleModel hactive
  have hsensor : ("sensor", text "imx219") ∈ exampleModel.shown := by decide
  have hsame := (hmatches exampleModel).mpr ⟨hactive, rfl⟩
  refine ⟨h, hmodel, ⟨files, hmodule, hfiles _ hsensor⟩, ?_⟩
  rw [Host.skips, hsame]
  rfl

end Sensorium.ModelControl

import Sensorium.ModelControl.Reload

/-!
# The parameters of a loaded module

What the files of the module show after it was loaded for a model, and when
`model_matches_module_state` finds that they are those of a model.
-/

namespace Sensorium.ModelControl

open Lib

/-! ## Names of arguments -/

/-- The names that a model of a certain shape gives. -/
def argumentNames (camera repeats device address : Bool) : List String :=
  (if camera then if repeats then [] else ["repeat_last_frame"]
    else "iio_profile" :: numberNames) ++
  ["adapter", "transport", "instance"] ++
  (if device then ["transport_device_name"] else []) ++
  (if address then ["i2c_address"] else []) ++
  ["fault_mode"] ++
  if camera then ["family", "sensor"] else []

def Part.isCamera : Part → Bool
  | .camera _ => true
  | .iio _ => false

def Part.repeats : Part → Bool
  | .camera c => c.repeatLastFrame
  | .iio _ => true

theorem keys_arguments (m : ModuleModel) :
    keys m.arguments = (argumentNames m.part.isCamera m.part.repeats m.deviceName.isSome
      m.address.isSome).map text := by
  unfold ModuleModel.arguments
  have hown : keys m.part.ownArgs = (if m.part.isCamera then
      if m.part.repeats then [] else ["repeat_last_frame"]
      else "iio_profile" :: numberNames).map text := by
    cases m.part with
    | camera c => cases hrepeat : c.repeatLastFrame <;>
        simp [Part.ownArgs, Part.isCamera, Part.repeats, hrepeat, keys]
    | iio i => simp [Part.ownArgs, Part.isCamera, Iio.numbers, numberNames, keys]
  simp only [keys, List.map_append] at hown ⊢
  rw [hown]
  cases hpart : m.part <;> cases m.deviceName <;> cases m.address <;>
    simp [argumentNames, Part.isCamera]

theorem nodup_arguments (m : ModuleModel) : (keys m.arguments).Nodup := by
  have hnames : ∀ camera repeats device address,
      ((argumentNames camera repeats device address).map text).Nodup := by decide
  rw [keys_arguments]
  exact hnames _ _ _ _

theorem notMem_names (m : ModuleModel) : ∀ name ∈ keys m.arguments, 61 ∉ name := by
  have hnames : ∀ camera repeats device address,
      ∀ name ∈ (argumentNames camera repeats device address).map text, 61 ∉ name := by decide
  rw [keys_arguments]
  exact hnames _ _ _ _

theorem known_arguments (m : ModuleModel) :
    ∀ p ∈ m.arguments, p.1 ∈ moduleParams.map fun p => text p.name := by
  have hnames : ∀ camera repeats device address,
      ∀ name ∈ (argumentNames camera repeats device address).map text,
        name ∈ moduleParams.map fun p => text p.name := by decide
  intro p hp
  have hname : p.1 ∈ keys m.arguments := List.mem_map_of_mem hp
  rw [keys_arguments] at hname
  exact hnames _ _ _ _ _ hname

theorem plain_argument {name : String} {value : Text} (hname : (text name).all isPlainChar = true)
    (hvalue : Plain value) : Plain (assignment (text name) value) :=
  plain_assignment (plain_text hname) hvalue

theorem plain_spellings (m : ModuleModel) : Plain m.adapter.spelling ∧ Plain m.transport.spelling ∧
    Plain m.faultMode.spelling := by
  refine ⟨?_, ?_, ?_⟩
  · cases m.adapter <;> exact plain_text (by decide)
  · cases m.transport <;> exact plain_text (by decide)
  · cases m.faultMode <;> exact plain_text (by decide)

theorem plain_profile (profile : Profile) : Plain profile.spelling := by
  cases profile <;> exact plain_text (by decide)

theorem plain_arguments {m : ModuleModel} (hm : m.Plain) :
    ∀ w ∈ m.arguments.map fun p => assignment p.1 p.2, Plain w := by
  obtain ⟨hadapter, htransport, hfault⟩ := plain_spellings m
  intro w hw
  obtain ⟨p, hp, rfl⟩ := List.mem_map.mp hw
  simp only [ModuleModel.arguments, List.mem_append, List.mem_cons, List.not_mem_nil, or_false]
    at hp
  rcases hp with ((((hp | hp) | hp) | hp) | rfl) | hp
  · exact plain_ownArgs m.part p hp
  · rcases hp with rfl | rfl | rfl
    · exact plain_argument (by decide) hadapter
    · exact plain_argument (by decide) htransport
    · exact plain_argument (by decide) hm.name
  · obtain ⟨name, -, rfl⟩ := Option.map_eq_some_iff.mp (Option.mem_toList.mp hp)
    exact plain_argument (by decide) (plain_deviceName name)
  · obtain ⟨address, -, rfl⟩ := Option.map_eq_some_iff.mp (Option.mem_toList.mp hp)
    exact plain_argument (by decide) (plain_hexWord address)
  · exact plain_argument (by decide) hfault
  · cases hpart : m.part with
    | camera c =>
      simp only [hpart, List.mem_cons, List.not_mem_nil, or_false] at hp
      rcases hp with rfl | rfl
      · exact plain_argument (by decide) (hm.family hpart)
      · exact plain_argument (by decide) (hm.sensor hpart)
    | iio i => simp [hpart] at hp

/-! ## What the module shows -/

/-- What the parameters of a model are once the module has them. -/
def ModuleModel.shown (m : ModuleModel) : List (String × Text) :=
  [("adapter", m.adapter.spelling), ("transport", m.transport.spelling), ("instance", m.name.val),
    ("transport_device_name", (m.deviceName.map Subtype.val).getD (text "(null)")),
    ("fault_mode", m.faultMode.spelling)] ++
  (m.address.map fun address => ("i2c_address", decimal address.val)).toList ++
  match m.part with
  | .camera c => [("family", c.family.val), ("sensor", c.sensor.val),
      ("repeat_last_frame", if c.repeatLastFrame then text "Y" else text "N")]
  | .iio i => ("iio_profile", i.profile.spelling) :: i.numbers.map fun p => (p.1, signed p.2)

/-- The files of a module that was loaded for a model. -/
structure Loaded (files : Files) (m : ModuleModel) : Prop where
  shown : ∀ p ∈ m.shown, files p.1 = p.2 ++ [10]
  range : ∀ i, m.part = .iio i → ∀ p ∈ i.numbers, p.2.natAbs < 2 ^ 32

section Contents

variable {m : ModuleModel} {p : Parameter}

theorem notMem_paramName (hp : p ∈ moduleParams) : 61 ∉ text p.name := by
  have hnames : ∀ name ∈ moduleParams.map Parameter.name, 61 ∉ text name := by decide
  exact hnames p.name (List.mem_map_of_mem hp)

theorem contents_given (hp : p ∈ moduleParams) (value : Text)
    (h : (text p.name, value) ∈ m.arguments) :
    p.contents (m.arguments.map fun p => assignment p.1 p.2) = p.kind.store value := by
  rw [Parameter.contents, assigned_assignments (nodup_arguments m) (notMem_names m)
    (notMem_paramName hp), dictGet_of_mem (nodup_arguments m) h, Option.elim_some]

theorem contents_absent (hp : p ∈ moduleParams) (h : text p.name ∉ keys m.arguments) :
    p.contents (m.arguments.map fun p => assignment p.1 p.2) = some p.default := by
  have hnone : dictGet m.arguments (text p.name) = none := by
    cases hget : dictGet m.arguments (text p.name) with
    | none => rfl
    | some value => exact absurd (List.mem_map_of_mem (mem_of_dictGet hget)) h
  rw [Parameter.contents, assigned_assignments (nodup_arguments m) (notMem_names m)
    (notMem_paramName hp), hnone, Option.elim_none]

theorem store_charp {value shown : Text} (h : Kind.charp.store value = some shown) :
    shown = value := by
  simp only [Kind.store] at h
  split at h
  · exact (Option.some.inj h).symm
  · cases h

theorem store_int {n : Int} {shown : Text} (h : Kind.int.store (signed n) = some shown) :
    shown = signed n ∧ n.natAbs < 2 ^ 32 := by
  simp only [Kind.store, cInteger?_signed, Option.map_eq_some_iff, Option.filter_eq_some_iff,
    Option.some.injEq, Bool.and_eq_true, decide_eq_true_eq] at h
  obtain ⟨k, ⟨rfl, hrange⟩, rfl⟩ := h
  exact ⟨rfl, by omega⟩

/-- An unsigned parameter takes no number below zero. -/
theorem store_uint_signed {n : Int} {shown : Text} (h : Kind.uint.store (signed n) = some shown) :
    shown = signed n ∧ n.natAbs < 2 ^ 32 := by
  simp only [Kind.store, Option.map_eq_some_iff, Option.filter_eq_some_iff, decide_eq_true_eq] at h
  obtain ⟨k, ⟨hk, hrange⟩, rfl⟩ := h
  by_cases hn : n < 0
  · have hminus : signed n = 45 :: decimal n.natAbs := if_pos hn
    rw [hminus] at hk
    have hnone : cMagnitude? (45 :: decimal n.natAbs) = none := rfl
    rw [List.head?_cons, if_neg (by decide), hnone] at hk
    cases hk
  · have hplus : signed n = decimal n.natAbs := if_neg hn
    have hhead : (decimal n.natAbs).head? ≠ some 43 := by
      rcases decimal_cases n.natAbs with hd | ⟨c, cs, hd, -, hc, -⟩
      · rw [hd]
        decide
      · rw [hd]
        exact fun heq => hc (Option.some.inj heq)
    rw [hplus, if_neg hhead, cMagnitude?_decimal] at hk
    cases hk
    exact ⟨hplus.symm, hrange⟩

theorem store_uint_hexWord {n : Nat} {shown : Text}
    (h : Kind.uint.store (hexWord 0 n) = some shown) : shown = decimal n := by
  have hhead : (hexWord 0 n).head? ≠ some 43 := by
    rw [hexWord_eq]
    exact fun heq => absurd (Option.some.inj heq) (by decide)
  simp only [Kind.store, if_neg hhead, cMagnitude?_hexWord, Option.map_eq_some_iff,
    Option.filter_eq_some_iff, Option.some.injEq] at h
  obtain ⟨k, ⟨rfl, -⟩, rfl⟩ := h
  rfl

/-- What a parameter of a name shows after the module was loaded with the arguments of a model. -/
def Shows (m : ModuleModel) (name : String) (value : Text) : Prop :=
  ∃ p ∈ moduleParams, p.name = name ∧
    ∀ shown, p.contents (m.arguments.map fun p => assignment p.1 p.2) = some shown → shown = value

theorem shows_charp {name : String} (default : Text) {value : Text}
    (hp : ⟨name, .charp, default⟩ ∈ moduleParams) (h : (text name, value) ∈ m.arguments) :
    Shows m name value := by
  refine ⟨_, hp, rfl, fun shown hshown => ?_⟩
  rw [contents_given hp value h] at hshown
  exact store_charp hshown

theorem shows_default {name : String} (kind : Kind) {default : Text}
    (hp : ⟨name, kind, default⟩ ∈ moduleParams) (h : text name ∉ keys m.arguments) :
    Shows m name default := by
  refine ⟨_, hp, rfl, fun shown hshown => ?_⟩
  rw [contents_absent hp h] at hshown
  exact (Option.some.inj hshown).symm

theorem mem_arguments_number {i : Iio} (hpart : m.part = .iio i) {q : String × Int}
    (hq : q ∈ i.numbers) : (text q.1, signed q.2) ∈ m.arguments := by
  have hown : (text q.1, signed q.2) ∈ m.part.ownArgs := by
    rw [hpart]
    exact List.mem_cons_of_mem _ (List.mem_map.mpr ⟨q, hq, rfl⟩)
  simp [ModuleModel.arguments, hown]

theorem number_param {i : Iio} {q : String × Int} (hq : q ∈ i.numbers) :
    ∃ p ∈ moduleParams, p.name = q.1 ∧ (p.kind = .int ∨ p.kind = .uint) := by
  have hnames : ∀ name ∈ numberNames,
      ∃ p ∈ moduleParams, p.name = name ∧ (p.kind = .int ∨ p.kind = .uint) := by decide
  exact hnames q.1 (i.numbers_names ▸ List.mem_map_of_mem hq)

theorem store_number {kind : Kind} (hkind : kind = .int ∨ kind = .uint) {n : Int} {shown : Text}
    (h : kind.store (signed n) = some shown) : shown = signed n ∧ n.natAbs < 2 ^ 32 := by
  rcases hkind with rfl | rfl
  · exact store_int h
  · exact store_uint_signed h

theorem shows_deviceName (m : ModuleModel) : Shows m "transport_device_name"
    ((m.deviceName.map Subtype.val).getD (text "(null)")) := by
  cases hname : m.deviceName with
  | some name =>
    exact shows_charp (text "(null)") (by decide)
      (by simp [ModuleModel.arguments, hname])
  | none =>
    apply shows_default .charp (by decide)
    have hnames : ∀ camera repeats address, text "transport_device_name" ∉
        (argumentNames camera repeats false address).map text := by decide
    rw [keys_arguments, hname]
    exact hnames _ _ _

theorem shows_address {address : Address} (h : m.address = some address) :
    Shows m "i2c_address" (decimal address) := by
  have hp : ⟨"i2c_address", .uint, text "118"⟩ ∈ moduleParams := by decide
  refine ⟨_, hp, rfl, fun shown hshown => ?_⟩
  rw [contents_given hp (hexWord 0 address) (by simp [ModuleModel.arguments, h])]
    at hshown
  exact store_uint_hexWord hshown

theorem shows_repeat {c : Camera} (h : m.part = .camera c) :
    Shows m "repeat_last_frame" (if c.repeatLastFrame then text "Y" else text "N") := by
  have hp : ⟨"repeat_last_frame", .bool, text "Y"⟩ ∈ moduleParams := by decide
  cases hrepeat : c.repeatLastFrame with
  | true =>
    have hnames : ∀ device address, text "repeat_last_frame" ∉
        (argumentNames true true device address).map text := by decide
    apply shows_default .bool hp
    rw [keys_arguments, h, Part.repeats, hrepeat]
    exact hnames _ _
  | false =>
    refine ⟨_, hp, rfl, fun shown hshown => ?_⟩
    rw [contents_given hp (text "0")
      (by simp [ModuleModel.arguments, h, Part.ownArgs, hrepeat])] at hshown
    exact (Option.some.inj hshown).symm

theorem shows_of_mem : ∀ q ∈ m.shown, Shows m q.1 q.2 := by
  have hadapter : Shows m "adapter" m.adapter.spelling :=
    shows_charp (text "camera") (by decide) (by simp [ModuleModel.arguments])
  have htransport : Shows m "transport" m.transport.spelling :=
    shows_charp (text "virtual") (by decide) (by simp [ModuleModel.arguments])
  have hinstance : Shows m "instance" m.name.val :=
    shows_charp (text "default") (by decide) (by simp [ModuleModel.arguments])
  have hfault : Shows m "fault_mode" m.faultMode.spelling :=
    shows_charp (text "none") (by decide) (by simp [ModuleModel.arguments])
  intro q hq
  simp only [ModuleModel.shown, List.mem_append, List.mem_cons, List.not_mem_nil, or_false] at hq
  rcases hq with (hq | hq) | hq
  · rcases hq with rfl | rfl | rfl | rfl | rfl
    · exact hadapter
    · exact htransport
    · exact hinstance
    · exact shows_deviceName m
    · exact hfault
  · obtain ⟨address, haddress, rfl⟩ := Option.map_eq_some_iff.mp (Option.mem_toList.mp hq)
    exact shows_address haddress
  · cases hpart : m.part with
    | camera c =>
      simp only [hpart, List.mem_cons, List.not_mem_nil, or_false] at hq
      have hfamily : Shows m "family" c.family.val :=
        shows_charp (text "imx") (by decide) (by simp [ModuleModel.arguments, hpart])
      have hsensor : Shows m "sensor" c.sensor.val :=
        shows_charp (text "imx708") (by decide) (by simp [ModuleModel.arguments, hpart])
      rcases hq with rfl | rfl | rfl
      · exact hfamily
      · exact hsensor
      · exact shows_repeat hpart
    | iio i =>
      simp only [hpart, List.mem_cons, List.mem_map] at hq
      have hprofile : Shows m "iio_profile" i.profile.spelling :=
        shows_charp (text "environment-basic") (by decide)
          (by simp [ModuleModel.arguments, hpart, Part.ownArgs])
      rcases hq with rfl | ⟨q, hq, rfl⟩
      · exact hprofile
      · obtain ⟨p, hp, hname, hkind⟩ := number_param hq
        refine ⟨p, hp, hname, fun shown hshown => ?_⟩
        rw [contents_given hp (signed q.2) (hname ▸ mem_arguments_number hpart hq)] at hshown
        exact (store_number hkind hshown).1

end Contents

theorem insmodArgs_eq {k : Machine} (hk : k.Documented) {env : Environment} {m : ModuleModel}
    (henv : env.For m) (hm : m.Plain) :
    k.insmodArgs env = m.arguments.map fun p => assignment p.1 p.2 := by
  have hplain := plain_arguments hm
  have hwords : words isIfs (reloadArgs env) = m.arguments.map fun p => assignment p.1 p.2 := by
    rw [reloadArgs_eq henv]
    apply words_joinWords (by decide)
    intro w hw
    obtain ⟨p, hp, rfl⟩ := List.mem_map.mp hw
    exact isWord_of_plain (fun _ => isIfs_of_isPlainChar) (assignment_ne_nil p.1 p.2)
      (hplain _ hw)
  have hexpand : ∀ ws : List Text, (∀ w ∈ ws, Plain w) → ws.flatMap k.expand = ws := by
    intro ws
    induction ws with
    | nil => exact fun _ => rfl
    | cons w ws ih =>
      intro hws
      rw [List.flatMap_cons, hk.expand w (hws w List.mem_cons_self),
        ih fun v hv => hws v (List.mem_cons_of_mem w hv)]
      rfl
  rw [Machine.insmodArgs, hwords, hexpand _ hplain]

/-- A module that was loaded for a model shows the model. -/
theorem loaded_of_load {k : Machine} (hk : k.Documented) {env : Environment} {m : ModuleModel}
    (henv : env.For m) (hm : m.Plain) {files : Files}
    (h : k.load (k.insmodArgs env) = some files) : Loaded files m := by
  rw [insmodArgs_eq hk henv hm] at h
  have hplain : ∀ p ∈ m.arguments, Plain (assignment p.1 p.2) :=
    fun p hp => plain_arguments hm _ (List.mem_map_of_mem hp)
  have hfiles := hk.files (known_arguments m) hplain h
  constructor
  · intro q hq
    obtain ⟨p, hp, hname, hshown⟩ := shows_of_mem q hq
    obtain ⟨shown, hcontents, hfile⟩ := hfiles p hp
    rw [← hname, hfile, hshown shown hcontents]
  · intro i hpart q hq
    obtain ⟨p, hp, hname, hkind⟩ := number_param hq
    obtain ⟨shown, hcontents, -⟩ := hfiles p hp
    rw [contents_given hp (signed q.2) (hname ▸ mem_arguments_number hpart hq)] at hcontents
    exact (store_number hkind hcontents).2

end Sensorium.ModelControl

import Sensorium.Kernel.Inventory

/-!
# UART groups and the devices on them

A group is there for the devices that use its base name: it counts them in `refs` and has each of
them on the port of its index.  `group_get` is undone by `group_put`, so that every error exit of
`register_uart` leaves the groups as they were.
-/

namespace Sensorium.Kernel

open Lib Function

/-! ## The invariant -/

namespace RuntimeDevice

/-- The device is the one on port `i` of the group named `baseName`. -/
def OnPort (dev : RuntimeDevice) (baseName : Text) (i : Nat) : Prop :=
  dev.transport = .uart ∧ dev.baseName = baseName ∧ dev.index = i

def uses (baseName : Text) (dev : RuntimeDevice) : Bool :=
  dev.transport = .uart && dev.baseName = baseName

theorem uses_iff {dev : RuntimeDevice} {baseName : Text} :
    dev.uses baseName = true ↔ dev.transport = .uart ∧ dev.baseName = baseName := by
  simp [uses]

theorem onPort_iff {dev : RuntimeDevice} {baseName : Text} {i : Nat} :
    dev.OnPort baseName i ↔ dev.uses baseName = true ∧ i = dev.index := by
  rw [OnPort, uses_iff, and_assoc, eq_comm (a := i)]

end RuntimeDevice

/-- The group has the devices of its base name, and there may be none of them. -/
structure UartGroup.Carries (grp : UartGroup) (device : Heap RuntimeDevice) : Prop where
  ports : Files device grp.ports fun dev i => dev.OnPort grp.baseName i
  inside : ∀ i a, grp.ports i = some a → i < grp.numPorts
  numPorts : grp.numPorts ≤ 4096

def groupUsers (device : Heap RuntimeDevice) (devices : List Nat) (baseName : Text) : Nat :=
  population device devices (RuntimeDevice.uses baseName)

structure UartGroups.Serves (u : UartGroups) (device : Heap RuntimeDevice) (devices : List Nat) :
    Prop where
  listed : Listed u.group u.list
  distinct : ∀ g g' grp grp', u.group g = some grp → u.group g' = some grp' →
    grp.baseName = grp'.baseName → g = g'
  carries : ∀ g grp, u.group g = some grp → grp.Carries device
  refs : ∀ g grp, u.group g = some grp → grp.refs = groupUsers device devices grp.baseName
  used : ∀ g grp, u.group g = some grp → 0 < grp.refs
  member : ∀ a dev, device a = some dev → dev.transport = .uart → dev.registered = true ∧
    ∃ g grp, dev.group = some g ∧ u.group g = some grp ∧ grp.baseName = dev.baseName

section

variable {device : Heap RuntimeDevice} {devices : List Nat} {u u' : UartGroups} {g a : Nat}
  {grp : UartGroup} {dev : RuntimeDevice} {baseName : Text}

/-- A group has fewer references than ports, so the counter does not wrap. -/
theorem UartGroup.Carries.groupUsers_le (h : grp.Carries device) (hl : Listed device devices) :
    groupUsers device devices grp.baseName ≤ grp.numPorts := by
  refine population_le grp.ports hl fun a dev ha huses => ⟨dev.index, ?_⟩
  have hport : grp.ports dev.index = some a :=
    (h.ports _ _).mpr ⟨dev, ha, RuntimeDevice.onPort_iff.mpr ⟨huses, rfl⟩⟩
  exact ⟨h.inside _ _ hport, hport⟩

namespace UartGroups

@[simp] theorem put_group (u : UartGroups) (g : Nat) (grp : UartGroup) :
    (u.put g grp).group = update u.group g (some grp) := rfl

@[simp] theorem put_list (u : UartGroups) (g : Nat) (grp : UartGroup) :
    (u.put g grp).list = u.list := rfl

theorem put_put (u : UartGroups) (g : Nat) (grp grp' : UartGroup) :
    (u.put g grp).put g grp' = u.put g grp' := by
  simp [put]

theorem put_self (h : u.group g = some grp) : u.put g grp = u := by
  rw [put, ← h, update_eq_self]

theorem find_eq_some (h : u.find baseName = some g) :
    ∃ grp, u.group g = some grp ∧ grp.baseName = baseName := by
  rw [find] at h
  have hany := List.find?_some h
  obtain ⟨grp, hg, hn⟩ := (Option.any_eq_true _ _).mp hany
  exact ⟨grp, hg, of_decide_eq_true hn⟩

theorem find_eq_none (hl : Listed u.group u.list) (h : u.find baseName = none)
    (hg : u.group g = some grp) : grp.baseName ≠ baseName := by
  intro hn
  have hnot := List.find?_eq_none.mp h g (hl.mem hg)
  rw [hg] at hnot
  exact hnot (decide_eq_true hn)

/-! ## Taking a reference -/

/-- The groups with one reference more to `grp`, named `baseName`, which the devices do not use
yet. -/
structure Opened (u : UartGroups) (device : Heap RuntimeDevice) (devices : List Nat)
    (baseName : Text) (u' : UartGroups) (g : Nat) (grp : UartGroup) : Prop where
  found : u'.group g = some grp
  name : grp.baseName = baseName
  undo : u'.groupPut g = some u
  listed : Listed u'.group u'.list
  others : ∀ g', g' ≠ g → u'.group g' = u.group g'
  same : ∀ grp₀, u.group g = some grp₀ → grp₀.baseName = baseName
  fresh : ∀ g' grp', g' ≠ g → u.group g' = some grp' → grp'.baseName ≠ baseName
  carries : grp.Carries device
  refs : grp.refs = groupUsers device devices baseName + 1

theorem opened_of_find (h : u.Serves device devices) (hl : Listed device devices)
    (hg : u.group g = some grp) (hn : grp.baseName = baseName) :
    u.Opened device devices baseName (u.put g { grp with refs := u32 (grp.refs + 1) }) g
      { grp with refs := u32 (grp.refs + 1) } := by
  have hpos : 0 < grp.refs := h.used g grp hg
  have hbound : grp.refs ≤ 4096 := by
    rw [h.refs g grp hg]
    exact ((h.carries g grp hg).groupUsers_le hl).trans (h.carries g grp hg).numPorts
  have hrefs : u32 (grp.refs + 1) = grp.refs + 1 := u32_of_lt (by omega)
  rw [hrefs]
  refine ⟨by simp, hn, ?_, h.listed.set hg _, ?_, ?_, ?_, ⟨?_, ?_, ?_⟩, ?_⟩
  · rw [groupPut, put_group, update_self]
    simp only [Option.bind_eq_bind, Option.bind_some, put_put]
    rw [if_pos (Nat.succ_ne_zero grp.refs), Nat.add_sub_cancel, if_pos hpos.ne.symm, put_self hg]
  · intro g' hg'
    exact update_of_ne hg' _ _
  · intro grp₀ hg₀
    rw [hg] at hg₀
    cases hg₀
    exact hn
  · intro g' grp' hne hg' hn'
    exact hne (h.distinct g' g grp' grp hg' hg (hn'.trans hn.symm))
  · exact (h.carries g grp hg).ports
  · exact (h.carries g grp hg).inside
  · exact (h.carries g grp hg).numPorts
  · rw [← hn, ← h.refs g grp hg]

/-- No group has the name, so no device uses it. -/
theorem Serves.notUses (h : u.Serves device devices)
    (hn : ∀ g grp, u.group g = some grp → grp.baseName ≠ baseName) (ha : device a = some dev) :
    dev.uses baseName ≠ true := by
  rw [Ne, RuntimeDevice.uses_iff]
  rintro ⟨ht, hb⟩
  obtain ⟨-, g, grp, -, hg, hname⟩ := h.member a dev ha ht
  exact hn g grp hg (hname.trans hb)

theorem Serves.groupUsers_eq_zero (h : u.Serves device devices) (hl : Listed device devices)
    (hn : ∀ g grp, u.group g = some grp → grp.baseName ≠ baseName) :
    groupUsers device devices baseName = 0 := by
  by_contra hne
  obtain ⟨a, dev, ha, huses⟩ := (population_pos hl).mp (Nat.pos_of_ne_zero hne)
  exact h.notUses hn ha huses

theorem opened_of_alloc (h : u.Serves device devices) (hl : Listed device devices)
    (hn : ∀ g grp, u.group g = some grp → grp.baseName ≠ baseName) (hg : u.group g = none)
    (uartLines : Nat) :
    u.Opened device devices baseName
      { u.put g ⟨baseName, uartPortLimit uartLines, 1, fun _ => none⟩ with list := u.list ++ [g] } g
      ⟨baseName, uartPortLimit uartLines, 1, fun _ => none⟩ := by
  refine ⟨by simp, rfl, ?_, h.listed.add hg _, ?_, ?_, ?_, ⟨?_, ?_, ?_⟩, ?_⟩
  · rw [groupPut]
    simp only [put_group, update_self, Option.bind_eq_bind, Option.bind_some]
    rw [if_pos one_ne_zero, if_neg (by decide), Heap.update_none hg,
      List.erase_append_right _ (h.listed.notMem hg), List.erase_cons_head, List.append_nil]
  · intro g' hg'
    exact update_of_ne hg' _ _
  · intro grp₀ hg₀
    rw [hg] at hg₀
    cases hg₀
  · exact fun g' grp' _ hg' => hn g' grp' hg'
  · intro i a
    constructor
    · intro he
      cases he
    · rintro ⟨dev, ha, hon⟩
      exact absurd (RuntimeDevice.onPort_iff.mp hon).1 (h.notUses hn ha)
  · intro i a he
    cases he
  · exact min_le_right _ _
  · rw [h.groupUsers_eq_zero hl hn]

theorem strscpy_of_short {s : Text} {size : Nat} (h0 : 0 ∉ s) (hlen : s.length < size) :
    strscpy s size = s := by
  have hc : cString s = s := by
    rw [cString, List.takeWhile_eq_self_iff]
    intro c hc
    exact decide_eq_true fun he => h0 (he ▸ hc)
  rw [strscpy, hc, List.take_of_length_le (by omega)]

/-- `group_get` gives an error and leaves the groups alone, or takes a reference. -/
theorem groupGet_spec (h : u.Serves device devices) (hl : Listed device devices) (w : Answers)
    (h0 : 0 ∉ baseName) (hlen : baseName.length < 32) :
    (∃ ret, ret ≠ 0 ∧ u.groupGet baseName w = some (u, .error ret)) ∨
      ∃ u' g grp, u.groupGet baseName w = some (u', .ok g) ∧
        u.Opened device devices baseName u' g grp := by
  rw [groupGet]
  cases hfind : u.find baseName with
  | some g =>
    obtain ⟨grp, hg, hn⟩ := find_eq_some hfind
    refine .inr ⟨_, g, _, ?_, opened_of_find h hl hg hn⟩
    simp only [hg, Option.bind_eq_bind, Option.bind_some]
  | none =>
    have hn : ∀ g grp, u.group g = some grp → grp.baseName ≠ baseName :=
      fun g grp hg => find_eq_none h.listed hfind hg
    cases halloc : u.group.alloc w.kzallocGroup with
    | none => exact .inl ⟨eNoMem, by decide, rfl⟩
    | some g =>
      have hg : u.group g = none := Heap.alloc_eq_some halloc
      have hfree (grp : UartGroup) :
          { u.put g grp with group := update (u.put g grp).group g none } = u := by
        rw [put_group, Heap.update_none hg]
        rfl
      dsimp only
      rw [hfree]
      split
      · exact .inl ⟨eNoMem, by decide, rfl⟩
      · split
        · exact .inl ⟨_, by assumption, rfl⟩
        · split
          · exact .inl ⟨_, by assumption, rfl⟩
          · refine .inr ⟨_, g, _, ?_, opened_of_alloc h hl hn hg w.uartLines⟩
            rw [strscpy_of_short h0 hlen, put_put, put_list]

end UartGroups

/-! ## A device comes and goes -/

namespace UartGroup.Carries

theorem add_other (h : grp.Carries device) (ha : device a = none)
    (hu : dev.uses grp.baseName ≠ true) : grp.Carries (update device a (some dev)) where
  ports := h.ports.add_other ha fun _ hon => hu (RuntimeDevice.onPort_iff.mp hon).1
  inside := h.inside
  numPorts := h.numPorts

theorem erase_other (h : grp.Carries device) (ha : device a = some dev)
    (hu : dev.uses grp.baseName ≠ true) : grp.Carries (update device a none) where
  ports := h.ports.erase_other fun dev' i ha' hon => by
    rw [ha] at ha'
    cases ha'
    exact hu (RuntimeDevice.onPort_iff.mp hon).1
  inside := h.inside
  numPorts := h.numPorts

theorem add (h : grp.Carries device) (ha : device a = none) (hu : dev.uses grp.baseName = true)
    (hfree : grp.ports dev.index = none) (hin : dev.index < grp.numPorts) :
    Carries { grp with ports := update grp.ports dev.index (some a) }
      (update device a (some dev)) where
  ports := h.ports.add ha hfree fun i => by rw [RuntimeDevice.onPort_iff, and_iff_right hu]
  inside i b hi := by
    dsimp only at hi ⊢
    by_cases he : i = dev.index
    · rw [he]
      exact hin
    · rw [update_of_ne he] at hi
      exact h.inside i b hi
  numPorts := h.numPorts

theorem port_eq (h : grp.Carries device) (ha : device a = some dev)
    (hu : dev.uses grp.baseName = true) : grp.ports dev.index = some a :=
  (h.ports _ _).mpr ⟨dev, ha, RuntimeDevice.onPort_iff.mpr ⟨hu, rfl⟩⟩

theorem erase (h : grp.Carries device) (ha : device a = some dev)
    (hu : dev.uses grp.baseName = true) :
    Carries { grp with ports := update grp.ports dev.index none } (update device a none) where
  ports := by
    refine h.ports.erase (fun dev' i ha' hon => ?_) fun b hb => ?_
    · rw [ha] at ha'
      cases ha'
      exact (RuntimeDevice.onPort_iff.mp hon).2
    · rw [h.port_eq ha hu] at hb
      exact (Option.some.inj hb).symm
  inside i b hi := by
    dsimp only at hi ⊢
    by_cases he : i = dev.index
    · subst he
      rw [update_self] at hi
      cases hi
    · rw [update_of_ne he] at hi
      exact h.inside i b hi
  numPorts := h.numPorts

end UartGroup.Carries

theorem groupUsers_add (ha : a ∉ devices) (dev : RuntimeDevice) (baseName : Text) :
    groupUsers (update device a (some dev)) (devices ++ [a]) baseName =
      groupUsers device devices baseName + if dev.uses baseName then 1 else 0 :=
  population_add ha dev

theorem groupUsers_erase (hl : Listed device devices) (ha : device a = some dev)
    (baseName : Text) :
    groupUsers (update device a none) (devices.erase a) baseName +
      (if dev.uses baseName then 1 else 0) = groupUsers device devices baseName :=
  population_erase hl ha

namespace UartGroups

/-- A device of another transport comes. -/
theorem Serves.add_other (h : u.Serves device devices) (hl : Listed device devices)
    (ha : device a = none) (ht : dev.transport ≠ .uart) :
    u.Serves (update device a (some dev)) (devices ++ [a]) where
  listed := h.listed
  distinct := h.distinct
  carries g grp hg := (h.carries g grp hg).add_other ha fun hu => ht (RuntimeDevice.uses_iff.mp hu).1
  refs g grp hg := by
    rw [groupUsers_add (hl.notMem ha), if_neg fun hu => ht (RuntimeDevice.uses_iff.mp hu).1]
    exact h.refs g grp hg
  used := h.used
  member b dev' hb ht' := by
    by_cases he : b = a
    · subst he
      rw [update_self] at hb
      cases hb
      exact absurd ht' ht
    · rw [update_of_ne he] at hb
      exact h.member b dev' hb ht'

theorem Serves.erase_other (h : u.Serves device devices) (hl : Listed device devices)
    (ha : device a = some dev) (ht : dev.transport ≠ .uart) :
    u.Serves (update device a none) (devices.erase a) where
  listed := h.listed
  distinct := h.distinct
  carries g grp hg :=
    (h.carries g grp hg).erase_other ha fun hu => ht (RuntimeDevice.uses_iff.mp hu).1
  refs g grp hg := by
    have hcount := groupUsers_erase hl ha grp.baseName
    rw [if_neg fun hu => ht (RuntimeDevice.uses_iff.mp hu).1] at hcount
    rw [h.refs g grp hg, ← hcount, Nat.add_zero]
  used := h.used
  member b dev' hb ht' := by
    by_cases he : b = a
    · subst he
      rw [update_self] at hb
      cases hb
    · rw [update_of_ne he] at hb
      exact h.member b dev' hb ht'

/-- Taking the device off its port again gives the groups of before. -/
theorem Opened.clearPort (ho : u.Opened device devices baseName u' g grp) {i : Nat}
    (hfree : grp.ports i = none) (a : Nat) :
    (u'.put g { grp with ports := update grp.ports i (some a) }).clearPort g i a = some u := by
  rw [UartGroups.clearPort]
  simp only [put_group, update_self, if_true, Option.bind_eq_bind, Option.bind_some, put_put]
  rw [update_idem, ← hfree, update_eq_self, put_self ho.found, ho.undo]

/-- The device that the reference was taken for comes on its port. -/
theorem Opened.join (ho : u.Opened device devices baseName u' g grp)
    (h : u.Serves device devices) (hl : Listed device devices) (ha : device a = none)
    (ht : dev.transport = .uart) (hn : dev.baseName = baseName) (hr : dev.registered = true)
    (hg : dev.group = some g) (hfree : grp.ports dev.index = none)
    (hin : dev.index < grp.numPorts) :
    (u'.put g { grp with ports := update grp.ports dev.index (some a) }).Serves
      (update device a (some dev)) (devices ++ [a]) := by
  have hu : dev.uses grp.baseName = true :=
    RuntimeDevice.uses_iff.mpr ⟨ht, hn.trans ho.name.symm⟩
  -- a group other than `g` is as it was, and the new device does not use it
  have hother : ∀ g' grp', g' ≠ g → update u'.group g
      (some { grp with ports := update grp.ports dev.index (some a) }) g' = some grp' →
      u.group g' = some grp' ∧ dev.uses grp'.baseName ≠ true := by
    intro g' grp' hne hg'
    rw [update_of_ne hne, ho.others g' hne] at hg'
    refine ⟨hg', fun hu' => ho.fresh g' grp' hne hg' ?_⟩
    rw [← (RuntimeDevice.uses_iff.mp hu').2, hn]
  refine ⟨ho.listed.set ho.found _, ?_, ?_, ?_, ?_, ?_⟩
  · intro g₁ g₂ grp₁ grp₂ h₁ h₂ hname
    by_cases he₁ : g₁ = g
    · by_cases he₂ : g₂ = g
      · rw [he₁, he₂]
      · subst he₁
        rw [put_group, update_self] at h₁
        cases h₁
        exact absurd (hname.symm.trans ho.name) (ho.fresh g₂ grp₂ he₂ (hother g₂ grp₂ he₂ h₂).1)
    · obtain ⟨hu₁, -⟩ := hother g₁ grp₁ he₁ h₁
      by_cases he₂ : g₂ = g
      · subst he₂
        rw [put_group, update_self] at h₂
        cases h₂
        exact absurd (hname.trans ho.name) (ho.fresh g₁ grp₁ he₁ hu₁)
      · exact h.distinct g₁ g₂ grp₁ grp₂ hu₁ (hother g₂ grp₂ he₂ h₂).1 hname
  · intro g' grp' hg'
    by_cases he : g' = g
    · subst he
      rw [put_group, update_self] at hg'
      cases hg'
      exact ho.carries.add ha hu hfree hin
    · obtain ⟨hg₀, hnot⟩ := hother g' grp' he hg'
      exact (h.carries g' grp' hg₀).add_other ha hnot
  · intro g' grp' hg'
    rw [groupUsers_add (hl.notMem ha)]
    by_cases he : g' = g
    · subst he
      rw [put_group, update_self] at hg'
      cases hg'
      rw [if_pos hu]
      exact ho.refs.trans (by rw [ho.name])
    · obtain ⟨hg₀, hnot⟩ := hother g' grp' he hg'
      rw [if_neg hnot]
      exact h.refs g' grp' hg₀
  · intro g' grp' hg'
    by_cases he : g' = g
    · subst he
      rw [put_group, update_self] at hg'
      cases hg'
      exact ho.refs ▸ Nat.succ_pos _
    · exact h.used g' grp' (hother g' grp' he hg').1
  · intro b dev' hb ht'
    by_cases he : b = a
    · subst he
      rw [update_self] at hb
      cases hb
      exact ⟨hr, g, _, hg, update_self _ _ _, ho.name.trans hn.symm⟩
    · rw [update_of_ne he] at hb
      obtain ⟨hr', g', grp', hgroup, hg', hname⟩ := h.member b dev' hb ht'
      refine ⟨hr', g', ?_⟩
      by_cases hgg : g' = g
      · subst hgg
        exact ⟨_, hgroup, update_self _ _ _, ho.name.trans ((ho.same grp' hg').symm.trans hname)⟩
      · exact ⟨grp', hgroup, by rw [put_group, update_of_ne hgg, ho.others g' hgg, hg'], hname⟩

/-- The groups once the device on port `dev.index` of `g` is gone. -/
theorem Serves.left (h : u.Serves device devices) (hl : Listed device devices)
    (ha : device a = some dev) (hg : u.group g = some grp) (hu : dev.uses grp.baseName = true)
    (hlisted : Listed u'.group u'.list) (hother : ∀ g', g' ≠ g → u'.group g' = u.group g')
    (hthis : ∀ grp', u'.group g = some grp' → 0 < grp'.refs ∧ grp' = { grp with
      refs := grp.refs - 1
      ports := update grp.ports dev.index none })
    (hkept : 1 < grp.refs → ∃ grp', u'.group g = some grp') :
    u'.Serves (update device a none) (devices.erase a) := by
  have hcount := groupUsers_erase hl ha grp.baseName
  rw [if_pos hu, ← h.refs g grp hg] at hcount
  have hnot : ∀ g' grp', g' ≠ g → u.group g' = some grp' → dev.uses grp'.baseName ≠ true := by
    intro g' grp' hne hg' hu'
    refine hne (h.distinct g' g grp' grp hg' hg ?_)
    rw [← (RuntimeDevice.uses_iff.mp hu').2, (RuntimeDevice.uses_iff.mp hu).2]
  have hname : ∀ g' grp', u'.group g' = some grp' →
      ∃ grp₀, u.group g' = some grp₀ ∧ grp₀.baseName = grp'.baseName := by
    intro g' grp' hg'
    by_cases he : g' = g
    · subst he
      exact ⟨grp, hg, by rw [(hthis grp' hg').2]⟩
    · exact ⟨grp', (hother g' he).symm.trans hg', rfl⟩
  refine ⟨hlisted, ?_, ?_, ?_, ?_, ?_⟩
  · intro g₁ g₂ grp₁ grp₂ h₁ h₂ heq
    obtain ⟨grp₁', h₁, hn₁⟩ := hname g₁ grp₁ h₁
    obtain ⟨grp₂', h₂, hn₂⟩ := hname g₂ grp₂ h₂
    exact h.distinct g₁ g₂ grp₁' grp₂' h₁ h₂ (hn₁.trans (heq.trans hn₂.symm))
  · intro g' grp' hg'
    by_cases he : g' = g
    · subst he
      rw [(hthis grp' hg').2]
      obtain ⟨hports, hin, hnum⟩ := (h.carries g' grp hg).erase ha hu
      exact ⟨hports, hin, hnum⟩
    · rw [hother g' he] at hg'
      exact (h.carries g' grp' hg').erase_other ha (hnot g' grp' he hg')
  · intro g' grp' hg'
    by_cases he : g' = g
    · subst he
      rw [(hthis grp' hg').2]
      dsimp only
      omega
    · rw [hother g' he] at hg'
      have hsame := groupUsers_erase hl ha grp'.baseName
      rw [if_neg (hnot g' grp' he hg'), Nat.add_zero] at hsame
      rw [hsame]
      exact h.refs g' grp' hg'
  · intro g' grp' hg'
    by_cases he : g' = g
    · subst he
      exact (hthis grp' hg').1
    · rw [hother g' he] at hg'
      exact h.used g' grp' hg'
  · intro b dev' hb ht
    -- a device that stays on the group keeps it: it is counted among the references
    have hb' := hb
    by_cases hba : b = a
    · subst hba
      rw [update_self] at hb
      cases hb
    · rw [update_of_ne hba] at hb
      obtain ⟨hr, g', grp', hgroup, hg', hn⟩ := h.member b dev' hb ht
      refine ⟨hr, g', ?_⟩
      by_cases he : g' = g
      · subst he
        rw [hg] at hg'
        cases hg'
        have hpos : 0 < groupUsers (update device a none) (devices.erase a) grp.baseName :=
          (population_pos (hl.erase a)).mpr
            ⟨b, dev', hb', RuntimeDevice.uses_iff.mpr ⟨ht, hn.symm⟩⟩
        obtain ⟨grp', hg'⟩ := hkept (by omega)
        exact ⟨grp', hgroup, hg', by rw [(hthis grp' hg').2]; exact hn⟩
      · exact ⟨grp', hgroup, by rw [hother g' he, hg'], hn⟩

/-- A device leaves its group: its port is cleared and its reference given back. -/
theorem Serves.leave (h : u.Serves device devices) (hl : Listed device devices)
    (ha : device a = some dev) (ht : dev.transport = .uart) :
    ∃ g grp u', dev.group = some g ∧ u.group g = some grp ∧ dev.index < grp.numPorts ∧
      u.clearPort g dev.index a = some u' ∧
      u'.Serves (update device a none) (devices.erase a) := by
  obtain ⟨-, g, grp, hgroup, hg, hn⟩ := h.member a dev ha ht
  have hu : dev.uses grp.baseName = true := RuntimeDevice.uses_iff.mpr ⟨ht, hn.symm⟩
  have hport : grp.ports dev.index = some a := (h.carries g grp hg).port_eq ha hu
  have hpos : grp.refs ≠ 0 := (h.used g grp hg).ne.symm
  have hput : u.clearPort g dev.index a =
      (u.put g { grp with ports := update grp.ports dev.index none }).groupPut g := by
    simp only [clearPort, hg, hport, if_true, Option.bind_eq_bind, Option.bind_some]
  rw [groupPut] at hput
  simp only [put_group, update_self, Option.bind_eq_bind, Option.bind_some, put_list] at hput
  rw [if_pos hpos] at hput
  suffices hleft : ∃ u', u.clearPort g dev.index a = some u' ∧
      u'.Serves (update device a none) (devices.erase a) by
    obtain ⟨u', hu', hs⟩ := hleft
    exact ⟨g, grp, u', hgroup, hg, (h.carries g grp hg).inside _ _ hport, hu', hs⟩
  by_cases hlast : grp.refs - 1 = 0
  · rw [if_neg fun hne => hne hlast, update_idem] at hput
    refine ⟨_, hput, h.left hl ha hg hu (h.listed.erase g) ?_ ?_ fun hlt => absurd hlast (by omega)⟩
    · intro g' hne
      exact update_of_ne hne _ _
    · intro grp' hg'
      dsimp only at hg'
      rw [update_self] at hg'
      cases hg'
  · rw [if_pos hlast, put_put] at hput
    refine ⟨_, hput, h.left hl ha hg hu (h.listed.set hg _) ?_ ?_ fun _ => ⟨_, update_self _ _ _⟩⟩
    · intro g' hne
      exact update_of_ne hne _ _
    · intro grp' hg'
      rw [put_group, update_self] at hg'
      cases hg'
      exact ⟨Nat.pos_of_ne_zero hlast, rfl⟩

end UartGroups

end

end Sensorium.Kernel

import Sensorium.Daemon.TemplateStates

/-!
# Splitting the transfers of a register bank

How the messages to a bank are spread over calls does not matter.  A read of no more than the whole
bank can be cut in two: the second part meets none of the registers that the first has cleared.  A
write can be cut in two where the register of the second part fits in the pointer: its bytes and
their effects are stored one after another.
-/

namespace Sensorium.Daemon

open Lib Model

namespace BankTemplate

variable {t t₀ : BankTemplate}

/-! ## Calls one after another -/

/-- Calls of `handle_i2c` one after another, with all that they return. -/
def handleCalls (t : BankTemplate) : List (List I2cEntry) → Option (BankTemplate × List UInt8)
  | [] => some (t, [])
  | ms :: calls => do
    let (t, data) ← t.handleI2c ms
    let (t, rest) ← handleCalls t calls
    some (t, data ++ rest)

theorem handleI2c_append (t : BankTemplate) (ms ms' : List I2cEntry) :
    t.handleI2c (ms ++ ms') = (do
      let (t, data) ← t.handleI2c ms
      let (t, rest) ← t.handleI2c ms'
      some (t, data ++ rest)) := by
  induction ms generalizing t with
  | nil =>
    show t.handleI2c ms' = (t.handleI2c ms').bind fun r => some (r.1, [] ++ r.2)
    cases t.handleI2c ms' <;> rfl
  | cons m ms ih =>
    rw [List.cons_append, handleI2c, handleI2c]
    cases t.handleMessage m with
    | none => rfl
    | some r =>
      simp only [bind, Option.bind_some, ih]
      cases r.1.handleI2c ms with
      | none => rfl
      | some s =>
        simp only [Option.bind_some]
        cases s.1.handleI2c ms' with
        | none => rfl
        | some u => simp only [Option.bind_some, List.append_assoc]

theorem handleCalls_eq (t : BankTemplate) (calls : List (List I2cEntry)) :
    t.handleCalls calls = t.handleI2c calls.flatten := by
  induction calls generalizing t with
  | nil => rfl
  | cons ms calls ih =>
    rw [handleCalls, List.flatten_cons, handleI2c_append]
    simp only [ih]

/-! ## The states of a bank -/

/-- `t` is the bank `t₀` in some state. -/
structure StateOf (t₀ t : BankTemplate) : Prop where
  fixed : t.fixed = t₀.fixed
  registers : Registers t.size t.registers
  pointer : t.pointer < t.size

theorem Wf.stateOf (h : t₀.Wf) : StateOf t₀ t₀ := ⟨rfl, h.registers, h.pointer⟩

theorem StateOf.wf (h : StateOf t₀ t) (h₀ : t₀.Wf) : t.Wf where
  size_pos := by
    rw [size_of_fixed h.fixed.symm]
    exact h₀.size_pos
  registers := h.registers
  pointer := h.pointer
  effects := by
    rw [eq_of_fixed h.fixed.symm]
    exact h₀.effects

/-- Every call leads to a state of the bank again. -/
theorem StateOf.handleCalls (h : StateOf t₀ t) (h₀ : t₀.Wf) (calls : List (List I2cEntry)) :
    ∃ t' bs, t.handleCalls calls = some (t', bs) ∧ StateOf t₀ t' := by
  obtain ⟨t', bs, hcalls, hwf, -, -⟩ := (h.wf h₀).handleI2c calls.flatten
  refine ⟨t', bs, by rw [handleCalls_eq, hcalls], ?_, hwf.registers, hwf.pointer⟩
  exact (fixed_of_handleI2c hcalls).trans h.fixed

/-! ## Reads -/

-- Positions of one pass around the bank are different registers.
theorem advance_ne {size start i j : Nat} (hij : i < j) (hj : j < i + size) :
    (start + i) % size ≠ (start + j) % size := by
  intro heq
  have hzero : (j - i) % size = 0 := by
    have hmod : start + i ≡ start + j [MOD size] := heq
    have hdvd : size ∣ (start + j) - (start + i) := (Nat.modEq_iff_dvd' (by omega)).mp hmod
    rw [Nat.add_sub_add_left] at hdvd
    exact Nat.mod_eq_zero_of_dvd hdvd
  rw [Nat.mod_eq_of_lt (by omega)] at hzero
  omega

/-- The bytes from the pointer on, the registers that are cleared and the pointer after them. -/
theorem Wf.readMessage_eq (h : t.Wf) (hincrement : t.autoIncrement = true) (n : Nat) :
    ∃ registers, t.readMessage n = some ({ t with
        registers := registers
        pointer := (t.pointer + n) % t.size }, (List.range n).map fun i =>
          UInt8.ofNat (t.registers[(t.pointer + i) % t.size]?.getD 0)) ∧
      Registers t.size registers ∧
      ∀ c, registers[c]? =
        if c ∈ t.clearOnRead ∧ ∃ i < n, (t.pointer + i) % t.size = c then
          t.registers[c]?.map fun _ => 0
        else t.registers[c]? := by
  obtain ⟨registers, hclear, hregisters, hget⟩ := h.clearRead_eq n
  refine ⟨registers, ?_, hregisters, hget⟩
  unfold BankTemplate.readMessage
  rw [h.readBytes_eq, hclear, hincrement]
  rfl

-- A position among the first `n + m` is one of the first `n` or one of the `m` after them.
theorem exists_advance_add {n m size start c : Nat} :
    (∃ i < n + m, (start + i) % size = c) ↔
      (∃ i < n, (start + i) % size = c) ∨ ∃ i < m, ((start + n) % size + i) % size = c := by
  simp only [Nat.mod_add_mod, Nat.add_assoc]
  constructor
  · rintro ⟨i, hi, hc⟩
    by_cases hin : i < n
    · exact .inl ⟨i, hin, hc⟩
    · exact .inr ⟨i - n, by omega, by rw [Nat.add_sub_cancel' (by omega), hc]⟩
  · rintro (⟨i, hi, hc⟩ | ⟨i, hi, hc⟩)
    · exact ⟨i, by omega, hc⟩
    · exact ⟨n + i, by omega, hc⟩

/-- `n` registers and then `m`: the same data and the same bank as after `n + m`. -/
theorem Wf.readMessage_add (h : t.Wf) (hincrement : t.autoIncrement = true) {n m : Nat}
    (hle : n + m ≤ t.size) :
    t.readMessage (n + m) = (do
      let (t, data) ← t.readMessage n
      let (t, rest) ← t.readMessage m
      some (t, data ++ rest)) := by
  obtain ⟨registers₁, hread₁, hregisters₁, hget₁⟩ := h.readMessage_eq hincrement n
  obtain ⟨registers, hread, -, hget⟩ := h.readMessage_eq hincrement (n + m)
  have hwf₁ := h.update hregisters₁ (Nat.mod_lt (t.pointer + n) h.size_pos)
  obtain ⟨registers₂, hread₂, -, hget₂⟩ := hwf₁.readMessage_eq hincrement m
  -- what the second read meets was not cleared by the first
  have hdata : ((List.range m).map fun i =>
      UInt8.ofNat (registers₁[(t.pointer + (n + i)) % t.size]?.getD 0)) =
        (List.range m).map fun i =>
          UInt8.ofNat (t.registers[(t.pointer + (n + i)) % t.size]?.getD 0) := by
    apply List.map_congr_left
    intro i hi
    have him := List.mem_range.mp hi
    rw [hget₁, if_neg]
    rintro ⟨-, j, hj, heq⟩
    exact advance_ne (by omega) (by omega) heq
  have hregisters : registers₂ = registers := by
    apply List.ext_getElem?
    intro c
    rw [hget₂ c, hget c]
    dsimp only
    by_cases hmem : c ∈ t.clearOnRead
    · by_cases hfirst : ∃ i < n, (t.pointer + i) % t.size = c
      · have hzero : registers₁[c]? = t.registers[c]?.map fun _ => 0 := by
          rw [hget₁ c, if_pos ⟨hmem, hfirst⟩]
        rw [hzero, Option.map_map, Function.comp_def, ite_self,
          if_pos ⟨hmem, exists_advance_add.mpr (.inl hfirst)⟩]
      · have hkept : registers₁[c]? = t.registers[c]? := by
          rw [hget₁ c, if_neg fun hboth => hfirst hboth.2]
        rw [hkept]
        refine if_congr (and_congr_right fun _ => ?_) rfl rfl
        exact (exists_advance_add.trans (or_iff_right hfirst)).symm
    · have hkept : registers₁[c]? = t.registers[c]? := by
        rw [hget₁ c, if_neg fun hboth => hmem hboth.1]
      rw [hkept, if_neg fun hboth => hmem hboth.1, if_neg fun hboth => hmem hboth.1]
  rw [hread, hread₁]
  simp only [bind, Option.bind_some]
  rw [hread₂]
  simp only [Option.bind_some, hdata, hregisters, List.range_add, List.map_append, List.map_map,
    Function.comp_def, Nat.mod_add_mod, Nat.add_assoc]

/-! ## Writes -/

/-- The bytes of a pointer of `width` bytes. -/
def pointerBytes (width register : Nat) : List UInt8 := (leBytes width register).reverse

theorem bigEndian_reverse (bs : List UInt8) : bigEndian bs.reverse = leNat bs := by
  unfold bigEndian
  rw [List.foldl_reverse]
  induction bs with
  | nil => rfl
  | cons b bs ih =>
    rw [List.foldr_cons, ih, leNat]
    omega

theorem writeBytes_congr {u : BankTemplate} (h : t.fixed = u.fixed) (pointer : Nat)
    (registers : List Nat) (offset : Nat) (bytes : List UInt8) :
    u.writeBytes pointer registers offset bytes = t.writeBytes pointer registers offset bytes := by
  rw [eq_of_fixed h]
  induction bytes generalizing registers offset with
  | nil => rfl
  | cons b bs ih => simp only [writeBytes, ih]

theorem writeBytes_append (t : BankTemplate) (pointer : Nat) (registers : List Nat) (offset : Nat)
    (bs bs' : List UInt8) :
    t.writeBytes pointer registers offset (bs ++ bs') =
      (t.writeBytes pointer registers offset bs).bind fun registers =>
        t.writeBytes pointer registers (offset + bs.length) bs' := by
  induction bs generalizing registers offset with
  | nil => rfl
  | cons b bs ih =>
    rw [List.cons_append, writeBytes, writeBytes]
    cases setByte registers ((pointer + offset) % t.size) b.toNat with
    | none => rfl
    | some registers₁ =>
      simp only [bind, Option.bind_some]
      cases applyEffects t.size registers₁
          ((dictGet t.writeEffects ((pointer + offset) % t.size)).getD []) with
      | none => rfl
      | some registers₂ =>
        simp only [Option.bind_some, ih, List.length_cons]
        rw [Nat.add_assoc, Nat.add_comm 1]

theorem writeBytes_shift (t : BankTemplate) (pointer k : Nat) (registers : List Nat) (offset : Nat)
    (bytes : List UInt8) :
    t.writeBytes ((pointer + k) % t.size) registers offset bytes =
      t.writeBytes pointer registers (k + offset) bytes := by
  induction bytes generalizing registers offset with
  | nil => rfl
  | cons b bs ih =>
    rw [writeBytes, writeBytes, Nat.mod_add_mod, Nat.add_assoc]
    simp only [ih, Nat.add_assoc]

/-- The pointer of the write, its bytes and the pointer after them. -/
theorem writeMessage_pointerBytes (hincrement : t.autoIncrement = true)
    (hwidth : 1 ≤ t.pointerWidth) {register : Nat} (hfits : register < 256 ^ t.pointerWidth)
    (bytes : List UInt8) :
    t.writeMessage (pointerBytes t.pointerWidth register ++ bytes) =
      (t.writeBytes (register % t.size) t.registers 0 bytes).map fun registers => { t with
        registers := registers
        pointer := (register + bytes.length) % t.size } := by
  have hlength : (pointerBytes t.pointerWidth register).length = t.pointerWidth := by
    rw [pointerBytes, List.length_reverse, length_leBytes]
  have hne : pointerBytes t.pointerWidth register ++ bytes ≠ [] := by
    intro hnil
    have hzero := congrArg List.length hnil
    rw [List.length_append, hlength, List.length_nil] at hzero
    omega
  have hlong : ¬ (pointerBytes t.pointerWidth register ++ bytes).length < t.pointerWidth := by
    rw [List.length_append, hlength]
    omega
  have hpointer : bigEndian (pointerBytes t.pointerWidth register) = register := by
    rw [pointerBytes, bigEndian_reverse, leNat_leBytes hfits]
  unfold writeMessage
  rw [if_neg hne, if_neg hlong, List.take_left' hlength, List.drop_left' hlength, hpointer]
  dsimp only
  split
  · rename_i hnil
    subst hnil
    rfl
  · rw [hincrement]
    simp only [Nat.mod_add_mod]
    cases t.writeBytes (register % t.size) t.registers 0 bytes <;> rfl

theorem writeMessage_append (hincrement : t.autoIncrement = true) (hwidth : 1 ≤ t.pointerWidth)
    {register : Nat} (hfits : register < 256 ^ t.pointerWidth) (bs bs' : List UInt8)
    (hnext : (register + bs.length) % t.size < 256 ^ t.pointerWidth) :
    t.writeMessage (pointerBytes t.pointerWidth register ++ (bs ++ bs')) =
      (t.writeMessage (pointerBytes t.pointerWidth register ++ bs)).bind fun t' =>
        t'.writeMessage
          (pointerBytes t.pointerWidth ((register + bs.length) % t.size) ++ bs') := by
  rw [writeMessage_pointerBytes hincrement hwidth hfits,
    writeMessage_pointerBytes hincrement hwidth hfits, writeBytes_append]
  cases t.writeBytes (register % t.size) t.registers 0 bs with
  | none => rfl
  | some registers =>
    let t₁ : BankTemplate :=
      { t with registers := registers, pointer := (register + bs.length) % t.size }
    have hsecond : t₁.writeMessage
        (pointerBytes t.pointerWidth ((register + bs.length) % t.size) ++ bs') = _ :=
      writeMessage_pointerBytes (t := t₁) hincrement hwidth hnext bs'
    have hbytes : t₁.writeBytes ((register + bs.length) % t.size % t.size) registers 0 bs' =
        t.writeBytes (register % t.size) registers (0 + bs.length) bs' := by
      rw [writeBytes_congr (t := t) (u := t₁) rfl, Nat.mod_mod, ← Nat.mod_add_mod,
        writeBytes_shift, Nat.add_comm]
    simp only [Option.bind_some, Option.map_some]
    refine Eq.trans ?_ hsecond.symm
    show _ = (t₁.writeBytes ((register + bs.length) % t.size % t.size) registers 0 bs').map _
    rw [hbytes, List.length_append, Nat.mod_add_mod, Nat.add_assoc]

theorem autoIncrement_of_build {bank : RegisterBank} (h : build bank = some t) :
    t.autoIncrement = bank.autoIncrement := by
  unfold build at h
  obtain ⟨_, -, h⟩ := Option.bind_eq_some_iff.mp h
  obtain ⟨_, -, h⟩ := Option.bind_eq_some_iff.mp h
  obtain ⟨_, -, h⟩ := Option.bind_eq_some_iff.mp h
  cases h
  rfl

theorem handleMessage_of_read {m : I2cEntry} (h : m.flags &&& 1 ≠ 0) :
    t.handleMessage m = t.readMessage m.len := if_pos h

theorem handleMessage_of_write {m : I2cEntry} (h : ¬ m.flags &&& 1 ≠ 0) :
    t.handleMessage m = (t.writeMessage m.data).map fun t => (t, []) := if_neg h

theorem Wf.handleI2c_reads (h : t.Wf) (hincrement : t.autoIncrement = true) {m₁ m₂ m : I2cEntry}
    (h₁ : m₁.flags &&& 1 ≠ 0) (h₂ : m₂.flags &&& 1 ≠ 0) (hm : m.flags &&& 1 ≠ 0)
    (hlen : m.len = m₁.len + m₂.len) (hle : m.len ≤ t.size) :
    t.handleI2c [m₁, m₂] = t.handleI2c [m] := by
  simp only [BankTemplate.handleI2c, handleMessage_of_read h₁, handleMessage_of_read h₂,
    handleMessage_of_read hm, hlen, h.readMessage_add hincrement (hlen ▸ hle)]
  cases t.readMessage m₁.len with
  | none => rfl
  | some r =>
    simp only [bind, Option.bind_some]
    cases r.1.readMessage m₂.len with
    | none => rfl
    | some r' => simp only [Option.bind_some, List.append_nil]

theorem handleI2c_writes (hincrement : t.autoIncrement = true) (hwidth : 1 ≤ t.pointerWidth)
    {register : Nat} (hfits : register < 256 ^ t.pointerWidth) {bs bs' : List UInt8}
    (hnext : (register + bs.length) % t.size < 256 ^ t.pointerWidth) {m₁ m₂ m : I2cEntry}
    (h₁ : ¬ m₁.flags &&& 1 ≠ 0) (h₂ : ¬ m₂.flags &&& 1 ≠ 0) (hm : ¬ m.flags &&& 1 ≠ 0)
    (hdata₁ : m₁.data = pointerBytes t.pointerWidth register ++ bs)
    (hdata₂ : m₂.data = pointerBytes t.pointerWidth ((register + bs.length) % t.size) ++ bs')
    (hdata : m.data = pointerBytes t.pointerWidth register ++ (bs ++ bs')) :
    t.handleI2c [m₁, m₂] = t.handleI2c [m] := by
  simp only [handleI2c, handleMessage_of_write h₁, handleMessage_of_write h₂,
    handleMessage_of_write hm, hdata₁, hdata₂, hdata,
    writeMessage_append hincrement hwidth hfits bs bs' hnext]
  cases t.writeMessage (pointerBytes t.pointerWidth register ++ bs) with
  | none => rfl
  | some t₁ =>
    simp only [bind, Option.map_some, Option.bind_some]
    cases t₁.writeMessage
      (pointerBytes t.pointerWidth ((register + bs.length) % t.size) ++ bs') <;> rfl

end BankTemplate

/-- A bank of a normalised device that counts its pointer up, in every state: a read of no more
registers than there are may be two reads, and a write may be two where its second register fits
in the pointer, in one call or in two.  Data, registers and pointer are those of the one message. -/
theorem bank_transfers_split {v : Value} {buses : List (Text × Bus)} {label : Label}
    {device : Device} (h : normalizeRuntimeDeviceItem v buses label = .ok device) {address : Nat}
    {bank : RegisterBank} (hpart : device.part = .i2c address (.template .i2cRegisterBank bank))
    (hincrement : bank.autoIncrement = true) :
    ∃ t₀, Template.build device.part = some (some (.bank t₀)) ∧
      ∀ t, BankTemplate.StateOf t₀ t →
        (∀ m₁ m₂ m : I2cEntry,
          m₁.flags &&& 1 ≠ 0 → m₂.flags &&& 1 ≠ 0 → m.flags &&& 1 ≠ 0 →
          m.len = m₁.len + m₂.len → m.len ≤ bank.size →
          ∃ t' data, t.handleI2c [m] = some (t', data) ∧
            ∀ calls : List (List I2cEntry), calls.flatten = [m₁, m₂] →
              t.handleCalls calls = some (t', data)) ∧
        ∀ (register : Nat) (bs bs' : List UInt8), register < 256 ^ bank.pointerWidth →
          (register + bs.length) % bank.size < 256 ^ bank.pointerWidth →
          ∀ m₁ m₂ m : I2cEntry,
          ¬ m₁.flags &&& 1 ≠ 0 → ¬ m₂.flags &&& 1 ≠ 0 → ¬ m.flags &&& 1 ≠ 0 →
          m₁.data = BankTemplate.pointerBytes bank.pointerWidth register ++ bs →
          m₂.data = BankTemplate.pointerBytes bank.pointerWidth
            ((register + bs.length) % bank.size) ++ bs' →
          m.data = BankTemplate.pointerBytes bank.pointerWidth register ++ (bs ++ bs') →
          ∃ t' data, t.handleI2c [m] = some (t', data) ∧
            ∀ calls : List (List I2cEntry), calls.flatten = [m₁, m₂] →
              t.handleCalls calls = some (t', data) := by
  obtain ⟨t₀, hbuild, hwf₀, hsize₀⟩ := BankTemplate.build_some (fields_of_i2cDevice h hpart)
  refine ⟨t₀, by rw [hpart, Template.build, hbuild]; rfl, fun t hstate => ?_⟩
  have hwf := hstate.wf hwf₀
  have hsize : t.size = bank.size :=
    (BankTemplate.size_of_fixed hstate.fixed.symm).trans hsize₀
  have hpointer : t.pointerWidth = bank.pointerWidth :=
    (BankTemplate.pointerWidth_of_fixed hstate.fixed.symm).trans (pointerWidth_of_build hbuild)
  have hwidth : 1 ≤ t.pointerWidth := by
    rw [hpointer]
    exact bank_of_i2cDevice pointerWidth_pos h hpart
  have hcounts : t.autoIncrement = true := by
    rw [BankTemplate.eq_of_fixed hstate.fixed.symm]
    exact (BankTemplate.autoIncrement_of_build hbuild).trans hincrement
  -- two messages that do what one does may be spread over calls
  have hspread : ∀ m₁ m₂ m : I2cEntry, t.handleI2c [m₁, m₂] = t.handleI2c [m] →
      ∃ t' data, t.handleI2c [m] = some (t', data) ∧
        ∀ calls : List (List I2cEntry), calls.flatten = [m₁, m₂] →
          t.handleCalls calls = some (t', data) := by
    intro m₁ m₂ m hsame
    obtain ⟨t', data, hone, -⟩ := hwf.handleI2c [m]
    refine ⟨t', data, hone, fun calls hcalls => ?_⟩
    rw [BankTemplate.handleCalls_eq, hcalls, hsame, hone]
  rw [← hsize, ← hpointer]
  constructor
  · intro m₁ m₂ m h₁ h₂ hm hlen hle
    exact hspread m₁ m₂ m (hwf.handleI2c_reads hcounts h₁ h₂ hm hlen hle)
  · intro register bs bs' hfits hnext m₁ m₂ m h₁ h₂ hm hdata₁ hdata₂ hdata
    exact hspread m₁ m₂ m (BankTemplate.handleI2c_writes hcounts hwidth hfits hnext h₁ h₂ hm
      hdata₁ hdata₂ hdata)

/-- The bank of `eeprom` has 32 registers: two bytes from register 31 on wrap around. -/
theorem bank_transfers_split_eeprom :
    ∃ t₀, Template.build eeprom.part = some (some (.bank t₀)) ∧
      (∃ t' data, t₀.handleI2c [⟨0x50, 1, 5, []⟩] = some (t', data) ∧
        t₀.handleCalls [[⟨0x50, 1, 2, []⟩], [⟨0x50, 1, 3, []⟩]] = some (t', data)) ∧
      ∃ t' data, t₀.handleI2c [⟨0x50, 0, 3, [31, 7, 8]⟩] = some (t', data) ∧
        t₀.handleCalls [[⟨0x50, 0, 2, [31, 7]⟩, ⟨0x50, 0, 2, [0, 8]⟩]] = some (t', data) := by
  have heeprom : normalizeRuntimeDeviceItem eepromItem busTable [] = .ok eeprom := rfl
  obtain ⟨t₀, hbuild, hsplit⟩ := bank_transfers_split heeprom rfl rfl
  have hwf : t₀.Wf := by
    obtain ⟨t, hbank, hwf, -⟩ := BankTemplate.build_some (fields_of_i2cDevice heeprom rfl)
    have hsame : Template.build eeprom.part = some (some (.bank t)) := by
      rw [show eeprom.part = .i2c 0x50 (.template .i2cRegisterBank ⟨32, 1, true, [], [], []⟩) from rfl,
        Template.build, hbank]
      rfl
    cases hbuild.symm.trans hsame
    exact hwf
  obtain ⟨hreads, hwrites⟩ := hsplit t₀ hwf.stateOf
  refine ⟨t₀, hbuild, ?_, ?_⟩
  · obtain ⟨t', data, hone, hcalls⟩ := hreads ⟨0x50, 1, 2, []⟩ ⟨0x50, 1, 3, []⟩ ⟨0x50, 1, 5, []⟩
      (by decide) (by decide) (by decide) rfl (by decide)
    exact ⟨t', data, hone, hcalls _ rfl⟩
  · obtain ⟨t', data, hone, hcalls⟩ := hwrites 31 [7] [8] (by decide) (by decide)
      ⟨0x50, 0, 2, [31, 7]⟩ ⟨0x50, 0, 2, [0, 8]⟩ ⟨0x50, 0, 3, [31, 7, 8]⟩
      (by decide) (by decide) (by decide) rfl rfl rfl
    exact ⟨t', data, hone, hcalls _ rfl⟩

end Sensorium.Daemon

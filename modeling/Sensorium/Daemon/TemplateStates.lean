import Sensorium.Daemon.Calls
import Sensorium.Daemon.TemplateReplies
import Mathlib.Data.Nat.ModEq

/-!
# Which states of a template are alike

Two objects built from one backend differ in what their calls have left: registers and pointer, the
flash latch, its status and its busy counter, the started line.  Exactly when a sequence of calls
tells them apart is decided class by class; a relation that every call keeps gives one direction, and
a sequence that shows the difference the other.
-/

namespace Sensorium.Daemon

open Lib Model

/-! ## Register banks -/

namespace BankTemplate

/-- What `__init__` sets and no call changes. -/
def fixed (t : BankTemplate) : BankTemplate := { t with registers := [], pointer := 0 }

/-- The registers agree, and the pointers agree or cannot matter: the registers look the same from
both, and a read changes none of them. -/
structure Indistinct (t u : BankTemplate) : Prop where
  registers : t.registers = u.registers
  pointer : t.pointer = u.pointer ∨
    (∀ i, t.registers[(t.pointer + i) % t.size]? = t.registers[(u.pointer + i) % t.size]?) ∧
      ∀ c ∈ t.clearOnRead, c < t.size → t.registers[c]? = some 0

variable {t u : BankTemplate}

theorem eq_of_fixed (h : t.fixed = u.fixed) :
    u = { t with
      registers := u.registers
      pointer := u.pointer } := by
  cases t
  cases u
  simp only [fixed, mk.injEq] at h
  obtain ⟨rfl, rfl, rfl, -, -, rfl, rfl⟩ := h
  rfl

theorem size_of_fixed (h : t.fixed = u.fixed) : u.size = t.size := by
  rw [eq_of_fixed h]

theorem pointerWidth_of_fixed (h : t.fixed = u.fixed) : u.pointerWidth = t.pointerWidth := by
  rw [eq_of_fixed h]

/-! ### What one message does -/

theorem Wf.readBytes_eq (h : t.Wf) (n : Nat) :
    t.readBytes n = some ((List.range n).map fun i =>
      UInt8.ofNat (t.registers[(t.pointer + i) % t.size]?.getD 0)) := by
  apply mapM_eq_some_map
  intro i _
  have hi : (t.pointer + i) % t.size < t.registers.length := by
    rw [h.registers.length]
    exact Nat.mod_lt _ h.size_pos
  rw [List.getElem?_eq_getElem hi]
  exact if_pos (h.registers.bytes _ (List.getElem_mem hi))

/-- A read clears the registers that it meets, if they are to be cleared. -/
theorem Wf.clearRead_eq (h : t.Wf) (n : Nat) :
    ∃ registers, t.clearRead n = some registers ∧ Registers t.size registers ∧
      ∀ c, registers[c]? =
        if c ∈ t.clearOnRead ∧ ∃ i < n, (t.pointer + i) % t.size = c then
          t.registers[c]?.map fun _ => 0
        else t.registers[c]? := by
  induction n with
  | zero =>
    refine ⟨t.registers, rfl, h.registers, fun c => ?_⟩
    rw [if_neg]
    rintro ⟨-, i, hi, -⟩
    exact absurd hi (Nat.not_lt_zero i)
  | succ n ih =>
    obtain ⟨registers, hclear, hregs, hget⟩ := ih
    -- the last byte of the read meets one more register
    have hstep : t.clearRead (n + 1) =
        if (t.pointer + n) % t.size ∈ t.clearOnRead then
          setByte registers ((t.pointer + n) % t.size) 0
        else some registers := by
      unfold BankTemplate.clearRead at hclear ⊢
      rw [List.range_succ, List.foldlM_append, hclear]
      simp
    have hlt : (t.pointer + n) % t.size < t.size := Nat.mod_lt _ h.size_pos
    rw [hstep]
    split
    · rename_i hmem
      obtain ⟨registers', hset, hregs'⟩ := hregs.setByte hlt (by decide : 0 < 256)
      refine ⟨registers', hset, hregs', fun c => ?_⟩
      have hlen : (t.pointer + n) % t.size < registers.length := hregs.length.symm ▸ hlt
      have heq : registers' = registers.set ((t.pointer + n) % t.size) 0 := by
        rw [setByte, if_pos ⟨hlen, by decide⟩] at hset
        exact (Option.some.inj hset).symm
      by_cases hc : (t.pointer + n) % t.size = c
      · subst hc
        rw [heq, List.getElem?_set_self hlen, if_pos ⟨hmem, n, Nat.lt_succ_self n, rfl⟩]
        have hlen' : (t.pointer + n) % t.size < t.registers.length := h.registers.length.symm ▸ hlt
        rw [List.getElem?_eq_getElem hlen']
        rfl
      · rw [heq, List.getElem?_set_ne hc, hget c]
        refine if_congr (and_congr_right fun _ => ?_) rfl rfl
        constructor
        · rintro ⟨i, hi, hic⟩
          exact ⟨i, Nat.lt_succ_of_lt hi, hic⟩
        · rintro ⟨i, hi, hic⟩
          exact ⟨i, by grind, hic⟩
    · rename_i hmem
      refine ⟨registers, rfl, hregs, fun c => ?_⟩
      rw [hget c]
      refine if_congr (and_congr_right fun hc => ?_) rfl rfl
      constructor
      · rintro ⟨i, hi, hic⟩
        exact ⟨i, Nat.lt_succ_of_lt hi, hic⟩
      · rintro ⟨i, hi, hic⟩
        exact ⟨i, by grind, hic⟩

/-- Where the registers to clear are zero, a read changes no register. -/
theorem Wf.clearRead_zero (h : t.Wf)
    (hzero : ∀ c ∈ t.clearOnRead, c < t.size → t.registers[c]? = some 0) (n : Nat) :
    t.clearRead n = some t.registers := by
  obtain ⟨registers, hclear, -, hget⟩ := h.clearRead_eq n
  have heq : registers = t.registers := by
    apply List.ext_getElem?
    intro c
    rw [hget c]
    split
    · rename_i hc
      obtain ⟨hmem, i, -, hic⟩ := hc
      rw [hzero c hmem (hic ▸ Nat.mod_lt _ h.size_pos)]
      rfl
    · rfl
  rw [hclear, heq]

theorem fixed_of_handleMessage {m : I2cEntry} {t' : BankTemplate} {bs : List UInt8}
    (h : t.handleMessage m = some (t', bs)) : t'.fixed = t.fixed := by
  unfold handleMessage at h
  split at h
  · obtain ⟨data, -, h⟩ := Option.bind_eq_some_iff.mp h
    obtain ⟨registers, -, h⟩ := Option.bind_eq_some_iff.mp h
    cases h
    rfl
  · obtain ⟨t'', hwrite, h⟩ := Option.map_eq_some_iff.mp h
    cases h
    unfold writeMessage at hwrite
    split at hwrite
    · cases hwrite
      rfl
    split at hwrite
    · cases hwrite
      rfl
    dsimp only at hwrite
    split at hwrite
    · cases hwrite
      rfl
    · obtain ⟨registers, -, hwrite⟩ := Option.bind_eq_some_iff.mp hwrite
      cases hwrite
      rfl

theorem fixed_of_handleI2c {ms : List I2cEntry} {t' : BankTemplate} {bs : List UInt8}
    (h : t.handleI2c ms = some (t', bs)) : t'.fixed = t.fixed := by
  induction ms generalizing t bs with
  | nil =>
    cases h
    rfl
  | cons m ms ih =>
    obtain ⟨⟨t₁, data⟩, hm, h⟩ := Option.bind_eq_some_iff.mp h
    obtain ⟨⟨t₂, rest⟩, hms, h⟩ := Option.bind_eq_some_iff.mp h
    cases h
    exact (ih hms).trans (fixed_of_handleMessage hm)

/-! ### States that no message tells apart -/

theorem writeBytes_pointer (t : BankTemplate) (q pointer : Nat) (registers : List Nat)
    (offset : Nat) (bytes : List UInt8) :
    ({ t with pointer := q } : BankTemplate).writeBytes pointer registers offset bytes =
      t.writeBytes pointer registers offset bytes := by
  induction bytes generalizing registers offset with
  | nil => rfl
  | cons b bs ih => simp only [writeBytes, ih]

/-- A write that sets the pointer does not depend on the one before. -/
theorem writeMessage_pointer (t : BankTemplate) (q : Nat) {data : List UInt8} (hne : data ≠ [])
    (hlong : ¬ data.length < t.pointerWidth) :
    ({ t with pointer := q } : BankTemplate).writeMessage data = t.writeMessage data := by
  unfold writeMessage
  simp only [if_neg hne, if_neg hlong, writeBytes_pointer]

/-- The relation that every message keeps. -/
structure Twins (t u : BankTemplate) : Prop where
  wf : t.Wf
  wf' : u.Wf
  same : u = { t with pointer := u.pointer }
  pointer : t.pointer = u.pointer ∨
    (∀ i, t.registers[(t.pointer + i) % t.size]? = t.registers[(u.pointer + i) % t.size]?) ∧
      ∀ c ∈ t.clearOnRead, c < t.size → t.registers[c]? = some 0

theorem Wf.twins (h : t.Wf) : Twins t t := ⟨h, h, rfl, .inl rfl⟩

/-- A read of both: the same bytes, no register changes, and the pointers move by the same
distance. -/
theorem Twins.readMessage {q : Nat} (h : Twins t { t with pointer := q })
    (hshift : ∀ i, t.registers[(t.pointer + i) % t.size]? = t.registers[(q + i) % t.size]?)
    (hzero : ∀ c ∈ t.clearOnRead, c < t.size → t.registers[c]? = some 0) (n : Nat) :
    ∃ t' u' bs, t.readMessage n = some (t', bs) ∧
      ({ t with pointer := q } : BankTemplate).readMessage n = some (u', bs) ∧ Twins t' u' := by
  obtain ⟨t', bs, ht, hwf, -, -⟩ := h.wf.readMessage n
  obtain ⟨u', cs, hu, hwf', -, -⟩ := h.wf'.readMessage n
  have hbytes : ({ t with pointer := q } : BankTemplate).readBytes n = t.readBytes n := by
    simp only [readBytes, hshift]
  have hclear := h.wf.clearRead_zero hzero n
  have hclear' := h.wf'.clearRead_zero hzero n
  obtain ⟨data, hdata⟩ : ∃ data, t.readBytes n = some data := ⟨_, h.wf.readBytes_eq n⟩
  rw [BankTemplate.readMessage, hdata, hclear] at ht
  rw [BankTemplate.readMessage, hbytes, hdata, hclear'] at hu
  cases ht
  cases hu
  refine ⟨_, _, bs, ?_, ?_, hwf, hwf', rfl, ?_⟩
  · rw [BankTemplate.readMessage, hdata, hclear]
    rfl
  · rw [BankTemplate.readMessage, hbytes, hdata, hclear']
    rfl
  · refine .inr ⟨fun i => ?_, hzero⟩
    dsimp only
    split
    · rw [Nat.mod_add_mod, Nat.mod_add_mod, Nat.add_assoc, Nat.add_assoc]
      exact hshift (n + i)
    · exact hshift i

theorem Twins.handleMessage (h : Twins t u) (m : I2cEntry) :
    ∃ t' u' bs, t.handleMessage m = some (t', bs) ∧ u.handleMessage m = some (u', bs) ∧
      Twins t' u' := by
  obtain ⟨t', bs, ht, hwf, -, -⟩ := h.wf.handleMessage m
  rcases h.pointer with hpointer | ⟨hshift, hzero⟩
  · have heq : u = t := by
      rw [h.same, ← hpointer]
    exact ⟨t', t', bs, ht, heq ▸ ht, hwf.twins⟩
  obtain ⟨q, rfl⟩ : ∃ q, u = { t with pointer := q } := ⟨u.pointer, h.same⟩
  by_cases hread : m.flags &&& 1 ≠ 0
  · simp only [BankTemplate.handleMessage, if_pos hread]
    exact h.readMessage hshift hzero m.len
  · simp only [BankTemplate.handleMessage, if_neg hread] at ht ⊢
    by_cases hshort : m.data = [] ∨ m.data.length < t.pointerWidth
    · -- nothing is written and no pointer set
      have hkeep : ∀ v : BankTemplate, v.pointerWidth = t.pointerWidth →
          v.writeMessage m.data = some v := by
        intro v hv
        unfold writeMessage
        rcases hshort with hnil | hlt
        · exact if_pos hnil
        · split
          · rfl
          · exact if_pos (hv ▸ hlt)
      refine ⟨t, { t with pointer := q }, [], ?_, ?_, h⟩
      · rw [hkeep t rfl]
        rfl
      · rw [hkeep { t with pointer := q } rfl]
        rfl
    · rw [not_or] at hshort
      rw [writeMessage_pointer t q hshort.1 hshort.2]
      exact ⟨t', t', bs, ht, ht, hwf.twins⟩

theorem Twins.handleI2c (h : Twins t u) (ms : List I2cEntry) :
    ∃ t' u' bs, t.handleI2c ms = some (t', bs) ∧ u.handleI2c ms = some (u', bs) ∧ Twins t' u' := by
  induction ms generalizing t u with
  | nil => exact ⟨t, u, [], rfl, rfl, h⟩
  | cons m ms ih =>
    obtain ⟨t₁, u₁, bs, ht, hu, h₁⟩ := h.handleMessage m
    obtain ⟨t₂, u₂, rest, ht', hu', h₂⟩ := ih h₁
    refine ⟨t₂, u₂, bs ++ rest, ?_, ?_, h₂⟩
    · simp only [BankTemplate.handleI2c, ht, ht', bind, Option.bind]
    · simp only [BankTemplate.handleI2c, hu, hu', bind, Option.bind]

theorem Indistinct.twins (h : t.Indistinct u) (ht : t.Wf) (hu : u.Wf) (hfixed : t.fixed = u.fixed) :
    Twins t u where
  wf := ht
  wf' := hu
  same := by
    conv_lhs => rw [eq_of_fixed hfixed, ← h.registers]
  pointer := h.pointer

/-! ### Messages that show a difference -/

/-- The pointer is set to 0 and every register read. -/
def dump (pointerWidth size : Nat) : List I2cEntry :=
  [⟨0, 0, pointerWidth, List.replicate pointerWidth 0⟩, ⟨0, 1, size, []⟩]

theorem bigEndian_zero (n : Nat) : bigEndian (List.replicate n 0) = 0 := by
  unfold bigEndian
  induction n with
  | zero => rfl
  | succ n ih => exact ih

theorem Wf.handleI2c_read (h : t.Wf) (n : Nat) :
    ∃ t', t.handleI2c [⟨0, 1, n, []⟩] = some (t', (List.range n).map fun i =>
        UInt8.ofNat (t.registers[(t.pointer + i) % t.size]?.getD 0)) ∧
      t.clearRead n = some t'.registers := by
  obtain ⟨registers, hclear, -, -⟩ := h.clearRead_eq n
  refine ⟨{ t with
      registers := registers
      pointer := if t.autoIncrement then (t.pointer + n) % t.size else t.pointer }, ?_, hclear⟩
  have hmessage : t.handleMessage ⟨0, 1, n, []⟩ = t.readMessage n :=
    if_pos (by decide : (1 : Nat) &&& 1 ≠ 0)
  simp only [BankTemplate.handleI2c, hmessage, BankTemplate.readMessage, h.readBytes_eq, hclear,
    bind, Option.bind, List.append_nil]

theorem Wf.handleI2c_dump (h : t.Wf) (hwidth : 1 ≤ t.pointerWidth) :
    ∃ t', t.handleI2c (dump t.pointerWidth t.size) = some (t', t.registers.map UInt8.ofNat) := by
  have hset : t.handleMessage ⟨0, 0, t.pointerWidth, List.replicate t.pointerWidth 0⟩ =
      some ({ t with pointer := 0 }, []) := by
    have hne : List.replicate t.pointerWidth (0 : UInt8) ≠ [] := by
      intro hnil
      have hlen := congrArg List.length hnil
      rw [List.length_replicate, List.length_nil] at hlen
      omega
    have hlong : ¬ (List.replicate t.pointerWidth (0 : UInt8)).length < t.pointerWidth := by
      rw [List.length_replicate]
      exact Nat.lt_irrefl _
    have htake : (List.replicate t.pointerWidth (0 : UInt8)).take t.pointerWidth =
        List.replicate t.pointerWidth 0 := by
      rw [List.take_replicate, Nat.min_self]
    have hdrop : (List.replicate t.pointerWidth (0 : UInt8)).drop t.pointerWidth = [] := by
      rw [List.drop_replicate, Nat.sub_self]
      rfl
    have hwrite : t.writeMessage (List.replicate t.pointerWidth 0) =
        some { t with pointer := 0 } := by
      unfold BankTemplate.writeMessage
      rw [if_neg hne, if_neg hlong, htake, hdrop, bigEndian_zero, Nat.zero_mod]
      exact if_pos rfl
    have hmessage : t.handleMessage ⟨0, 0, t.pointerWidth, List.replicate t.pointerWidth 0⟩ =
        (t.writeMessage (List.replicate t.pointerWidth 0)).map fun t => (t, []) :=
      if_neg (by decide : ¬ (0 : Nat) &&& 1 ≠ 0)
    rw [hmessage, hwrite]
    rfl
  have hwf : ({ t with pointer := 0 } : BankTemplate).Wf := { h with pointer := h.size_pos }
  obtain ⟨t', hread, -⟩ := hwf.handleI2c_read t.size
  refine ⟨t', ?_⟩
  have hall : (List.range t.size).map (fun i =>
      UInt8.ofNat (t.registers[(0 + i) % t.size]?.getD 0)) = t.registers.map UInt8.ofNat := by
    apply List.ext_getElem
    · rw [List.length_map, List.length_map, List.length_range, h.registers.length]
    · intro i hi hi'
      rw [List.length_map] at hi'
      have hlt : i < t.size := h.registers.length ▸ hi'
      rw [List.getElem_map, List.getElem_map, List.getElem_range, Nat.zero_add,
        Nat.mod_eq_of_lt hlt, List.getElem?_eq_getElem hi']
      rfl
  rw [dump, BankTemplate.handleI2c, hset]
  simp only [bind, Option.bind, hread, hall, List.nil_append]

-- Registers are bytes, so that a reply shows them.
theorem map_toNat_of_registers {size : Nat} {registers : List Nat} (h : Registers size registers) :
    (registers.map UInt8.ofNat).map UInt8.toNat = registers := by
  rw [List.map_map]
  conv_rhs => rw [← List.map_id registers]
  apply List.map_congr_left
  intro r hr
  exact UInt8.toNat_ofNat_of_lt' (h.bytes r hr)

/-! ### Which states are alike -/

theorem call_i2c {ms : List I2cEntry} {t' : BankTemplate} {bs : List UInt8}
    (h : t.handleI2c ms = some (t', bs)) :
    callHeld (some (.bank t)) (.i2c ms) = (some (.bank t'), some ⟨bs, []⟩) := by
  simp only [callHeld, Template.call, h]

theorem Twins.alike (h : Twins t u) : Alike callHeld (some (.bank t)) (some (.bank u)) := by
  refine Alike.of_relation (R := fun x y => ∃ t u : BankTemplate, x = some (.bank t) ∧
    y = some (.bank u) ∧ Twins t u) ?_ ⟨t, u, rfl, rfl, h⟩
  rintro _ _ c ⟨t, u, rfl, rfl, h⟩
  cases c with
  | i2c ms =>
    obtain ⟨t', u', bs, ht, hu, h'⟩ := h.handleI2c ms
    rw [call_i2c ht, call_i2c hu]
    exact ⟨rfl, t', u', rfl, rfl, h'⟩
  | spi _ | uart _ | uartControl _ _ => exact ⟨rfl, t, u, rfl, rfl, h⟩

/-- Two banks of one backend that answer alike. -/
structure Compared (t u : BankTemplate) : Prop where
  wf : t.Wf
  wf' : u.Wf
  fixed : t.fixed = u.fixed
  width : 1 ≤ t.pointerWidth
  alike : Alike callHeld (some (.bank t)) (some (.bank u))

namespace Compared

theorem symm (h : Compared t u) : Compared u t :=
  ⟨h.wf', h.wf, h.fixed.symm, pointerWidth_of_fixed h.fixed ▸ h.width, fun is => (h.alike is).symm⟩

theorem registers (h : Compared t u) : t.registers = u.registers := by
  obtain ⟨t', ht⟩ := h.wf.handleI2c_dump h.width
  obtain ⟨u', hu⟩ := h.wf'.handleI2c_dump h.symm.width
  rw [size_of_fixed h.fixed, pointerWidth_of_fixed h.fixed] at hu
  have hanswer := h.alike.answer (.i2c (dump t.pointerWidth t.size))
  rw [call_i2c ht, call_i2c hu] at hanswer
  have hbytes : t.registers.map UInt8.ofNat = u.registers.map UInt8.ofNat := by
    simpa using hanswer
  rw [← map_toNat_of_registers h.wf.registers, hbytes, map_toNat_of_registers h.wf'.registers]

/-- After a read of both they are compared again. -/
theorem read (h : Compared t u) (n : Nat) : ∃ t' u', t.clearRead n = some t'.registers ∧
    u.clearRead n = some u'.registers ∧ Compared t' u' := by
  obtain ⟨t', ht, hclear⟩ := h.wf.handleI2c_read n
  obtain ⟨u', hu, hclear'⟩ := h.wf'.handleI2c_read n
  have hnext := h.alike.next (.i2c [⟨0, 1, n, []⟩])
  rw [call_i2c ht, call_i2c hu] at hnext
  have hfixed := fixed_of_handleI2c ht
  obtain ⟨_, _, ht', hwf, -, -⟩ := h.wf.handleI2c [⟨0, 1, n, []⟩]
  obtain ⟨_, _, hu', hwf', -, -⟩ := h.wf'.handleI2c [⟨0, 1, n, []⟩]
  rw [ht] at ht'
  rw [hu] at hu'
  cases ht'
  cases hu'
  refine ⟨t', u', hclear, hclear', hwf, hwf', ?_, ?_, hnext⟩
  · rw [hfixed, fixed_of_handleI2c hu, h.fixed]
  · rw [pointerWidth_of_fixed hfixed.symm]
    exact h.width

theorem shift (h : Compared t u) (i : Nat) :
    t.registers[(t.pointer + i) % t.size]? = t.registers[(u.pointer + i) % t.size]? := by
  obtain ⟨t', ht, -⟩ := h.wf.handleI2c_read t.size
  obtain ⟨u', hu, -⟩ := h.wf'.handleI2c_read t.size
  rw [← h.registers, size_of_fixed h.fixed] at hu
  have hanswer := h.alike.answer (.i2c [⟨0, 1, t.size, []⟩])
  rw [call_i2c ht, call_i2c hu] at hanswer
  have hbytes : ∀ j < t.size,
      UInt8.ofNat (t.registers[(t.pointer + j) % t.size]?.getD 0) =
        UInt8.ofNat (t.registers[(u.pointer + j) % t.size]?.getD 0) := by
    simpa using hanswer
  have hregister : ∀ p : Nat, ∃ r < 256, t.registers[p % t.size]? = some r := by
    intro p
    have hp : p % t.size < t.registers.length := by
      rw [h.wf.registers.length]
      exact Nat.mod_lt _ h.wf.size_pos
    exact ⟨_, h.wf.registers.bytes _ (List.getElem_mem hp), List.getElem?_eq_getElem hp⟩
  -- one round of the registers shows all of them
  obtain ⟨r, hr, hleft⟩ := hregister (t.pointer + i)
  obtain ⟨r', hr', hright⟩ := hregister (u.pointer + i)
  have hround := hbytes (i % t.size) (Nat.mod_lt _ h.wf.size_pos)
  rw [Nat.add_mod_mod, Nat.add_mod_mod, hleft, hright] at hround
  have heq := congrArg UInt8.toNat hround
  rw [Option.getD_some, Option.getD_some, UInt8.toNat_ofNat_of_lt' hr,
    UInt8.toNat_ofNat_of_lt' hr'] at heq
  rw [hleft, hright, heq]

/-- A register that the first reader meets before the second is cleared for one of them only. -/
theorem zero_of_lt (h : Compared t u) {c : Nat} (hmem : c ∈ t.clearOnRead) (hc : c < t.size)
    {i j : Nat} (hij : i < j) (hj : j < t.size) (hi : (t.pointer + i) % t.size = c)
    (hfirst : (u.pointer + j) % t.size = c) : t.registers[c]? = some 0 := by
  obtain ⟨t', u', ht, hu, h'⟩ := h.read (i + 1)
  obtain ⟨registers, hclear, -, hget⟩ := h.wf.clearRead_eq (i + 1)
  obtain ⟨registers', hclear', -, hget'⟩ := h.wf'.clearRead_eq (i + 1)
  rw [ht] at hclear
  rw [hu] at hclear'
  cases hclear
  cases hclear'
  have hseen := hget c
  rw [if_pos ⟨hmem, i, Nat.lt_succ_self i, hi⟩] at hseen
  have hunseen := hget' c
  rw [if_neg, ← h.registers] at hunseen
  · have hlen : c < t.registers.length := by
      rw [h.wf.registers.length]
      exact hc
    rw [← hunseen, ← h'.registers, hseen, List.getElem?_eq_getElem hlen]
    rfl
  · rintro ⟨-, k, hk, hkc⟩
    rw [size_of_fixed h.fixed] at hkc
    -- two offsets below the size lead to one register
    have hmod := Nat.ModEq.add_left_cancel' u.pointer (hkc.trans hfirst.symm : _ ≡ _ [MOD t.size])
    have heq := Nat.ModEq.eq_of_lt_of_lt hmod (by omega) hj
    omega

theorem indistinct (h : Compared t u) : t.Indistinct u where
  registers := h.registers
  pointer := by
    by_cases hpointer : t.pointer = u.pointer
    · exact .inl hpointer
    refine .inr ⟨h.shift, fun c hmem hc => ?_⟩
    have hsize := size_of_fixed h.fixed
    have ht := h.wf.pointer
    have hu := h.wf'.pointer
    rw [hsize] at hu
    -- how far the register is from either pointer
    obtain ⟨i, hi, hic⟩ : ∃ i < t.size, (t.pointer + i) % t.size = c := by
      by_cases hle : t.pointer ≤ c
      · exact ⟨c - t.pointer, by omega, by rw [Nat.add_sub_cancel' hle, Nat.mod_eq_of_lt hc]⟩
      · refine ⟨c + t.size - t.pointer, by omega, ?_⟩
        rw [Nat.add_sub_cancel' (by omega), Nat.add_mod_right, Nat.mod_eq_of_lt hc]
    obtain ⟨j, hj, hjc⟩ : ∃ j < t.size, (u.pointer + j) % t.size = c := by
      by_cases hle : u.pointer ≤ c
      · exact ⟨c - u.pointer, by omega, by rw [Nat.add_sub_cancel' hle, Nat.mod_eq_of_lt hc]⟩
      · refine ⟨c + t.size - u.pointer, by omega, ?_⟩
        rw [Nat.add_sub_cancel' (by omega), Nat.add_mod_right, Nat.mod_eq_of_lt hc]
    rcases Nat.lt_trichotomy i j with hlt | heq | hlt
    · exact h.zero_of_lt hmem hc hlt hj hic hjc
    · subst heq
      have hmod := Nat.ModEq.add_right_cancel' i (hic.trans hjc.symm : _ ≡ _ [MOD t.size])
      exact absurd (Nat.ModEq.eq_of_lt_of_lt hmod ht hu) hpointer
    · have hmem' : c ∈ u.clearOnRead := by
        rw [eq_of_fixed h.fixed]
        exact hmem
      rw [h.registers]
      exact h.symm.zero_of_lt hmem' (hsize ▸ hc) hlt (hsize ▸ hi) (by rw [hsize]; exact hjc)
        (by rw [hsize]; exact hic)

end Compared

theorem alike_iff (ht : t.Wf) (hu : u.Wf) (hfixed : t.fixed = u.fixed) (hwidth : 1 ≤ t.pointerWidth) :
    Alike callHeld (some (.bank t)) (some (.bank u)) ↔ t.Indistinct u :=
  ⟨fun h => Compared.indistinct ⟨ht, hu, hfixed, hwidth, h⟩,
    fun h => (h.twins ht hu hfixed).alike⟩

end BankTemplate

/-! ## SPI scripts -/

namespace ScriptTemplate

/-- What `__init__` sets and no call changes. -/
def fixed (t : ScriptTemplate) : ScriptTemplate :=
  { t with
    flashStatusRegister := 0
    flashWel := false
    flashBusyReadsRemaining := 0 }

/-- There is no flash, or its latch, its busy counter and the status bits that are read agree. -/
def Indistinct (t u : ScriptTemplate) : Prop :=
  t.flashJedecId = [] ∨
    t.flashStatusRegister &&& 0xfc = u.flashStatusRegister &&& 0xfc ∧ t.flashWel = u.flashWel ∧
      t.flashBusyReadsRemaining = u.flashBusyReadsRemaining

variable {t u : ScriptTemplate}

theorem eq_of_fixed (h : t.fixed = u.fixed) :
    u = { t with
      flashStatusRegister := u.flashStatusRegister
      flashWel := u.flashWel
      flashBusyReadsRemaining := u.flashBusyReadsRemaining } := by
  cases t
  cases u
  simp only [fixed, mk.injEq] at h
  obtain ⟨rfl, rfl, rfl, rfl, rfl, -, rfl, -, -⟩ := h
  rfl

theorem jedecId_of_fixed (h : t.fixed = u.fixed) : u.flashJedecId = t.flashJedecId := by
  rw [eq_of_fixed h]

/-! ### What one transfer does -/

theorem fixed_of_handleSpi {tx data : List UInt8} {length : Nat} {t' : ScriptTemplate}
    (h : t.handleSpi tx length = some (t', data)) : t'.fixed = t.fixed := by
  obtain ⟨r, hr, heq⟩ := Option.map_eq_some_iff.mp h
  cases heq
  unfold response at hr
  split at hr
  · split at hr
    · unfold flashResponse at hr
      rw [if_pos t.flashStatus_lt] at hr
      repeat' split at hr
      all_goals
        cases hr
        rfl
    · cases hr
      rfl
  · cases hr
    rfl

theorem fixed_of_transferAll (t : ScriptTemplate) (xs : List SpiEntry) :
    (t.transferAll xs).1.fixed = t.fixed := by
  induction xs generalizing t with
  | nil => rfl
  | cons x xs ih =>
    rw [transferAll]
    split
    · rfl
    · rename_i t' data hx
      obtain ⟨tx, -, hx⟩ := Option.bind_eq_some_iff.mp hx
      exact (ih t').trans (fixed_of_handleSpi hx)

/-- The status shows the latch, the busy bit and the register's own bits. -/
theorem testBit_flashStatus (t : ScriptTemplate) (i : Nat) :
    t.flashStatus.testBit i =
      (((t.flashStatusRegister &&& 0xfc).testBit i || t.flashWel && Nat.testBit 0x02 i) ||
        decide (0 < t.flashBusyReadsRemaining) && Nat.testBit 0x01 i) := by
  unfold flashStatus
  dsimp only
  cases t.flashWel <;> by_cases hbusy : 0 < t.flashBusyReadsRemaining <;>
    simp only [hbusy, if_true, if_false, Bool.false_eq_true, Nat.testBit_or, decide_true,
      decide_false, Bool.true_and, Bool.false_and, Bool.or_false]

theorem flashStatus_testBit_zero (t : ScriptTemplate) :
    t.flashStatus.testBit 0 = decide (0 < t.flashBusyReadsRemaining) := by
  have hmask : (t.flashStatusRegister &&& 0xfc).testBit 0 = false := by
    rw [Nat.testBit_and]
    exact Bool.and_false _
  rw [testBit_flashStatus, hmask]
  show ((false || t.flashWel && false) || decide (0 < t.flashBusyReadsRemaining) && true) = _
  rw [Bool.and_false, Bool.or_false, Bool.false_or, Bool.and_true]

theorem flashStatus_testBit_one (t : ScriptTemplate) : t.flashStatus.testBit 1 = t.flashWel := by
  have hmask : (t.flashStatusRegister &&& 0xfc).testBit 1 = false := by
    rw [Nat.testBit_and]
    exact Bool.and_false _
  rw [testBit_flashStatus, hmask]
  show ((false || t.flashWel && true) || decide (0 < t.flashBusyReadsRemaining) && false) = _
  rw [Bool.and_false, Bool.or_false, Bool.false_or, Bool.and_true]

theorem flashStatus_and (t : ScriptTemplate) :
    t.flashStatus &&& 0xfc = t.flashStatusRegister &&& 0xfc := by
  have hmask : (t.flashStatusRegister &&& 0xfc) &&& 0xfc = t.flashStatusRegister &&& 0xfc := by
    rw [Nat.and_assoc]
    rfl
  unfold flashStatus
  dsimp only
  split <;> split <;> simp [Nat.and_or_distrib_right, hmask]

/-! ### States that no transfer tells apart -/

/-- A flash whose stored status differs at most in bits that are not read. -/
theorem flashResponse_twins {s : Nat}
    (hmask : t.flashStatusRegister &&& 0xfc = s &&& 0xfc) (tx : List UInt8) (opcode : UInt8)
    (length : Nat) :
    ∃ t' u' data, t.flashResponse tx opcode length = some (t', data) ∧
      ({ t with flashStatusRegister := s } : ScriptTemplate).flashResponse tx opcode length =
        some (u', data) ∧ t'.fixed = u'.fixed ∧ t'.Indistinct u' := by
  have hstatus : ({ t with flashStatusRegister := s } : ScriptTemplate).flashStatus =
      t.flashStatus := by
    unfold flashStatus
    dsimp only
    rw [hmask]
  have hkept : t.fixed = ({ t with flashStatusRegister := s } : ScriptTemplate).fixed ∧
      t.Indistinct { t with flashStatusRegister := s } := ⟨rfl, .inr ⟨hmask, rfl, rfl⟩⟩
  unfold flashResponse
  simp only [hstatus, if_pos t.flashStatus_lt]
  by_cases hlatch : opcode = 0x06
  · simp only [if_pos hlatch]
    exact ⟨_, _, _, rfl, rfl, rfl, .inr ⟨hmask, rfl, rfl⟩⟩
  simp only [if_neg hlatch]
  by_cases hunlatch : opcode = 0x04
  · simp only [if_pos hunlatch]
    exact ⟨_, _, _, rfl, rfl, rfl, .inr ⟨hmask, rfl, rfl⟩⟩
  simp only [if_neg hunlatch]
  by_cases hread : opcode = 0x05
  · simp only [if_pos hread]
    exact ⟨_, _, _, rfl, rfl, rfl, .inr ⟨hmask, rfl, rfl⟩⟩
  simp only [if_neg hread]
  by_cases hid : opcode = 0x9f
  · simp only [if_pos hid]
    exact ⟨_, _, _, rfl, rfl, hkept⟩
  simp only [if_neg hid]
  rcases tx with _ | ⟨b, _ | ⟨status, rest⟩⟩
  · exact ⟨_, _, _, rfl, rfl, hkept⟩
  · exact ⟨_, _, _, rfl, rfl, hkept⟩
  · by_cases hwrite : opcode = 0x01 ∧ t.flashWel = true
    · simp only [if_pos hwrite]
      exact ⟨_, _, _, rfl, rfl, rfl, .inr ⟨rfl, rfl, rfl⟩⟩
    · simp only [if_neg hwrite]
      exact ⟨_, _, _, rfl, rfl, hkept⟩

/-- The relation that every transfer keeps. -/
structure Twins (t u : ScriptTemplate) : Prop where
  fixed : t.fixed = u.fixed
  state : t.Indistinct u

theorem Twins.response (h : Twins t u) (tx : List UInt8) (length : Nat) :
    ∃ t' u' data, t.response tx length = some (t', data) ∧
      u.response tx length = some (u', data) ∧ Twins t' u' := by
  have hscripted : u.scripted tx = t.scripted tx := by
    rw [eq_of_fixed h.fixed]
    rfl
  have hid := jedecId_of_fixed h.fixed
  cases tx with
  | nil => exact ⟨t, u, t.scripted [], rfl, congrArg (fun r => some (u, r)) hscripted, h⟩
  | cons opcode tx =>
    by_cases hflash : t.flashJedecId ≠ []
    · obtain ⟨hmask, hwel, hbusy⟩ := h.state.resolve_left hflash
      obtain ⟨s, rfl⟩ : ∃ s, u = { t with flashStatusRegister := s } :=
        ⟨u.flashStatusRegister, by conv_lhs => rw [eq_of_fixed h.fixed, ← hwel, ← hbusy]⟩
      obtain ⟨t', u', data, ht, hu, hfixed, hstate⟩ :=
        flashResponse_twins hmask (opcode :: tx) opcode length
      exact ⟨t', u', data, (if_pos hflash).trans ht, (if_pos hflash).trans hu, hfixed, hstate⟩
    · refine ⟨t, u, t.scripted (opcode :: tx), if_neg hflash, ?_, h⟩
      rw [← hid] at hflash
      rw [← hscripted]
      exact if_neg hflash

theorem Twins.handleSpi (h : Twins t u) (tx : List UInt8) (length : Nat) :
    ∃ t' u' data, t.handleSpi tx length = some (t', data) ∧
      u.handleSpi tx length = some (u', data) ∧ Twins t' u' := by
  obtain ⟨t', u', data, ht, hu, h'⟩ := h.response tx length
  refine ⟨t', u', fit length data, ?_, ?_, h'⟩
  · rw [ScriptTemplate.handleSpi, ht]
    rfl
  · rw [ScriptTemplate.handleSpi, hu]
    rfl

theorem Twins.transferAll (h : Twins t u) (xs : List SpiEntry) :
    (t.transferAll xs).2 = (u.transferAll xs).2 ∧
      Twins (t.transferAll xs).1 (u.transferAll xs).1 := by
  induction xs generalizing t u with
  | nil => exact ⟨rfl, h⟩
  | cons x xs ih =>
    rw [ScriptTemplate.transferAll, ScriptTemplate.transferAll]
    cases htx : fromHex? x.tx with
    | none => exact ⟨rfl, h⟩
    | some tx =>
      obtain ⟨t', u', data, ht, hu, h'⟩ := h.handleSpi tx x.len
      simp only [Option.bind_some, ht, hu]
      obtain ⟨hdata, hnext⟩ := ih h'
      exact ⟨by rw [hdata], hnext⟩

theorem Twins.alike (h : Twins t u) : Alike callHeld (some (.script t)) (some (.script u)) := by
  refine Alike.of_relation (R := fun x y => ∃ t u : ScriptTemplate, x = some (.script t) ∧
    y = some (.script u) ∧ Twins t u) ?_ ⟨t, u, rfl, rfl, h⟩
  rintro _ _ c ⟨t, u, rfl, rfl, h⟩
  cases c with
  | spi xs =>
    obtain ⟨hdata, h'⟩ := h.transferAll xs
    refine ⟨?_, _, _, rfl, rfl, h'⟩
    show (t.transferAll xs).2.map _ = (u.transferAll xs).2.map _
    rw [hdata]
  | i2c _ | uart _ | uartControl _ _ => exact ⟨rfl, t, u, rfl, rfl, h⟩

/-! ### Transfers that show a difference -/

/-- One byte of the status. -/
def statusRead : SpiEntry := ⟨1, 500000, 0, 8, 0, 1, 1, 0, true, true, toHex [0x05]⟩

theorem call_statusRead (h : t.flashJedecId ≠ []) :
    callHeld (some (.script t)) (.spi [statusRead]) =
      (some (.script { t with flashBusyReadsRemaining := t.flashBusyReadsRemaining - 1 }),
        some ⟨[UInt8.ofNat t.flashStatus], []⟩) := by
  have hflash : t.flashResponse [0x05] 0x05 1 =
      some ({ t with flashBusyReadsRemaining := t.flashBusyReadsRemaining - 1 },
        [UInt8.ofNat t.flashStatus]) := by
    unfold flashResponse
    rw [if_pos t.flashStatus_lt]
    rfl
  have hresponse : t.response [0x05] 1 =
      some ({ t with flashBusyReadsRemaining := t.flashBusyReadsRemaining - 1 },
        [UInt8.ofNat t.flashStatus]) := (if_pos h).trans hflash
  have hspi : t.handleSpi [0x05] 1 =
      some ({ t with flashBusyReadsRemaining := t.flashBusyReadsRemaining - 1 },
        [UInt8.ofNat t.flashStatus]) := by
    rw [ScriptTemplate.handleSpi, hresponse]
    rfl
  have htx : fromHex? statusRead.tx = some [0x05] := fromHex?_toHex [0x05]
  have hlen : statusRead.len = 1 := rfl
  simp only [callHeld, Template.call, ScriptTemplate.transferAll, htx, hlen, Option.bind_some, hspi,
    Option.map_some, List.append_nil]

/-- The status of both is the same, and they are alike after it has been read. -/
theorem flashStatus_of_alike (hfixed : t.fixed = u.fixed) (hflash : t.flashJedecId ≠ [])
    (h : Alike callHeld (some (.script t)) (some (.script u))) :
    t.flashStatus = u.flashStatus ∧ Alike callHeld
      (some (.script { t with flashBusyReadsRemaining := t.flashBusyReadsRemaining - 1 }))
      (some (.script { u with flashBusyReadsRemaining := u.flashBusyReadsRemaining - 1 })) := by
  have hflash' : u.flashJedecId ≠ [] := by
    rw [jedecId_of_fixed hfixed]
    exact hflash
  have hanswer := h.answer (.spi [statusRead])
  have hnext := h.next (.spi [statusRead])
  rw [call_statusRead hflash, call_statusRead hflash'] at hanswer hnext
  refine ⟨?_, hnext⟩
  have hbyte : UInt8.ofNat t.flashStatus = UInt8.ofNat u.flashStatus := by simpa using hanswer
  have heq := congrArg UInt8.toNat hbyte
  rw [UInt8.toNat_ofNat_of_lt' t.flashStatus_lt, UInt8.toNat_ofNat_of_lt' u.flashStatus_lt] at heq
  exact heq

/-- The busy counters are shown by as many reads of the status. -/
theorem busy_of_alike (hfixed : t.fixed = u.fixed) (hflash : t.flashJedecId ≠ [])
    (h : Alike callHeld (some (.script t)) (some (.script u))) :
    t.flashBusyReadsRemaining = u.flashBusyReadsRemaining := by
  generalize hn : t.flashBusyReadsRemaining = n
  induction n generalizing t u with
  | zero =>
    have hstatus := (flashStatus_of_alike hfixed hflash h).1
    have hbit := congrArg (Nat.testBit · 0) hstatus
    simp only [flashStatus_testBit_zero, hn, decide_eq_decide] at hbit
    omega
  | succ n ih =>
    obtain ⟨hstatus, hnext⟩ := flashStatus_of_alike hfixed hflash h
    have hbit := congrArg (Nat.testBit · 0) hstatus
    simp only [flashStatus_testBit_zero, hn, decide_eq_decide] at hbit
    have hrest := ih (t := { t with flashBusyReadsRemaining := t.flashBusyReadsRemaining - 1 })
      (u := { u with flashBusyReadsRemaining := u.flashBusyReadsRemaining - 1 }) hfixed hflash hnext
      (by rw [hn]; rfl)
    have hpred : n = u.flashBusyReadsRemaining - 1 := hrest
    omega

theorem alike_iff (hfixed : t.fixed = u.fixed) :
    Alike callHeld (some (.script t)) (some (.script u)) ↔ t.Indistinct u := by
  refine ⟨fun h => ?_, fun h => Twins.alike ⟨hfixed, h⟩⟩
  by_cases hflash : t.flashJedecId = []
  · exact .inl hflash
  have hstatus := (flashStatus_of_alike hfixed hflash h).1
  refine .inr ⟨?_, ?_, busy_of_alike hfixed hflash h⟩
  · rw [← flashStatus_and, ← flashStatus_and, hstatus]
  · rw [← flashStatus_testBit_one, ← flashStatus_testBit_one, hstatus]

end ScriptTemplate

/-! ## UART scripts -/

namespace UartTemplate

/-- What `__init__` sets and no call changes. -/
def fixed (t : UartTemplate) : UartTemplate := { t with lineBuffer := [] }

/-- However the started lines go on, they are answered alike. -/
def Indistinct (t u : UartTemplate) : Prop :=
  ∀ rest : List UInt8, 10 ∉ rest →
    t.lineReply (t.lineBuffer ++ rest) = t.lineReply (u.lineBuffer ++ rest)

variable {t u : UartTemplate}

theorem eq_of_fixed (h : t.fixed = u.fixed) : u = { t with lineBuffer := u.lineBuffer } := by
  cases t
  cases u
  simp only [fixed, mk.injEq] at h
  obtain ⟨rfl, rfl, rfl, rfl, rfl, rfl, rfl, -⟩ := h
  rfl

/-! ### What one chunk does -/

/-- The loop takes the complete lines and leaves the started one. -/
theorem takeLines_eq (t : UartTemplate) (fuel : Nat) (buffer : List UInt8)
    (hfuel : fuel = buffer.count 10) :
    t.takeLines fuel buffer = (unterminated 10 buffer, (lines 10 buffer).flatMap t.lineReply) := by
  induction fuel generalizing buffer with
  | zero =>
    have hnone : 10 ∉ buffer := List.count_eq_zero.mp hfuel.symm
    rw [takeLines, unterminated_eq_self hnone, lines_eq_nil_of_notMem hnone]
    rfl
  | succ fuel ih =>
    have hmem : 10 ∈ buffer := List.count_pos_iff.mp (by omega)
    have hcount := count_remainder hmem
    rw [takeLines, if_pos hmem, ih (remainder 10 buffer) (by omega), lines_eq_cons hmem,
      unterminated_remainder hmem]
    rfl

theorem lineReplies_eq (t : UartTemplate) (data : List UInt8) :
    t.lineReplies data =
      if t.lineResponses ≠ [] ∧ data ≠ [] then
        (unterminated 10 (t.lineBuffer ++ data),
          (lines 10 (t.lineBuffer ++ data)).flatMap t.lineReply)
      else (t.lineBuffer, []) := by
  unfold lineReplies
  rw [takeLines_eq t _ _ rfl]

theorem notMem_lineBuffer (h : 10 ∉ t.lineBuffer) (data : List UInt8) :
    10 ∉ (t.handleUart data).1.lineBuffer := by
  show 10 ∉ (t.lineReplies data).1
  rw [lineReplies_eq]
  split
  · exact notMem_unterminated _
  · exact h

-- The chunk up to its first newline, and what stands behind it.
theorem exists_firstLine {data : List UInt8} (h : 10 ∈ data) :
    ∃ first rest : List UInt8, 10 ∉ first ∧ data = first ++ 10 :: rest :=
  ⟨firstLine 10 data, remainder 10 data, notMem_firstLine data,
    (firstLine_append_remainder h).symm⟩

theorem notMem_append {xs ys : List UInt8} (hx : 10 ∉ xs) (hy : 10 ∉ ys) : 10 ∉ xs ++ ys := by
  intro h
  exact (List.mem_append.mp h).elim hx hy

/-! ### States that no chunk tells apart -/

/-- The relation that every chunk keeps. -/
structure Twins (t u : UartTemplate) : Prop where
  fixed : t.fixed = u.fixed
  started : 10 ∉ t.lineBuffer
  started' : 10 ∉ u.lineBuffer
  state : t.Indistinct u

theorem Twins.lineReplies (h : Twins t u) (data : List UInt8) :
    (t.lineReplies data).2 = (u.lineReplies data).2 ∧
      Twins { t with lineBuffer := (t.lineReplies data).1 }
        { u with lineBuffer := (u.lineReplies data).1 } := by
  obtain ⟨b, rfl⟩ : ∃ b, u = { t with lineBuffer := b } := ⟨u.lineBuffer, eq_of_fixed h.fixed⟩
  rw [lineReplies_eq, lineReplies_eq]
  by_cases hlooked : t.lineResponses ≠ [] ∧ data ≠ []
  swap
  · rw [if_neg hlooked, if_neg hlooked]
    exact ⟨rfl, h⟩
  rw [if_pos hlooked, if_pos hlooked]
  dsimp only
  by_cases hmem : 10 ∈ data
  · -- the started lines end alike, and after them both buffers are the same
    obtain ⟨first, rest, hfirst, rfl⟩ := exists_firstLine hmem
    have hb : 10 ∉ b := h.started'
    have ht := notMem_append h.started hfirst
    have hu := notMem_append hb hfirst
    have hline : t.lineReply (t.lineBuffer ++ first) = t.lineReply (b ++ first) :=
      h.state first hfirst
    rw [← List.append_assoc, ← List.append_assoc, lines_append_cons ht, lines_append_cons hu,
      unterminated_append_cons ht, unterminated_append_cons hu, List.flatMap_cons,
      List.flatMap_cons, hline]
    exact ⟨rfl, rfl, notMem_unterminated rest, notMem_unterminated rest, fun _ _ => rfl⟩
  · have hb : 10 ∉ b := h.started'
    have ht := notMem_append h.started hmem
    have hu := notMem_append hb hmem
    rw [lines_eq_nil_of_notMem ht, lines_eq_nil_of_notMem hu, unterminated_eq_self ht,
      unterminated_eq_self hu]
    refine ⟨rfl, rfl, ht, hu, fun rest hrest => ?_⟩
    have hline : t.lineReply (t.lineBuffer ++ (data ++ rest)) = t.lineReply (b ++ (data ++ rest)) :=
      h.state (data ++ rest) (notMem_append hmem hrest)
    rw [← List.append_assoc, ← List.append_assoc] at hline
    exact hline

theorem Twins.handleUart (h : Twins t u) (data : List UInt8) :
    (t.handleUart data).2 = (u.handleUart data).2 ∧
      Twins (t.handleUart data).1 (u.handleUart data).1 := by
  obtain ⟨hlines, hnext⟩ := h.lineReplies data
  have hdirect : u.directReply data = t.directReply data := by
    rw [eq_of_fixed h.fixed]
    rfl
  have hdefault : u.defaultResponse = t.defaultResponse := by
    rw [eq_of_fixed h.fixed]
  refine ⟨?_, hnext⟩
  unfold UartTemplate.handleUart
  dsimp only
  rw [hdirect, hdefault, hlines]

theorem Twins.alike (h : Twins t u) : Alike callHeld (some (.uart t)) (some (.uart u)) := by
  refine Alike.of_relation (R := fun x y => ∃ t u : UartTemplate, x = some (.uart t) ∧
    y = some (.uart u) ∧ Twins t u) ?_ ⟨t, u, rfl, rfl, h⟩
  rintro _ _ c ⟨t, u, rfl, rfl, h⟩
  cases c with
  | uart data =>
    obtain ⟨hdata, h'⟩ := h.handleUart data
    refine ⟨?_, _, _, rfl, rfl, h'⟩
    show some (TemplateAnswer.mk (t.handleUart data).2 []) = some ⟨(u.handleUart data).2, []⟩
    rw [hdata]
  | uartControl modemMask modemValues =>
    refine ⟨?_, t, u, rfl, rfl, h⟩
    rw [eq_of_fixed h.fixed]
    rfl
  | i2c _ | spi _ => exact ⟨rfl, t, u, rfl, rfl, h⟩

/-! ### Chunks that show a difference -/

/-- A chunk that ends the started line and brings another one. -/
theorem handleUart_two (h : 10 ∉ t.lineBuffer) (hlooked : t.lineResponses ≠ [])
    {rest next : List UInt8} (hrest : 10 ∉ rest) (hnext : 10 ∉ next) (hreply : t.lineReply next ≠ []) :
    (t.handleUart (rest ++ 10 :: (next ++ [10]))).2 =
      t.directReply (rest ++ 10 :: (next ++ [10])) ++
        (t.lineReply (t.lineBuffer ++ rest) ++ t.lineReply next) := by
  have hne : rest ++ 10 :: (next ++ [10]) ≠ [] := by simp
  have hlines : (t.lineReplies (rest ++ 10 :: (next ++ [10]))).2 =
      t.lineReply (t.lineBuffer ++ rest) ++ t.lineReply next := by
    rw [lineReplies_eq, if_pos ⟨hlooked, hne⟩, ← List.append_assoc,
      lines_append_cons (notMem_append h hrest), lines_append_cons hnext]
    show t.lineReply (t.lineBuffer ++ rest) ++ (t.lineReply next ++ []) = _
    rw [List.append_nil]
  unfold handleUart
  dsimp only
  rw [hlines, if_neg]
  rintro ⟨hnil, -⟩
  exact hreply (List.append_eq_nil_iff.mp (List.append_eq_nil_iff.mp hnil).2).2

theorem alike_iff (ht : 10 ∉ t.lineBuffer) (hu : 10 ∉ u.lineBuffer) (hfixed : t.fixed = u.fixed) :
    Alike callHeld (some (.uart t)) (some (.uart u)) ↔ t.Indistinct u := by
  refine ⟨fun h rest hrest => ?_, fun h => Twins.alike ⟨hfixed, ht, hu, h⟩⟩
  obtain ⟨b, rfl⟩ : ∃ b, u = { t with lineBuffer := b } := ⟨u.lineBuffer, eq_of_fixed hfixed⟩
  have hb : 10 ∉ b := hu
  by_contra hdiffer
  -- one of the two lines has a reply, and sent again it keeps the default response away
  obtain ⟨next, hnext, hreply⟩ : ∃ next : List UInt8, 10 ∉ next ∧ t.lineReply next ≠ [] := by
    by_cases hempty : t.lineReply (t.lineBuffer ++ rest) = []
    · refine ⟨b ++ rest, notMem_append hb hrest, fun hnil => hdiffer ?_⟩
      rw [hempty]
      exact hnil.symm
    · exact ⟨t.lineBuffer ++ rest, notMem_append ht hrest, hempty⟩
  have hlooked : t.lineResponses ≠ [] := by
    intro hnil
    apply hreply
    unfold lineReply
    rw [hnil]
    rfl
  have hanswer := h.answer (.uart (rest ++ 10 :: (next ++ [10])))
  have hreplies : (t.handleUart (rest ++ 10 :: (next ++ [10]))).2 =
      (({ t with lineBuffer := b } : UartTemplate).handleUart (rest ++ 10 :: (next ++ [10]))).2 := by
    have hdata := congrArg (Option.map TemplateAnswer.data) hanswer
    exact Option.some.inj hdata
  have hright := handleUart_two (t := { t with lineBuffer := b }) hb hlooked hrest hnext hreply
  rw [handleUart_two ht hlooked hrest hnext hreply, hright] at hreplies
  exact hdiffer (List.append_cancel_right (List.append_cancel_left hreplies))

end UartTemplate

/-! ## Template objects -/

namespace Template

/-- What `__init__` sets and no call changes. -/
def fixed : Template → Template
  | bank t => bank t.fixed
  | script t => script t.fixed
  | uart t => uart t.fixed

/-- What `__init__` makes sure of and every call keeps. -/
def Wf : Template → Prop
  | bank t => t.Wf ∧ 1 ≤ t.pointerWidth
  | script _ => True
  | uart t => 10 ∉ t.lineBuffer

/-- Two objects of one class in states that their class does not tell apart. -/
def Indistinct : Template → Template → Prop
  | bank t, bank u => t.Indistinct u
  | script t, script u => t.Indistinct u
  | uart t, uart u => t.Indistinct u
  | _, _ => False

theorem fixed_call (t : Template) (c : TemplateCall) : (t.call c).1.fixed = t.fixed := by
  cases t with
  | bank t =>
    cases c with
    | i2c ms =>
      rw [call]
      split
      · rename_i r hr
        exact congrArg bank (BankTemplate.fixed_of_handleI2c hr)
      · rfl
    | spi _ | uart _ | uartControl _ _ => rfl
  | script t =>
    cases c with
    | spi xs => exact congrArg script (t.fixed_of_transferAll xs)
    | i2c _ | uart _ | uartControl _ _ => rfl
  | uart t => cases c <;> rfl

theorem Wf.call {t : Template} (h : t.Wf) (c : TemplateCall) : (t.call c).1.Wf := by
  cases t with
  | bank t =>
    cases c with
    | i2c ms =>
      obtain ⟨t', bs, hms, hwf, -, -⟩ := h.1.handleI2c ms
      rw [Template.call, hms]
      refine ⟨hwf, ?_⟩
      rw [BankTemplate.pointerWidth_of_fixed (BankTemplate.fixed_of_handleI2c hms).symm]
      exact h.2
    | spi _ | uart _ | uartControl _ _ => exact h
  | script t => cases c <;> trivial
  | uart t =>
    cases c with
    | uart data => exact UartTemplate.notMem_lineBuffer h data
    | i2c _ | spi _ | uartControl _ _ => exact h

/-- Two objects of one backend are alike exactly if their states are not told apart. -/
theorem alike_iff {t u : Template} (ht : t.Wf) (hu : u.Wf) (hfixed : t.fixed = u.fixed) :
    Alike callHeld (some t) (some u) ↔ t.Indistinct u := by
  cases t with
  | bank t =>
    cases u with
    | bank u => exact BankTemplate.alike_iff ht.1 hu.1 (bank.inj hfixed) ht.2
    | script _ | uart _ => cases hfixed
  | script t =>
    cases u with
    | script u => exact ScriptTemplate.alike_iff (script.inj hfixed)
    | bank _ | uart _ => cases hfixed
  | uart t =>
    cases u with
    | uart u => exact UartTemplate.alike_iff ht hu (uart.inj hfixed)
    | bank _ | script _ => cases hfixed

end Template

/-! ### Objects as they are built -/

theorem pointerWidth_pos {backend : Entries} {label : Label} {bank : RegisterBank}
    (h : normalizeRegisterBank backend label = .ok bank) : 1 ≤ bank.pointerWidth := by
  unfold normalizeRegisterBank at h
  obtain ⟨size, -, h⟩ := bind_eq_ok.mp h
  obtain ⟨width, hwidth, h⟩ := bind_eq_ok.mp h
  obtain ⟨increment, -, h⟩ := bind_eq_ok.mp h
  obtain ⟨registers, -, h⟩ := bind_eq_ok.mp h
  obtain ⟨clearRaw, -, h⟩ := bind_eq_ok.mp h
  obtain ⟨clear, -, h⟩ := bind_eq_ok.mp h
  obtain ⟨effectsRaw, -, h⟩ := bind_eq_ok.mp h
  obtain ⟨effects, -, h⟩ := bind_eq_ok.mp h
  cases h
  exact (expectHexInt_eq_ok.mp hwidth).2.1

theorem pointerWidth_of_build {bank : RegisterBank} {t : BankTemplate}
    (h : BankTemplate.build bank = some t) : t.pointerWidth = bank.pointerWidth := by
  unfold BankTemplate.build at h
  obtain ⟨_, -, h⟩ := Option.bind_eq_some_iff.mp h
  obtain ⟨_, -, h⟩ := Option.bind_eq_some_iff.mp h
  obtain ⟨_, -, h⟩ := Option.bind_eq_some_iff.mp h
  cases h
  rfl

theorem lineBuffer_of_build {script : UartScript} {t : UartTemplate}
    (h : UartTemplate.build script = some t) : t.lineBuffer = [] := by
  unfold UartTemplate.build at h
  obtain ⟨_, -, h⟩ := Option.bind_eq_some_iff.mp h
  obtain ⟨_, -, h⟩ := Option.bind_eq_some_iff.mp h
  obtain ⟨_, -, h⟩ := Option.bind_eq_some_iff.mp h
  cases h
  rfl

theorem BankTemplate.wf_default : BankTemplate.default.Wf :=
  ⟨by decide, registers_zero 256, by decide, fun _ he => absurd he List.not_mem_nil⟩

/-- The object of a normalised device is built well. -/
theorem Template.wf_of_build {v : Value} {buses : List (Text × Bus)} {label : Label}
    {device : Device} (h : normalizeRuntimeDeviceItem v buses label = .ok device) {t : Template}
    (hbuild : Template.build device.part = some (some t)) : t.Wf := by
  have hbank : ∀ {address : Nat} {bank : RegisterBank} {b : BankTemplate},
      device.part = .i2c address (.template .i2cRegisterBank bank) →
        BankTemplate.build bank = some b → b.Wf ∧ 1 ≤ b.pointerWidth := by
    intro address bank b hpart hb
    obtain ⟨b', hb', hwf, -⟩ := BankTemplate.build_some (fields_of_i2cDevice h hpart)
    rw [hb] at hb'
    cases hb'
    refine ⟨hwf, ?_⟩
    rw [pointerWidth_of_build hb]
    exact bank_of_i2cDevice pointerWidth_pos h hpart
  have huart : ∀ {script : UartScript} {b : UartTemplate}, UartTemplate.build script = some b →
      10 ∉ b.lineBuffer := by
    intro script b hb
    rw [lineBuffer_of_build hb]
    exact List.not_mem_nil
  cases hpart : device.part with
  | i2c address backend =>
    rw [hpart] at hbuild
    cases backend with
    | controller _ => cases hbuild
    | template kind fields =>
      cases kind with
      | i2cRegisterBank =>
        obtain ⟨b, hb, heq⟩ := Option.map_eq_some_iff.mp hbuild
        cases heq
        exact hbank hpart hb
      | spiScript =>
        rw [Template.build] at hbuild
        obtain ⟨b, hb, heq⟩ := Option.map_eq_some_iff.mp hbuild
        cases heq
        trivial
      | uartScript =>
        rw [Template.build] at hbuild
        obtain ⟨b, hb, heq⟩ := Option.map_eq_some_iff.mp hbuild
        cases heq
        exact huart hb
  | spi _ _ backend | uart _ backend =>
    rw [hpart] at hbuild
    cases backend with
    | controller _ => cases hbuild
    | template kind fields =>
      cases kind with
      | i2cRegisterBank =>
        cases hbuild
        -- a bank on another transport is built from the defaults
        exact ⟨BankTemplate.wf_default, le_rfl⟩
      | spiScript =>
        rw [Template.build] at hbuild
        obtain ⟨b, hb, heq⟩ := Option.map_eq_some_iff.mp hbuild
        cases heq
        trivial
      | uartScript =>
        rw [Template.build] at hbuild
        obtain ⟨b, hb, heq⟩ := Option.map_eq_some_iff.mp hbuild
        cases heq
        exact huart hb

end Sensorium.Daemon

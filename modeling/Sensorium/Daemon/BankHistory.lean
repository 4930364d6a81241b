import Sensorium.Daemon.BankSplits
import Sensorium.Lib.Histories

/-!
# A register bank as a history

What an I2C master sees of a register bank: a pointer, and registers that hold what was assigned to
them last.  A written byte is an assignment, and so are the effects of writing to its register and
the clearing of registers that were read.
-/

namespace Sensorium.Daemon

open Lib Model Kernel

/-- The pointer of a bank, and what was assigned to its registers. -/
structure Chip where
  pointer : Nat
  log : List (Nat × Nat)

namespace BankTemplate

variable (t : BankTemplate)

/-- The registers from a pointer on, around the bank. -/
def span (pointer length : Nat) : List Nat :=
  (List.range length).map fun i => (pointer + i) % t.size

/-- A read clears the registers of `clear_on_read`, after it has read them all. -/
def clears (pointer length : Nat) : List (Nat × Nat) :=
  ((t.span pointer length).filter fun r => r ∈ t.clearOnRead).map fun r => (r, 0)

/-- A written byte, and the effects of its register. -/
def stores (register : Nat) (byte : UInt8) : List (Nat × Nat) :=
  (register, byte.toNat) ::
    ((dictGet t.writeEffects register).getD []).map fun e => (e.1 % t.size, e.2)

def storesFrom (pointer : Nat) : Nat → List UInt8 → List (Nat × Nat)
  | _, [] => []
  | offset, byte :: bytes =>
    t.stores ((pointer + offset) % t.size) byte ++ storesFrom pointer (offset + 1) bytes

/-- The registers of the bank are those it was built with until they are assigned to. -/
def value (c : Chip) (register : Nat) : Nat :=
  valueAfter (fun r => t.registers.getD r 0) c.log register

/-- The bytes that a read gives. -/
def answers (c : Chip) (length : Nat) : List UInt8 :=
  (t.span c.pointer length).map fun r => UInt8.ofNat (t.value c r)

/-- Where the pointer stands after some registers. -/
def advance (pointer length : Nat) : Nat :=
  if t.autoIncrement then (pointer + length) % t.size else pointer

/-- The chip after a message. -/
def message (c : Chip) (m : I2cMsg) : Chip :=
  if m.isRead then
    ⟨t.advance c.pointer m.len.toNat, c.log ++ t.clears c.pointer m.len.toNat⟩
  else if m.buf = [] ∨ m.buf.length < t.pointerWidth then c
  else
    let pointer := bigEndian (m.buf.take t.pointerWidth) % t.size
    let payload := m.buf.drop t.pointerWidth
    ⟨if payload = [] then pointer else t.advance pointer payload.length,
      c.log ++ t.storesFrom pointer 0 payload⟩

/-- The chip after a list of messages, and their buffers. -/
def transfer (c : Chip) : List I2cMsg → Chip × List (List UInt8)
  | [] => (c, [])
  | m :: ms =>
    let rest := transfer (t.message c m) ms
    (rest.1, (if m.isRead then t.answers c m.len.toNat else m.buf) :: rest.2)

theorem transfer_fst (c : Chip) (ms : List I2cMsg) :
    (t.transfer c ms).1 = ms.foldl t.message c := by
  induction ms generalizing c with
  | nil => rfl
  | cons m ms ih => exact ih (t.message c m)

/-! ## The bank holds the last assignments -/

/-- The bank `t₀` in a state that looks like `c`. -/
structure Shows (t₀ t : BankTemplate) (c : Chip) : Prop where
  state : StateOf t₀ t
  pointer : t.pointer = c.pointer
  registers : t.registers = (List.range t₀.size).map (t₀.value c)

variable {t₀ t} {c : Chip}

theorem Shows.start (h : t₀.Wf) : Shows t₀ t₀ ⟨t₀.pointer, []⟩ where
  state := h.stateOf
  pointer := rfl
  registers := by
    apply List.ext_getElem
    · rw [List.length_map, List.length_range, h.registers.length]
    · intro i hi hi'
      rw [List.getElem_map, List.getElem_range]
      show _ = t₀.registers.getD i 0
      rw [List.getD_eq_getElem?_getD, List.getElem?_eq_getElem hi]
      rfl

theorem setByte_eq {size : Nat} {registers : List Nat} (h : Registers size registers) {i v : Nat}
    (hi : i < size) (hv : v < 256) :
    setByte registers i v = some (registers.set i v) ∧ Registers size (registers.set i v) := by
  obtain ⟨registers', hset, hregisters⟩ := h.setByte hi hv
  have hsome : setByte registers i v = some (registers.set i v) :=
    if_pos ⟨by rw [h.length]; exact hi, hv⟩
  rw [hsome, Option.some.injEq] at hset
  exact ⟨hsome, hset ▸ hregisters⟩

theorem applyEffects_assign {size : Nat} (hsize : 1 ≤ size) {effects : List (Nat × Nat)}
    (heffects : ∀ p ∈ effects, p.2 < 256) {registers : List Nat} (h : Registers size registers) :
    applyEffects size registers effects =
        some (assignAll registers (effects.map fun e => (e.1 % size, e.2))) ∧
      Registers size (assignAll registers (effects.map fun e => (e.1 % size, e.2))) := by
  induction effects generalizing registers with
  | nil => exact ⟨rfl, h⟩
  | cons e es ih =>
    obtain ⟨hset, hregisters⟩ :=
      setByte_eq h (Nat.mod_lt e.1 hsize) (heffects e List.mem_cons_self)
    obtain ⟨hrest, hregisters'⟩ :=
      ih (fun p hp => heffects p (List.mem_cons_of_mem e hp)) hregisters
    refine ⟨?_, hregisters'⟩
    rw [applyEffects, hset]
    exact hrest

theorem Wf.writeBytes_assign (h : t.Wf) (pointer : Nat) (bytes : List UInt8) (offset : Nat)
    {registers : List Nat} (hr : Registers t.size registers) :
    t.writeBytes pointer registers offset bytes =
        some (assignAll registers (t.storesFrom pointer offset bytes)) ∧
      Registers t.size (assignAll registers (t.storesFrom pointer offset bytes)) := by
  induction bytes generalizing offset registers with
  | nil => exact ⟨rfl, hr⟩
  | cons byte bytes ih =>
    obtain ⟨hset, hregisters⟩ :=
      setByte_eq hr (Nat.mod_lt (pointer + offset) h.size_pos) byte.toNat_lt
    obtain ⟨heffects, hregisters'⟩ :=
      applyEffects_assign h.size_pos (h.effects_of ((pointer + offset) % t.size)) hregisters
    obtain ⟨hrest, hregisters''⟩ := ih (offset + 1) hregisters'
    have hsplit : assignAll registers (t.storesFrom pointer offset (byte :: bytes)) =
        assignAll (assignAll (registers.set ((pointer + offset) % t.size) byte.toNat)
          (((dictGet t.writeEffects ((pointer + offset) % t.size)).getD []).map
            fun e => (e.1 % t.size, e.2))) (t.storesFrom pointer (offset + 1) bytes) := by
      rw [storesFrom, stores, assignAll, List.foldl_append]
      rfl
    rw [hsplit]
    refine ⟨?_, hregisters''⟩
    rw [BankTemplate.writeBytes]
    simp only [hset, heffects, bind, Option.bind_some]
    exact hrest

theorem Wf.clearRead_assign (h : t.Wf) (length : Nat) :
    t.clearRead length = some (assignAll t.registers (t.clears t.pointer length)) := by
  have hlist : ∀ (l : List Nat) (registers : List Nat), Registers t.size registers →
      l.foldlM (fun registers i =>
        let register := (t.pointer + i) % t.size
        if register ∈ t.clearOnRead then setByte registers register 0 else some registers)
        registers =
      some (assignAll registers (((l.map fun i => (t.pointer + i) % t.size).filter
        fun r => r ∈ t.clearOnRead).map fun r => (r, 0))) := by
    intro l
    induction l with
    | nil => exact fun registers _ => rfl
    | cons i l ih =>
      intro registers hr
      rw [List.foldlM_cons]
      dsimp only
      rw [List.map_cons]
      split
      · rename_i hclear
        obtain ⟨hset, hregisters⟩ :=
          setByte_eq hr (Nat.mod_lt (t.pointer + i) h.size_pos) (by decide : 0 < 256)
        rw [hset, List.filter_cons_of_pos (by exact decide_eq_true hclear), List.map_cons]
        exact ih _ hregisters
      · rename_i hkeep
        rw [List.filter_cons_of_neg (by exact fun hin => hkeep (of_decide_eq_true hin))]
        exact ih registers hr
  exact hlist (List.range length) t.registers h.registers

/-! ## Messages -/

namespace Shows

theorem wf (h : Shows t₀ t c) (h₀ : t₀.Wf) : t.Wf := h.state.wf h₀

theorem size (h : Shows t₀ t c) : t.size = t₀.size := size_of_fixed h.state.fixed.symm

/-- The registers after further assignments. -/
theorem assign (h : Shows t₀ t c) (log : List (Nat × Nat)) (pointer : Nat) :
    assignAll t.registers log =
      (List.range t₀.size).map (t₀.value ⟨pointer, c.log ++ log⟩) := by
  rw [h.registers, assignAll_map_range]
  apply List.map_congr_left
  intro r _
  exact (congrFun (valueAfter_append _ c.log log) r).symm

/-- What the messages of a chip depend on is not changed by them. -/
theorem clears_eq (h : Shows t₀ t c) : t.clears = t₀.clears := by
  rw [eq_of_fixed h.state.fixed.symm]
  rfl

theorem storesFrom_eq (h : Shows t₀ t c) : t.storesFrom = t₀.storesFrom := by
  have hstores : t.stores = t₀.stores := by
    rw [eq_of_fixed h.state.fixed.symm]
    rfl
  funext pointer offset bytes
  induction bytes generalizing offset with
  | nil => rfl
  | cons byte bytes ih => rw [storesFrom, storesFrom, ih, hstores, h.size]

theorem advance_eq (h : Shows t₀ t c) : t.advance = t₀.advance := by
  rw [eq_of_fixed h.state.fixed.symm]
  rfl

/-- The registers and the pointer after a message. -/
theorem next (h : Shows t₀ t c) {registers : List Nat} {pointer : Nat} (log : List (Nat × Nat))
    (hassign : registers = assignAll t.registers log) (hregisters : Registers t.size registers)
    (hpointer : pointer < t.size) :
    Shows t₀ { t with registers := registers, pointer := pointer } ⟨pointer, c.log ++ log⟩ where
  state := ⟨h.state.fixed, hregisters, hpointer⟩
  pointer := rfl
  registers := hassign.trans (h.assign log pointer)

theorem readBytes (h : Shows t₀ t c) (h₀ : t₀.Wf) (length : Nat) :
    t.readBytes length = some (t₀.answers c length) := by
  rw [(h.wf h₀).readBytes_eq, answers, span, List.map_map]
  congr 1
  apply List.map_congr_left
  intro i _
  have hi : (c.pointer + i) % t₀.size < t₀.size := Nat.mod_lt _ h₀.size_pos
  show UInt8.ofNat (t.registers[(t.pointer + i) % t.size]?.getD 0) = _
  rw [h.registers, h.size, h.pointer, List.getElem?_map, List.getElem?_range hi]
  rfl

theorem readMessage (h : Shows t₀ t c) (h₀ : t₀.Wf) (length : Nat) :
    ∃ t', t.readMessage length = some (t', t₀.answers c length) ∧
      Shows t₀ t' ⟨t₀.advance c.pointer length, c.log ++ t₀.clears c.pointer length⟩ := by
  have hclear := (h.wf h₀).clearRead_assign length
  obtain ⟨registers, hclear', hregisters⟩ := (h.wf h₀).clearRead length
  have hsame : registers = assignAll t.registers (t.clears t.pointer length) :=
    Option.some.inj (hclear'.symm.trans hclear)
  refine ⟨_, ?_, h.next (t₀.clears c.pointer length) ?_ hregisters ?_⟩
  · unfold BankTemplate.readMessage
    rw [h.readBytes h₀, hclear', ← h.advance_eq, ← h.pointer]
    rfl
  · rw [hsame, h.clears_eq, h.pointer]
  · rw [← h.advance_eq, ← h.pointer]
    exact (h.wf h₀).advance_lt h.state.pointer length

theorem message_eq (h : Shows t₀ t c) : t.message = t₀.message := by
  have hwidth : t.pointerWidth = t₀.pointerWidth := pointerWidth_of_fixed h.state.fixed.symm
  funext c m
  unfold BankTemplate.message
  rw [h.advance_eq, h.clears_eq, h.storesFrom_eq, h.size, hwidth]

theorem writeMessage (h : Shows t₀ t c) (h₀ : t₀.Wf) (m : I2cMsg) (hwrite : m.isRead = false) :
    ∃ t', t.writeMessage m.buf = some t' ∧ Shows t₀ t' (t₀.message c m) := by
  have hnot : ¬ m.isRead = true := by
    rw [hwrite]
    exact Bool.false_ne_true
  rw [← h.message_eq]
  unfold BankTemplate.writeMessage BankTemplate.message
  rw [if_neg hnot]
  split
  · rename_i hnil
    rw [if_pos (.inl hnil)]
    exact ⟨t, rfl, h⟩
  · rename_i hsome
    split
    · rename_i hshort
      rw [if_pos (.inr hshort)]
      exact ⟨t, rfl, h⟩
    · rename_i hlong
      rw [if_neg (not_or.mpr ⟨hsome, hlong⟩)]
      dsimp only
      have hpointer : bigEndian (m.buf.take t.pointerWidth) % t.size < t.size :=
        Nat.mod_lt _ (h.wf h₀).size_pos
      generalize bigEndian (m.buf.take t.pointerWidth) % t.size = pointer at hpointer ⊢
      generalize m.buf.drop t.pointerWidth = payload
      split
      · rename_i hempty
        subst hempty
        exact ⟨_, rfl, h.next [] rfl h.state.registers hpointer⟩
      · obtain ⟨hbytes, hregisters⟩ :=
          (h.wf h₀).writeBytes_assign pointer payload 0 h.state.registers
        rw [hbytes]
        exact ⟨_, rfl,
          h.next _ rfl hregisters ((h.wf h₀).advance_lt hpointer payload.length)⟩

theorem handleMessage (h : Shows t₀ t c) (h₀ : t₀.Wf) (m : I2cMsg) :
    ∃ t', t.handleMessage (.ofMsg m) =
        some (t', if m.isRead then t₀.answers c m.len.toNat else []) ∧
      Shows t₀ t' (t₀.message c m) := by
  have hflags := isRead_iff m
  cases hread : m.isRead with
  | true =>
    have hset : (I2cEntry.ofMsg m).flags &&& 1 ≠ 0 := by
      intro hzero
      rw [hflags.mpr hzero] at hread
      cases hread
    obtain ⟨t', hmessage, hshows⟩ := h.readMessage h₀ m.len.toNat
    refine ⟨t', ?_, ?_⟩
    · rw [handleMessage_of_read hset, if_pos rfl]
      exact hmessage
    · rw [message, if_pos hread]
      exact hshows
  | false =>
    have hclear : ¬ (I2cEntry.ofMsg m).flags &&& 1 ≠ 0 := fun hne => hne (hflags.mp hread)
    have hdata : (I2cEntry.ofMsg m).data = m.buf := if_neg (by rw [hread]; decide)
    obtain ⟨t', hmessage, hshows⟩ := h.writeMessage h₀ m hread
    refine ⟨t', ?_, hshows⟩
    rw [handleMessage_of_write hclear, hdata, hmessage]
    rfl

/-- A list of messages: the chip afterwards, and the bytes spread over the buffers. -/
theorem handleI2c (h : Shows t₀ t c) (h₀ : t₀.Wf) (msgs : List I2cMsg) (before : List UInt8) :
    ∃ t' data, t.handleI2c (msgs.map .ofMsg) = some (t', data) ∧ data.length = i2cRxLen msgs ∧
      i2cScatter (before ++ data) before.length msgs = (t₀.transfer c msgs).2 ∧
      Shows t₀ t' (t₀.transfer c msgs).1 := by
  induction msgs generalizing t c before with
  | nil => exact ⟨t, [], rfl, rfl, rfl, h⟩
  | cons m ms ih =>
    obtain ⟨t₁, hmessage, h₁⟩ := h.handleMessage h₀ m
    have hanswers : (t₀.answers c m.len.toNat).length = m.len.toNat := by
      rw [answers, span, List.length_map, List.length_map, List.length_range]
    cases hread : m.isRead with
    | true =>
      rw [hread, if_pos rfl] at hmessage
      obtain ⟨t₂, rest, hrest, hlen, hscatter, h₂⟩ := ih h₁ (before ++ t₀.answers c m.len.toNat)
      refine ⟨t₂, t₀.answers c m.len.toNat ++ rest, ?_, ?_, ?_, h₂⟩
      · rw [List.map_cons, BankTemplate.handleI2c, hmessage]
        simp only [bind, Option.bind_some, hrest]
      · rw [List.length_append, hanswers, hlen, i2cRxLen, if_pos hread]
      · rw [List.length_append, hanswers, List.append_assoc] at hscatter
        rw [i2cScatter, if_pos hread, hscatter, List.drop_left, List.take_left' hanswers, transfer,
          if_pos hread]
    | false =>
      have hnot : ¬ m.isRead = true := by
        rw [hread]
        exact Bool.false_ne_true
      rw [hread, if_neg Bool.false_ne_true] at hmessage
      obtain ⟨t₂, rest, hrest, hlen, hscatter, h₂⟩ := ih h₁ before
      refine ⟨t₂, rest, ?_, ?_, ?_, h₂⟩
      · rw [List.map_cons, BankTemplate.handleI2c, hmessage]
        simp only [bind, Option.bind_some, hrest, List.nil_append]
      · rw [hlen, i2cRxLen, if_neg hnot, Nat.zero_add]
      · rw [i2cScatter, if_neg hnot, hscatter, transfer, if_neg hnot]

end Shows

end BankTemplate

end Sensorium.Daemon

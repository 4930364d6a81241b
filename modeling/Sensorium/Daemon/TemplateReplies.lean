import Sensorium.Daemon.Templates
import Sensorium.Daemon.TransferCodec
import Sensorium.Kernel.TransferReply
import Sensorium.Model.Settle

/-!
# Templates answer what the kernel waits for

The kernel computes the length it expects from the messages, the template the length it returns from
its state.  An invariant of the register bank keeps every access in range; a script cuts or fills
every response to its length.
-/

namespace Sensorium.Daemon

open Lib Model Kernel

/-! ## Register banks -/

/-- The contents of a bank of `size` registers. -/
structure Registers (size : Nat) (registers : List Nat) : Prop where
  length : registers.length = size
  bytes : ∀ r ∈ registers, r < 256

theorem Registers.setByte {size : Nat} {registers : List Nat} (h : Registers size registers)
    {i value : Nat} (hi : i < size) (hv : value < 256) :
    ∃ registers', setByte registers i value = some registers' ∧ Registers size registers' := by
  refine ⟨registers.set i value, if_pos ⟨h.length ▸ hi, hv⟩, ?_, ?_⟩
  · rw [List.length_set, h.length]
  · intro r hr
    rcases List.mem_or_eq_of_mem_set hr with hr | rfl
    · exact h.bytes r hr
    · exact hv

theorem registers_zero (size : Nat) : Registers size (List.replicate size 0) where
  length := List.length_replicate
  bytes := by
    intro r hr
    rw [List.eq_of_mem_replicate hr]
    decide

namespace BankTemplate

/-- What every method of a register bank keeps. -/
structure Wf (t : BankTemplate) : Prop where
  size_pos : 1 ≤ t.size
  registers : Registers t.size t.registers
  pointer : t.pointer < t.size
  effects : ∀ e ∈ t.writeEffects, ∀ p ∈ e.2, p.2 < 256

variable {t : BankTemplate}

theorem Wf.update (h : t.Wf) {registers : List Nat} (hr : Registers t.size registers)
    {pointer : Nat} (hp : pointer < t.size) :
    ({ t with registers := registers, pointer := pointer } : BankTemplate).Wf :=
  ⟨h.size_pos, hr, hp, h.effects⟩

-- The pointer after a transfer of `n` registers.
theorem Wf.advance_lt (h : t.Wf) {pointer : Nat} (hp : pointer < t.size) (n : Nat) :
    (if t.autoIncrement then (pointer + n) % t.size else pointer) < t.size := by
  split
  · exact Nat.mod_lt _ h.size_pos
  · exact hp

theorem Wf.readBytes (h : t.Wf) (length : Nat) :
    ∃ bs, t.readBytes length = some bs ∧ bs.length = length := by
  have hbytes : ∀ i ∈ List.range length, ∃ b, (do
      let value ← t.registers[(t.pointer + i) % t.size]?
      if value < 256 then some (UInt8.ofNat value) else none) = some b ∧ True := by
    intro i _
    have hi : (t.pointer + i) % t.size < t.registers.length := by
      rw [h.registers.length]
      exact Nat.mod_lt _ h.size_pos
    have hbyte := h.registers.bytes _ (List.getElem_mem hi)
    refine ⟨UInt8.ofNat t.registers[(t.pointer + i) % t.size], ?_, trivial⟩
    rw [List.getElem?_eq_getElem hi]
    exact if_pos hbyte
  obtain ⟨bs, hbs, hlen, _⟩ := exists_mapM_eq_some hbytes
  exact ⟨bs, hbs, hlen.trans List.length_range⟩

theorem Wf.clearRead (h : t.Wf) (length : Nat) :
    ∃ registers, t.clearRead length = some registers ∧ Registers t.size registers := by
  have hlist : ∀ (l : List Nat) (registers : List Nat), Registers t.size registers →
      ∃ registers', l.foldlM (fun registers i =>
        let register := (t.pointer + i) % t.size
        if register ∈ t.clearOnRead then setByte registers register 0 else some registers)
        registers = some registers' ∧ Registers t.size registers' := by
    intro l
    induction l with
    | nil => exact fun registers hr => ⟨registers, rfl, hr⟩
    | cons i l ih =>
      intro registers hr
      rw [List.foldlM_cons]
      dsimp only
      split
      · obtain ⟨registers', hset, hr'⟩ :=
          hr.setByte (Nat.mod_lt (t.pointer + i) h.size_pos) (by decide : 0 < 256)
        rw [hset]
        exact ih registers' hr'
      · exact ih registers hr
  exact hlist (List.range length) t.registers h.registers

theorem Wf.readMessage (h : t.Wf) (length : Nat) :
    ∃ t' bs, t.readMessage length = some (t', bs) ∧ t'.Wf ∧ t'.size = t.size ∧
      bs.length = length := by
  obtain ⟨bs, hbs, hlen⟩ := h.readBytes length
  obtain ⟨registers, hclear, hregisters⟩ := h.clearRead length
  have hwf := h.update hregisters (h.advance_lt h.pointer length)
  refine ⟨_, bs, ?_, hwf, rfl, hlen⟩
  rw [BankTemplate.readMessage, hbs, hclear]
  rfl

theorem applyEffects_some {size : Nat} (hsize : 1 ≤ size) {effects : List (Nat × Nat)}
    (heffects : ∀ p ∈ effects, p.2 < 256) {registers : List Nat} (h : Registers size registers) :
    ∃ registers', applyEffects size registers effects = some registers' ∧
      Registers size registers' := by
  induction effects generalizing registers with
  | nil => exact ⟨registers, rfl, h⟩
  | cons e es ih =>
    obtain ⟨registers₁, hset, h₁⟩ :=
      h.setByte (Nat.mod_lt e.1 hsize) (heffects e List.mem_cons_self)
    obtain ⟨registers₂, hrest, h₂⟩ := ih (fun p hp => heffects p (List.mem_cons_of_mem e hp)) h₁
    refine ⟨registers₂, ?_, h₂⟩
    rw [applyEffects, hset]
    exact hrest

theorem Wf.effects_of (h : t.Wf) (register : Nat) :
    ∀ p ∈ (dictGet t.writeEffects register).getD [], p.2 < 256 := by
  cases hget : dictGet t.writeEffects register with
  | none => exact fun p hp => (nomatch hp)
  | some effects => exact h.effects _ (mem_of_dictGet hget)

theorem Wf.writeBytes (h : t.Wf) (pointer : Nat) (bytes : List UInt8) (offset : Nat)
    {registers : List Nat} (hr : Registers t.size registers) :
    ∃ registers', t.writeBytes pointer registers offset bytes = some registers' ∧
      Registers t.size registers' := by
  induction bytes generalizing offset registers with
  | nil => exact ⟨registers, rfl, hr⟩
  | cons byte bytes ih =>
    obtain ⟨registers₁, hset, h₁⟩ :=
      hr.setByte (Nat.mod_lt (pointer + offset) h.size_pos) byte.toNat_lt
    obtain ⟨registers₂, heffects, h₂⟩ := applyEffects_some h.size_pos
      (h.effects_of ((pointer + offset) % t.size)) h₁
    obtain ⟨registers₃, hrest, h₃⟩ := ih (offset + 1) h₂
    refine ⟨registers₃, ?_, h₃⟩
    simp only [BankTemplate.writeBytes, hset, heffects, bind, Option.bind, hrest]

theorem Wf.writeMessage (h : t.Wf) (data : List UInt8) :
    ∃ t', t.writeMessage data = some t' ∧ t'.Wf ∧ t'.size = t.size := by
  unfold BankTemplate.writeMessage
  split
  · exact ⟨t, rfl, h, rfl⟩
  · split
    · exact ⟨t, rfl, h, rfl⟩
    · have hpointer : bigEndian (data.take t.pointerWidth) % t.size < t.size :=
        Nat.mod_lt _ h.size_pos
      dsimp only
      split
      · exact ⟨_, rfl, { h with pointer := hpointer }, rfl⟩
      · obtain ⟨registers, hwrite, hregisters⟩ := h.writeBytes
          (bigEndian (data.take t.pointerWidth) % t.size) (data.drop t.pointerWidth) 0 h.registers
        have hwf := h.update hregisters (h.advance_lt hpointer (data.drop t.pointerWidth).length)
        exact ⟨_, by rw [hwrite]; rfl, hwf, rfl⟩

/-- The bytes that a list of messages reads. -/
def readLength : List I2cEntry → Nat
  | [] => 0
  | m :: ms => (if m.flags &&& 1 ≠ 0 then m.len else 0) + readLength ms

theorem Wf.handleMessage (h : t.Wf) (m : I2cEntry) :
    ∃ t' bs, t.handleMessage m = some (t', bs) ∧ t'.Wf ∧ t'.size = t.size ∧
      bs.length = if m.flags &&& 1 ≠ 0 then m.len else 0 := by
  unfold BankTemplate.handleMessage
  split
  · rename_i hread
    simpa only [if_pos hread] using h.readMessage m.len
  · obtain ⟨t', hwrite, hwf, hsize⟩ := h.writeMessage m.data
    exact ⟨t', [], by rw [hwrite]; rfl, hwf, hsize, rfl⟩

/-- Any list of messages is handled, and the reply has the length of its reads. -/
theorem Wf.handleI2c (h : t.Wf) (ms : List I2cEntry) :
    ∃ t' bs, t.handleI2c ms = some (t', bs) ∧ t'.Wf ∧ t'.size = t.size ∧
      bs.length = readLength ms := by
  induction ms generalizing t with
  | nil => exact ⟨t, [], rfl, h, rfl, rfl⟩
  | cons m ms ih =>
    obtain ⟨t₁, bs, hm, hwf₁, hsize₁, hlen⟩ := h.handleMessage m
    obtain ⟨t₂, rest, hms, hwf₂, hsize₂, hrest⟩ := ih hwf₁
    refine ⟨t₂, bs ++ rest, ?_, hwf₂, hsize₂.trans hsize₁, ?_⟩
    · simp only [BankTemplate.handleI2c, hm, hms, bind, Option.bind]
    · rw [List.length_append, hlen, hrest, readLength]

/-! ### Building a bank -/

theorem registerNumber_hexWord (width n : Nat) : registerNumber (hexWord width n) = some n := by
  simp only [registerNumber, intLiteral?_hexWord]

/-- A table of register values below `size`. -/
def Table (size : Nat) (table : List (Text × Nat)) : Prop :=
  ∀ p ∈ table, ∃ width n, p.1 = hexWord width n ∧ n < size ∧ p.2 < 256

theorem table_of_normalizeI2cRegisters {v : Value} {maximum : Nat} {table : List (Text × Nat)}
    (h : normalizeI2cRegisters v maximum = .ok table) : Table (maximum + 1) table := by
  unfold normalizeI2cRegisters at h
  obtain ⟨es, _, h⟩ := bind_eq_ok.mp h
  intro p hp
  obtain ⟨e, _, he⟩ := (mem_of_collect h hp).resolve_left (by simp)
  obtain ⟨reg, hreg, he⟩ := bind_eq_ok.mp he
  obtain ⟨byte, hbyte, he⟩ := bind_eq_ok.mp he
  cases he
  have hmax := (expectHexInt_eq_ok.mp hreg).2.2 maximum rfl
  have hff := (expectHexInt_eq_ok.mp hbyte).2.2 0xff rfl
  exact ⟨_, reg, rfl, Nat.lt_succ_of_le hmax, Nat.lt_succ_of_le hff⟩

/-- What the checks say about the fields of a bank. -/
structure Fields (bank : RegisterBank) : Prop where
  size_pos : 1 ≤ bank.size
  registers : Table bank.size bank.registers
  clear : ∀ key ∈ bank.clearOnRead, ∃ width n, key = hexWord width n
  effects : ∀ e ∈ bank.writeEffects, (∃ width n, e.1 = hexWord width n) ∧ Table bank.size e.2

theorem fields_of_normalizeRegisterBank {backend : Entries} {label : Label} {bank : RegisterBank}
    (h : normalizeRegisterBank backend label = .ok bank) : Fields bank := by
  unfold normalizeRegisterBank at h
  obtain ⟨size, hsize, h⟩ := bind_eq_ok.mp h
  obtain ⟨width, _, h⟩ := bind_eq_ok.mp h
  obtain ⟨increment, _, h⟩ := bind_eq_ok.mp h
  obtain ⟨registers, hregisters, h⟩ := bind_eq_ok.mp h
  obtain ⟨clearRaw, _, h⟩ := bind_eq_ok.mp h
  obtain ⟨clear, hclear, h⟩ := bind_eq_ok.mp h
  obtain ⟨effectsRaw, _, h⟩ := bind_eq_ok.mp h
  obtain ⟨effects, heffects, h⟩ := bind_eq_ok.mp h
  cases h
  have hpos := (expectHexInt_eq_ok.mp hsize).2.1
  have hsucc : size - 1 + 1 = size := by omega
  refine ⟨hpos, ?_, ?_, ?_⟩
  · exact hsucc ▸ table_of_normalizeI2cRegisters hregisters
  · intro key hkey
    rw [List.mem_insertionSort, List.mem_dedup] at hkey
    obtain ⟨item, _, hitem⟩ := mem_of_mapM_eq_ok hclear hkey
    obtain ⟨reg, _, hitem⟩ := bind_eq_ok.mp hitem
    cases hitem
    exact ⟨_, reg, rfl⟩
  · intro e he
    obtain ⟨raw, _, hraw⟩ := (mem_of_collect heffects he).resolve_left (by simp)
    obtain ⟨reg, _, hraw⟩ := bind_eq_ok.mp hraw
    obtain ⟨table, htable, hraw⟩ := bind_eq_ok.mp hraw
    cases hraw
    exact ⟨⟨_, reg, rfl⟩, hsucc ▸ table_of_normalizeI2cRegisters htable⟩

theorem forall_mem_dictOf {κ ν : Type} [DecidableEq κ] {P : κ × ν → Prop} {entries : List (κ × ν)}
    (h : ∀ p ∈ entries, P p) : ∀ p ∈ dictOf entries, P p := by
  have hfold : ∀ (d : List (κ × ν)), (∀ p ∈ d, P p) →
      ∀ p ∈ entries.foldl (fun d p => dictSet d p.1 p.2) d, P p := by
    induction entries with
    | nil => exact fun d hd => hd
    | cons e es ih =>
      intro d hd
      apply ih (fun p hp => h p (List.mem_cons_of_mem e hp))
      intro p hp
      rcases mem_of_mem_dictSet hp with rfl | hp
      · exact h e List.mem_cons_self
      · exact hd p hp
  exact hfold [] fun p hp => (nomatch hp)

theorem effectTable_some {size : Nat} {effects : List (Text × Nat)} (h : Table size effects) :
    ∃ table, effectTable effects = some table ∧ ∀ p ∈ table, p.2 < 256 := by
  have hentries : ∀ p ∈ effects, ∃ q : Nat × Nat,
      ((registerNumber p.1).map fun n => (n, p.2)) = some q ∧ q.2 < 256 := by
    intro p hp
    obtain ⟨width, n, hkey, _, hbyte⟩ := h p hp
    exact ⟨(n, p.2), by rw [hkey, registerNumber_hexWord]; rfl, hbyte⟩
  obtain ⟨entries, hmap, _, hbytes⟩ := exists_mapM_eq_some hentries
  exact ⟨dictOf entries, by rw [effectTable, hmap]; rfl, forall_mem_dictOf hbytes⟩

theorem storeAll_some {size : Nat} {table : List (Text × Nat)} (htable : Table size table)
    {registers : List Nat} (h : Registers size registers) :
    ∃ registers', storeAll registers table = some registers' ∧ Registers size registers' := by
  induction table generalizing registers with
  | nil => exact ⟨registers, rfl, h⟩
  | cons p ps ih =>
    obtain ⟨width, n, hkey, hn, hbyte⟩ := htable p List.mem_cons_self
    obtain ⟨registers₁, hset, h₁⟩ := h.setByte hn hbyte
    obtain ⟨registers₂, hrest, h₂⟩ := ih (fun q hq => htable q (List.mem_cons_of_mem p hq)) h₁
    refine ⟨registers₂, ?_, h₂⟩
    rw [storeAll, hkey, registerNumber_hexWord]
    simp only [bind, Option.bind, hset, hrest]

/-- `__init__` does not raise on a normalised backend. -/
theorem build_some {bank : RegisterBank} (h : Fields bank) :
    ∃ t, build bank = some t ∧ t.Wf ∧ t.size = bank.size := by
  have hnumbers : ∀ key ∈ bank.clearOnRead, ∃ n, registerNumber key = some n ∧ True := by
    intro key hkey
    obtain ⟨width, n, rfl⟩ := h.clear key hkey
    exact ⟨n, registerNumber_hexWord width n, trivial⟩
  have htables : ∀ e ∈ bank.writeEffects, ∃ q : Nat × List (Nat × Nat), (do
      let n ← registerNumber e.1
      let table ← effectTable e.2
      some (n, table)) = some q ∧ ∀ p ∈ q.2, p.2 < 256 := by
    intro e he
    obtain ⟨⟨width, n, hkey⟩, htable⟩ := h.effects e he
    obtain ⟨table, heffects, hbytes⟩ := effectTable_some htable
    refine ⟨(n, table), ?_, hbytes⟩
    rw [hkey, registerNumber_hexWord, heffects]
    rfl
  obtain ⟨clear, hclear, _, _⟩ := exists_mapM_eq_some hnumbers
  obtain ⟨effects, heffects, _, hbytes⟩ := exists_mapM_eq_some htables
  obtain ⟨registers, hstore, hregisters⟩ := storeAll_some h.registers (registers_zero bank.size)
  refine ⟨⟨bank.size, bank.pointerWidth, bank.autoIncrement, registers, 0, clear, dictOf effects⟩,
    ?_, ⟨h.size_pos, hregisters, h.size_pos, forall_mem_dictOf hbytes⟩, rfl⟩
  unfold build
  rw [hclear, heffects, hstore]
  rfl

end BankTemplate

/-! ## SPI scripts -/

namespace ScriptTemplate

variable {t : ScriptTemplate}

theorem length_fit (length : Nat) (response : List UInt8) : (fit length response).length = length := by
  unfold fit
  rw [List.length_take, List.length_append, List.length_replicate]
  omega

-- The status that `bytes([status])` takes is a byte.
theorem flashStatus_lt (t : ScriptTemplate) : t.flashStatus < 256 := by
  have hmask : t.flashStatusRegister &&& 0xfc < 2 ^ 8 := Nat.and_lt_two_pow _ (by decide)
  have hwel : (if t.flashWel then (t.flashStatusRegister &&& 0xfc) ||| 0x02
      else t.flashStatusRegister &&& 0xfc) < 2 ^ 8 := by
    split
    · exact Nat.or_lt_two_pow hmask (by decide)
    · exact hmask
  unfold flashStatus
  dsimp only
  split
  · exact Nat.or_lt_two_pow hwel (by decide)
  · exact hwel

theorem flashResponse_some (t : ScriptTemplate) (tx : List UInt8) (opcode : UInt8) (length : Nat) :
    ∃ r, t.flashResponse tx opcode length = some r := by
  unfold flashResponse
  rw [if_pos t.flashStatus_lt]
  split
  · exact ⟨_, rfl⟩
  · split
    · exact ⟨_, rfl⟩
    · split
      · exact ⟨_, rfl⟩
      · split
        · exact ⟨_, rfl⟩
        · split
          · split
            · exact ⟨_, rfl⟩
            · exact ⟨_, rfl⟩
          · exact ⟨_, rfl⟩

theorem handleSpi_some (t : ScriptTemplate) (tx : List UInt8) (length : Nat) :
    ∃ t' bs, t.handleSpi tx length = some (t', bs) ∧ bs.length = length := by
  have hresponse : ∃ r, t.response tx length = some r := by
    unfold response
    split
    · split
      · exact t.flashResponse_some _ _ _
      · exact ⟨_, rfl⟩
    · exact ⟨_, rfl⟩
  obtain ⟨r, hr⟩ := hresponse
  exact ⟨r.1, fit length r.2, by rw [handleSpi, hr]; rfl, length_fit length r.2⟩

/-- The bytes that a list of transfers clocks in. -/
def clockedLength : List SpiEntry → Nat
  | [] => 0
  | x :: xs => x.len + clockedLength xs

/-- Any list of transfers is handled, and the reply has the length of all of them. -/
theorem handleSpiMessage_some (t : ScriptTemplate) {xs : List SpiEntry}
    (hxs : ∀ x ∈ xs, ∃ tx, fromHex? x.tx = some tx) :
    ∃ t' bs, t.handleSpiMessage xs = some (t', bs) ∧ bs.length = clockedLength xs := by
  induction xs generalizing t with
  | nil => exact ⟨t, [], rfl, rfl⟩
  | cons x xs ih =>
    obtain ⟨tx, htx⟩ := hxs x List.mem_cons_self
    obtain ⟨t₁, bs, hx, hlen⟩ := t.handleSpi_some tx x.len
    obtain ⟨t₂, rest, hrest, hlen'⟩ := ih t₁ fun y hy => hxs y (List.mem_cons_of_mem x hy)
    refine ⟨t₂, bs ++ rest, ?_, ?_⟩
    · simp only [handleSpiMessage, htx, hx, hrest, bind, Option.bind]
    · rw [List.length_append, hlen, hlen', clockedLength]

theorem literalPairs_some {table : List (Text × Text)}
    (h : ∀ p ∈ table, Made (fun _ => True) p.1 ∧ Made (fun _ => True) p.2) :
    ∃ pairs, literalPairs table = some pairs := by
  have hpairs : ∀ p ∈ table, ∃ q : List UInt8 × List UInt8, (do
      let tx ← fromHex? p.1
      let rx ← fromHex? p.2
      some (tx, rx)) = some q ∧ True := by
    intro p hp
    obtain ⟨⟨_, _, _, hkey⟩, ⟨_, _, _, hvalue⟩⟩ := h p hp
    obtain ⟨tx, htx⟩ := fromHex?_of_normalizeBytesLiteral hkey
    obtain ⟨rx, hrx⟩ := fromHex?_of_normalizeBytesLiteral hvalue
    exact ⟨(tx, rx), by rw [htx, hrx]; rfl, trivial⟩
  obtain ⟨pairs, hmap, _, _⟩ := exists_mapM_eq_some hpairs
  exact ⟨pairs, hmap⟩

/-- `__init__` does not raise on a normalised backend. -/
theorem build_some {script : SpiScript} (h : script.Literals (Made fun _ => True)) :
    ∃ t, build script = some t := by
  obtain ⟨responses, hresponses⟩ := literalPairs_some h.responses
  obtain ⟨prefixes, hprefixes⟩ := literalPairs_some h.prefixResponses
  obtain ⟨_, _, _, hmade⟩ := h.defaultResponse
  obtain ⟨default, hdefault⟩ := fromHex?_of_normalizeBytesLiteral hmade
  have hflash : ∃ jedecId, fromHex? (script.flash.getD ⟨[], 0, 0⟩).jedecId = some jedecId := by
    cases hf : script.flash with
    | none => exact ⟨[], rfl⟩
    | some f =>
      obtain ⟨_, _, _, hjedec⟩ := h.flash f hf
      exact fromHex?_of_normalizeBytesLiteral hjedec
  obtain ⟨jedecId, hjedecId⟩ := hflash
  unfold build
  rw [hresponses, hprefixes, hdefault]
  simp only [bind, Option.bind, hjedecId]
  exact ⟨_, rfl⟩

end ScriptTemplate

/-! ## Requests -/

/-- A request changes the template's object; the requests are any payloads. -/
def i2cStep (handle : Nat) (device : Device) (t : Template) (payload : List UInt8) :
    Option Template :=
  (serveI2c handle device t payload).map Prod.fst

def spiStep (handle : Nat) (device : Device) (t : Template) (payload : List UInt8) :
    Option Template :=
  (serveSpi handle device t payload).map Prod.fst

theorem applyFaultPost_none {faults : Faults} (h : faults.mode = .none) (status : Int)
    (data : List UInt8) : applyFaultPost faults status data = some (status, data) := by
  unfold applyFaultPost
  rw [if_pos (.inl (by rw [h]; decide))]

theorem applyFaultPre_none {faults : Faults} (h : faults.mode = .none) :
    applyFaultPre faults = none := by
  unfold applyFaultPre
  rw [h]

section I2c

variable {handle : Nat} {device : Device} {t : BankTemplate}

/-- The messages that pass the checks get a reply of the length they read. -/
theorem serveI2c_received (hwf : t.Wf) (hfault : device.faults.mode = .none)
    {payload : List UInt8} {d : Device} {messages : List I2cEntry}
    (h : receiveI2c (fun h => if h = handle then some device else none) payload =
      .ok (d, messages)) :
    ∃ t' data, serveI2c handle device (.bank t) payload = some (.bank t', 0, data) ∧ t'.Wf ∧
      t'.size = t.size ∧ data.length = BankTemplate.readLength messages := by
  obtain ⟨t', data, hhandle, hwf', hsize, hlen⟩ := hwf.handleI2c messages
  refine ⟨t', data, ?_, hwf', hsize, hlen⟩
  unfold serveI2c
  rw [h]
  simp only [hhandle, bind, Option.bind, applyFaultPost_none hfault]

theorem i2cStep_bank (hwf : t.Wf) (hfault : device.faults.mode = .none) {payload : List UInt8}
    {template : Template} (hs : i2cStep handle device (.bank t) payload = some template) :
    ∃ t', template = .bank t' ∧ t'.Wf ∧ t'.size = t.size := by
  unfold i2cStep at hs
  cases hreceive : receiveI2c (fun h => if h = handle then some device else none) payload with
  | error status =>
    have hserve : serveI2c handle device (.bank t) payload = some (.bank t, status, []) := by
      unfold serveI2c
      rw [hreceive]
    rw [hserve] at hs
    cases hs
    exact ⟨t, rfl, hwf, rfl⟩
  | ok received =>
    obtain ⟨t', data, hserve, hwf', hsize, _⟩ := serveI2c_received hwf hfault hreceive
    rw [hserve] at hs
    cases hs
    exact ⟨t', rfl, hwf', hsize⟩

theorem bank_of_reach (hwf : t.Wf) (hfault : device.faults.mode = .none) {template : Template}
    (h : Reach (i2cStep handle device) anyStep (.bank t) template) :
    ∃ t', template = .bank t' ∧ t'.Wf ∧ t'.size = t.size := by
  apply h.invariant (I := fun template => ∃ t', template = .bank t' ∧ t'.Wf ∧ t'.size = t.size)
    ⟨t, rfl, hwf, rfl⟩
  rintro _ payload u ⟨t₁, rfl, hwf₁, hsize₁⟩ _ hs
  obtain ⟨t₂, rfl, hwf₂, hsize₂⟩ := i2cStep_bank hwf₁ hfault hs
  exact ⟨t₂, rfl, hwf₂, hsize₂.trans hsize₁⟩

end I2c

theorem readLength_ofMsg (msgs : List I2cMsg) :
    BankTemplate.readLength (msgs.map I2cEntry.ofMsg) = i2cRxLen msgs := by
  induction msgs with
  | nil => rfl
  | cons m ms ih =>
    have hflags : ((I2cEntry.ofMsg m).flags &&& 1 ≠ 0) ↔ m.isRead = true := by
      rw [← Bool.not_eq_false, isRead_iff]
      rfl
    rw [List.map_cons, BankTemplate.readLength, ih, i2cRxLen]
    congr 1
    exact if_congr hflags rfl rfl

theorem clockedLength_ofTransfer (spi : SpiDevice) (xfers : List SpiTransfer) :
    ScriptTemplate.clockedLength (xfers.map (SpiEntry.ofTransfer spi)) = spiTotalLen xfers := by
  induction xfers with
  | nil => rfl
  | cons x xs ih => rw [List.map_cons, ScriptTemplate.clockedLength, ih, spiTotalLen]; rfl

section Spi

variable {handle : Nat} {device : Device} {t : ScriptTemplate}

-- The hexadecimal form of the data can be read again.
theorem cutTransfers_tx {bits cursor : Nat} {tx : List UInt8} {descs : List SpiDesc}
    {xs : List SpiEntry} (h : cutTransfers bits tx cursor descs = .ok xs) :
    ∀ x ∈ xs, ∃ bs, fromHex? x.tx = some bs := by
  induction descs generalizing cursor xs with
  | nil =>
    cases h
    exact fun x hx => (nomatch hx)
  | cons d ds ih =>
    rw [cutTransfers] at h
    generalize (if d.bitsPerWord ≠ 0 then d.bitsPerWord else bits) = used at h
    split at h
    · cases h
    split at h
    · cases h
    split at h
    · cases h
    split at h
    · cases h
    obtain ⟨rest, hrest, h⟩ := bind_eq_ok.mp h
    cases h
    intro x hx
    rcases List.mem_cons.mp hx with rfl | hx
    · exact ⟨_, fromHex?_toHex _⟩
    · exact ih hrest x hx

theorem receiveSpi_tx {devices : Nat → Option Device} {payload : List UInt8} {d : Device}
    {xs : List SpiEntry} (h : receiveSpi devices payload = .ok (d, xs)) :
    ∀ x ∈ xs, ∃ bs, fromHex? x.tx = some bs := by
  obtain ⟨frame, _, h⟩ := bind_eq_ok.mp h
  split at h
  · cases h
  · split at h
    · cases h
    · obtain ⟨transfers, htransfers, h⟩ := bind_eq_ok.mp h
      split at h
      · cases h
      · cases h
        exact cutTransfers_tx htransfers

theorem serveSpi_received (hfault : device.faults.mode = .none) {payload : List UInt8} {d : Device}
    {xs : List SpiEntry}
    (h : receiveSpi (fun h => if h = handle then some device else none) payload = .ok (d, xs)) :
    ∃ t' data, serveSpi handle device (.script t) payload = some (.script t', 0, data) ∧
      data.length = ScriptTemplate.clockedLength xs := by
  obtain ⟨t', data, hhandle, hlen⟩ := t.handleSpiMessage_some (receiveSpi_tx h)
  refine ⟨t', data, ?_, hlen⟩
  unfold serveSpi
  rw [h]
  simp only [hhandle, bind, Option.bind, applyFaultPost_none hfault]

theorem script_of_reach (hfault : device.faults.mode = .none) {template : Template}
    (h : Reach (spiStep handle device) anyStep (.script t) template) :
    ∃ t', template = .script t' := by
  apply h.invariant (I := fun template => ∃ t', template = .script t') ⟨t, rfl⟩
  rintro _ payload u ⟨t₁, rfl⟩ _ hs
  unfold spiStep at hs
  cases hreceive : receiveSpi (fun h => if h = handle then some device else none) payload with
  | error reject =>
    have hserve : serveSpi handle device (.script t₁) payload =
        some (.script t₁, reject.status, []) := by
      unfold serveSpi
      rw [hreceive]
    rw [hserve] at hs
    cases hs
    exact ⟨t₁, rfl⟩
  | ok received =>
    obtain ⟨t', data, hserve, _⟩ := serveSpi_received (t := t₁) hfault hreceive
    rw [hserve] at hs
    cases hs
    exact ⟨t', rfl⟩

end Spi

/-! ## Both transports -/

-- A reply of the length that the kernel waits for passes its length check.
theorem i2cExecEnd_complete (msgs : List I2cMsg) {data : List UInt8}
    (h : data.length = i2cRxLen msgs) (buf : List UInt8) :
    i2cExecEnd msgs 0 ((Fill.reply ⟨0, data⟩).outcome (i2cRxLen msgs)).2 buf =
      ((msgs.length : Int), i2cScatter buf 0 msgs) := by
  have hlen : (if i2cRxLen msgs ≠ 0 then ((Fill.reply ⟨0, data⟩).outcome (i2cRxLen msgs)).2
      else 0) = i2cRxLen msgs := by
    simp only [Fill.outcome, h, true_and, Nat.min_self]
    split
    · rfl
    · omega
  rw [i2cExecEnd, if_neg (fun hne => hne rfl), if_neg (fun hne => hne hlen)]

theorem spiExecEnd_complete (xfers : List SpiTransfer) {data : List UInt8}
    (h : data.length = spiTotalLen xfers) (buf : List UInt8) :
    (spiExecEnd xfers 0 ((Fill.reply ⟨0, data⟩).outcome (spiTotalLen xfers)).2 buf).1 =
      spiTotalLen xfers := by
  have hlen : (if spiTotalLen xfers ≠ 0 then ((Fill.reply ⟨0, data⟩).outcome (spiTotalLen xfers)).2
      else 0) = spiTotalLen xfers := by
    simp only [Fill.outcome, h, true_and, Nat.min_self]
    split
    · rfl
    · omega
  rw [spiExecEnd, if_neg (fun hne => hne rfl), if_neg (fun hne => hne hlen)]

/-- The checks on an I2C device, for what they say about the fields of its bank. -/
theorem bank_of_i2cDevice {P : RegisterBank → Prop}
    (hP : ∀ {backend : Entries} {label : Label} {bank : RegisterBank},
      normalizeRegisterBank backend label = .ok bank → P bank)
    {v : Value} {buses : List (Text × Bus)} {label : Label} {device : Device}
    (h : normalizeRuntimeDeviceItem v buses label = .ok device) {address : Nat}
    {bank : RegisterBank} (hpart : device.part = .i2c address (.template .i2cRegisterBank bank)) :
    P bank := by
  obtain ⟨item, bus, backend, head, _, _, hz⟩ := normalizeRuntimeDeviceItem_eq_ok.mp h
  have hchecked := hz.part
  rw [hpart] at hchecked
  obtain ⟨_, _, hchecked⟩ := bind_eq_ok.mp hchecked
  obtain ⟨full, hfull, hchecked⟩ := bind_eq_ok.mp hchecked
  have hall := finishBackend_eq_template hfull fun b hb => hP hb
  have hsame := (Prod.mk.inj (Except.ok.inj hchecked)).1
  rw [(Part.i2c.inj hsame).2] at hall
  exact hall

theorem fields_of_i2cDevice {v : Value} {buses : List (Text × Bus)} {label : Label}
    {device : Device} (h : normalizeRuntimeDeviceItem v buses label = .ok device) {address : Nat}
    {bank : RegisterBank} (hpart : device.part = .i2c address (.template .i2cRegisterBank bank)) :
    BankTemplate.Fields bank :=
  bank_of_i2cDevice BankTemplate.fields_of_normalizeRegisterBank h hpart

/-- For a normalised device with the template of its transport and no fault, whatever requests its
object has seen: the object keeps its invariant, and every request of the kernel is answered with
status 0 and the number of bytes that the kernel's own check asks for. -/
theorem template_replies_complete {v : Value} {buses : List (Text × Bus)} {label : Label}
    {device : Device} (hnormal : normalizeRuntimeDeviceItem v buses label = .ok device)
    (hfault : device.faults.mode = .none) (dev : TransferDevice) :
    (∀ address bank, device.part = .i2c address (.template .i2cRegisterBank bank) →
      ∃ t₀, Template.build device.part = some (some (.bank t₀)) ∧
        ∀ template, Reach (i2cStep dev.handle.toNat device) anyStep (.bank t₀) template →
          (∃ t, template = .bank t ∧ t.registers.length = bank.size ∧ t.pointer < bank.size ∧
            ∀ r ∈ t.registers, r < 256) ∧
          ∀ msgs reqMem replyMem payload,
            i2cExecBegin dev msgs reqMem replyMem = .ok payload →
            (∀ m ∈ msgs, m.addr.toNat = address) →
            ∃ template' data,
              serveI2c dev.handle.toNat device template payload = some (template', 0, data) ∧
              data.length = i2cRxLen msgs ∧
              ∀ buf, (i2cExecEnd msgs 0
                ((Fill.reply ⟨0, data⟩).outcome (i2cRxLen msgs)).2 buf).1 = msgs.length) ∧
    ∀ chipSelect name script,
      device.part = .spi chipSelect name (.template .spiScript script) →
      ∃ t₀, Template.build device.part = some (some (.script t₀)) ∧
        ∀ template, Reach (spiStep dev.handle.toNat device) anyStep (.script t₀) template →
          ∀ spi xfers reqMem replyMem payload, 1 ≤ xfers.length → BitsInRange spi xfers →
            spiExecBegin dev spi xfers reqMem replyMem = .ok payload →
            spi.chipSelect.toNat = chipSelect →
            ∃ template' data,
              serveSpi dev.handle.toNat device template payload = some (template', 0, data) ∧
              data.length = spiTotalLen xfers ∧
              ∀ buf, (spiExecEnd xfers 0
                ((Fill.reply ⟨0, data⟩).outcome (spiTotalLen xfers)).2 buf).1 =
                  spiTotalLen xfers := by
  constructor
  · intro address bank hpart
    obtain ⟨t₀, hbuild, hwf, hsize⟩ :=
      BankTemplate.build_some (fields_of_i2cDevice hnormal hpart)
    refine ⟨t₀, by rw [hpart, Template.build, hbuild]; rfl, fun template hreach => ?_⟩
    obtain ⟨t, rfl, hwf', hsize'⟩ := bank_of_reach hwf hfault hreach
    have hbank : t.size = bank.size := hsize'.trans hsize
    refine ⟨⟨t, rfl, ?_, ?_, hwf'.registers.bytes⟩, ?_⟩
    · rw [hwf'.registers.length, hbank]
    · rw [← hbank]
      exact hwf'.pointer
    · intro msgs reqMem replyMem payload hbegin haddr
      have hreceive := (receiveI2c_begin hbegin).2
        (fun h => if h = dev.handle.toNat then some device else none) device (if_pos rfl) (by
          intro m hm
          rw [deviceAddress, hpart, haddr m hm])
      rw [applyFaultPre_none hfault] at hreceive
      obtain ⟨t', data, hserve, _, _, hlen⟩ := serveI2c_received hwf' hfault hreceive
      rw [readLength_ofMsg] at hlen
      exact ⟨_, data, hserve, hlen, fun buf => by rw [i2cExecEnd_complete msgs hlen]⟩
  · intro chipSelect name script hpart
    have hliterals := (made_of_normalizeRuntimeDeviceItem hnormal).part
    rw [hpart] at hliterals
    obtain ⟨t₀, hbuild⟩ := ScriptTemplate.build_some hliterals
    refine ⟨t₀, by rw [hpart, Template.build, hbuild]; rfl, fun template hreach => ?_⟩
    obtain ⟨t, rfl⟩ := script_of_reach hfault hreach
    intro spi xfers reqMem replyMem payload hpos hbits hbegin hchip
    have hreceive := receiveSpi_begin hpos hbits hbegin
      (fun h => if h = dev.handle.toNat then some device else none) device (if_pos rfl)
      (by rw [deviceChipSelect, hpart, hchip])
    rw [applyFaultPre_none hfault] at hreceive
    obtain ⟨t', data, hserve, hlen⟩ := serveSpi_received (t := t) hfault hreceive
    rw [clockedLength_ofTransfer] at hlen
    exact ⟨_, data, hserve, hlen, spiExecEnd_complete xfers hlen⟩

def busTable : List (Text × Bus) :=
  [(text "b0", ⟨text "b0", .i2c, text "i2c-7", []⟩), (text "s0", ⟨text "s0", .spi, text "spi0", []⟩)]

/-- A bank of 32 registers at the address of `pointerThenRead`. -/
def eepromItem : Value :=
  .dict [(.lit "id", .lit "eeprom"), (.lit "bus", .lit "b0"), (.lit "transport", .lit "i2c"),
    (.lit "address", .int 0x50), (.lit "backend", .dict [(.lit "kind", .lit "template"),
      (.lit "template", .lit "i2c-register-bank"), (.lit "size", .int 32)])]

def eeprom : Device :=
  ⟨text "eeprom", text "b0", .i2c 0x50 (.template .i2cRegisterBank ⟨32, 1, true, [], [], []⟩), [],
    plainFaults, []⟩

/-- A flash at the chip select of `commandThenAnswer`. -/
def flashItem : Value :=
  .dict [(.lit "id", .lit "flash"), (.lit "bus", .lit "s0"), (.lit "transport", .lit "spi"),
    (.lit "chip_select", .int 1), (.lit "backend", .dict [(.lit "kind", .lit "template"),
      (.lit "template", .lit "spi-script"), (.lit "flash_jedec_id", .lit "ef4018")])]

def flashScript : SpiScript := ⟨[], [], [], false, some ⟨text "ef4018", 0, 0⟩⟩

def flash : Device :=
  ⟨text "flash", text "s0", .spi 1 (text "spidev0.1") (.template .spiScript flashScript), [],
    plainFaults, [(.lit "mode", .int 0), (.lit "bits_per_word", .int 8),
      (.lit "max_speed_hz", .int 500000)]⟩

theorem template_replies_eeprom_flash :
    (∃ t₀, Template.build eeprom.part = some (some (.bank t₀)) ∧
      ∀ template, Reach (i2cStep 1024 eeprom) anyStep (.bank t₀) template →
        ∃ template' data, serveI2c 1024 eeprom template (i2cPayload ⟨1024, 1⟩ pointerThenRead) =
          some (template', 0, data) ∧ data.length = 2) ∧
    ∃ t₀, Template.build flash.part = some (some (.script t₀)) ∧
      ∀ template, Reach (spiStep 1024 flash) anyStep (.script t₀) template →
        ∃ template' data, serveSpi 1024 flash template
          (spiPayload ⟨1024, 1⟩ ⟨0, 500000, 8, 1⟩ commandThenAnswer) =
            some (template', 0, data) ∧ data.length = 3 := by
  have heeprom : normalizeRuntimeDeviceItem eepromItem busTable [] = .ok eeprom := rfl
  have hflash : normalizeRuntimeDeviceItem flashItem busTable [] = .ok flash := rfl
  constructor
  · obtain ⟨t₀, hbuild, hrun⟩ :=
      (template_replies_complete heeprom rfl ⟨1024, 1⟩).1 _ _ rfl
    refine ⟨t₀, hbuild, fun template hreach => ?_⟩
    obtain ⟨template', data, hserve, hlen, _⟩ :=
      (hrun template hreach).2 pointerThenRead true true _ rfl (by decide)
    exact ⟨template', data, hserve, hlen⟩
  · have hbits : BitsInRange ⟨0, 500000, 8, 1⟩ commandThenAnswer := by
      unfold BitsInRange
      decide
    obtain ⟨t₀, hbuild, hrun⟩ :=
      (template_replies_complete hflash rfl ⟨1024, 1⟩).2 _ _ _ rfl
    refine ⟨t₀, hbuild, fun template hreach => ?_⟩
    obtain ⟨template', data, hserve, hlen, _⟩ :=
      hrun template hreach _ commandThenAnswer true true _ (by decide) hbits rfl rfl
    exact ⟨template', data, hserve, hlen⟩

end Sensorium.Daemon

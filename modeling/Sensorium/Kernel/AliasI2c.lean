import Sensorium.Kernel.Transfer

/-!
# The I2C alias

`sensorium-transport-alias-i2c.c`: a bank of 256 registers behind one address, without the daemon.
A message reads or writes byte by byte with an index that wraps.
-/

namespace Sensorium.Kernel

open Lib

def eNxIo : Int := -6

/-- `enum sensorium_fault_mode`. -/
inductive FaultMode
  | none
  | staleData
  | timeout
  deriving DecidableEq, Repr

/-- The fields of `struct sensorium_i2c_alias` behind the adapter, and its device's fault mode. -/
structure I2cAlias where
  faultMode : FaultMode
  addr : UInt16
  regPtr : UInt8
  registers : Vector UInt8 256
  deriving DecidableEq

/-- `flags & I2C_M_TEN`. -/
def I2cMsg.isTen (m : I2cMsg) : Bool := m.flags &&& 0x10 ≠ 0

/-- `registers[reg]`. -/
def registerAt (registers : Vector UInt8 256) (reg : UInt8) : UInt8 :=
  have hlt : reg.toNat < 256 := reg.toNat_lt
  registers[reg.toNat]

/-- `registers[reg] = value`. -/
def setRegister (registers : Vector UInt8 256) (reg value : UInt8) : Vector UInt8 256 :=
  registers.set reg.toNat value reg.toNat_lt

/-- The loop of a read, and its index after it. -/
def readLoop (registers : Vector UInt8 256) : UInt8 → Nat → List UInt8 × UInt8
  | reg, 0 => ([], reg)
  | reg, n + 1 =>
    let (bytes, last) := readLoop registers (reg + 1) n
    (registerAt registers reg :: bytes, last)

/-- The loop of a write. -/
def writeLoop : Vector UInt8 256 → UInt8 → List UInt8 → Vector UInt8 256 × UInt8
  | registers, reg, [] => (registers, reg)
  | registers, reg, byte :: bytes => writeLoop (setRegister registers reg byte) (reg + 1) bytes

namespace I2cAlias

variable (a : I2cAlias)

/-- `sensorium_i2c_check_addr`. -/
def checkAddr (addr : UInt16) (tenbit : Bool) : Int :=
  if tenbit then eOpNotSupp else if addr ≠ a.addr then eNxIo else 0

/-- The body of the loop after the check of the address: the alias and the message's buffer. -/
def transferOne (m : I2cMsg) : I2cAlias × List UInt8 :=
  if m.isRead then
    let (bytes, reg) := readLoop a.registers a.regPtr m.len.toNat
    ({ a with regPtr := reg }, bytes)
  else
    match m.buf with
    | [] => (a, [])
    | [reg] => ({ a with regPtr := reg }, [reg])
    | reg :: bytes =>
      let (registers, last) := writeLoop a.registers reg bytes
      ({ a with registers := registers, regPtr := last }, reg :: bytes)

/-- The loop over the messages; `ret` is its variable of that name. -/
def xferLoop (a : I2cAlias) (ret : Int) : List I2cMsg → I2cAlias × Int × List (List UInt8)
  | [] => (a, ret, [])
  | m :: ms =>
    let ret := a.checkAddr m.addr m.isTen
    if ret ≠ 0 then (a, ret, (m :: ms).map (·.buf))
    else
      let (a, buf) := a.transferOne m
      let (a, ret, bufs) := xferLoop a ret ms
      (a, ret, buf :: bufs)

/-- `sensorium_i2c_master_xfer`: the alias after it, the value returned and the buffers. -/
def masterXfer (msgs : List I2cMsg) : I2cAlias × Int × List (List UInt8) :=
  if a.faultMode = .timeout then (a, eTimedOut, msgs.map (·.buf))
  else a.xferLoop msgs.length msgs

end I2cAlias

/-- An alias at 0x50 whose registers are 0. -/
def blankAlias : I2cAlias := ⟨.none, 0x50, 0, Vector.replicate 256 0⟩

/-! ## The loops -/

/-- An index of the bank wraps. -/
theorem toNat_add_ofNat (reg : UInt8) (i : Nat) :
    (reg + UInt8.ofNat i).toNat = (reg.toNat + i) % 256 := by
  rw [UInt8.toNat_add, UInt8.toNat_ofNat', Nat.add_mod_mod]

theorem add_ofNat_zero (reg : UInt8) : reg + UInt8.ofNat 0 = reg := by
  have := reg.toNat_lt
  apply UInt8.toNat_inj.mp
  rw [toNat_add_ofNat]
  omega

theorem add_ofNat_succ (reg : UInt8) (i : Nat) :
    reg + 1 + UInt8.ofNat i = reg + UInt8.ofNat (i + 1) := by
  apply UInt8.toNat_inj.mp
  rw [toNat_add_ofNat, toNat_add_ofNat, show (1 : UInt8) = UInt8.ofNat 1 from rfl, toNat_add_ofNat]
  omega

theorem readLoop_eq (registers : Vector UInt8 256) (reg : UInt8) (n : Nat) :
    readLoop registers reg n =
      ((List.range n).map fun i => registerAt registers (reg + UInt8.ofNat i),
        reg + UInt8.ofNat n) := by
  induction n generalizing reg with
  | zero =>
    rw [add_ofNat_zero]
    rfl
  | succ n ih =>
    have htail : ∀ i ∈ List.range n, registerAt registers (reg + 1 + UInt8.ofNat i) =
        registerAt registers (reg + UInt8.ofNat (i + 1)) := by
      intro i _
      rw [add_ofNat_succ]
    rw [readLoop, ih, List.map_congr_left htail, add_ofNat_succ, List.range_succ_eq_map,
      List.map_cons, List.map_map, add_ofNat_zero]
    rfl

theorem writeLoop_last (registers : Vector UInt8 256) (reg : UInt8) (bytes : List UInt8) :
    (writeLoop registers reg bytes).2 = reg + UInt8.ofNat bytes.length := by
  induction bytes generalizing registers reg with
  | nil => exact (congrArg Prod.snd (readLoop_eq registers reg 0))
  | cons byte bytes ih => rw [writeLoop, ih, add_ofNat_succ, List.length_cons]

/-- A write that does not wrap. -/
theorem writeLoop_get {registers : Vector UInt8 256} {reg : UInt8} {bytes : List UInt8}
    (hend : reg.toNat + bytes.length ≤ 256) {i : Nat} (hi : i < 256) :
    (writeLoop registers reg bytes).1[i] =
      if reg.toNat ≤ i then (bytes[i - reg.toNat]?).getD registers[i] else registers[i] := by
  induction bytes generalizing registers reg with
  | nil => simp [writeLoop]
  | cons byte bytes ih =>
    rw [writeLoop]
    rw [List.length_cons] at hend
    by_cases hlast : bytes = []
    · subst hlast
      simp only [writeLoop, setRegister, Vector.getElem_set]
      by_cases hreg : reg.toNat = i
      · subst hreg
        simp
      · rw [if_neg hreg]
        by_cases hle : reg.toNat ≤ i
        · rw [if_pos hle, List.getElem?_eq_none (by simp; omega), Option.getD_none]
        · rw [if_neg hle]
    · have hpos := List.length_pos_iff.mpr hlast
      have hnext : (reg + 1).toNat = reg.toNat + 1 := by
        rw [UInt8.toNat_add, UInt8.toNat_one]
        omega
      rw [ih (by omega), hnext]
      simp only [setRegister, Vector.getElem_set]
      by_cases hreg : reg.toNat = i
      · subst hreg
        simp
      · rw [if_neg hreg]
        by_cases hle : reg.toNat ≤ i
        · rw [if_pos (by omega), if_pos hle, show i - reg.toNat = i - (reg.toNat + 1) + 1 by omega,
            List.getElem?_cons_succ]
        · rw [if_neg (by omega), if_neg hle]

/-! ## Message lists -/

namespace I2cAlias

/-- Why the alias does not look at a message for `addr`; 0 if it does. -/
def refused (a : I2cAlias) (addr : UInt16) (tenbit : Bool) : Int :=
  if a.faultMode = .timeout then eTimedOut else a.checkAddr addr tenbit

/-- The messages one after the other. -/
def transferAll (a : I2cAlias) : List I2cMsg → I2cAlias × List (List UInt8)
  | [] => (a, [])
  | m :: ms =>
    let (a, buf) := a.transferOne m
    let (a, bufs) := transferAll a ms
    (a, buf :: bufs)

variable {a : I2cAlias}

theorem checkAddr_nonpos (addr : UInt16) (tenbit : Bool) : a.checkAddr addr tenbit ≤ 0 := by
  unfold checkAddr
  split_ifs <;> decide

theorem refused_neg {addr : UInt16} {tenbit : Bool} (h : a.refused addr tenbit ≠ 0) :
    a.refused addr tenbit < 0 := by
  unfold refused checkAddr at *
  split_ifs at * <;> first | decide | omega

/-- A message changes neither the address nor the fault mode. -/
theorem refused_transferOne (m : I2cMsg) (addr : UInt16) (tenbit : Bool) :
    (a.transferOne m).1.refused addr tenbit = a.refused addr tenbit := by
  unfold transferOne
  split
  · rfl
  · split <;> rfl

theorem refused_eq_zero {addr : UInt16} {tenbit : Bool} (h : a.refused addr tenbit = 0) :
    a.faultMode ≠ .timeout ∧ a.checkAddr addr tenbit = 0 := by
  unfold refused at h
  split at h
  · cases h
  · exact ⟨‹_›, h⟩

theorem xferLoop_eq {ret : Int} {msgs : List I2cMsg}
    (h : ∀ m ∈ msgs, a.refused m.addr m.isTen = 0) :
    a.xferLoop ret msgs =
      ((a.transferAll msgs).1, if msgs = [] then ret else 0, (a.transferAll msgs).2) := by
  induction msgs generalizing a ret with
  | nil => rfl
  | cons m ms ih =>
    have hcheck := (refused_eq_zero (h m List.mem_cons_self)).2
    have hrest : ∀ m' ∈ ms, (a.transferOne m).1.refused m'.addr m'.isTen = 0 := by
      intro m' hm'
      rw [refused_transferOne]
      exact h m' (List.mem_cons_of_mem m hm')
    rw [xferLoop, hcheck, if_neg (fun hne => hne rfl), if_neg (by simp)]
    show (((a.transferOne m).1.xferLoop 0 ms).1, ((a.transferOne m).1.xferLoop 0 ms).2.1,
      (a.transferOne m).2 :: ((a.transferOne m).1.xferLoop 0 ms).2.2) = _
    rw [ih hrest, ite_self]
    rfl

theorem masterXfer_eq {m : I2cMsg} {ms : List I2cMsg}
    (h : ∀ m' ∈ m :: ms, a.refused m'.addr m'.isTen = 0) :
    a.masterXfer (m :: ms) = ((a.transferAll (m :: ms)).1, 0, (a.transferAll (m :: ms)).2) := by
  have hfault := (refused_eq_zero (h m List.mem_cons_self)).1
  rw [masterXfer, if_neg hfault, xferLoop_eq h, if_neg (by simp)]

/-- The loop leaves no positive value behind: `ret` has become that of the last check. -/
theorem xferLoop_nonpos {ret : Int} (hret : ret ≤ 0) (msgs : List I2cMsg) :
    (a.xferLoop ret msgs).2.1 ≤ 0 := by
  induction msgs generalizing a ret with
  | nil => exact hret
  | cons m ms ih =>
    have hcheck := a.checkAddr_nonpos m.addr m.isTen
    rw [xferLoop]
    dsimp only
    split
    · exact hcheck
    · exact ih hcheck

theorem masterXfer_nonpos (m : I2cMsg) (ms : List I2cMsg) : (a.masterXfer (m :: ms)).2.1 ≤ 0 := by
  unfold masterXfer
  split
  · show eTimedOut ≤ 0
    decide
  · exact xferLoop_nonpos (le_refl 0) (m :: ms)

theorem masterXfer_refused {m : I2cMsg} {ms : List I2cMsg} (h : a.refused m.addr m.isTen ≠ 0) :
    a.masterXfer (m :: ms) = (a, a.refused m.addr m.isTen, (m :: ms).map (·.buf)) := by
  unfold refused at *
  split at h
  · rename_i hfault
    rw [masterXfer, if_pos hfault, if_pos hfault]
  · rename_i hfault
    rw [masterXfer, if_neg hfault, if_neg hfault, xferLoop, if_pos h]

end I2cAlias

end Sensorium.Kernel

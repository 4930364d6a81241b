import Sensorium.Daemon.ReplyOrDesync
import Sensorium.Daemon.TemplateReplies
import Sensorium.EndToEnd.RemoteCalls
import Sensorium.Lib.Histories

/-!
# SPI messages clock a chip

A message of the SPI core goes through the encoder, the request, the script of the daemon, the
reply and the copy into the receive buffers.  What its sender sees is a chip that is clocked by one
transfer after the other.  The flash of a script is such a chip: its status register is read back
in terms of everything that was clocked into it before.
-/

namespace Sensorium.EndToEnd

open Lib Kernel Daemon

/-! ## The chip -/

/-- A transfer clocks its bytes into the chip, zeros if it sends none. -/
def clock (t : ScriptTemplate) (x : SpiTransfer) : Option (ScriptTemplate × List UInt8) :=
  t.handleSpi x.txData x.len.toNat

/-- The chip and the receive buffers after a list of transfers. -/
def clockAll (t : ScriptTemplate) :
    List SpiTransfer → Option (ScriptTemplate × List (Option (List UInt8)))
  | [] => some (t, [])
  | x :: xs => do
    let (t, rx) ← clock t x
    let (t, rest) ← clockAll t xs
    some (t, x.rxBuf.map (fun _ => rx) :: rest)

theorem clockAll_append (t : ScriptTemplate) (xs ys : List SpiTransfer) :
    clockAll t (xs ++ ys) =
      (clockAll t xs).bind fun r => (clockAll r.1 ys).map fun s => (s.1, r.2 ++ s.2) := by
  induction xs generalizing t with
  | nil => simp [clockAll]
  | cons x xs ih =>
    simp only [List.cons_append, clockAll, ih, Option.bind_eq_bind, Option.bind_assoc,
      Option.bind_some]
    apply Option.bind_congr
    intro r _
    apply Option.bind_congr
    intro s _
    cases clockAll s.1 ys <;> rfl

/-- A chip never refuses, and answers as many bytes as it is clocked. -/
theorem clock_some (t : ScriptTemplate) (x : SpiTransfer) :
    ∃ t' rx, clock t x = some (t', rx) ∧ rx.length = x.len.toNat :=
  t.handleSpi_some x.txData x.len.toNat

/-! ## Messages -/

/-- `transfer_one_message` for a device that the daemon answers from a script: the chip afterwards,
what is left in the message, and the receive buffers.  `none` is a handler or a reply that raises. -/
def runtimeMessage (dev : TransferDevice) (spi : SpiDevice) (device : Model.Device)
    (t : ScriptTemplate) (xfers : List SpiTransfer) :
    Option (ScriptTemplate × SpiCompletion × List (Option (List UInt8))) :=
  match spiExecBegin dev spi xfers true true with
  | .error status => some (t, spiCompletion status, xfers.map (·.rxBuf))
  | .ok payload =>
    match serveSpi dev.handle.toNat device (.script t) payload with
    | some (.script t, status, data) => do
      let packed ← packReply status data
      if Bridge.maxPayload < packed.length then none
      else do
        let reply ← replyCommand packed
        let (status, len) := (Fill.reply reply).outcome (spiTotalLen xfers)
        let (ret, bufs) := spiExecEnd xfers status len (reply.data.take (spiTotalLen xfers))
        some (t, spiCompletion ret, bufs)
    | _ => none

/-- A message, what is left in it, and its receive buffers. -/
structure Completed where
  xfers : List SpiTransfer
  completion : SpiCompletion
  bufs : List (Option (List UInt8))

/-- One message after the other. -/
def runtimeMessages (dev : TransferDevice) (spi : SpiDevice) (device : Model.Device)
    (t : ScriptTemplate) : List (List SpiTransfer) → Option (ScriptTemplate × List Completed)
  | [] => some (t, [])
  | xfers :: rest => do
    let (t, completion, bufs) ← runtimeMessage dev spi device t xfers
    let (t, done) ← runtimeMessages dev spi device t rest
    some (t, ⟨xfers, completion, bufs⟩ :: done)

/-- What the entries of a message make the chip answer, one after the other. -/
theorem handleSpiMessage_ofTransfer (t : ScriptTemplate) (spi : SpiDevice)
    (xfers : List SpiTransfer) (before : List UInt8) :
    ∃ t' data, t.handleSpiMessage (xfers.map (SpiEntry.ofTransfer spi)) = some (t', data) ∧
      data.length = spiTotalLen xfers ∧
      clockAll t xfers = some (t', spiScatter (before ++ data) before.length xfers) := by
  induction xfers generalizing t before with
  | nil => exact ⟨t, [], rfl, rfl, rfl⟩
  | cons x xs ih =>
    obtain ⟨t₁, rx, hclock, hlen⟩ := clock_some t x
    obtain ⟨t₂, rest, hrest, hlen', hall⟩ := ih t₁ (before ++ rx)
    have hentry : t.handleSpi (x.txBuf.getD (List.replicate x.len.toNat 0)) x.len.toNat =
        some (t₁, rx) := hclock
    refine ⟨t₂, rx ++ rest, ?_, ?_, ?_⟩
    · simp only [List.map_cons, ScriptTemplate.handleSpiMessage, SpiEntry.ofTransfer,
        fromHex?_toHex, hentry, hrest, bind, Option.bind]
    · rw [List.length_append, hlen, hlen', spiTotalLen]
    · rw [List.append_assoc, List.length_append, hlen] at hall
      simp only [clockAll, hclock, hall, bind, Option.bind, spiScatter, List.drop_left,
        List.take_left' hlen]

/-- A reply as long as the message is spread over the receive buffers. -/
theorem spiExecEnd_scatter (xfers : List SpiTransfer) {data : List UInt8}
    (h : data.length = spiTotalLen xfers) :
    spiExecEnd xfers 0 ((Fill.reply ⟨0, data⟩).outcome (spiTotalLen xfers)).2 data =
      ((spiTotalLen xfers : Int), spiScatter data 0 xfers) := by
  have hlen : (if spiTotalLen xfers ≠ 0 then
      ((Fill.reply ⟨0, data⟩).outcome (spiTotalLen xfers)).2 else 0) = spiTotalLen xfers := by
    simp only [Fill.outcome, h, true_and, Nat.min_self]
    split <;> omega
  rw [spiExecEnd, if_neg (fun hne => hne rfl), if_neg (fun hne => hne hlen)]

/-- A message that the encoder takes clocks the chip. -/
theorem runtimeMessage_eq {dev : TransferDevice} {spi : SpiDevice} {device : Model.Device}
    {xfers : List SpiTransfer} {payload : List UInt8}
    (hchip : deviceChipSelect device = some spi.chipSelect.toNat)
    (hfault : device.faults.mode = .none) (hpos : 1 ≤ xfers.length)
    (hbits : BitsInRange spi xfers) (hbegin : spiExecBegin dev spi xfers true true = .ok payload)
    (t : ScriptTemplate) :
    ∃ t' bufs, runtimeMessage dev spi device t xfers =
        some (t', ⟨0, spiTotalLen xfers⟩, bufs) ∧ clockAll t xfers = some (t', bufs) := by
  obtain ⟨t', data, hhandle, hlen, hall⟩ := handleSpiMessage_ofTransfer t spi xfers []
  rw [List.nil_append, List.length_nil] at hall
  refine ⟨t', _, ?_, hall⟩
  have hreceive := receiveSpi_begin hpos hbits hbegin
    (fun handle => if handle = dev.handle.toNat then some device else none) device (if_pos rfl)
    hchip
  rw [applyFaultPre_none hfault] at hreceive
  have hserve : serveSpi dev.handle.toNat device (.script t) payload =
      some (.script t', 0, data) := by
    unfold serveSpi
    rw [hreceive]
    simp only [hhandle, bind, Option.bind, applyFaultPost_none hfault]
  have hsize := (spiExecBegin_ok hbegin).2.2.1
  have hmax : Bridge.maxPayload = 4194304 := rfl
  have hpack : packReply 0 data =
      some (le32 ((0 : Int) % 2 ^ 32).toNat ++ le32 data.length ++ data) :=
    if_pos ⟨by decide, by decide, by omega⟩
  have hpacked := Threads.length_packReply hpack
  unfold runtimeMessage
  rw [hbegin]
  dsimp only
  rw [hserve]
  dsimp only
  rw [hpack]
  simp only [bind, Option.bind]
  rw [if_neg (by omega), Linked.replyCommand_packReply hpack]
  dsimp only
  rw [List.take_of_length_le (by omega)]
  show some (t', spiCompletion (spiExecEnd xfers 0 _ data).1, (spiExecEnd xfers 0 _ data).2) = _
  rw [spiExecEnd_scatter xfers hlen, Transfers.spiCompletion_natCast]

/-- The encoder takes the message, and it has a transfer. -/
def carried (dev : TransferDevice) (spi : SpiDevice) (xfers : List SpiTransfer) : Bool :=
  (spiExecBegin dev spi xfers true true).isOk && !xfers.isEmpty

/-- An empty message reaches the daemon, which refuses it. -/
theorem runtimeMessage_nil {dev : TransferDevice} {spi : SpiDevice} {device : Model.Device}
    (t : ScriptTemplate) :
    runtimeMessage dev spi device t [] = some (t, ⟨eOpNotSupp, 0⟩, []) := by
  have hmax : (0 : Nat) ≤ maxSpiXfers := Nat.zero_le _
  have hbegin : spiExecBegin dev spi [] true true = .ok (spiPayload dev spi []) := rfl
  have hhead : SpiHead dev spi [] := spiHead_of_size dev spi hmax (by decide)
  have hserve : serveSpi dev.handle.toNat device (.script t) (spiPayload dev spi []) =
      some (.script t, eOpNotSupp, []) := by
    have hdecode : decodeSpi (spiPayload dev spi []) = .error .transferCount := by
      unfold decodeSpi
      rw [length_spiPayload, if_neg (by decide)]
      dsimp only
      rw [hhead.count, if_pos (.inl rfl)]
    unfold serveSpi receiveSpi
    rw [hdecode]
    rfl
  unfold runtimeMessage
  rw [hbegin]
  dsimp only
  rw [hserve]
  rfl

/-- A message that is not carried leaves the chip and its buffers alone and reports an error. -/
theorem runtimeMessage_refused {dev : TransferDevice} {spi : SpiDevice} (device : Model.Device)
    {xfers : List SpiTransfer} (h : carried dev spi xfers = false) (t : ScriptTemplate) :
    ∃ completion, runtimeMessage dev spi device t xfers =
        some (t, completion, xfers.map (·.rxBuf)) ∧ completion.status < 0 := by
  cases hbegin : spiExecBegin dev spi xfers true true with
  | error status =>
    refine ⟨spiCompletion status, ?_, Transfers.spiCompletion_neg
      (Transfers.spiExecBegin_error hbegin)⟩
    unfold runtimeMessage
    rw [hbegin]
  | ok payload =>
    have hempty : xfers = [] := by
      rw [carried, hbegin, show (Except.ok payload : Except Int _).isOk = true from rfl,
        Bool.true_and, Bool.not_eq_false'] at h
      exact List.isEmpty_iff.mp h
    subst hempty
    exact ⟨_, runtimeMessage_nil t, show eOpNotSupp < 0 by decide⟩

/-- What the SPI core may say about a finished message. -/
structure Completed.Faithful (dev : TransferDevice) (spi : SpiDevice) (c : Completed) : Prop where
  whole : carried dev spi c.xfers = true → c.completion = ⟨0, spiTotalLen c.xfers⟩
  refused : carried dev spi c.xfers = false →
    c.completion.status < 0 ∧ c.bufs = c.xfers.map (·.rxBuf)

/-- However transfers are put together into messages, and whatever messages are refused between
them, the receive buffers and the chip are those of clocking the carried transfers one after the
other; a carried message reports its whole length, a refused one an error. -/
theorem spi_messages_clock_chip {dev : TransferDevice} {spi : SpiDevice} {device : Model.Device}
    (hchip : deviceChipSelect device = some spi.chipSelect.toNat)
    (hfault : device.faults.mode = .none) {msgs : List (List SpiTransfer)}
    (hbits : ∀ m ∈ msgs, BitsInRange spi m) (t : ScriptTemplate) :
    ∃ t' done, runtimeMessages dev spi device t msgs = some (t', done) ∧
      done.map (·.xfers) = msgs ∧ (∀ c ∈ done, c.Faithful dev spi) ∧
      clockAll t (msgs.filter (carried dev spi)).flatten =
        some (t', (done.filter fun c => carried dev spi c.xfers).flatMap (·.bufs)) := by
  induction msgs generalizing t with
  | nil => exact ⟨t, [], rfl, rfl, (fun _ hc => nomatch hc), rfl⟩
  | cons xfers rest ih =>
    have hrest := ih fun m hm => hbits m (List.mem_cons_of_mem _ hm)
    cases hcarried : carried dev spi xfers with
    | true =>
      obtain ⟨payload, hbegin⟩ : ∃ payload, spiExecBegin dev spi xfers true true = .ok payload := by
        cases hbegin : spiExecBegin dev spi xfers true true with
        | ok payload => exact ⟨payload, rfl⟩
        | error status =>
          rw [carried, hbegin] at hcarried
          cases hcarried
      have hpos : 1 ≤ xfers.length := by
        cases xfers with
        | nil => simp [carried] at hcarried
        | cons x xs => exact Nat.le_add_left 1 _
      obtain ⟨t₁, bufs, hmessage, hclock⟩ :=
        runtimeMessage_eq hchip hfault hpos (hbits xfers List.mem_cons_self) hbegin t
      obtain ⟨t₂, done, hdone, hmap, hfaithful, hall⟩ := hrest t₁
      refine ⟨t₂, ⟨xfers, ⟨0, spiTotalLen xfers⟩, bufs⟩ :: done, ?_, ?_, ?_, ?_⟩
      · simp only [runtimeMessages, hmessage, hdone, bind, Option.bind]
      · rw [List.map_cons, hmap]
      · intro c hc
        rcases List.mem_cons.mp hc with rfl | hc
        · refine ⟨fun _ => rfl, fun hrefused => ?_⟩
          exact nomatch hcarried.symm.trans hrefused
        · exact hfaithful c hc
      · rw [List.filter_cons_of_pos hcarried, List.flatten_cons, clockAll_append, hclock,
          List.filter_cons_of_pos (by exact hcarried), List.flatMap_cons]
        simp only [Option.bind_some, hall, Option.map_some]
    | false =>
      obtain ⟨completion, hmessage, hneg⟩ := runtimeMessage_refused device hcarried t
      obtain ⟨t₂, done, hdone, hmap, hfaithful, hall⟩ := hrest t
      have hnot : ¬ carried dev spi xfers = true := by rw [hcarried]; decide
      refine ⟨t₂, ⟨xfers, completion, xfers.map (·.rxBuf)⟩ :: done, ?_, ?_, ?_, ?_⟩
      · simp only [runtimeMessages, hmessage, hdone, bind, Option.bind]
      · rw [List.map_cons, hmap]
      · intro c hc
        rcases List.mem_cons.mp hc with rfl | hc
        · exact ⟨fun hyes => absurd hyes hnot, fun _ => ⟨hneg, rfl⟩⟩
        · exact hfaithful c hc
      · rw [List.filter_cons_of_neg hnot, List.filter_cons_of_neg (by exact hnot)]
        exact hall

/-- A transfer of one or two bytes at the settings of its device. -/
def writeEnable : SpiTransfer :=
  ⟨1, some [0x06], none, 0, 8, false, 1, 1, ⟨0, .usecs⟩, ⟨0, .usecs⟩, fun _ hb => by cases hb; rfl,
    fun _ hb => by cases hb⟩

def writeStatus : SpiTransfer :=
  ⟨2, some [0x01, 0x1c], none, 0, 8, false, 1, 1, ⟨0, .usecs⟩, ⟨0, .usecs⟩,
    fun _ hb => by cases hb; rfl, fun _ hb => by cases hb⟩

def readStatus : SpiTransfer :=
  ⟨2, some [0x05, 0], some [0, 0], 0, 8, false, 1, 1, ⟨0, .usecs⟩, ⟨0, .usecs⟩,
    fun _ hb => by cases hb; rfl, fun _ hb => by cases hb; rfl⟩

/-- A flash that is busy for two status reads after a status write. -/
def busyFlash : ScriptTemplate := ⟨[], [], [], false, [0xef, 0x40, 0x18], 0, 2, false, 0⟩

/-- An empty message between two others. -/
theorem spi_messages_clock_chip_flash :
    ∃ t done, runtimeMessages ⟨1024, 1⟩ ⟨0, 500000, 8, 1⟩ flash busyFlash
        [[writeEnable], [], [writeStatus, readStatus]] = some (t, done) ∧
      clockAll busyFlash [writeEnable, writeStatus, readStatus] =
        some (t, [none, none, some [0x1d, 0x1d]]) ∧
      ∀ c ∈ done, c.Faithful ⟨1024, 1⟩ ⟨0, 500000, 8, 1⟩ := by
  have hbits : ∀ m ∈ [[writeEnable], [], [writeStatus, readStatus]],
      BitsInRange ⟨0, 500000, 8, 1⟩ m := by
    unfold BitsInRange
    decide
  obtain ⟨t, done, hrun, -, hfaithful, hall⟩ :=
    @spi_messages_clock_chip ⟨1024, 1⟩ ⟨0, 500000, 8, 1⟩ flash rfl rfl _ hbits busyFlash
  have hcarried : ([[writeEnable], [], [writeStatus, readStatus]].filter
      (carried ⟨1024, 1⟩ ⟨0, 500000, 8, 1⟩)).flatten = [writeEnable, writeStatus, readStatus] := rfl
  rw [hcarried] at hall
  refine ⟨t, done, hrun, ?_, hfaithful⟩
  have hclock : clockAll busyFlash [writeEnable, writeStatus, readStatus] =
      some ({ busyFlash with flashStatusRegister := 0x1c, flashBusyReadsRemaining := 1 },
        [none, none, some [0x1d, 0x1d]]) := by decide
  rw [hall] at hclock ⊢
  obtain ⟨-, hbufs⟩ := Prod.mk.inj (Option.some.inj hclock)
  rw [hbufs]

/-! ## The flash -/

/-- Write enable, write disable, read status, write status. -/
def Enables (x : SpiTransfer) : Prop := x.txData.head? = some 0x06

def ReadsStatus (x : SpiTransfer) : Prop := x.txData.head? = some 0x05

def WritesStatus (x : SpiTransfer) : Prop := ∃ status rest, x.txData = 0x01 :: status :: rest

def Disables (x : SpiTransfer) : Prop := x.txData.head? = some 0x04 ∨ WritesStatus x

/-- Writes are enabled: no write disable and no status write since a write enable. -/
def Enabled (h : List SpiTransfer) : Prop := Since Enables Disables h

/-- A status write that takes effect. -/
def TakesEffect (h : List SpiTransfer) (x : SpiTransfer) : Prop := Enabled h ∧ WritesStatus x

instance (x : SpiTransfer) : Decidable (ReadsStatus x) := inferInstanceAs (Decidable (_ = _))

def statusReads (h : List SpiTransfer) : Nat := (h.filter fun x => ReadsStatus x).length

/-- What a flash does with a transfer. -/
inductive FlashCase (t : ScriptTemplate) (x : SpiTransfer) : ScriptTemplate → Prop
  | enable (hx : Enables x) : FlashCase t x { t with flashWel := true }
  | disable (hx : x.txData.head? = some 0x04) : FlashCase t x { t with flashWel := false }
  | read (hx : ReadsStatus x) :
    FlashCase t x { t with flashBusyReadsRemaining := t.flashBusyReadsRemaining - 1 }
  | write (status : UInt8) (rest : List UInt8) (hx : x.txData = 0x01 :: status :: rest)
      (hwel : t.flashWel = true) :
    FlashCase t x { t with
      flashStatusRegister := status.toNat &&& 0xfc
      flashWel := false
      flashBusyReadsRemaining := t.flashWriteBusyCycles }
  | other (henable : ¬ Enables x) (hdisable : x.txData.head? ≠ some 0x04)
      (hread : ¬ ReadsStatus x) (hwrite : WritesStatus x → t.flashWel = false) : FlashCase t x t

theorem flashCase_of_clock {t t' : ScriptTemplate} {x : SpiTransfer} {rx : List UInt8}
    (hflash : t.flashJedecId ≠ []) (h : clock t x = some (t', rx)) : FlashCase t x t' := by
  unfold clock ScriptTemplate.handleSpi at h
  obtain ⟨⟨u, raw⟩, hresponse, h⟩ := Option.map_eq_some_iff.mp h
  cases h
  unfold ScriptTemplate.response at hresponse
  cases htx : x.txData with
  | nil =>
    rw [htx] at hresponse
    cases hresponse
    refine .other ?_ ?_ ?_ ?_
    all_goals simp [Enables, ReadsStatus, WritesStatus, htx]
  | cons opcode bytes =>
    rw [htx] at hresponse
    dsimp only at hresponse
    rw [if_pos hflash] at hresponse
    unfold ScriptTemplate.flashResponse at hresponse
    split at hresponse
    · rename_i hop
      cases hresponse
      exact .enable (by rw [Enables, htx, hop]; rfl)
    · rename_i hne6
      split at hresponse
      · rename_i hop
        cases hresponse
        exact .disable (by rw [htx, hop]; rfl)
      · rename_i hne4
        have henable : ¬ Enables x := by
          rw [Enables, htx]
          exact fun hx => hne6 (Option.some.inj hx)
        have hdisable : x.txData.head? ≠ some 0x04 := by
          rw [htx]
          exact fun hx => hne4 (Option.some.inj hx)
        split at hresponse
        · rename_i hop
          rw [if_pos t.flashStatus_lt] at hresponse
          cases hresponse
          exact .read (by rw [ReadsStatus, htx, hop]; rfl)
        · rename_i hne5
          have hread : ¬ ReadsStatus x := by
            rw [ReadsStatus, htx]
            exact fun hx => hne5 (Option.some.inj hx)
          split at hresponse
          · rename_i hop
            cases hresponse
            refine .other henable hdisable hread ?_
            rintro ⟨status, rest, hx⟩
            rw [htx, hop] at hx
            cases hx
          · split at hresponse
            · rename_i hd status rest heq
              cases heq
              split at hresponse
              · rename_i hwrite
                cases hresponse
                exact .write status rest (by rw [htx, hwrite.1]) hwrite.2
              · rename_i hwrite
                cases hresponse
                refine .other henable hdisable hread ?_
                rintro ⟨status', rest', hx⟩
                rw [htx] at hx
                cases hx
                exact Bool.eq_false_iff.mpr fun hwel => hwrite ⟨rfl, hwel⟩
            · rename_i hshort
              cases hresponse
              refine .other henable hdisable hread ?_
              rintro ⟨status, rest, hx⟩
              rw [htx] at hx
              cases hx
              exact absurd rfl (hshort _ _ _)

/-- The flash after the transfers `h`, from a flash that was just built. -/
structure FlashAfter (t₀ : ScriptTemplate) (h : List SpiTransfer) (t : ScriptTemplate) : Prop where
  jedec : t.flashJedecId = t₀.flashJedecId
  cycles : t.flashWriteBusyCycles = t₀.flashWriteBusyCycles
  latch : t.flashWel = true ↔ Enabled h
  written : ∀ w after status rest, LastAt TakesEffect h w after →
    w.txData = 0x01 :: status :: rest →
      t.flashStatusRegister = status.toNat &&& 0xfc ∧
        t.flashBusyReadsRemaining = t₀.flashWriteBusyCycles - statusReads after
  fresh : (∀ w after, ¬ LastAt TakesEffect h w after) →
    t.flashStatusRegister = t₀.flashStatusRegister ∧ t.flashBusyReadsRemaining = 0

theorem enabled_concat {h : List SpiTransfer} {x : SpiTransfer} :
    Enabled (h ++ [x]) ↔ Enables x ∨ Enabled h ∧ ¬ Disables x := since_concat

theorem statusReads_concat (h : List SpiTransfer) (x : SpiTransfer) :
    statusReads (h ++ [x]) = statusReads h + if ReadsStatus x then 1 else 0 := by
  unfold statusReads
  rw [List.filter_append, List.length_append]
  congr 1
  by_cases hx : ReadsStatus x
  · simp [hx]
  · simp [hx]

namespace FlashAfter

variable {t₀ t t' : ScriptTemplate} {h : List SpiTransfer} {x : SpiTransfer}

theorem start (hwel : t₀.flashWel = false) (hbusy : t₀.flashBusyReadsRemaining = 0) :
    FlashAfter t₀ [] t₀ where
  jedec := rfl
  cycles := rfl
  latch := iff_of_false (by rw [hwel]; decide) (not_since_nil _ _)
  written w after _ _ hlast := absurd hlast (not_lastAt_nil _ w after)
  fresh _ := ⟨rfl, hbusy⟩

/-- A transfer that is no status write in effect leaves the register alone; a status read counts
down. -/
theorem keep (ha : FlashAfter t₀ h t) (hx : ¬ TakesEffect h x)
    (hjedec : t'.flashJedecId = t.flashJedecId)
    (hcycles : t'.flashWriteBusyCycles = t.flashWriteBusyCycles)
    (hlatch : t'.flashWel = true ↔ Enabled (h ++ [x]))
    (hregister : t'.flashStatusRegister = t.flashStatusRegister)
    (hbusy : t'.flashBusyReadsRemaining =
      t.flashBusyReadsRemaining - if ReadsStatus x then 1 else 0) :
    FlashAfter t₀ (h ++ [x]) t' where
  jedec := hjedec.trans ha.jedec
  cycles := hcycles.trans ha.cycles
  latch := hlatch
  written w after status rest hlast htx := by
    rcases lastAt_concat.mp hlast with ⟨-, -, htakes⟩ | ⟨before, rfl, hlast, -⟩
    · exact absurd htakes hx
    · obtain ⟨hreg, hleft⟩ := ha.written w before status rest hlast htx
      refine ⟨hregister.trans hreg, ?_⟩
      rw [hbusy, hleft, statusReads_concat, Nat.sub_sub]
  fresh hnone := by
    obtain ⟨hreg, hzero⟩ := ha.fresh fun w after hlast =>
      hnone w (after ++ [x]) (lastAt_concat.mpr (.inr ⟨after, rfl, hlast, hx⟩))
    refine ⟨hregister.trans hreg, ?_⟩
    rw [hbusy, hzero, Nat.zero_sub]

theorem step (ha : FlashAfter t₀ h t) (hcase : FlashCase t x t') :
    FlashAfter t₀ (h ++ [x]) t' := by
  -- a status write is neither a write enable nor a status read
  have hexcl : ∀ {op : UInt8}, x.txData.head? = some op → op ≠ 0x01 → ¬ WritesStatus x := by
    rintro op hop hne ⟨status, rest, hx⟩
    rw [hx] at hop
    exact hne (Option.some.inj hop).symm
  have hother : ∀ {op op' : UInt8}, x.txData.head? = some op → op ≠ op' →
      ¬ x.txData.head? = some op' := fun hop hne hop' =>
    hne (Option.some.inj (hop.symm.trans hop'))
  cases hcase with
  | enable hx =>
    have hwrite := hexcl hx (by decide)
    refine ha.keep (fun htakes => hwrite htakes.2) rfl rfl ?_ rfl ?_
    · exact iff_of_true rfl (enabled_concat.mpr (.inl hx))
    · rw [if_neg (show ¬ ReadsStatus x from hother hx (by decide))]
      rfl
  | disable hx =>
    have hwrite := hexcl hx (by decide)
    refine ha.keep (fun htakes => hwrite htakes.2) rfl rfl ?_ rfl ?_
    · refine iff_of_false Bool.false_ne_true fun henabled => ?_
      rcases enabled_concat.mp henabled with henable | ⟨-, hnot⟩
      · exact hother hx (by decide) henable
      · exact hnot (.inl hx)
    · rw [if_neg (show ¬ ReadsStatus x from hother hx (by decide))]
      rfl
  | read hx =>
    have hwrite := hexcl hx (by decide)
    refine ha.keep (fun htakes => hwrite htakes.2) rfl rfl ?_ rfl ?_
    · have hnot : ¬ Disables x := fun hd => hd.elim (hother hx (by decide)) hwrite
      have hne : ¬ Enables x := hother hx (by decide)
      rw [enabled_concat]
      exact ha.latch.trans ⟨fun hen => .inr ⟨hen, hnot⟩, fun hor => hor.elim (absurd · hne) (·.1)⟩
    · rw [if_pos hx]
  | write status rest hx hwel =>
    have htakes : TakesEffect h x := ⟨ha.latch.mp hwel, status, rest, hx⟩
    refine ⟨ha.jedec, ha.cycles, ?_, ?_, ?_⟩
    · refine iff_of_false Bool.false_ne_true fun henabled => ?_
      rcases enabled_concat.mp henabled with henable | ⟨-, hnot⟩
      · rw [Enables, hx] at henable
        exact absurd (Option.some.inj henable) (by decide)
      · exact hnot (.inr ⟨status, rest, hx⟩)
    · intro w after status' rest' hlast htx
      rcases lastAt_concat.mp hlast with ⟨rfl, rfl, -⟩ | ⟨before, rfl, -, hnot⟩
      · rw [hx] at htx
        cases htx
        exact ⟨rfl, ha.cycles⟩
      · exact absurd htakes hnot
    · intro hnone
      exact absurd (lastAt_concat.mpr (.inl ⟨rfl, rfl, htakes⟩)) (hnone x [])
  | other henable hdisable hread hwrite =>
    have hnot : ¬ TakesEffect h x := fun htakes =>
      absurd (ha.latch.mpr htakes.1) (by rw [hwrite htakes.2]; decide)
    refine ha.keep hnot rfl rfl ?_ rfl ?_
    · rw [enabled_concat]
      constructor
      · intro hwel
        refine .inr ⟨ha.latch.mp hwel, fun hd => hd.elim hdisable fun hws => ?_⟩
        exact absurd hwel (by rw [hwrite hws]; decide)
      · exact fun hor => ha.latch.mpr (hor.elim (absurd · henable) (·.1))
    · rw [if_neg hread]
      rfl

/-- The run: any list of transfers. -/
theorem run (hflash : t₀.flashJedecId ≠ []) (ha : FlashAfter t₀ h t) (xs : List SpiTransfer) :
    ∃ u rxs, clockAll t xs = some (u, rxs) ∧ FlashAfter t₀ (h ++ xs) u := by
  induction xs generalizing h t with
  | nil => exact ⟨t, [], rfl, by rwa [List.append_nil]⟩
  | cons x xs ih =>
    obtain ⟨t₁, rx, hclock, -⟩ := clock_some t x
    have hne : t.flashJedecId ≠ [] := by
      rw [ha.jedec]
      exact hflash
    obtain ⟨u, rxs, hall, hafter⟩ := ih (ha.step (flashCase_of_clock hne hclock))
    refine ⟨u, x.rxBuf.map (fun _ => rx) :: rxs, ?_, ?_⟩
    · simp only [clockAll, hclock, hall, bind, Option.bind]
    · rwa [List.append_assoc, List.singleton_append] at hafter

end FlashAfter

/-- A status read answers with the status in every byte that it clocks. -/
theorem clock_readsStatus {t : ScriptTemplate} {x : SpiTransfer} (hflash : t.flashJedecId ≠ [])
    (hx : ReadsStatus x) :
    ∃ t', clock t x = some (t', List.replicate x.len.toNat (UInt8.ofNat t.flashStatus)) := by
  obtain ⟨bytes, htx⟩ : ∃ bytes, x.txData = 0x05 :: bytes := by
    unfold ReadsStatus at hx
    cases htx : x.txData with
    | nil =>
      rw [htx] at hx
      cases hx
    | cons opcode bytes =>
      rw [htx] at hx
      exact ⟨bytes, by rw [Option.some.inj hx]⟩
  have hpos : 0 < x.len.toNat := by
    rw [← length_spiTxData, htx]
    exact Nat.succ_pos _
  have hfit : ScriptTemplate.fit x.len.toNat
      (List.replicate (max 1 x.len.toNat) (UInt8.ofNat t.flashStatus)) =
        List.replicate x.len.toNat (UInt8.ofNat t.flashStatus) := by
    unfold ScriptTemplate.fit
    rw [Nat.max_eq_right hpos, List.length_replicate, Nat.sub_self, List.replicate_zero,
      List.append_nil, List.take_of_length_le (by rw [List.length_replicate])]
  refine ⟨{ t with flashBusyReadsRemaining := t.flashBusyReadsRemaining - 1 }, ?_⟩
  unfold clock ScriptTemplate.handleSpi ScriptTemplate.response
  rw [htx]
  dsimp only
  rw [if_pos hflash]
  unfold ScriptTemplate.flashResponse
  rw [if_neg (by decide), if_neg (by decide), if_pos rfl, if_pos t.flashStatus_lt]
  show some (_, ScriptTemplate.fit _ _) = _
  rw [hfit]

/-- The bits of the status. -/
theorem testBit_flashStatus (t : ScriptTemplate) :
    t.flashStatus.testBit 0 = decide (0 < t.flashBusyReadsRemaining) ∧
      t.flashStatus.testBit 1 = t.flashWel ∧
      ∀ i, 2 ≤ i → i < 8 → t.flashStatus.testBit i = t.flashStatusRegister.testBit i := by
  have hmask : ∀ i < 8, Nat.testBit 0xfc i = decide (2 ≤ i) := by decide
  have hone : ∀ i < 8, Nat.testBit 0x01 i = decide (i = 0) := by decide
  have htwo : ∀ i < 8, Nat.testBit 0x02 i = decide (i = 1) := by decide
  have hbit : ∀ i < 8, t.flashStatus.testBit i =
      (t.flashStatusRegister.testBit i && decide (2 ≤ i) || (t.flashWel && decide (i = 1)) ||
        (decide (0 < t.flashBusyReadsRemaining) && decide (i = 0))) := by
    intro i hi
    unfold ScriptTemplate.flashStatus
    dsimp only
    by_cases hwel : t.flashWel = true
    · by_cases hbusy : t.flashBusyReadsRemaining > 0
      · simp [hwel, hbusy, hmask i hi, hone i hi, htwo i hi]
      · simp [hwel, hbusy, hmask i hi, htwo i hi]
    · by_cases hbusy : t.flashBusyReadsRemaining > 0
      · simp [hwel, hbusy, hmask i hi, hone i hi]
      · simp [hwel, hbusy, hmask i hi]
  refine ⟨?_, ?_, fun i hlow hhigh => ?_⟩
  · rw [hbit 0 (by decide)]
    simp
  · rw [hbit 1 (by decide)]
    simp
  · rw [hbit i hhigh]
    simp [hlow, show i ≠ 0 by omega, show i ≠ 1 by omega]

/-- The status that is read from a flash after any transfers: bit 1 is the write enable latch, bit 0
says that fewer status reads than the busy cycles came since the last status write in effect, and
the other bits are those of that write, or those the flash was built with. -/
structure StatusOf (t₀ : ScriptTemplate) (h : List SpiTransfer) (status : UInt8) : Prop where
  latch : status.toNat.testBit 1 = true ↔ Enabled h
  busy : status.toNat.testBit 0 = true ↔
    ∃ w after, LastAt TakesEffect h w after ∧ statusReads after < t₀.flashWriteBusyCycles
  written : ∀ w after value rest, LastAt TakesEffect h w after →
    w.txData = 0x01 :: value :: rest →
      ∀ i, 2 ≤ i → i < 8 → status.toNat.testBit i = value.toNat.testBit i
  fresh : (∀ w after, ¬ LastAt TakesEffect h w after) →
    ∀ i, 2 ≤ i → i < 8 → status.toNat.testBit i = t₀.flashStatusRegister.testBit i

theorem FlashAfter.statusOf {t₀ t : ScriptTemplate} {h : List SpiTransfer}
    (ha : FlashAfter t₀ h t) : StatusOf t₀ h (UInt8.ofNat t.flashStatus) := by
  obtain ⟨hzero, hone, hrest⟩ := testBit_flashStatus t
  have hmask : ∀ i < 8, Nat.testBit 0xfc i = decide (2 ≤ i) := by decide
  have hnat : (UInt8.ofNat t.flashStatus).toNat = t.flashStatus :=
    UInt8.toNat_ofNat_of_lt t.flashStatus_lt
  refine ⟨?_, ?_, ?_, ?_⟩
  · rw [hnat, hone]
    exact ha.latch
  · rw [hnat, hzero, decide_eq_true_iff]
    constructor
    · intro hpos
      by_contra hnone
      have hno : ∀ w after, ¬ LastAt TakesEffect h w after := by
        intro w after hlast
        obtain ⟨past, -, -, status, rest, htx⟩ := hlast.split
        refine hnone ⟨w, after, hlast, ?_⟩
        have := (ha.written w after status rest hlast htx).2
        omega
      have := (ha.fresh hno).2
      omega
    · rintro ⟨w, after, hlast, hreads⟩
      obtain ⟨past, -, -, status, rest, htx⟩ := hlast.split
      have := (ha.written w after status rest hlast htx).2
      omega
  · intro w after value rest hlast htx i hlow hhigh
    rw [hnat, hrest i hlow hhigh, (ha.written w after value rest hlast htx).1, Nat.testBit_and,
      hmask i hhigh, decide_eq_true hlow, Bool.and_true]
  · intro hno i hlow hhigh
    rw [hnat, hrest i hlow hhigh, (ha.fresh hno).1]

/-- A flash is built with writes disabled and nothing to wait for. -/
theorem build_quiet {script : Model.SpiScript} {t₀ : ScriptTemplate}
    (h : ScriptTemplate.build script = some t₀) :
    t₀.flashWel = false ∧ t₀.flashBusyReadsRemaining = 0 := by
  unfold ScriptTemplate.build at h
  obtain ⟨responses, -, h⟩ := Option.bind_eq_some_iff.mp h
  obtain ⟨prefixResponses, -, h⟩ := Option.bind_eq_some_iff.mp h
  obtain ⟨defaultResponse, -, h⟩ := Option.bind_eq_some_iff.mp h
  obtain ⟨jedecId, -, h⟩ := Option.bind_eq_some_iff.mp h
  cases h
  exact ⟨rfl, rfl⟩

/-- After any transfers to the flash of a script, in whatever messages, a status read gives in every
byte the status that follows from what was sent before. -/
theorem flash_status_history {script : Model.SpiScript} {t₀ : ScriptTemplate}
    (hbuild : ScriptTemplate.build script = some t₀) (hflash : t₀.flashJedecId ≠ [])
    (h : List SpiTransfer) {x : SpiTransfer} (hx : ReadsStatus x) :
    ∃ t rxs t' status, clockAll t₀ h = some (t, rxs) ∧
      clock t x = some (t', List.replicate x.len.toNat status) ∧ StatusOf t₀ h status := by
  obtain ⟨hwel, hbusy⟩ := build_quiet hbuild
  obtain ⟨t, rxs, hall, hafter⟩ := (FlashAfter.start hwel hbusy).run hflash h
  have hne : t.flashJedecId ≠ [] := by
    rw [hafter.jedec]
    exact hflash
  obtain ⟨t', hclock⟩ := clock_readsStatus hne hx
  exact ⟨t, rxs, t', _, hall, hclock, hafter.statusOf⟩

/-- A status write in effect, and one of the two busy reads gone. -/
theorem flash_status_history_busy :
    ReadsStatus readStatus ∧ ∃ t rxs t' status,
      clockAll busyFlash [writeEnable, writeStatus, readStatus] = some (t, rxs) ∧
        clock t readStatus = some (t', [status, status]) ∧
        StatusOf busyFlash [writeEnable, writeStatus, readStatus] status :=
  ⟨rfl, @flash_status_history ⟨[], [], [], false, some ⟨text "ef4018", 0, 2⟩⟩ busyFlash rfl
    (by decide) [writeEnable, writeStatus, readStatus] readStatus rfl⟩

end Sensorium.EndToEnd

import Sensorium.Daemon.BankHistory
import Sensorium.EndToEnd.RemoteCalls
import Sensorium.Lib.Calls

/-!
# I2C transfers of several masters

Transfers of several masters to one device go through the encoder, the request, the register bank of
the daemon, the reply and the copy into the buffers; a request may fail in the kernel and be handled
all the same.  Each transfer that returns took place once while it ran, and what it has read are the
values that the transfers handled before it, and its own messages, have assigned last.
-/

namespace Sensorium.EndToEnd

open Lib Model Kernel Daemon

/-! ## The system -/

/-- What the kernel and the daemon know of one device. -/
structure BusDevice where
  dev : TransferDevice
  addr : UInt16
  device : Model.Device

structure BusRequest where
  msgs : List I2cMsg
  payload : List UInt8

/-- The masters of the device, and its bank. -/
abbrev BusTransfers := Calls BankTemplate BusRequest Kernel.Reply

inductive BusAct
  | enter (i : Nat) (msgs : List I2cMsg)
  | handle (k : Nat)
  | finish (i : Nat)
  | fail (i : Nat)

/-- The handler of the daemon, and the reply as `cmd_reply` takes it; `none` is a reply that the
daemon or the kernel has refused. -/
def BusDevice.serve (d : BusDevice) (t : BankTemplate) (q : BusRequest) :
    BankTemplate × Option Kernel.Reply :=
  match serveI2c d.dev.handle.toNat d.device (.bank t) q.payload with
  | some (.bank t, status, data) =>
    (t, do
      let packed ← packReply status data
      if Bridge.maxPayload < packed.length then none
      else replyCommand packed)
  | _ => (t, none)

namespace BusTransfers

/-- `i2c_exec` up to `send_request`, for a transfer that the bus finds the device for; what
is refused there returns at once. -/
def enter (d : BusDevice) (s : BusTransfers) (i : Nat) (msgs : List I2cMsg) :
    Option BusTransfers :=
  if msgs.head?.map I2cMsg.addr = some d.addr then
    match i2cExecBegin d.dev msgs true true with
    | .ok payload => s.post i ⟨msgs, payload⟩
    | .error _ => none
  else none

def step (d : BusDevice) (s : BusTransfers) : BusAct → Option BusTransfers
  | .enter i msgs => enter d s i msgs
  | .handle k => s.handle d.serve k
  | .finish i => (s.finish i).map Prod.snd
  | .fail i => s.giveUp i

/-- What `i2c_exec` returns, and the buffers of the messages. -/
def result (x : Returned BusRequest Kernel.Reply) : Int × List (List UInt8) :=
  let msgs := x.call.request.msgs
  let outcome := (Fill.reply x.reply).outcome (i2cRxLen msgs)
  i2cExecEnd msgs outcome.1 outcome.2 (x.reply.data.take (i2cRxLen msgs))

/-- The chip after the transfers that were handled, from a bank that was just built. -/
def chipAfter (t₀ : BankTemplate) (handled : List (Handled BusRequest Kernel.Reply)) : Chip :=
  (handled.flatMap fun h => h.call.request.msgs).foldl t₀.message ⟨t₀.pointer, []⟩

theorem chipAfter_concat (t₀ : BankTemplate) (handled : List (Handled BusRequest Kernel.Reply))
    (h : Handled BusRequest Kernel.Reply) :
    chipAfter t₀ (handled ++ [h]) =
      (t₀.transfer (chipAfter t₀ handled) h.call.request.msgs).1 := by
  rw [BankTemplate.transfer_fst, chipAfter, List.flatMap_append, List.foldl_append]
  simp only [List.flatMap_cons, List.flatMap_nil, List.append_nil]
  rfl

/-! ## One transfer -/

/-- The bytes of a reply, spread over the buffers, are what the chip gives. -/
structure Gives (t₀ : BankTemplate) (c : Chip) (msgs : List I2cMsg) (r : Kernel.Reply) : Prop where
  status : r.status = 0
  length : r.data.length = i2cRxLen msgs
  scatter : i2cScatter r.data 0 msgs = (t₀.transfer c msgs).2

/-- A request that the kernel has made of a transfer to the device. -/
structure Asked (d : BusDevice) (q : BusRequest) : Prop where
  begun : i2cExecBegin d.dev q.msgs true true = .ok q.payload
  addressed : ∀ m ∈ q.msgs, m.addr = d.addr

theorem asked_of_begin {d : BusDevice} {msgs : List I2cMsg} {payload : List UInt8}
    (haddr : msgs.head?.map I2cMsg.addr = some d.addr)
    (hbegin : i2cExecBegin d.dev msgs true true = .ok payload) : Asked d ⟨msgs, payload⟩ where
  begun := hbegin
  addressed m hm := by
    obtain ⟨first, hfirst, hsame⟩ := Option.map_eq_some_iff.mp haddr
    rw [(i2cExecBegin_ok hbegin).2.2.2.2.2 m hm first hfirst, hsame]

theorem serve_shows {d : BusDevice} {t₀ t : BankTemplate} {c : Chip} {q : BusRequest}
    (hfault : d.device.faults.mode = .none) (haddr : deviceAddress d.device = some d.addr.toNat)
    (h₀ : t₀.Wf) (ht : t₀.Shows t c) (hq : Asked d q) :
    t₀.Shows (d.serve t q).1 (t₀.transfer c q.msgs).1 ∧
      ∀ r, (d.serve t q).2 = some r → Gives t₀ c q.msgs r := by
  obtain ⟨t', data, hhandle, hlen, hscatter, hshows⟩ := ht.handleI2c h₀ q.msgs []
  have hreceive := (receiveI2c_begin hq.begun).2
    (fun handle => if handle = d.dev.handle.toNat then some d.device else none) d.device
    (if_pos rfl) (fun m hm => by rw [haddr, hq.addressed m hm])
  rw [applyFaultPre_none hfault] at hreceive
  have hserve : serveI2c d.dev.handle.toNat d.device (.bank t) q.payload =
      some (.bank t', 0, data) := by
    unfold serveI2c
    rw [hreceive]
    simp only [hhandle, bind, Option.bind, applyFaultPost_none hfault]
  unfold BusDevice.serve
  rw [hserve]
  refine ⟨hshows, fun r hr => ?_⟩
  obtain ⟨packed, hpack, hr⟩ := Option.bind_eq_some_iff.mp hr
  split at hr
  · cases hr
  · rw [Linked.replyCommand_packReply hpack] at hr
    cases hr
    exact ⟨rfl, hlen, hscatter⟩

theorem result_eq {t₀ : BankTemplate} {c : Chip} {x : Returned BusRequest Kernel.Reply}
    (h : Gives t₀ c x.call.request.msgs x.reply) :
    result x =
      ((x.call.request.msgs.length : Int), (t₀.transfer c x.call.request.msgs).2) := by
  obtain ⟨hstatus, hlen, hscatter⟩ := h
  have hreply : x.reply = ⟨0, x.reply.data⟩ := by rw [← hstatus]
  unfold result
  dsimp only
  rw [List.take_of_length_le (Nat.le_of_eq hlen), ← hscatter]
  rw [← i2cExecEnd_complete _ hlen, hreply]
  rfl

/-! ## Runs -/

structure Sound (d : BusDevice) (t₀ : BankTemplate) (s : BusTransfers) : Prop where
  good : s.Good
  asked : ∀ c ∈ s.requests, Asked d c.request
  shows : t₀.Shows s.server (chipAfter t₀ s.handled)
  gives : AtEach (fun past h => ∀ r, h.reply = some r →
    Gives t₀ (chipAfter t₀ past) h.call.request.msgs r) s.handled

namespace Sound

variable {d : BusDevice} {t₀ : BankTemplate} {s s' : BusTransfers}

theorem start (h₀ : t₀.Wf) (masters : Nat) : Sound d t₀ (.start t₀ masters) where
  good := .start t₀ masters
  asked _ hc := absurd hc List.not_mem_nil
  shows := .start h₀
  gives := atEach_nil _

theorem enter {i : Nat} {msgs : List I2cMsg} (h : Sound d t₀ s)
    (hs : BusTransfers.enter d s i msgs = some s') : Sound d t₀ s' := by
  unfold BusTransfers.enter at hs
  split at hs
  · rename_i haddr
    split at hs
    · rename_i payload hbegin
      have hgood := h.good.post hs
      obtain ⟨-, rfl⟩ := Calls.post_cases hs
      refine { h with good := hgood, asked := ?_ }
      intro c hc
      rcases List.mem_append.mp hc with hc | hc
      · exact h.asked c hc
      · rw [List.mem_singleton.mp hc]
        exact asked_of_begin haddr hbegin
    · cases hs
  · cases hs

theorem handle {k : Nat} (hfault : d.device.faults.mode = .none)
    (haddr : deviceAddress d.device = some d.addr.toNat) (h₀ : t₀.Wf) (h : Sound d t₀ s)
    (hs : s.handle d.serve k = some s') : Sound d t₀ s' := by
  have hgood := h.good.handle hs
  obtain ⟨c, hc, rfl⟩ := Calls.handle_cases hs
  have hmem : c ∈ s.requests := List.mem_of_getElem? hc
  obtain ⟨hshows, hgives⟩ := serve_shows hfault haddr h₀ h.shows (h.asked c hmem)
  exact
    { good := hgood
      asked := fun c' hc' => h.asked c' (List.mem_of_mem_eraseIdx hc')
      shows := by
        rw [chipAfter_concat]
        exact hshows
      gives := atEach_concat.mpr ⟨h.gives, hgives⟩ }

theorem step {a : BusAct} (hfault : d.device.faults.mode = .none)
    (haddr : deviceAddress d.device = some d.addr.toNat) (h₀ : t₀.Wf) (h : Sound d t₀ s)
    (hs : BusTransfers.step d s a = some s') : Sound d t₀ s' := by
  cases a with
  | enter i msgs => exact h.enter hs
  | handle k => exact h.handle hfault haddr h₀ hs
  | finish i =>
    obtain ⟨⟨x, t⟩, hfinish, rfl⟩ := Option.map_eq_some_iff.mp hs
    have hgood := h.good.finish hfinish
    obtain ⟨c, reply, -, -, rfl⟩ := Calls.finish_cases hfinish
    exact { h with good := hgood }
  | fail i =>
    have hgood := h.good.giveUp hs
    rw [Calls.giveUp_cases hs] at hgood ⊢
    exact { h with good := hgood }

/-- A transfer that has returned is a transfer of the chip at the place where it was handled. -/
theorem returned (h : Sound d t₀ s) {x : Returned BusRequest Kernel.Reply}
    (hx : x ∈ s.returned) :
    ∃ place, x.call.since ≤ place ∧ place < x.upto ∧
      s.handled[place]? = some ⟨x.call, some x.reply⟩ ∧
      result x = ((x.call.request.msgs.length : Int),
        (t₀.transfer (chipAfter t₀ (s.handled.take place)) x.call.request.msgs).2) := by
  obtain ⟨place, hsince, hupto, hget⟩ := h.good.returned x hx
  refine ⟨place, hsince, hupto, hget, result_eq ?_⟩
  obtain ⟨hlt, hat⟩ := List.getElem?_eq_some_iff.mp hget
  have hsplit : s.handled =
      s.handled.take place ++ ⟨x.call, some x.reply⟩ :: s.handled.drop (place + 1) := by
    rw [← hat, ← List.drop_eq_getElem_cons hlt, List.take_append_drop]
  exact h.gives _ _ _ hsplit x.reply rfl

end Sound

end BusTransfers

/-- However the transfers of masters to a device with a register bank overlap, and whichever of them
fail in the kernel: each one that was answered returns the number of its messages and was handled
once, after it was posted and before it returned; its read buffers hold what the transfers handled
before it, and its own messages before the read, have assigned to the registers last.  So does the
bank. -/
theorem bus_reads_last_assignments {v : Value} {buses : List (Text × Bus)} {label : Label}
    {device : Device} (h : normalizeRuntimeDeviceItem v buses label = .ok device) {addr : UInt16}
    {bank : RegisterBank}
    (hpart : device.part = .i2c addr.toNat (.template .i2cRegisterBank bank))
    (hfault : device.faults.mode = .none) (dev : TransferDevice) :
    ∃ t₀, Template.build device.part = some (some (.bank t₀)) ∧
      ∀ (masters : Nat) (s : BusTransfers),
        Reach (BusTransfers.step ⟨dev, addr, device⟩) anyStep (.start t₀ masters) s →
        (∀ x ∈ s.returned, ∃ place, x.call.since ≤ place ∧ place < x.upto ∧
          s.handled[place]? = some ⟨x.call, some x.reply⟩ ∧
          BusTransfers.result x = ((x.call.request.msgs.length : Int),
            (t₀.transfer (BusTransfers.chipAfter t₀ (s.handled.take place))
              x.call.request.msgs).2)) ∧
        (s.handled.map fun h => h.call.number).Nodup ∧
        s.server.registers =
          (List.range bank.size).map (t₀.value (BusTransfers.chipAfter t₀ s.handled)) := by
  obtain ⟨t₀, hbuild, hwf, hsize⟩ := BankTemplate.build_some (fields_of_i2cDevice h hpart)
  refine ⟨t₀, by rw [hpart, Template.build, hbuild]; rfl, fun masters s hr => ?_⟩
  have haddr : deviceAddress device = some addr.toNat := by
    rw [deviceAddress, hpart]
  have hsound : BusTransfers.Sound ⟨dev, addr, device⟩ t₀ s :=
    hr.invariant (BusTransfers.Sound.start hwf masters)
      fun _ _ _ hsound _ hs => hsound.step hfault haddr hwf hs
  refine ⟨fun x hx => hsound.returned hx, hsound.good.handledOnce, ?_⟩
  rw [← hsize]
  exact hsound.shows.registers

/-! ## A run -/

/-- Writing register 1 of the sensor sets register 3, and reading register 3 clears it. -/
def sensorItem : Value :=
  .dict [(.lit "id", .lit "sensor"), (.lit "bus", .lit "b0"), (.lit "transport", .lit "i2c"),
    (.lit "address", .int 0x50), (.lit "backend", .dict [(.lit "kind", .lit "template"),
      (.lit "template", .lit "i2c-register-bank"), (.lit "size", .int 8),
      (.lit "clear_on_read", .list [.int 3]),
      (.lit "write_effects", .dict [(.int 1, .dict [(.int 3, .int 5)])])])]

def sensorRegisters : RegisterBank :=
  ⟨8, 1, true, [], [text "0x03"], [(text "0x01", [(text "0x03", 5)])]⟩

def sensor : Device :=
  ⟨text "sensor", text "b0", .i2c 0x50 (.template .i2cRegisterBank sensorRegisters), [],
    plainFaults, []⟩

def sensorBank : BankTemplate := ⟨8, 1, true, List.replicate 8 0, 0, [3], [(1, [(3, 5)])]⟩

/-- The request to write register 1 fails in the kernel and is handled all the same, before another
master reads register 3. -/
def sensorRun : List BusAct :=
  [.enter 0 [⟨0x50, 0, 2, [1, 9], rfl⟩], .fail 0,
    .enter 1 [⟨0x50, 0, 1, [3], rfl⟩, ⟨0x50, 1, 1, [7], rfl⟩], .handle 0, .handle 0, .finish 1]

theorem bus_reads_last_assignments_sensor :
    ∃ s : BusTransfers, s.returned.map BusTransfers.result = [(2, [[3], [5]])] ∧
      s.server.registers =
        (List.range 8).map (sensorBank.value (BusTransfers.chipAfter sensorBank s.handled)) := by
  have hnormal : normalizeRuntimeDeviceItem sensorItem busTable [] = .ok sensor := rfl
  have hbuilt : Template.build sensor.part = some (some (.bank sensorBank)) := by decide +kernel
  obtain ⟨t₀, hbuild, hruns⟩ :=
    @bus_reads_last_assignments sensorItem busTable [] sensor hnormal 0x50 sensorRegisters rfl rfl
      ⟨1024, 1⟩
  obtain rfl : t₀ = sensorBank := by
    rw [hbuilt] at hbuild
    cases hbuild
    rfl
  have hrun : (exec (guarded (BusTransfers.step ⟨⟨1024, 1⟩, 0x50, sensor⟩) anyStep)
      (.start sensorBank 2) sensorRun).map (fun s => s.returned.map BusTransfers.result) =
      some [(2, [[3], [5]])] := by decide +kernel
  obtain ⟨s, hexec, hview⟩ := Option.map_eq_some_iff.mp hrun
  exact ⟨s, hview, (hruns 2 s (reach_of_exec hexec)).2.2⟩

end Sensorium.EndToEnd

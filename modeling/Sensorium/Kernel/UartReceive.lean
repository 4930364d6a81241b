import Sensorium.Kernel.UartQueue
import Sensorium.Lib.CircularQueue
import Sensorium.Lib.Loops
import Sensorium.Lib.Runs
import Mathlib.Data.List.Forall2

/-!
# The UART receive queue

Received bytes go to the tty, or to a ring from which they follow when the tty has room.  The tty
says with every insertion how many of the offered bytes it has taken.  Injections, throttling and
its end are lock sections.
-/

namespace Sensorium.Kernel

open Lib

/-- What `tty_insert_flip_string` takes in the insertions of one call: of `offered` bytes in the
`k`-th one. -/
structure Acceptance where
  taken : Nat → Nat → Nat
  le_offered : ∀ k offered, taken k offered ≤ offered

def Acceptance.TakesAll (tty : Acceptance) : Prop := ∀ k offered, tty.taken k offered = offered

/-- The receive side of `dev->u.uart`, and what has been inserted into the tty. -/
structure RxPort where
  rx : CircularQueue UInt8
  throttled : Bool
  tty : List UInt8

namespace RxPort

/-- A port as `sensorium_runtime_register_uart` leaves it. -/
def register (configured : Nat) (queue : Nat → UInt8) : RxPort :=
  ⟨⟨uartQueueCapacity configured, queue, 0, 0, 0⟩, false, []⟩

variable (p : RxPort) (tty : Acceptance)

/-- The insertion before the queue is used, and the bytes that it leaves. -/
def insertDirect (data : List UInt8) : RxPort × List UInt8 :=
  if data ≠ [] ∧ p.throttled = false ∧ p.rx.count = 0 then
    let written := tty.taken 0 data.length
    ({ p with tty := p.tty ++ data.take written }, data.drop written)
  else (p, data)

/-- What the next `memcpy` into the queue copies. -/
def fillChunk (data : List UInt8) : Nat :=
  min (min data.length (p.rx.capacity - p.rx.tail)) (p.rx.capacity - p.rx.count)

/-- A pass of the loop that copies into the queue. -/
def fillPass : RxPort × List UInt8 → (RxPort × List UInt8) ⊕ RxPort
  | (p, data) =>
    if data ≠ [] ∧ p.rx.count < p.rx.capacity then
      let chunk := p.fillChunk data
      .inl ({ p with rx := p.rx.push (data.take chunk) }, data.drop chunk)
    else .inr p

/-- What the next insertion from the queue offers. -/
def drainChunk : Nat := min p.rx.count (p.rx.capacity - p.rx.head)

/-- The tty has taken `written` bytes of the queue. -/
def inserted (written : Nat) : RxPort :=
  { p with
    rx := p.rx.pop written
    tty := p.tty ++ (p.rx.front p.drainChunk).take written }

/-- A pass of the loop that empties the queue into the tty; `k` numbers the insertions. -/
def drainPass : RxPort × Nat → (RxPort × Nat) ⊕ RxPort
  | (p, k) =>
    if p.throttled = false ∧ p.rx.count ≠ 0 then
      let chunk := p.drainChunk
      let written := tty.taken k chunk
      if written = 0 then .inr p
      else if written < chunk then .inr (p.inserted written)
      else .inl (p.inserted written, k + 1)
    else .inr p

def fill (data : List UInt8) : Option RxPort := loop fillPass (data.length + 1) (p, data)

def drain : Option RxPort := loop (drainPass tty) (p.rx.count + 1) (p, 1)

/-- `sensorium_runtime_uart_inject_locked`. -/
def injectLocked (data : List UInt8) : Option RxPort :=
  let (p, data) := p.insertDirect tty data
  (p.fill data).bind fun p => p.drain tty

end RxPort

inductive RxAct
  | inject (data : List UInt8) (tty : Acceptance)
  | throttle
  | unthrottle (tty : Acceptance)

def rxStep (p : RxPort) : RxAct → Option RxPort
  | .inject data tty => p.injectLocked tty data
  | .throttle => some { p with throttled := true }
  | .unthrottle tty => { p with throttled := false }.injectLocked tty []

/-- The data of the injections, one entry a call. -/
def injected (acts : List RxAct) : List (List UInt8) :=
  acts.filterMap fun
    | .inject data _ => some data
    | _ => none

/-! ## The loops -/

namespace RxPort

variable {p : RxPort} {tty : Acceptance}

/-- What has been inserted and what waits, in the order of reception. -/
def stream (p : RxPort) : List UInt8 := p.tty ++ p.rx.contents

theorem register_ring (configured : Nat) (queue : Nat → UInt8) :
    (register configured queue).rx.Ring := by
  have hcap : 0 < uartQueueCapacity configured := by
    unfold uartQueueCapacity
    omega
  exact ⟨hcap, Nat.zero_le _, (Nat.zero_mod _).symm⟩

/-- Between the passes of the first loop: `rest` of `data` is not in the queue of `q`. -/
structure Filling (p : RxPort) (data : List UInt8) (q : RxPort) (rest : List UInt8) : Prop where
  ring : q.rx.Ring
  capacity : q.rx.capacity = p.rx.capacity
  throttled : q.throttled = p.throttled
  tty : q.tty = p.tty
  kept : ∃ kept, kept ++ rest = data ∧ q.rx.contents = p.rx.contents ++ kept

theorem Filling.pass {data rest rest' : List UInt8} {q q' : RxPort} (h : Filling p data q rest)
    (hs : fillPass (q, rest) = .inl (q', rest')) :
    Filling p data q' rest' ∧ rest'.length < rest.length := by
  rw [fillPass] at hs
  split at hs
  · rename_i hgo
    cases hs
    -- The chunk is not empty, and ends before the end of the zone and before the head.
    have hpos : 0 < rest.length := List.length_pos_iff.mpr hgo.1
    have htail := h.ring.tail_lt
    have hchunk : 0 < q.fillChunk rest ∧ q.fillChunk rest ≤ rest.length ∧
        q.fillChunk rest ≤ q.rx.capacity - q.rx.tail ∧
        q.fillChunk rest ≤ q.rx.capacity - q.rx.count := by
      unfold fillChunk
      omega
    have hlen : (rest.take (q.fillChunk rest)).length = q.fillChunk rest := by
      rw [List.length_take]
      omega
    have hpush : (q.rx.push (rest.take (q.fillChunk rest))).Ring ∧
        (q.rx.push (rest.take (q.fillChunk rest))).contents =
          q.rx.contents ++ rest.take (q.fillChunk rest) := h.ring.push (by omega) (by omega)
    obtain ⟨kept, hdata, hcontents⟩ := h.kept
    refine ⟨⟨hpush.1, h.capacity, h.throttled, h.tty, ?_⟩, ?_⟩
    · refine ⟨kept ++ rest.take (q.fillChunk rest), ?_, ?_⟩
      · rw [List.append_assoc, List.take_append_drop, hdata]
      · rw [hpush.2, hcontents, List.append_assoc]
    · rw [List.length_drop]
      omega
  · cases hs

/-- The first loop copies what the queue has room for. -/
theorem fill_spec (hring : p.rx.Ring) (data : List UInt8) :
    ∃ q, p.fill data = some q ∧
      ∃ rest, Filling p data q rest ∧ (rest = [] ∨ q.rx.count = q.rx.capacity) := by
  have hstart : Filling p data p data := ⟨hring, rfl, rfl, rfl, [], rfl, by simp⟩
  unfold fill
  refine loop_spec (s := (p, data)) (fun s => Filling p data s.1 s.2) (fun s => s.2.length) hstart
    (fun _ _ h hs => h.pass hs) ?_ (Nat.lt_add_one _)
  intro ⟨q, rest⟩ r h hr
  rw [fillPass] at hr
  split at hr
  · cases hr
  · rename_i hgo
    cases hr
    refine ⟨rest, h, ?_⟩
    have hle := h.ring.count_le
    by_cases hdone : rest = []
    · exact .inl hdone
    · have hfull : ¬ q.rx.count < q.rx.capacity := fun hlt => hgo ⟨hdone, hlt⟩
      right
      show q.rx.count = q.rx.capacity
      dsimp only at hle
      omega

/-- Between the passes of the second loop. -/
structure Draining (p q : RxPort) : Prop where
  ring : q.rx.Ring
  capacity : q.rx.capacity = p.rx.capacity
  throttled : q.throttled = p.throttled
  stream : q.stream = p.stream

/-- What the tty takes has been at the head of the queue. -/
theorem Draining.inserted {q : RxPort} (h : Draining p q) {written : Nat}
    (hwritten : written ≤ q.drainChunk) : Draining p (q.inserted written) := by
  have hchunk : q.drainChunk ≤ q.rx.count ∧ q.rx.head + q.drainChunk ≤ q.rx.capacity := by
    have := h.ring.head_lt
    unfold drainChunk
    omega
  have hpop := h.ring.pop (n := written) (by omega)
  refine ⟨hpop.1, h.capacity, h.throttled, ?_⟩
  rw [← h.stream]
  show (q.tty ++ (q.rx.front q.drainChunk).take written) ++ (q.rx.pop written).contents =
    q.tty ++ q.rx.contents
  rw [hpop.2, h.ring.front hchunk.1 hchunk.2, List.take_take, Nat.min_eq_left hwritten,
    List.append_assoc, List.take_append_drop]

/-- The second loop moves bytes to the tty: all of them, when the tty takes what it is offered. -/
theorem drain_spec (hring : p.rx.Ring) (tty : Acceptance) :
    ∃ q, p.drain tty = some q ∧ Draining p q ∧
      (p.throttled = false → tty.TakesAll → q.rx.count = 0) := by
  have hstart : Draining p p := ⟨hring, rfl, rfl, rfl⟩
  unfold drain
  refine loop_spec (s := (p, 1)) (fun s => Draining p s.1) (fun s => s.1.rx.count) hstart ?_ ?_
    (Nat.lt_add_one _)
  · intro ⟨q, k⟩ t h hs
    rw [drainPass] at hs
    split at hs
    · rename_i hgo
      dsimp only at hs
      have hle := tty.le_offered k q.drainChunk
      split at hs
      · cases hs
      · split at hs
        · cases hs
        · cases hs
          refine ⟨h.inserted hle, ?_⟩
          show q.rx.count - _ < q.rx.count
          omega
    · cases hs
  · intro ⟨q, k⟩ r h hr
    have hthrottled : q.throttled = p.throttled := h.throttled
    rw [drainPass] at hr
    split at hr
    · rename_i hgo
      dsimp only at hr
      have hle := tty.le_offered k q.drainChunk
      -- The loop breaks only where the tty takes less than it is offered.
      have hpos : 0 < q.drainChunk := by
        have hhead : q.rx.head < q.rx.capacity := h.ring.head_lt
        unfold drainChunk
        omega
      split at hr
      · cases hr
        refine ⟨h, fun _ hall => ?_⟩
        have := hall k q.drainChunk
        omega
      · split at hr
        · cases hr
          refine ⟨h.inserted hle, fun _ hall => ?_⟩
          have := hall k q.drainChunk
          omega
        · cases hr
    · rename_i hgo
      cases hr
      refine ⟨h, fun hun _ => ?_⟩
      by_contra hne
      exact hgo ⟨hthrottled.trans hun, hne⟩

/-! ## An injection -/

/-- The direct insertion: only into a tty that has nothing to wait for. -/
theorem insertDirect_spec (tty : Acceptance) (data : List UInt8) {q : RxPort} {rest : List UInt8}
    (hq : p.insertDirect tty data = (q, rest)) :
    q.rx = p.rx ∧ q.throttled = p.throttled ∧
      (∃ kept, kept ++ rest = data ∧ q.stream = p.stream ++ kept) ∧
      (p.rx.count ≠ 0 → rest = data) ∧
      (p.rx.count = 0 → p.throttled = false → tty.TakesAll → rest = []) := by
  unfold insertDirect at hq
  split at hq
  · rename_i hdirect
    obtain ⟨hne, hun, hcount⟩ := hdirect
    cases hq
    have hempty : p.rx.contents = [] := by
      apply List.length_eq_zero_iff.mp
      rw [CircularQueue.contents_length, hcount]
    refine ⟨rfl, rfl, ⟨_, List.take_append_drop _ _, ?_⟩, fun h => absurd hcount h, ?_⟩
    · simp [stream, hempty]
    · intro _ _ hall
      rw [hall 0 data.length, List.drop_length]
  · rename_i hdirect
    cases hq
    refine ⟨rfl, rfl, ⟨[], rfl, by simp⟩, fun _ => rfl, ?_⟩
    intro hcount hun _
    by_contra hne
    exact hdirect ⟨hne, hun, hcount⟩

/-- An injection keeps a beginning of its data behind what is there. -/
structure Injected (p : RxPort) (data : List UInt8) (q : RxPort) (rest : List UInt8) : Prop where
  ring : q.rx.Ring
  kept : ∃ kept, kept ++ rest = data ∧ q.stream = p.stream ++ kept

theorem injectLocked_spec (hring : p.rx.Ring) (tty : Acceptance) (data : List UInt8) :
    ∃ q, p.injectLocked tty data = some q ∧ ∃ rest, Injected p data q rest ∧
      (p.throttled = false → tty.TakesAll → q.rx.count = 0 ∧
        (rest = [] ↔ p.rx.count = 0 ∨ data.length ≤ p.rx.capacity - p.rx.count)) := by
  unfold injectLocked
  cases hdirect : p.insertDirect tty data with
  | mk p₁ data₁ =>
  have ⟨hrx, hthr₁, ⟨kept₁, hdata₁, hstream₁⟩, hskip, hall₁⟩ := insertDirect_spec tty data hdirect
  obtain ⟨p₂, hfill, rest, hp₂, hexit⟩ := fill_spec (p := p₁) (hrx ▸ hring) data₁
  obtain ⟨q, hdrain, hq, hempty⟩ := drain_spec hp₂.ring tty
  obtain ⟨kept₂, hdata₂, hcon₂⟩ := hp₂.kept
  refine ⟨q, ?_, rest, ⟨hq.ring, kept₁ ++ kept₂, ?_, ?_⟩, ?_⟩
  · show (p₁.fill data₁).bind (fun p => p.drain tty) = some q
    rw [hfill]
    exact hdrain
  · rw [List.append_assoc, hdata₂, hdata₁]
  · rw [hq.stream, ← List.append_assoc, ← hstream₁]
    show p₂.tty ++ p₂.rx.contents = p₁.tty ++ p₁.rx.contents ++ kept₂
    rw [hp₂.tty, hcon₂, List.append_assoc]
  · intro hun hall
    have hlost : rest = [] ↔ p.rx.count = 0 ∨ data.length ≤ p.rx.capacity - p.rx.count := by
      have hle := hp₂.ring.count_le
      have hcap := hp₂.capacity
      have hcount : p₂.rx.count = p₁.rx.count + kept₂.length := by
        rw [← p₂.rx.contents_length, hcon₂, List.length_append, p₁.rx.contents_length]
      have hlen : kept₂.length + rest.length = data₁.length := by
        rw [← hdata₂, List.length_append]
      rw [hrx] at hcap hcount
      by_cases hzero : p.rx.count = 0
      · rw [hall₁ hzero hun hall, List.length_nil] at hlen
        have hrest : rest = [] := List.length_eq_zero_iff.mp (by omega)
        simp [hrest, hzero]
      · rw [hskip hzero] at hlen
        constructor
        · intro hrest
          rw [hrest, List.length_nil] at hlen
          omega
        · intro hfits
          -- A full queue has taken all that fits.
          rcases hexit with hrest | hfull
          · exact hrest
          · apply List.length_eq_zero_iff.mp
            omega
    refine ⟨hempty ?_ hall, hlost⟩
    rw [hp₂.throttled, hthr₁, hun]

end RxPort

/-! ## Runs -/

open RxPort in
/-- One operation appends a beginning of what it injects. -/
theorem rxStep_spec {p : RxPort} (hring : p.rx.Ring) (a : RxAct) :
    ∃ q, rxStep p a = some q ∧ q.rx.Ring ∧ ∃ kept,
      List.Forall₂ (· <+: ·) kept (injected [a]) ∧ q.stream = p.stream ++ kept.flatten := by
  cases a with
  | inject data tty =>
    obtain ⟨q, hq, rest, hinj, -⟩ := injectLocked_spec hring tty data
    obtain ⟨kept, hdata, hstream⟩ := hinj.kept
    refine ⟨q, hq, hinj.ring, [kept], ?_, by simpa using hstream⟩
    exact .cons ⟨rest, hdata⟩ .nil
  | throttle => exact ⟨_, rfl, hring, [], .nil, by simp [stream]⟩
  | unthrottle tty =>
    obtain ⟨q, hq, rest, hinj, -⟩ :=
      injectLocked_spec (p := { p with throttled := false }) hring tty []
    obtain ⟨kept, hdata, hstream⟩ := hinj.kept
    refine ⟨q, hq, hinj.ring, [], .nil, ?_⟩
    rw [hstream, (List.append_eq_nil_iff.mp hdata).1]
    rfl

open RxPort in
theorem rxRun_spec (acts : List RxAct) {p : RxPort} (hring : p.rx.Ring) :
    ∃ q, exec rxStep p acts = some q ∧ q.rx.Ring ∧ ∃ kept,
      List.Forall₂ (· <+: ·) kept (injected acts) ∧ q.stream = p.stream ++ kept.flatten := by
  induction acts generalizing p with
  | nil => exact ⟨p, rfl, hring, [], .nil, by simp⟩
  | cons a acts ih =>
    obtain ⟨p₁, hp₁, hring₁, kept₁, hkept₁, hstream₁⟩ := rxStep_spec hring a
    obtain ⟨q, hq, hringq, kept₂, hkept₂, hstream₂⟩ := ih hring₁
    refine ⟨q, ?_, hringq, kept₁ ++ kept₂, ?_, ?_⟩
    · rw [exec, hp₁]
      exact hq
    · have hsplit : injected (a :: acts) = injected [a] ++ injected acts := by
        unfold injected
        rw [← List.filterMap_append, List.singleton_append]
      rw [hsplit]
      exact List.rel_append hkept₁ hkept₂
    · rw [hstream₂, hstream₁, List.append_assoc, List.flatten_append]

/-- What the tty has received and what waits are beginnings of the injected data, in order. -/
theorem receive_fifo (configured : Nat) (queue : Nat → UInt8) (acts : List RxAct) :
    ∃ p, exec rxStep (.register configured queue) acts = some p ∧
      p.rx.count ≤ p.rx.capacity ∧ p.rx.tail = (p.rx.head + p.rx.count) % p.rx.capacity ∧
      ∃ kept, List.Forall₂ (· <+: ·) kept (injected acts) ∧
        p.tty ++ p.rx.contents = kept.flatten := by
  obtain ⟨p, hp, hring, kept, hkept, hstream⟩ :=
    rxRun_spec acts (RxPort.register_ring configured queue)
  exact ⟨p, hp, hring.count_le, hring.tail_eq, kept, hkept, hstream⟩

/-- With a tty that takes everything, an injection loses bytes exactly where older ones wait and
the data are longer than the room behind them. -/
theorem inject_reaches_tty_iff {p : RxPort} (hring : p.rx.Ring) (hun : p.throttled = false)
    {tty : Acceptance} (hall : tty.TakesAll) (data : List UInt8) :
    ∃ q, p.injectLocked tty data = some q ∧
      (q.tty = p.tty ++ p.rx.contents ++ data ↔
        p.rx.count = 0 ∨ data.length ≤ p.rx.capacity - p.rx.count) := by
  obtain ⟨q, hq, rest, hinj, hlost⟩ := RxPort.injectLocked_spec hring tty data
  have ⟨hempty, hiff⟩ := hlost hun hall
  obtain ⟨kept, hdata, hstream⟩ := hinj.kept
  refine ⟨q, hq, ?_⟩
  rw [← hiff]
  have htty : q.tty = p.tty ++ p.rx.contents ++ kept := by
    have hcon : q.rx.contents = [] := List.length_eq_zero_iff.mp (by simp [hempty])
    rw [← List.append_nil q.tty, ← hcon]
    exact hstream
  rw [htty, List.append_cancel_left_eq]
  constructor
  · intro heq
    rw [← heq, List.append_right_eq_self] at hdata
    exact hdata
  · intro hrest
    rw [← hdata, hrest, List.append_nil]

/-- A tty with room, and one without. -/
def roomyTty : Acceptance := ⟨fun _ offered => offered, fun _ _ => le_refl _⟩

def fullTty : Acceptance := ⟨fun _ _ => 0, fun _ _ => Nat.zero_le _⟩

/-- A byte is injected while the tty is throttled, and still waits when it is not. -/
def oneWaits : List RxAct := [.throttle, .inject [1] fullTty, .unthrottle fullTty]

/-- Two bytes fit behind the one that waits. -/
theorem inject_reaches_tty_iff_waiting :
    ∃ p q, exec rxStep (.register 256 fun _ => 0) oneWaits = some p ∧ p.rx.contents = [1] ∧
      p.injectLocked roomyTty [2, 3] = some q ∧ q.tty = p.tty ++ p.rx.contents ++ [2, 3] := by
  obtain ⟨p, hp, hring, -⟩ := rxRun_spec oneWaits (RxPort.register_ring 256 fun _ => 0)
  have hstate : (exec rxStep (.register 256 fun _ => 0) oneWaits).map
      (fun p => (p.throttled, p.rx.count, p.rx.capacity, p.rx.contents)) =
      some (false, 1, 256, [1]) := by
    decide +kernel
  rw [hp, Option.map_some, Option.some.injEq] at hstate
  simp only [Prod.mk.injEq] at hstate
  obtain ⟨hun, hcount, hcap, hcontents⟩ := hstate
  have hall : roomyTty.TakesAll := fun _ _ => rfl
  obtain ⟨q, hq, hiff⟩ := inject_reaches_tty_iff hring hun hall [2, 3]
  have hfits : [2, 3].length ≤ p.rx.capacity - p.rx.count := by
    rw [hcount, hcap]
    decide
  exact ⟨p, q, hp, hcontents, hq, hiff.mpr (.inr hfits)⟩

/-- 256 bytes do not all pass a queue of 256 in which one byte waits. -/
theorem inject_loses_last_byte :
    ∃ acts p q, exec rxStep (.register 256 fun _ => 0) acts = some p ∧ p.throttled = false ∧
      roomyTty.TakesAll ∧ p.injectLocked roomyTty (List.replicate 256 7) = some q ∧
      q.tty ≠ p.tty ++ p.rx.contents ++ List.replicate 256 7 := by
  obtain ⟨p, hp, hring, -⟩ := rxRun_spec oneWaits (RxPort.register_ring 256 fun _ => 0)
  have hstate : (exec rxStep (.register 256 fun _ => 0) oneWaits).map
      (fun p => (p.throttled, p.rx.count, p.rx.capacity)) = some (false, 1, 256) := by
    decide +kernel
  rw [hp, Option.map_some, Option.some.injEq, Prod.mk.injEq, Prod.mk.injEq] at hstate
  obtain ⟨hun, hcount, hcap⟩ := hstate
  obtain ⟨q, hq, rest, hinj, hlost⟩ :=
    RxPort.injectLocked_spec hring roomyTty (List.replicate 256 7)
  obtain ⟨kept, hdata, hstream⟩ := hinj.kept
  have ⟨hempty, hiff⟩ := hlost hun fun _ _ => rfl
  refine ⟨_, p, q, hp, hun, fun _ _ => rfl, hq, fun heq => ?_⟩
  have hrest : rest ≠ [] := by
    rw [ne_eq, hiff, List.length_replicate, hcount, hcap]
    omega
  have hlen : q.tty.length ≤ q.stream.length := by
    rw [RxPort.stream, List.length_append]
    omega
  have hpos := List.length_pos_iff.mpr hrest
  rw [hstream, heq, ← hdata] at hlen
  simp only [RxPort.stream, List.length_append] at hlen
  omega

end Sensorium.Kernel

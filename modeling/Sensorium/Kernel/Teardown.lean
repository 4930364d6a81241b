import Mathlib.Logic.Function.Basic
import Sensorium.Lib.Runs

/-!
# Teardown and UART transmit

The control-ring drain thread runs `RESET`, `DEVICE_REMOVE` and `BUS_REMOVE` with `runtime->lock`
held and waits in `cancel_delayed_work_sync` for the device's `tx_work`.  `tx_work` calls
`sensorium_runtime_send_request`, which takes the same lock on entry and again after its wait.

A device is named by its allocation; its handle can come back after a removal.
-/

namespace Sensorium.Kernel

open Lib

/-- Where a running `tx_work` is.  `entering`, `timedOut` and `woken` are the points at which
`send_request` takes `runtime->lock`. -/
inductive TxPc
  | copyOut
  | entering
  | waiting
  | timedOut
  | woken
  | sent (ok : Bool)
  deriving DecidableEq, Repr

def TxPc.atLock : TxPc → Bool
  | .entering | .timedOut | .woken => true
  | _ => false

/-- A device with its work item and the request that the work item waits for. -/
structure TxDevice where
  handle : Nat
  bus : Nat
  isUart : Bool
  pending : Bool
  running : Option TxPc
  listed : Bool
  replied : Bool
  done : Bool
  deriving DecidableEq, Repr

inductive Command
  | reset
  | deviceRemove (handle : Nat)
  | busRemove (bus : Nat)
  deriving DecidableEq, Repr

/-- Where the drain thread is.  It holds `runtime->lock` everywhere but at `idle`. -/
inductive DrainPc
  | idle
  | failing (todo : List Nat)
  | destroying (todo : List Nat)
  | cancelling (d : Nat) (todo : List Nat)
  | unregistering (d : Nat) (todo : List Nat)
  deriving DecidableEq, Repr

structure Teardown where
  allocated : Nat
  devices : List Nat
  dev : Nat → TxDevice
  drain : DrainPc
  completing : List Nat

def Teardown.init : Teardown where
  allocated := 0
  devices := []
  dev := fun _ => ⟨0, 0, false, false, none, false, false, false⟩
  drain := .idle
  completing := []

namespace Teardown

def set (s : Teardown) (d : Nat) (x : TxDevice) : Teardown :=
  { s with dev := Function.update s.dev d x }

/-- While `cancel_delayed_work_sync` is in progress the work item cannot be queued. -/
def cancelling (s : Teardown) (d : Nat) : Bool :=
  match s.drain with
  | .cancelling d' _ => d' = d
  | _ => false

/-- `queue_delayed_work` and `mod_delayed_work`. -/
def queueWork (s : Teardown) (d : Nat) : Teardown :=
  if s.cancelling d then s else s.set d { s.dev d with pending := true }

inductive Step
  | deviceAdd (handle bus : Nat) (isUart : Bool)
  | ttyWrite (d : Nat)
  | startWork (d : Nat)
  | copyOut (d : Nat) (hasChunk : Bool)
  | enter (d : Nat) (queued : Bool)
  | expire (d : Nat)
  | wake (d : Nat)
  | leave (d : Nat) (ok : Bool)
  | finish (d : Nat)
  | reply (d : Nat)
  | completeReply (d : Nat)
  | command (c : Command)
  | failNext
  | destroyNext
  | cancelled
  | unregister

/-! ## `tx_work` -/

-- A worker picks the item up; it does not run twice at once.
def startWork (s : Teardown) (d : Nat) : Option Teardown :=
  match (s.dev d).pending, (s.dev d).running with
  | true, none => some (s.set d { s.dev d with pending := false, running := some .copyOut })
  | _, _ => none

-- The first `dev->lock` section; with nothing to send, or disconnected, the work returns.
def copyOut (s : Teardown) (d : Nat) (hasChunk : Bool) : Option Teardown :=
  match (s.dev d).running with
  | some .copyOut =>
    some (s.set d { s.dev d with running := if hasChunk then some .entering else none })
  | _ => none

-- The first lock section of `send_request`; `queued` is whether `queue_transport_locked` took it.
def enter (s : Teardown) (d : Nat) (queued : Bool) : Option Teardown :=
  match s.drain, (s.dev d).running with
  | .idle, some .entering =>
    if queued then
      some (s.set d { s.dev d with
        running := some .waiting, listed := true, replied := false, done := false })
    else some (s.set d { s.dev d with running := some (.sent false) })
  | _, _ => none

def expire (s : Teardown) (d : Nat) : Option Teardown :=
  match (s.dev d).running, (s.dev d).done with
  | some .waiting, false => some (s.set d { s.dev d with running := some .timedOut })
  | _, _ => none

def wake (s : Teardown) (d : Nat) : Option Teardown :=
  match (s.dev d).running, (s.dev d).done with
  | some .waiting, true => some (s.set d { s.dev d with running := some .woken })
  | _, _ => none

-- The second lock section of `send_request`; `ok` is whether the status it read is not negative.
def leave (s : Teardown) (d : Nat) (ok : Bool) : Option Teardown :=
  match s.drain, (s.dev d).running with
  | .idle, some .timedOut =>
    some (s.set d { s.dev d with running := some (.sent false), listed := false })
  | .idle, some .woken =>
    some (s.set d { s.dev d with running := some (.sent ok), listed := false })
  | _, _ => none

-- The last `dev->lock` section; after a send `tx_work` queues itself again.
def finish (s : Teardown) (d : Nat) : Option Teardown :=
  match (s.dev d).running with
  | some (.sent true) => some ((s.set d { s.dev d with running := none }).queueWork d)
  | some (.sent false) => some (s.set d { s.dev d with running := none })
  | _ => none

/-! ## Replies -/

def reply (s : Teardown) (d : Nat) : Option Teardown :=
  match s.drain, (s.dev d).listed with
  | .idle, true =>
    some { s.set d { s.dev d with replied := true } with completing := d :: s.completing }
  | _, _ => none

def completeReply (s : Teardown) (d : Nat) : Option Teardown :=
  if d ∈ s.completing then
    some { s.set d { s.dev d with done := true } with completing := s.completing.erase d }
  else none

/-! ## The drain thread -/

def deviceAdd (s : Teardown) (handle bus : Nat) (isUart : Bool) : Option Teardown :=
  match s.drain with
  | .idle =>
    if s.devices.any fun d => (s.dev d).handle = handle then some s
    else some { s.set s.allocated ⟨handle, bus, isUart, false, none, false, false, false⟩ with
      allocated := s.allocated + 1
      devices := s.devices ++ [s.allocated] }
  | _ => none

-- `RESET` fails the pending requests first; the removals go straight to the devices.
def command (s : Teardown) (c : Command) : Option Teardown :=
  match s.drain with
  | .idle =>
    match c with
    | .reset => some { s with drain := .failing s.devices }
    | .deviceRemove handle =>
      some { s with drain := .destroying (s.devices.filter fun d => (s.dev d).handle = handle) }
    | .busRemove bus =>
      some { s with drain := .destroying (s.devices.filter fun d => (s.dev d).bus = bus) }
  | _ => none

-- `fail_all_locked` over the requests of the devices, then the device loop.
def failNext (s : Teardown) : Option Teardown :=
  match s.drain with
  | .failing (d :: todo) =>
    if (s.dev d).listed && !(s.dev d).replied then
      some { s.set d { s.dev d with replied := true, done := true } with drain := .failing todo }
    else some { s with drain := .failing todo }
  | .failing [] => some { s with drain := .destroying s.devices }
  | _ => none

-- `destroy_device`: a UART goes through `cancel_delayed_work_sync`, which first takes a pending
-- item off the queue.
def destroyNext (s : Teardown) : Option Teardown :=
  match s.drain with
  | .destroying (d :: todo) =>
    if (s.dev d).isUart then
      some { s.set d { s.dev d with pending := false } with drain := .cancelling d todo }
    else some { s with drain := .unregistering d todo }
  | .destroying [] => some { s with drain := .idle }
  | _ => none

-- `cancel_delayed_work_sync` returns once the item is not running.
def cancelled (s : Teardown) : Option Teardown :=
  match s.drain with
  | .cancelling d todo =>
    match (s.dev d).running with
    | none => some { s with drain := .unregistering d todo }
    | some _ => none
  | _ => none

def unregister (s : Teardown) : Option Teardown :=
  match s.drain with
  | .unregistering d todo =>
    some { s with devices := s.devices.erase d, drain := .destroying todo }
  | _ => none

def step (s : Teardown) : Step → Option Teardown
  | .deviceAdd handle bus isUart => s.deviceAdd handle bus isUart
  | .ttyWrite d => if d ∈ s.devices && (s.dev d).isUart then some (s.queueWork d) else none
  | .startWork d => s.startWork d
  | .copyOut d hasChunk => s.copyOut d hasChunk
  | .enter d queued => s.enter d queued
  | .expire d => s.expire d
  | .wake d => s.wake d
  | .leave d ok => s.leave d ok
  | .finish d => s.finish d
  | .reply d => s.reply d
  | .completeReply d => s.completeReply d
  | .command c => s.command c
  | .failNext => s.failNext
  | .destroyNext => s.destroyNext
  | .cancelled => s.cancelled
  | .unregister => s.unregister

/-! ## The deadlock -/

/-- The drain thread holds the lock and waits for a running `tx_work` that waits for the lock. -/
def Deadlocked (s : Teardown) : Prop :=
  ∃ d todo pc, s.drain = .cancelling d todo ∧ (s.dev d).running = some pc ∧ pc.atLock = true

/-- `cancel_delayed_work_sync` is entered while the device's `tx_work` is not running, or has
returned from `send_request`. -/
def CancelGuard (s : Teardown) : Step → Prop
  | .destroyNext =>
    match s.drain with
    | .destroying (d :: _) =>
      (s.dev d).isUart = true → match (s.dev d).running with
        | none | some (.sent _) => True
        | _ => False
    | _ => True
  | _ => True

-- What a device may still be doing once its work item is being cancelled.
def Quiet (x : TxDevice) : Prop :=
  x.pending = false ∧ (x.running = none ∨ ∃ ok, x.running = some (.sent ok))

/-- While the drain thread waits, the work item is past the lock and cannot start again. -/
def WaitsQuiet (s : Teardown) : Prop :=
  ∀ d todo, s.drain = .cancelling d todo → Quiet (s.dev d)

instance (s : Teardown) (label : Step) : Decidable (s.CancelGuard label) := by
  unfold CancelGuard
  split
  · split
    · refine @instDecidableForall _ _ inferInstance ?_
      split <;> infer_instance
    · infer_instance
  · infer_instance

theorem set_dev_self (s : Teardown) (d : Nat) (x : TxDevice) : (s.set d x).dev d = x := by
  simp only [set, Function.update_self]

theorem set_dev_of_ne (s : Teardown) {d d' : Nat} (x : TxDevice) (h : d' ≠ d) :
    (s.set d x).dev d' = s.dev d' := by
  simp only [set, Function.update_of_ne h]

/-! ## Steps -/

-- A step of one device that stays quiet if the device was.
theorem WaitsQuiet.set {s : Teardown} (h : s.WaitsQuiet) {d : Nat} {x : TxDevice}
    (hx : s.cancelling d = true → Quiet (s.dev d) → Quiet x) : (s.set d x).WaitsQuiet := by
  intro d' todo hdrain
  change s.drain = .cancelling d' todo at hdrain
  have hquiet := h d' todo hdrain
  by_cases hd : d' = d
  · subst hd
    rw [set_dev_self]
    exact hx (by simp [cancelling, hdrain]) hquiet
  · rw [set_dev_of_ne s x hd]
    exact hquiet

-- A step that needs the lock finds nobody waiting.
theorem waitsQuiet_of_drain {s : Teardown} (h : ∀ d todo, s.drain ≠ .cancelling d todo) :
    s.WaitsQuiet :=
  fun d todo hdrain => absurd hdrain (h d todo)

theorem WaitsQuiet.queueWork {s : Teardown} (h : s.WaitsQuiet) (d : Nat) :
    (s.queueWork d).WaitsQuiet := by
  unfold Teardown.queueWork
  split
  · exact h
  · rename_i hfree
    exact h.set fun hcancel => absurd hcancel hfree

theorem WaitsQuiet.startWork {s t : Teardown} {d : Nat} (h : s.WaitsQuiet)
    (hs : s.startWork d = some t) : t.WaitsQuiet := by
  unfold Teardown.startWork at hs
  split at hs
  · rename_i hpending _
    cases hs
    apply h.set
    intro _ hquiet
    rw [hquiet.1] at hpending
    cases hpending
  · cases hs

theorem Quiet.not_running {x : TxDevice} (h : Quiet x) {pc : TxPc} (hpc : x.running = some pc)
    (hsent : ∀ ok, pc ≠ .sent ok) : False := by
  obtain ⟨_, hnone | ⟨ok, hok⟩⟩ := h
  · rw [hnone] at hpc
    cases hpc
  · rw [hok] at hpc
    exact hsent ok (Option.some.inj hpc).symm

theorem WaitsQuiet.copyOut {s t : Teardown} {d : Nat} {hasChunk : Bool} (h : s.WaitsQuiet)
    (hs : s.copyOut d hasChunk = some t) : t.WaitsQuiet := by
  unfold Teardown.copyOut at hs
  split at hs
  · rename_i hpc
    cases hs
    exact h.set fun _ hquiet => (hquiet.not_running hpc (by simp)).elim
  · cases hs

theorem enter_drain {s t : Teardown} {d : Nat} {queued : Bool} (hs : s.enter d queued = some t) :
    t.drain = .idle := by
  unfold Teardown.enter at hs
  split at hs
  · rename_i hdrain _
    split at hs <;> cases hs <;> exact hdrain
  · cases hs

theorem WaitsQuiet.expire {s t : Teardown} {d : Nat} (h : s.WaitsQuiet)
    (hs : s.expire d = some t) : t.WaitsQuiet := by
  unfold Teardown.expire at hs
  split at hs
  · rename_i hpc _
    cases hs
    exact h.set fun _ hquiet => (hquiet.not_running hpc (by simp)).elim
  · cases hs

theorem WaitsQuiet.wake {s t : Teardown} {d : Nat} (h : s.WaitsQuiet)
    (hs : s.wake d = some t) : t.WaitsQuiet := by
  unfold Teardown.wake at hs
  split at hs
  · rename_i hpc _
    cases hs
    exact h.set fun _ hquiet => (hquiet.not_running hpc (by simp)).elim
  · cases hs

theorem leave_drain {s t : Teardown} {d : Nat} {ok : Bool} (hs : s.leave d ok = some t) :
    t.drain = .idle := by
  unfold Teardown.leave at hs
  split at hs
  · rename_i hdrain _
    cases hs
    exact hdrain
  · rename_i hdrain _
    cases hs
    exact hdrain
  · cases hs

theorem WaitsQuiet.finish {s t : Teardown} {d : Nat} (h : s.WaitsQuiet)
    (hs : s.finish d = some t) : t.WaitsQuiet := by
  have hdone : (s.set d { s.dev d with running := none }).WaitsQuiet :=
    h.set fun _ hquiet => ⟨hquiet.1, .inl rfl⟩
  unfold Teardown.finish at hs
  split at hs
  · cases hs
    exact hdone.queueWork d
  · cases hs
    exact hdone
  · cases hs

theorem reply_drain {s t : Teardown} {d : Nat} (hs : s.reply d = some t) : t.drain = .idle := by
  unfold Teardown.reply at hs
  split at hs
  · rename_i hdrain _
    cases hs
    exact hdrain
  · cases hs

theorem WaitsQuiet.completeReply {s t : Teardown} {d : Nat} (h : s.WaitsQuiet)
    (hs : s.completeReply d = some t) : t.WaitsQuiet := by
  unfold Teardown.completeReply at hs
  split at hs
  · cases hs
    exact h.set (d := d) (x := { s.dev d with done := true }) fun _ hquiet => hquiet
  · cases hs

theorem deviceAdd_drain {s t : Teardown} {handle bus : Nat} {isUart : Bool}
    (hs : s.deviceAdd handle bus isUart = some t) : t.drain = .idle := by
  unfold Teardown.deviceAdd at hs
  split at hs
  · rename_i hdrain
    split at hs <;> cases hs <;> exact hdrain
  · cases hs

theorem command_drain {s t : Teardown} {c : Command} (hs : s.command c = some t) :
    ∀ d todo, t.drain ≠ .cancelling d todo := by
  unfold Teardown.command at hs
  split at hs
  · split at hs <;> cases hs <;> exact fun _ _ => DrainPc.noConfusion
  · cases hs

theorem failNext_drain {s t : Teardown} (hs : s.failNext = some t) :
    ∀ d todo, t.drain ≠ .cancelling d todo := by
  unfold Teardown.failNext at hs
  split at hs
  · split at hs <;> cases hs <;> exact fun _ _ => DrainPc.noConfusion
  · cases hs
    exact fun _ _ => DrainPc.noConfusion
  · cases hs

-- The wait begins: the guard says where `tx_work` is.
theorem WaitsQuiet.destroyNext {s t : Teardown} (hok : s.CancelGuard .destroyNext)
    (hs : s.destroyNext = some t) : t.WaitsQuiet := by
  unfold Teardown.destroyNext at hs
  split at hs
  · rename_i d todo hdrain
    split at hs
    · rename_i huart
      cases hs
      intro d' todo' hdrain'
      cases hdrain'
      change Quiet ((s.set d _).dev d)
      rw [set_dev_self]
      refine ⟨rfl, ?_⟩
      simp only [CancelGuard, hdrain] at hok
      have hquiet := hok huart
      change (s.dev d).running = none ∨ ∃ ok, (s.dev d).running = some (.sent ok)
      cases hrun : (s.dev d).running with
      | none => exact .inl rfl
      | some pc =>
        rw [hrun] at hquiet
        cases pc with
        | sent ok => exact .inr ⟨ok, rfl⟩
        | _ => exact hquiet.elim
    · cases hs
      exact waitsQuiet_of_drain fun _ _ => DrainPc.noConfusion
  · cases hs
    exact waitsQuiet_of_drain fun _ _ => DrainPc.noConfusion
  · cases hs

theorem cancelled_drain {s t : Teardown} (hs : s.cancelled = some t) :
    ∀ d todo, t.drain ≠ .cancelling d todo := by
  unfold Teardown.cancelled at hs
  split at hs
  · split at hs
    · cases hs
      exact fun _ _ => DrainPc.noConfusion
    · cases hs
  · cases hs

theorem unregister_drain {s t : Teardown} (hs : s.unregister = some t) :
    ∀ d todo, t.drain ≠ .cancelling d todo := by
  unfold Teardown.unregister at hs
  split at hs
  · cases hs
    exact fun _ _ => DrainPc.noConfusion
  · cases hs

theorem idle_not_cancelling {s : Teardown} (h : s.drain = .idle) :
    ∀ d todo, s.drain ≠ .cancelling d todo := by
  intro d todo hdrain
  rw [h] at hdrain
  cases hdrain

theorem WaitsQuiet.step {s t : Teardown} {label : Step} (h : s.WaitsQuiet)
    (hok : s.CancelGuard label) (hs : s.step label = some t) : t.WaitsQuiet := by
  cases label with
  | deviceAdd handle bus isUart =>
    exact waitsQuiet_of_drain (idle_not_cancelling (deviceAdd_drain hs))
  | ttyWrite d =>
    simp only [Teardown.step] at hs
    split at hs
    · cases hs
      exact h.queueWork d
    · cases hs
  | startWork d => exact h.startWork hs
  | copyOut d hasChunk => exact h.copyOut hs
  | enter d queued => exact waitsQuiet_of_drain (idle_not_cancelling (enter_drain hs))
  | expire d => exact h.expire hs
  | wake d => exact h.wake hs
  | leave d ok => exact waitsQuiet_of_drain (idle_not_cancelling (leave_drain hs))
  | finish d => exact h.finish hs
  | reply d => exact waitsQuiet_of_drain (idle_not_cancelling (reply_drain hs))
  | completeReply d => exact h.completeReply hs
  | command c => exact waitsQuiet_of_drain (command_drain hs)
  | failNext => exact waitsQuiet_of_drain (failNext_drain hs)
  | destroyNext => exact WaitsQuiet.destroyNext hok hs
  | cancelled => exact waitsQuiet_of_drain (cancelled_drain hs)
  | unregister => exact waitsQuiet_of_drain (unregister_drain hs)

/-- Along every run that enters `cancel_delayed_work_sync` only past the lock, the two threads never
wait for each other. -/
theorem not_deadlocked_of_reach {s : Teardown}
    (h : Reach Teardown.step CancelGuard Teardown.init s) : ¬ s.Deadlocked := by
  have hquiet : s.WaitsQuiet := by
    apply h.invariant (I := WaitsQuiet)
    · exact waitsQuiet_of_drain fun _ _ => DrainPc.noConfusion
    · exact fun _ _ _ hinv hok hs => hinv.step hok hs
  rintro ⟨d, todo, pc, hdrain, hrun, hlock⟩
  apply (hquiet d todo hdrain).not_running hrun
  rintro ok rfl
  cases hlock

-- A step of one device leaves a `tx_work` at the lock where it is.
theorem Deadlocked.set {s : Teardown} (h : s.Deadlocked) {d : Nat} {x : TxDevice}
    (hx : ∀ pc, (s.dev d).running = some pc → pc.atLock = true → x.running = some pc) :
    (s.set d x).Deadlocked := by
  obtain ⟨d', todo, pc, hdrain, hrun, hlock⟩ := h
  refine ⟨d', todo, pc, hdrain, ?_, hlock⟩
  by_cases hd : d' = d
  · subst hd
    rw [set_dev_self]
    exact hx pc hrun hlock
  · rw [set_dev_of_ne s x hd]
    exact hrun

-- The `tx_work` that moves is not the one at the lock.
theorem Deadlocked.move {s : Teardown} (h : s.Deadlocked) {d : Nat} {pc : TxPc}
    (hpc : (s.dev d).running = some pc) (hfree : pc.atLock = false) (x : TxDevice) :
    (s.set d x).Deadlocked := by
  apply h.set
  intro pc' hrun hlock
  rw [hpc] at hrun
  cases hrun
  rw [hfree] at hlock
  cases hlock

theorem Deadlocked.queueWork {s : Teardown} (h : s.Deadlocked) (d : Nat) :
    (s.queueWork d).Deadlocked := by
  unfold Teardown.queueWork
  split
  · exact h
  · exact h.set fun _ hrun _ => hrun

/-- Nothing resolves the deadlock: neither thread can move, and no other step frees one of them. -/
theorem Deadlocked.step {s t : Teardown} {label : Step} (h : s.Deadlocked)
    (hs : s.step label = some t) : t.Deadlocked := by
  have hcancel : ∃ d todo, s.drain = .cancelling d todo := by
    obtain ⟨d, todo, _, hdrain, _⟩ := h
    exact ⟨d, todo, hdrain⟩
  obtain ⟨d₀, todo₀, hdrain₀⟩ := hcancel
  -- the works go on, up to the one that is cancelled; the drain and the reader do not
  cases label with
  | ttyWrite d =>
    simp only [Teardown.step] at hs
    split at hs
    · cases hs
      exact h.queueWork d
    · cases hs
  | startWork d =>
    simp only [Teardown.step, Teardown.startWork] at hs
    split at hs
    · rename_i _ hnone
      cases hs
      apply h.set
      intro pc hrun
      rw [hnone] at hrun
      cases hrun
    · cases hs
  | copyOut d hasChunk =>
    simp only [Teardown.step, Teardown.copyOut] at hs
    split at hs
    · rename_i hpc
      cases hs
      exact h.move hpc rfl _
    · cases hs
  | expire d =>
    simp only [Teardown.step, Teardown.expire] at hs
    split at hs
    · rename_i hpc _
      cases hs
      exact h.move hpc rfl _
    · cases hs
  | wake d =>
    simp only [Teardown.step, Teardown.wake] at hs
    split at hs
    · rename_i hpc _
      cases hs
      exact h.move hpc rfl _
    · cases hs
  | finish d =>
    simp only [Teardown.step, Teardown.finish] at hs
    split at hs
    · rename_i hpc
      cases hs
      exact (h.move hpc rfl _).queueWork d
    · rename_i hpc
      cases hs
      exact h.move hpc rfl _
    · cases hs
  | completeReply d =>
    simp only [Teardown.step, Teardown.completeReply] at hs
    split at hs
    · cases hs
      exact h.set (d := d) (x := { s.dev d with done := true }) fun _ hrun _ => hrun
    · cases hs
  | cancelled =>
    obtain ⟨d, todo, pc, hdrain, hrun, _⟩ := h
    simp only [Teardown.step, Teardown.cancelled, hdrain, hrun, reduceCtorEq] at hs
  | deviceAdd handle bus isUart =>
    simp only [Teardown.step, Teardown.deviceAdd, hdrain₀, reduceCtorEq] at hs
  | enter d queued => simp only [Teardown.step, Teardown.enter, hdrain₀, reduceCtorEq] at hs
  | leave d ok => simp only [Teardown.step, Teardown.leave, hdrain₀, reduceCtorEq] at hs
  | reply d => simp only [Teardown.step, Teardown.reply, hdrain₀, reduceCtorEq] at hs
  | command c => simp only [Teardown.step, Teardown.command, hdrain₀, reduceCtorEq] at hs
  | failNext => simp only [Teardown.step, Teardown.failNext, hdrain₀, reduceCtorEq] at hs
  | destroyNext => simp only [Teardown.step, Teardown.destroyNext, hdrain₀, reduceCtorEq] at hs
  | unregister => simp only [Teardown.step, Teardown.unregister, hdrain₀, reduceCtorEq] at hs

/-! ## Schedules -/

-- A UART whose `tx_work` has sent a chunk and is about to finish.
def sentChunk : List Step :=
  [.deviceAdd 1024 1 true, .ttyWrite 0, .startWork 0, .copyOut 0 true, .enter 0 true, .reply 0,
    .completeReply 0, .wake 0, .leave 0 true]

theorem not_deadlocked_after_send :
    ∃ s : Teardown, s.drain = .cancelling 0 [] ∧ ¬ s.Deadlocked := by
  have hrun : (exec (guarded Teardown.step CancelGuard) Teardown.init
      (sentChunk ++ [.command (.deviceRemove 1024), .destroyNext])).map drain =
        some (.cancelling 0 []) := by decide
  obtain ⟨s, hexec, hdrain⟩ := Option.map_eq_some_iff.mp hrun
  exact ⟨s, hdrain, not_deadlocked_of_reach (reach_of_exec hexec)⟩

-- `tx_work` has a chunk and is about to take the lock when a `RESET` takes it.
def resetDuringEntry : List Step :=
  [.deviceAdd 1024 1 true, .ttyWrite 0, .startWork 0, .copyOut 0 true, .command .reset, .failNext,
    .failNext, .destroyNext]

theorem deadlocked_on_reset :
    ¬ ∀ s, Reach Teardown.step anyStep Teardown.init s → ¬ s.Deadlocked := by
  intro h
  have hrun : (exec (guarded Teardown.step anyStep) Teardown.init resetDuringEntry).map
      (fun s => (s.drain, (s.dev 0).running)) = some (.cancelling 0 [], some .entering) := by
    decide
  obtain ⟨s, hexec, hview⟩ := Option.map_eq_some_iff.mp hrun
  simp only [Prod.mk.injEq] at hview
  exact h s (reach_of_exec hexec) ⟨0, [], .entering, hview.1, hview.2, rfl⟩

end Teardown

end Sensorium.Kernel

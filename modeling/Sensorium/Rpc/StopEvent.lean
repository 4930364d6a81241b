import Sensorium.Rpc.Stalls

/-!
# The stop event of the daemon

`serve_runtime_daemon` runs the server until `serve_forever` returns.  The signal handler and the
thread that `daemon.stop` starts set the stop event of the manager; the loop of the server tests a
flag of its own, which only `shutdown` sets, and `shutdown` is called by `server_close`, after the
loop.
-/

namespace Sensorium.Rpc

open Lib
open Sensorium.Model (Value Entries)

/-- `request.get("method") == "daemon.stop"`. -/
def asksStop : Value → Bool
  | .dict es =>
    match Model.get es "method" with
    | .str m => m = text "daemon.stop"
    | _ => false
  | _ => false

/-- The response of `dispatch_runtime_request` to `daemon.stop`. -/
def stopResponse : Value → Value
  | .dict es =>
    .dict [(.lit "jsonrpc", .lit "2.0"), (.lit "id", Model.get es "id"),
      (.lit "result", .dict [(.lit "ok", .bool true)])]
  | _ => .null

/-- The server and the manager, with the threads that are about to set the stop event.  `sinceStop`
counts the iterations of the loop that started after the event was set. -/
structure Daemon where
  server : Server
  stopEvent : Bool := false
  stopThreads : Nat := 0
  cleaned : Bool := false
  sinceStop : Nat := 0

def Config.daemon (cfg : Config) : Daemon := { server := cfg.initial }

inductive DaemonAct
  | server (a : Act)
  | signal
  | stopThread
  | cleanup

namespace Daemon

variable (cfg : Config) (d : Daemon)

def startsIteration : Act → Bool
  | .select _ => true
  | _ => false

/-- A step of the server itself. -/
def serve (a : Act) : Option Daemon :=
  (Rpc.step cfg d.server a).map fun server =>
    { d with
      server := server
      sinceStop := d.sinceStop + (d.stopEvent && startsIteration a).toNat }

/-- `_run_request` with `dispatch_runtime_request`. -/
def runRequest (j : Nat) (outcome : Except Text Value) : Option Daemon :=
  match d.server.jobs[j]? with
  | none => none
  | some job =>
    if asksStop job.request then
      (d.serve cfg (.finish j (.ok (stopResponse job.request)))).map fun d =>
        { d with stopThreads := d.stopThreads + 1 }
    else d.serve cfg (.finish j outcome)

def step (d : Daemon) : DaemonAct → Option Daemon
  -- nothing else in the daemon calls `shutdown` or `server_close`
  | .server .shutdown | .server .serverClose => none
  | .server (.finish j outcome) => runRequest cfg d j outcome
  | .server a => d.serve cfg a
  | .signal => some { d with stopEvent := true }
  | .stopThread =>
    if 0 < d.stopThreads then
      some { d with stopThreads := d.stopThreads - 1, stopEvent := true }
    else none
  | .cleanup =>
    if d.cleaned then none
    else
      (Rpc.step cfg d.server .serverClose).map fun server =>
        { d with server := server, stopEvent := true, cleaned := true }

/-! ## The flag of the loop -/

variable {cfg : Config} {d d' : Daemon}

/-- Until the cleanup the flag of the server is clear, and the cleanup follows an exception. -/
structure Unstopped (d : Daemon) : Prop where
  returned : d.server.pc ≠ .returned
  stop : d.cleaned = false → d.server.stop = false
  cleaned : d.cleaned = true → d.server.pc = .raised

theorem ofKeys_ne_returned (keys : List Key) : Pc.ofKeys keys ≠ .returned := by
  cases keys <;> exact fun h => by cases h

theorem ofWaiters_ne_returned (now : Nat) (cs : List Nat) : Pc.ofWaiters now cs ≠ .returned := by
  cases cs <;> exact fun h => by cases h

theorem stop_closeClient (s : Server) (c : Nat) (client : Client) (reason : Reason) :
    (s.closeClient c client reason).stop = s.stop := by
  unfold Server.closeClient
  split <;> rfl

/-- Only `shutdown` and `server_close` set the flag. -/
theorem stop_of_moves {s t : Server} {a : Act} (hmove : Moves cfg s a t) (hs : a ≠ .shutdown)
    (hc : a ≠ .serverClose) : t.stop = s.stop := by
  cases hmove with
  | hungUp | tooLong | refused | unwritable | unmodified => exact stop_closeClient _ _ _ _
  | shutDown => exact absurd rfl hs
  | serverClosed => exact absurd rfl hc
  | _ => rfl

/-- The loop returns only where the flag is set. -/
theorem returned_of_moves {s t : Server} {a : Act} (hmove : Moves cfg s a t)
    (ht : t.pc = .returned) : s.pc = .returned ∨ s.stop = true := by
  cases hmove with
  | left _ _ hstop => exact .inr hstop
  | selected | passed | connected | hungUp | tooLong | refused | unflushed | unwritable | flushed =>
    exact absurd ht (ofKeys_ne_returned _)
  | took =>
    refine absurd ht ?_
    show Pc.afterRead _ _ _ ≠ _
    unfold Pc.afterRead
    split
    · exact fun h => by cases h
    · exact ofKeys_ne_returned _
  | toFlush | rejected | gone | waitRaised | foundRaised | drainRaised | pollRaised => cases ht
  | drained | skipped | polled => exact absurd ht (ofWaiters_ne_returned _ _)
  | dispatched | found | waits | full | submitted | discarded | answered | finished | completed
  | shutDown => exact .inl ht
  | unmodified => exact .inl ((pc_closeClient _ _ _ _).symm.trans ht)
  | serverClosed => exact .inl ((pc_closeAll s).symm.trans ht)

/-- After an exception the loop takes no step. -/
theorem raised_of_moves {s t : Server} {a : Act} (hmove : Moves cfg s a t) (hs : s.pc = .raised)
    (hd : s.dispatching = none) : t.pc = .raised := by
  cases hmove with
  | left _ hpc | selected _ hpc | passed _ hpc | rejected _ hpc | connected _ hpc
  | unflushed _ hpc | unwritable _ hpc | flushed _ hpc | drained _ hpc | discarded _ hpc
  | skipped _ hpc =>
    rw [hs] at hpc
    cases hpc
  | toFlush hat | gone hat | hungUp hat | tooLong hat | refused hat | took hat | pollRaised hat
  | polled hat =>
    have hpc := hat.pc
    rw [hs] at hpc
    cases hpc
  | dispatched hsome =>
    rw [hd] at hsome
    cases hsome
  | waitRaised hpop | foundRaised hpop | found hpop | waits hpop | full hpop | submitted hpop =>
    have hsome := hpop.dispatching
    rw [hd] at hsome
    cases hsome
  | drainRaised => rfl
  | answered hdrain =>
    have hpc := hdrain.pc
    rw [hs] at hpc
    cases hpc
  | unmodified hrun =>
    rw [hs] at hrun
    cases hrun
  | finished | completed | shutDown => exact hs
  | serverClosed => exact (pc_closeAll s).trans hs

namespace Unstopped

theorem serve {a : Act} (h : d.Unstopped) (hhalts : d.server.Halts) (hs : a ≠ .shutdown)
    (hc : a ≠ .serverClose) (hstep : d.serve cfg a = some d') :
    d'.Unstopped ∧ d'.server.Halts := by
  obtain ⟨server, hserver, heq⟩ := Option.map_eq_some_iff.mp hstep
  cases heq
  have hmove := moves_of_step hserver
  have hraised : d.cleaned = true → server.pc = .raised := fun hcleaned =>
    raised_of_moves hmove (h.cleaned hcleaned)
      (hhalts (by rw [h.cleaned hcleaned]; rfl))
  refine ⟨⟨fun hreturned => ?_, fun hclean => ?_, hraised⟩, hhalts.moves hmove⟩
  · cases hcleaned : d.cleaned with
    | true =>
      rw [show server.pc = .returned from hreturned] at hraised
      cases hraised hcleaned
    | false =>
      rcases returned_of_moves hmove hreturned with hold | hstop
      · exact h.returned hold
      · rw [h.stop hcleaned] at hstop
        cases hstop
  · exact (stop_of_moves hmove hs hc).trans (h.stop hclean)

theorem step {a : DaemonAct} (h : d.Unstopped) (hhalts : d.server.Halts)
    (hstep : d.step cfg a = some d') : d'.Unstopped ∧ d'.server.Halts := by
  unfold Daemon.step at hstep
  split at hstep
  · cases hstep
  · cases hstep
  · rename_i j outcome
    unfold runRequest at hstep
    split at hstep
    · cases hstep
    · split at hstep
      · obtain ⟨d₁, hserve, heq⟩ := Option.map_eq_some_iff.mp hstep
        cases heq
        obtain ⟨h₁, hhalts₁⟩ := h.serve hhalts (fun h => by cases h) (fun h => by cases h) hserve
        exact ⟨⟨h₁.returned, h₁.stop, h₁.cleaned⟩, hhalts₁⟩
      · exact h.serve hhalts (fun h => by cases h) (fun h => by cases h) hstep
  · rename_i a hs hc _
    exact h.serve hhalts (fun heq => hs heq) (fun heq => hc heq) hstep
  · cases hstep
    exact ⟨⟨h.returned, h.stop, h.cleaned⟩, hhalts⟩
  · rw [Option.ite_none_right_eq_some] at hstep
    cases hstep.2
    exact ⟨⟨h.returned, h.stop, h.cleaned⟩, hhalts⟩
  · rw [Option.ite_none_left_eq_some] at hstep
    obtain ⟨hclean, hstep⟩ := hstep
    obtain ⟨server, hserver, heq⟩ := Option.map_eq_some_iff.mp hstep
    cases heq
    rw [Rpc.step, Option.ite_none_right_eq_some] at hserver
    obtain ⟨hended, hserver⟩ := hserver
    cases hserver
    -- the loop has not returned, so it has raised
    have hraised : d.server.pc = .raised := by
      cases hpc : d.server.pc with
      | raised => rfl
      | returned => exact absurd hpc h.returned
      | top | events | flush | drain | waiters =>
        rw [hpc] at hended
        cases hended
    have hpc : d.server.closeAll.pc = .raised := (pc_closeAll _).trans hraised
    refine ⟨⟨fun hreturned => ?_, fun hclean => (by cases hclean), fun _ => hpc⟩, fun _ => ?_⟩
    · rw [show d.server.closeAll.pc = .returned from hreturned] at hpc
      cases hpc
    · exact (dispatching_closeAll _).trans (hhalts (by rw [hraised]; rfl))

theorem reach (hr : Reach (Daemon.step cfg) anyStep cfg.daemon d) : d.Unstopped := by
  have hinitial : cfg.daemon.Unstopped ∧ cfg.daemon.server.Halts :=
    ⟨⟨fun h => (by cases h), fun _ => rfl, fun h => by cases h⟩, fun _ => rfl⟩
  exact (Reach.invariant (I := fun d : Daemon => d.Unstopped ∧ d.server.Halts) hinitial
    (fun _ _ _ h _ hs => h.1.step h.2 hs) hr).1

end Unstopped

end Daemon

/-- In every state that the daemon reaches, whether or not the stop event is set, the loop has not
returned, and at its test it goes on: it cannot leave, and one more iteration can start. -/
theorem stop_event_ignored {cfg : Config} {d : Daemon}
    (hr : Reach (Daemon.step cfg) anyStep cfg.daemon d) :
    d.server.pc ≠ .returned ∧
    (d.server.betweenIterations → d.step cfg (.server .leave) = none ∧
      ∃ d', d.step cfg (.server (.select [])) = some d' ∧
        d'.sinceStop = d.sinceStop + d.stopEvent.toNat) := by
  have h := Daemon.Unstopped.reach hr
  refine ⟨h.returned, ?_⟩
  rintro ⟨hpc, hd⟩
  have hclean : d.cleaned = false := by
    cases hcleaned : d.cleaned with
    | false => rfl
    | true =>
      rw [h.cleaned hcleaned] at hpc
      cases hpc
  have hstop := h.stop hclean
  constructor
  · simp [Daemon.step, Daemon.serve, step, Server.loop, hpc, hd, hstop]
  · simp [Daemon.step, Daemon.serve, step, Server.loop, hpc, hd, hstop, Server.ready,
      Daemon.startsIteration]

/-- An iteration of the loop with no events and one client that does not wait. -/
def quietIteration : List DaemonAct :=
  [.server (.select []), .server (.drain 0), .server (.poll none)]

/-- A client sends `daemon.stop`, the request is executed, and the stop event is set. -/
def stopping : List DaemonAct :=
  let request : List Act :=
    connecting ++ sending 0 (call "daemon.stop" ++ [newline]) ++
      [.dispatch none 0, .dispatch none 0, .finish 0 (.ok .null), .drain 0, .poll none]
  request.map .server ++ [.stopThread]

/-- After `daemon.stop` the next iteration starts. -/
theorem stop_event_ignored_once : ∃ d : Daemon, d.stopEvent = true ∧
    ∃ d', d.step .small (.server (.select [])) = some d' ∧ d'.sinceStop = d.sinceStop + 1 := by
  have hrun : (exec (guarded (Daemon.step .small) anyStep) Config.small.daemon stopping).map
      (fun d => decide (d.stopEvent = true) && decide d.server.betweenIterations) = some true := by
    decide +kernel
  obtain ⟨d, hd, hview⟩ := Option.map_eq_some_iff.mp hrun
  rw [Bool.and_eq_true, decide_eq_true_eq, decide_eq_true_eq] at hview
  obtain ⟨d', hnext, hcount⟩ := ((stop_event_ignored (reach_of_exec hd)).2 hview.2).2
  rw [hview.1] at hcount
  exact ⟨d, hview.1, d', hnext, hcount⟩

/-- After `daemon.stop` two further iterations have started and ended, and the loop is at its
test. -/
theorem stop_event_ignored_twice : ∃ d : Daemon,
    Reach (Daemon.step .small) anyStep Config.small.daemon d ∧ d.stopEvent = true ∧
    2 ≤ d.sinceStop ∧ d.server.betweenIterations := by
  have hrun : (exec (guarded (Daemon.step .small) anyStep) Config.small.daemon
      (stopping ++ quietIteration ++ quietIteration)).map
      (fun d => decide (d.stopEvent = true) && decide (2 ≤ d.sinceStop) &&
        decide d.server.betweenIterations) = some true := by
    decide +kernel
  obtain ⟨d, hd, hview⟩ := Option.map_eq_some_iff.mp hrun
  simp only [Bool.and_eq_true, decide_eq_true_eq] at hview
  exact ⟨d, reach_of_exec hd, hview.1.1, hview.1.2, hview.2⟩

end Sensorium.Rpc

import Sensorium.Inventory.Snapshots

/-!
# A failed apply changes nothing or everything

`apply_model` keeps a snapshot of what it replaces and puts it back when a write fails.  From a
state in which daemon and kernel agree and every attached backend is a non-empty string, a call
that raises leaves the inventory as it was, or empty as it was, or marks the daemon
desynchronised.
-/

namespace Sensorium.Inventory

open Lib Model

/-! ## The call on its own -/

/-- The locals of the call say what the daemon held before it. -/
structure Call.Recalls (c : Call) (d : Daemon) : Prop where
  synced : d.runtimeState ≠ .desynced
  generation : c.generation = d.generation
  previous : ∀ s, c.previous = some s → d.snapshot = some s
  nothing : c.previous = none → d.buses = [] ∧ d.devices = []

/-- The daemon after a call that raised. -/
inductive Outcome (d d' : Daemon) : Prop
  | unchanged (h : Unchanged d d')
  | nothing (hs : d.runtimeState ≠ .desynced) (hd : d.buses = [] ∧ d.devices = [])
      (hd' : d'.buses = [] ∧ d'.devices = [])
  | desynced (h : d'.runtimeState = .desynced)

/-- What a call of `apply_model` knows at each place, from the daemon `d₀` it started with. -/
def Pc.Undo (d₀ d : Daemon) : Pc → Prop
  | .idle (some .returned) | .settleFailed | .fatal => True
  | .idle (some .raised) => Outcome d₀ d
  | .send (.apply c) | .sent (.apply c) | .adds (.apply c) _ _ _ => c.Recalls d₀
  | .send (.discard c) | .sent (.discard c) => c.Recalls d₀
  | .rollback c s => c.Recalls d₀ ∧ c.previous = some s
  | .adds (.rollback c m attachments) buses devices _ =>
    c.Recalls d₀ ∧ (∃ s, c.previous = some s ∧ s.restore = some (m, attachments)) ∧
      Rebuilt d m buses devices
  | _ => False

variable {d₀ d : Daemon} {k : Kernel} {o : Outside}

theorem outcome_refreshBridgeMetrics (d : Daemon) (o : Outside) :
    Outcome d (d.refreshBridgeMetrics o) := by
  rcases d.refreshBridgeMetrics_eq o with h | h
  · rw [h]
    exact .unchanged (unchanged_of_eq rfl rfl rfl)
  · rw [h]
    exact .desynced rfl

theorem undo_begin {d' : Daemon} {p : Pc} {locked : Bool} {raw : Value}
    (h : d.begin locked o (.apply raw) = some (d', p)) : p.Undo d d' := by
  cases begins_of_begin h with
  | invalid _ => exact .unchanged (unchanged_of_eq rfl rfl rfl)
  | applyDesynced _ _ hd => exact .desynced hd
  | applyBlank _ _ hd hblank =>
    simp only [Daemon.blank, Bool.and_eq_true, List.isEmpty_iff] at hblank
    exact ⟨hd, rfl, fun s hs => (by cases hs), fun _ => hblank.1⟩
  | applyUnsaved _ _ _ _ _ => exact outcome_refreshBridgeMetrics d o
  | applyOver _ _ hd _ hs =>
    -- What is found out about the session is neither exported nor counted.
    have hsame : (d.refreshBridgeMetrics o).snapshot = d.snapshot ∧
        (d.refreshBridgeMetrics o).generation = d.generation := by
      rcases d.refreshBridgeMetrics_eq o with h | h <;> rw [h] <;> exact ⟨rfl, rfl⟩
    refine ⟨hd, hsame.2, ?_, fun hnone => by cases hnone⟩
    intro s' hs'
    rw [← hsame.1, hs]
    exact hs'

theorem BusAdded.rebuilt {m : RuntimeModel} {bus : Bus} {buses : List Bus} {devices : List Device}
    {r : Added} (h : BusAdded d k bus r) (hr : Rebuilt d m (bus :: buses) devices) :
    Rebuilt r.daemon m buses devices where
  buses := by
    rw [← hr.buses, Daemon.busTable, h.buses, List.map_append, List.append_assoc]
    rfl
  devices := by
    rw [h.devices]
    exact hr.devices
  unattached := by
    rw [h.devices]
    exact hr.unattached

theorem DeviceAdded.rebuilt {m : RuntimeModel} {dev : Device} {buses : List Bus}
    {devices : List Device} {r : Added} (h : DeviceAdded d k dev r)
    (hr : Rebuilt d m buses (dev :: devices)) : Rebuilt r.daemon m buses devices where
  buses := by
    rw [Daemon.busTable, h.buses]
    exact hr.buses
  devices := by
    obtain ⟨_, _, hdevices⟩ := h.devices
    rw [← hr.devices, hdevices, List.map_append, List.append_assoc]
    rfl
  unattached := by
    obtain ⟨_, _, hdevices⟩ := h.devices
    rw [hdevices]
    exact forall_mem_append_singleton hr.unattached ⟨rfl, rfl⟩

/-- One step of the first attempt: the call still knows what it replaced. -/
theorem Job.AddStep.undo_apply {c : Call} {buses : List Bus} {devices : List Device} {m : Move}
    (h : (Job.apply c).AddStep d k buses devices m) (hc : c.Recalls d₀) :
    m.pc.Undo d₀ m.daemon := by
  cases h with
  | failed _ _ => exact hc
  | modem => exact hc
  | bus _ => exact hc
  | device _ => exact hc
  | done _ _ => trivial

/-- One step of the rollback: what is rebuilt is what was there. -/
theorem Job.AddStep.undo_rollback {c : Call} {s : Snapshot} {m : RuntimeModel}
    {attachments : Attachments} {buses : List Bus} {devices : List Device} {move : Move}
    (h : (Job.rollback c m attachments).AddStep d k buses devices move) (ht : d₀.Tidy)
    (hn : d₀.Named) (hc : c.Recalls d₀) (hs : c.previous = some s)
    (hrestore : s.restore = some (m, attachments)) (hr : Rebuilt d m buses devices) :
    move.pc.Undo d₀ move.daemon := by
  cases h with
  | failed _ _ => trivial
  | modem => exact ⟨hc, ⟨s, hs, hrestore⟩, hr⟩
  | bus hadd => exact ⟨hc, ⟨s, hs, hrestore⟩, hadd.rebuilt hr⟩
  | device hadd => exact ⟨hc, ⟨s, hs, hrestore⟩, hadd.rebuilt hr⟩
  | done hattach hd =>
    rcases hd with rfl | rfl
    · have ha := attaches_attachAll hattach
      exact .unchanged (unchanged_of_rebuilt ht hn (hc.previous s hs) hrestore hr
        ⟨ha.buses, ha.devices⟩ hc.generation)
    · exact .desynced rfl

theorem undo_discarded {c : Call} (hc : c.Recalls d₀) (hb : d.buses = []) (hd : d.devices = []) :
    c.discarded.Undo d₀ d := by
  unfold Call.discarded
  split
  · rename_i s hs
    exact ⟨hc, hs⟩
  · rename_i hnone
    exact .nothing hc.synced (hc.nothing hnone) ⟨hb, hd⟩

/-- The daemon is cleared, or it keeps its records: then the call still discards them, or it ends
in `desynced`. -/
theorem undo_accepted {x : Sender} (hp : (Pc.sent x).Undo d₀ d)
    (hx : (Pc.sent x).discards = true → d.runtimeState ≠ .desynced →
      (d.clearState o).2 = true) : (x.accepted d k o).pc.Undo d₀ (x.accepted d k o).daemon := by
  rcases x.accepted_cases d k o with he | ⟨hraised, he⟩
  · rw [he]
    cases x with
    | reset | resync _ _ => cases hp
    | apply c => exact hp
    | discard c => exact undo_discarded hp rfl rfl
  · rw [he]
    cases x with
    | reset | resync _ _ => cases hp
    | apply c => exact hp
    | discard c =>
      refine .desynced ?_
      by_contra hsync
      rw [hx rfl hsync] at hraised
      cases hraised

theorem undo_advance {p : Pc} {m : Move} (ht : d₀.Tidy) (hn : d₀.Named) (hf : p.Fits d k)
    (hp : p.Undo d₀ d)
    (hx : p.discards = true → d.runtimeState ≠ .desynced → (d.clearState o).2 = true)
    (h : advance d k o p = some m) : m.pc.Undo d₀ m.daemon := by
  cases p with
  | idle _ => cases h
  | send x =>
    rw [advance] at h
    cases x with
    | reset | resync _ _ => cases hp
    | apply c | discard c =>
      split at h
      · cases h
        first | exact hp | trivial
      · cases h
        exact hp
  | sent x =>
    cases h
    exact undo_accepted hp hx
  | adds job buses devices modem =>
    cases h
    have hstep := job.add_cases k o modem hf.2
    cases job with
    | apply c => exact hstep.undo_apply hp
    | rollback c m attachments =>
      obtain ⟨hc, ⟨s, hs, hrestore⟩, hr⟩ := hp
      exact hstep.undo_rollback ht hn hc hs hrestore hr
    | resync _ _ => cases hp
  | rollback c s =>
    rw [advance] at h
    split at h
    · cases h
      trivial
    · rename_i restored attachments hrestore
      cases h
      rcases c.rolledBack_cases d k o restored attachments with he | ⟨_, _, he⟩
      · rw [he]
        exact ⟨hp.1, ⟨s, hp.2, hrestore⟩, rfl, rfl, fun p hp => by cases hp⟩
      · rw [he]
        trivial
  | settleFailed =>
    cases h
    dsimp only
    split
    · trivial
    · exact .desynced (d.settle_desynced o)
  | fatal =>
    cases h
    exact .desynced (d.settle_desynced o)
  | resyncFailed => cases hp

/-! ## The call in the system -/

namespace World

variable {w w' : World} {t : Nat}

/-- Worker `t` is in a call of `apply_model` that started with `d₀`, and no other works. -/
structure Undoing (d₀ : Daemon) (t : Nat) (w : World) : Prop where
  sound : w.Sound
  alone : ∀ (u : Nat) (q : Pc), u ≠ t → w.pcs[u]? = some q → q.isIdle = true
  undo : ∃ p, w.pcs[t]? = some p ∧ p.Undo d₀ w.daemon

theorem Quiet.alone (hq : w.Quiet) {u : Nat} {q : Pc} (hu : w.pcs[u]? = some q) :
    q.isIdle = true :=
  hq q (List.mem_of_getElem? hu)

theorem undoing_call {raw : Value} (h : w.Sound) (hq : w.Quiet)
    (hs : step w (.call t (.apply raw) o) = some w') : Undoing w.daemon t w' := by
  have hsound := sound_step (a := .call t (.apply raw) o) h ⟨trivial, trivial⟩ hs
  rw [step] at hs
  split at hs
  · rename_i last hp
    obtain ⟨⟨d', p⟩, hb, hw'⟩ := Option.map_eq_some_iff.mp hs
    subst hw'
    refine ⟨hsound, ?_, p, getElem?_set_of_eq hp p, undo_begin hb⟩
    intro u q hut hu
    rcases getElem?_set_cases hu with ⟨heq, _⟩ | ⟨_, hu⟩
    · exact absurd heq hut
    · exact hq.alone hu
  · cases hs

-- The other workers are idle, so that no `RESET` of this one meets them.
theorem Undoing.exclusive (h : Undoing d₀ t w) (hclears : clears w (.go t o)) :
    exclusive w (.go t o) := by
  refine ⟨?_, hclears⟩
  intro hsend _ p hp
  obtain ⟨u, hu⟩ := List.getElem?_of_mem hp
  by_cases hut : u = t
  · subst hut
    rw [hu] at hsend
    cases p with
    | send x => rfl
    | idle _ | sent _ | adds _ _ _ _ | rollback _ _ | settleFailed | fatal | resyncFailed =>
      cases hsend
  · have hidle := h.alone u p hut hu
    cases p with
    | idle _ => rfl
    | send _ | sent _ | adds _ _ _ _ | rollback _ _ | settleFailed | fatal | resyncFailed =>
      cases hidle

theorem Undoing.go (ht : d₀.Tidy) (hn : d₀.Named) (h : Undoing d₀ t w)
    (hclears : clears w (.go t o)) (hs : step w (.go t o) = some w') : Undoing d₀ t w' := by
  have hsound := sound_step h.sound (h.exclusive hclears) hs
  obtain ⟨p, hp, hundo⟩ := h.undo
  rw [clears, hp] at hclears
  rw [step, hp] at hs
  dsimp only at hs
  split at hs
  · cases hs
  · obtain ⟨m, hm, hw'⟩ := Option.map_eq_some_iff.mp hs
    subst hw'
    refine ⟨hsound, ?_, m.pc, getElem?_set_of_eq hp m.pc,
      undo_advance ht hn (h.sound.fits t p hp) hundo hclears hm⟩
    intro u q hut hu
    rcases getElem?_set_cases hu with ⟨heq, _⟩ | ⟨_, hu⟩
    · exact absurd heq hut
    · exact h.alone u q hut hu

theorem Undoing.quiet {last : Option Ending} (h : Undoing d₀ t w)
    (hp : w.pcs[t]? = some (.idle last)) : w.Quiet := by
  intro q hq
  obtain ⟨u, hu⟩ := List.getElem?_of_mem hq
  by_cases hut : u = t
  · subst hut
    rw [hp] at hu
    cases hu
    rfl
  · exact h.alone u q hut hu

theorem undoing_exec {raw : Value} {outs : List Outside} (h : w.Sound) (hq : w.Quiet)
    (hn : w.daemon.Named)
    (hrun : exec (guarded step clears) w (.call t (.apply raw) o :: outs.map (.go t)) = some w') :
    Undoing w.daemon t w' := by
  obtain ⟨u, hcall, hrun⟩ := Option.bind_eq_some_iff.mp hrun
  obtain ⟨_, hcall⟩ := of_guarded hcall
  refine exec_invariant (undoing_call h hq hcall) ?_ hrun
  intro v a v' ha hv hs
  obtain ⟨o, _, rfl⟩ := List.mem_map.mp ha
  obtain ⟨hclears, hs⟩ := of_guarded hs
  exact hv.go h.tidy hn hclears hs

end World

/-- What may hold of the states before and after a call of `apply_model` that raises: the inventory,
the attachments and the generation are the same and the kernel has them; or there is no inventory
before and after; or the daemon is desynchronised. -/
def AllOrNothing (w w' : World) : Prop :=
  (Unchanged w.daemon w'.daemon ∧ w'.kernel.entries = w'.daemon.entries) ∨
    (w.daemon.entries = [] ∧ w.kernel.entries = [] ∧ w'.daemon.entries = [] ∧
      w'.kernel.entries = []) ∨
    w'.daemon.runtimeState = .desynced

theorem entries_eq_nil (h : d.buses = [] ∧ d.devices = []) : d.entries = [] := by
  rw [Daemon.entries, h.1, h.2]
  rfl

/-- A failed apply is all or nothing, whatever the bridge refuses during the call, in the runs in
which daemon and kernel stay together and from states in which every attached backend is a non-empty
string, if the failed apply can clear the daemon. -/
theorem apply_all_or_nothing {generation n t : Nat} {w w' : World} {raw : Value} {o : Outside}
    {outs : List Outside} (hr : Reach step exclusive (start .empty generation n) w)
    (hq : w.Quiet) (hn : w.daemon.Named)
    (hrun : exec (guarded step clears) w (.call t (.apply raw) o :: outs.map (.go t)) = some w')
    (hraised : w'.pcs[t]? = some (.idle (some .raised))) : AllOrNothing w w' := by
  have hsound := World.sound_of_reach hr
  have hundoing := World.undoing_exec hsound hq hn hrun
  by_cases hdesynced : w'.daemon.runtimeState = .desynced
  · exact .inr (.inr hdesynced)
  have hagree := (hundoing.sound.agree (hundoing.quiet hraised) hdesynced).entries
  obtain ⟨p, hp, hundo⟩ := hundoing.undo
  rw [hraised] at hp
  cases hp
  cases hundo with
  | unchanged h => exact .inl ⟨h, hagree⟩
  | nothing hsynced hd hd' =>
    refine .inr (.inl ⟨entries_eq_nil hd, ?_, entries_eq_nil hd', ?_⟩)
    · rw [(hsound.agree hq hsynced).entries, entries_eq_nil hd]
    · rw [hagree, entries_eq_nil hd']
  | desynced h => exact absurd h hdesynced

/-! ## A refused `RESET` -/

/-- A bridge that refuses the write and reports nothing. -/
def refusing : Outside := ⟨true, false, false, false⟩

/-- The first `RESET` is refused; the discarding one and the writes of the rollback go through. -/
def refusedApply (t : Nat) : List Act :=
  .call t (.apply bench) calm :: [refusing, calm, calm, calm, calm, calm, calm].map (.go t)

/-- The model is applied and its device attached to `backend`. -/
def applyAttached (backend : BackendId) : List Act :=
  applyBench 0 ++ [.change (.attach backend [text "t0"])]

-- How the last call of a worker ended, where it is idle.
def ending (w : World) (t : Nat) : Option Ending :=
  match w.pcs[t]? with
  | some (.idle last) => last
  | _ => none

theorem pcs_of_ending {w : World} {t : Nat} {e : Ending} (h : ending w t = some e) :
    w.pcs[t]? = some (.idle (some e)) := by
  unfold ending at h
  split at h
  · rename_i last hp
    rw [hp, h]
  · cases h

/-- What the examples below look at. -/
structure Report where
  quiet : Bool
  ending : Option Ending
  state : RuntimeState
  attached : List (Option BackendId)
  daemon : List Entry
  kernel : List Entry
  deriving DecidableEq

def report (w : World) : Report :=
  ⟨w.Quiet, ending w 0, w.daemon.runtimeState, w.daemon.devices.map fun p => p.2.attachedBackend,
    w.daemon.entries, w.kernel.entries⟩

def benchReport (ending : Ending) (backend : BackendId) : Report :=
  ⟨true, some ending, .ready, [some backend], benchEntries, benchEntries⟩

theorem exec_of_report {ok : World → Act → Prop} [∀ w a, Decidable (ok w a)]
    {during : World → Act → Option World} {before call : List Act} {r r' : Report}
    (h : (exec (guarded step ok) (start .empty 0 2) before).map
      (fun w => (report w, (exec during w call).map report)) = some (r, some r')) :
    ∃ w w', Reach step ok (start .empty 0 2) w ∧ exec during w call = some w' ∧ report w = r ∧
      report w' = r' := by
  obtain ⟨w, hexec, hview⟩ := Option.map_eq_some_iff.mp h
  obtain ⟨hw, hcall⟩ := Prod.mk.inj hview
  obtain ⟨w', hexec', hw'⟩ := Option.map_eq_some_iff.mp hcall
  exact ⟨w, w', reach_of_exec hexec, hexec', hw, hw'⟩

theorem quiet_of_report {w : World} {r : Report} (h : report w = r) (hq : r.quiet = true) :
    w.Quiet := by
  rw [← h] at hq
  exact of_decide_eq_true hq

theorem named_of_report {w : World} {r : Report} (h : report w = r)
    (hn : ∀ b ∈ r.attached, b.all BackendId.isName = true) : w.daemon.Named := by
  rw [← h] at hn
  exact fun p hp => hn _ (List.mem_map_of_mem hp)

theorem raised_of_report {w : World} {r : Report} (h : report w = r)
    (he : r.ending = some .raised) : w.pcs[0]? = some (.idle (some .raised)) := by
  rw [← h] at he
  exact pcs_of_ending he

/-- The device keeps its backend, and nothing is desynchronised. -/
theorem apply_all_or_nothing_refused :
    ∃ w w' : World, report w' = benchReport .raised (.str (text "ctl")) ∧ AllOrNothing w w' := by
  have hrun : (exec (guarded step exclusive) (start .empty 0 2)
      (applyAttached (.str (text "ctl")))).map
        (fun w => (report w, (exec (guarded step clears) w (refusedApply 0)).map report)) =
      some (benchReport .returned (.str (text "ctl")),
        some (benchReport .raised (.str (text "ctl")))) := by decide +kernel
  obtain ⟨w, w', hr, hexec, hw, hw'⟩ := exec_of_report hrun
  exact ⟨w, w', hw', apply_all_or_nothing hr (quiet_of_report hw rfl)
    (named_of_report hw (by decide)) hexec (raised_of_report hw' rfl)⟩

-- The daemon cleared by the first worker, the kernel filled by the second.
def apartReport (ending : Ending) : Report := ⟨true, some ending, .empty, [], [], benchEntries⟩

/-- The first `RESET` is refused; after the second the worker of the device cannot be stopped. -/
def unkillableApply : List Act :=
  .call 0 (.apply managedBench) calm :: [refusing, calm, unkillable].map (.go 0)

-- The daemon keeps its records over an empty kernel.
def keptReport : Report := ⟨true, some .raised, .applying, [none], benchEntries, []⟩

theorem not_allOrNothing_of_report {w w' : World} {r r' : Report} (hw : report w = r)
    (hw' : report w' = r') (h : ¬(r'.kernel = r'.daemon ∧ r'.attached = r.attached) ∧
      r.daemon ++ r.kernel ≠ [] ∧ r'.state ≠ .desynced) : ¬AllOrNothing w w' := by
  rw [← hw, ← hw'] at h
  obtain ⟨hdiffer, hsome, hsync⟩ := h
  rintro (⟨hsame, hentries⟩ | ⟨hdaemon, hkernel, _⟩ | hdesynced)
  · exact hdiffer ⟨hentries, hsame.attachments⟩
  · refine hsome ?_
    change w.daemon.entries ++ w.kernel.entries = []
    rw [hdaemon, hkernel]
    rfl
  · exact hsync hdesynced

/-- A backend attached under the number 5 comes back as the string `"5"`; from a state in which two
operations have overlapped, a model that is turned down leaves daemon and kernel apart; and a worker
that cannot be stopped leaves the old records over an empty kernel. -/
theorem apply_not_all_or_nothing :
    (¬ ∀ w w' : World, Reach step exclusive (start .empty 0 2) w → w.Quiet →
      exec step w (refusedApply 0) = some w' → w'.pcs[0]? = some (.idle (some .raised)) →
      AllOrNothing w w') ∧
    (¬ ∀ w w' : World, Reach step anyStep (start .empty 0 2) w → w.Quiet → w.daemon.Named →
      exec step w [.call 0 (.apply .null) calm] = some w' →
      w'.pcs[0]? = some (.idle (some .raised)) → AllOrNothing w w') ∧
    ¬ ∀ w w' : World, Reach step exclusive (start .empty 0 2) w → w.Quiet → w.daemon.Named →
      exec step w unkillableApply = some w' → w'.pcs[0]? = some (.idle (some .raised)) →
      AllOrNothing w w' := by
  refine ⟨?_, ?_, ?_⟩
  · intro h
    have hrun : (exec (guarded step exclusive) (start .empty 0 2) (applyAttached (.int 5))).map
        (fun w => (report w, (exec step w (refusedApply 0)).map report)) =
        some (benchReport .returned (.int 5), some (benchReport .raised (.str (text "5")))) := by
      decide +kernel
    obtain ⟨w, w', hr, hexec, hw, hw'⟩ := exec_of_report hrun
    exact not_allOrNothing_of_report hw hw' (by decide)
      (h w w' hr (quiet_of_report hw rfl) hexec (raised_of_report hw' rfl))
  · intro h
    have hrun : (exec (guarded step anyStep) (start .empty 0 2) resetAroundApply).map
        (fun w => (report w, (exec step w [.call 0 (.apply .null) calm]).map report)) =
        some (apartReport .returned, some (apartReport .raised)) := by decide +kernel
    obtain ⟨w, w', hr, hexec, hw, hw'⟩ := exec_of_report hrun
    exact not_allOrNothing_of_report hw hw' (by decide) (h w w' hr (quiet_of_report hw rfl)
      (named_of_report hw (by decide)) hexec (raised_of_report hw' rfl))
  · intro h
    have hrun : (exec (guarded step exclusive) (start .empty 0 2) (applyOf managedBench 0)).map
        (fun w => (report w, (exec step w unkillableApply).map report)) =
        some (⟨true, some .returned, .ready, [none], benchEntries, benchEntries⟩,
          some keptReport) := by decide +kernel
    obtain ⟨w, w', hr, hexec, hw, hw'⟩ := exec_of_report hrun
    exact not_allOrNothing_of_report hw hw' (by decide) (h w w' hr (quiet_of_report hw rfl)
      (named_of_report hw (by decide)) hexec (raised_of_report hw' rfl))

end Sensorium.Inventory

import Sensorium.Inventory.Locking

/-!
# The desynchronised state

Every mutation looks at the state once, in its first lock section; `apply_model` and `reset_runtime`
then write a state of their own in their last one.  A failure of the bridge between the two is lost.
The second half is about the bridge reader, which leaves its loop for good.
-/

namespace Sensorium.Inventory

open Lib Model

/-! ## Who writes the state -/

/-- Part of `apply_model` or `reset_runtime`. -/
def Sender.mutates : Sender → Bool
  | .reset | .apply _ | .discard _ => true
  | .resync _ _ => false

def Job.mutates : Job → Bool
  | .apply _ | .rollback _ _ _ => true
  | .resync _ _ => false

namespace Pc

/-- An `apply_model` or a `reset_runtime` past its guard that may still write a state other than
`desynced`. -/
def mutating : Pc → Bool
  | send x | sent x => x.mutates
  | adds job _ _ _ => job.mutates
  | rollback _ _ => true
  | idle _ | settleFailed | fatal | resyncFailed => false

/-- Inside the lock section of `resync_runtime`. -/
def resyncing : Pc → Bool
  | adds (.resync _ _) _ _ _ => true
  | _ => false

/-- The operation is over, or has only `desynced` left to write. -/
def spent : Pc → Bool
  | idle _ | settleFailed | fatal | resyncFailed => true
  | _ => false

end Pc

/-- No mutation is under way. -/
def World.Unhurried (w : World) : Prop := ∀ p ∈ w.pcs, p.mutating = false

instance (w : World) : Decidable w.Unhurried :=
  inferInstanceAs (Decidable (∀ p ∈ w.pcs, p.mutating = false))

/-! ## Steps that set `desynced` -/

/-- The step reports a failed session, or would if its records were not empty. -/
def desyncs (w : World) : Act → Bool
  | .call _ (.apply _) o | .call _ .resync o => o.flagged
  | .call _ .reset _ => false
  | .go t o =>
    match w.pcs[t]? with
    | some (.adds _ [] [] none) => o.flagged
    | some .settleFailed | some .fatal | some .resyncFailed => true
    | _ => false
  | .change .bridgeFailure => true
  | .change (.refreshBridgeMetrics o) => o.flagged
  | .change _ => false

namespace Daemon

variable {d : Daemon}

theorem flagged_of_refresh {o : Outside} (hd : d.runtimeState ≠ .desynced)
    (h : (d.refreshBridgeMetrics o).runtimeState = .desynced) : o.flagged = true := by
  unfold refreshBridgeMetrics at h
  split at h
  · assumption
  · exact absurd h hd

theorem flagged_of_persist {o : Outside} (hd : d.runtimeState ≠ .desynced)
    (h : (d.persistSnapshot o).1.runtimeState = .desynced) : o.flagged = true := by
  unfold persistSnapshot at h
  split at h
  · exact absurd h hd
  · exact flagged_of_refresh hd h

theorem foldl_modifyDevice_runtimeState (f : DeviceRecord → DeviceRecord) (d : Daemon)
    (ids : List Text) :
    (ids.foldl (fun d id => d.modifyDevice id f) d).runtimeState = d.runtimeState :=
  foldl_runtimeState (fun d id => modifyDevice_runtimeState d id f) d ids

theorem attachBackend_runtimeState {d' : Daemon} {backend : BackendId} {ids : List Text}
    (h : d.attachBackend backend ids = some d') : d'.runtimeState = d.runtimeState := by
  unfold attachBackend at h
  split at h
  · cases h
    exact foldl_modifyDevice_runtimeState _ d ids
  · cases h

theorem attachAll_runtimeState (d : Daemon) (groups : Attachments) :
    (d.attachAll groups).1.runtimeState = d.runtimeState := by
  induction groups generalizing d with
  | nil => rfl
  | cons g groups ih =>
    rw [attachAll]
    split
    · exact ih d
    · split
      · rfl
      · rename_i e he
        rw [ih e, attachBackend_runtimeState he]

end Daemon

theorem addBus_runtimeState (d : Daemon) (k : Kernel) (bus : Bus) (refused : Bool) :
    (addBus d k bus refused).daemon.runtimeState = d.runtimeState := by
  unfold addBus
  dsimp only
  split
  · split <;> rfl
  · rfl

theorem addDevice_runtimeState (d : Daemon) (k : Kernel) (dev : Device) (refused : Bool) :
    (addDevice d k dev refused).daemon.runtimeState = d.runtimeState := by
  unfold addDevice
  dsimp only
  split
  · rfl
  · split
    · rfl
    · split <;> rfl

/-- Inside `_apply_model_locked` the state changes only at its end, and to `desynced` only when the
snapshot reports it. -/
theorem Job.add_desynced {job : Job} {d : Daemon} {k : Kernel} {o : Outside} {buses : List Bus}
    {devices : List Device} {modem : Option Nat} (hd : d.runtimeState ≠ .desynced)
    (h : (job.add d k o buses devices modem).daemon.runtimeState = .desynced) :
    buses = [] ∧ devices = [] ∧ modem = none ∧ o.flagged = true ∧
      (o.unsaved = false → (job.add d k o buses devices modem).pc = job.done) := by
  cases modem with
  | some handle =>
    rw [Job.add] at h
    split at h <;> exact absurd h hd
  | none =>
    cases buses with
    | cons bus buses =>
      rw [Job.add] at h
      dsimp only at h
      rw [addBus_runtimeState] at h
      exact absurd h hd
    | nil =>
      cases devices with
      | cons dev devices =>
        rw [Job.add] at h
        dsimp only at h
        rw [addDevice_runtimeState] at h
        exact absurd h hd
      | nil =>
        rw [Job.add, Job.finish] at h ⊢
        dsimp only at h ⊢
        split at h
        · rename_i hattach
          have hready : ((d.attachAll job.attachments).1.ready
              (job.generation d)).runtimeState ≠ .desynced := fun h => by cases h
          refine ⟨rfl, rfl, rfl, Daemon.flagged_of_persist hready h, fun hsaved => ?_⟩
          rw [if_pos hattach]
          dsimp only
          refine if_pos ?_
          unfold Daemon.persistSnapshot
          split
          · rfl
          · rw [hsaved]
            rfl
        · rw [Daemon.attachAll_runtimeState] at h
          exact absurd h hd

theorem Change.desyncs_of_desynced {w : World} {c : Change}
    (hd : w.daemon.runtimeState ≠ .desynced) (h : (c.on w.daemon).runtimeState = .desynced) :
    desyncs w (.change c) = true := by
  cases c with
  | updateDevice id patch =>
    exfalso
    revert h
    -- changes of records leave the state of the runtime as it is
    change (w.daemon.updateDevice id patch).runtimeState ≠ _
    unfold Daemon.updateDevice
    split
    · exact hd
    · split
      · exact hd
      · split <;> exact hd
  | attach backend ids =>
    exfalso
    revert h
    change (w.daemon.attach backend ids).runtimeState ≠ _
    unfold Daemon.attach
    split
    · exact hd
    · cases he : w.daemon.attachBackend backend ids with
      | none => exact hd
      | some e =>
        change e.runtimeState ≠ _
        rw [Daemon.attachBackend_runtimeState he]
        exact hd
  | detach backend ids =>
    exfalso
    revert h
    change (w.daemon.detach backend ids).runtimeState ≠ _
    unfold Daemon.detach
    split
    · exact hd
    · dsimp only
      rw [Daemon.foldl_modifyDevice_runtimeState]
      exact hd
  | uartConfig c =>
    change (w.daemon.uartConfig c).runtimeState = _ at h
    rw [Daemon.uartConfig, Daemon.modifyByHandle_runtimeState] at h
    exact absurd h hd
  | faultedRequest id => exact absurd h hd
  | bridgeFailure => rfl
  | refreshWorkers failing =>
    exfalso
    revert h
    change (w.daemon.refreshWorkers failing).runtimeState ≠ _
    unfold Daemon.refreshWorkers
    split
    · exact hd
    · split
      · exact hd
      · exact fun h => by cases h
    · split
      · exact fun h => by cases h
      · exact hd
  | refreshBridgeMetrics o => exact Daemon.flagged_of_refresh hd h

theorem begin_mutating {d d' : Daemon} {locked : Bool} {o : Outside} {op : Operation} {p : Pc}
    (h : d.begin locked o op = some (d', p)) (hp : p.mutating = true) :
    d.runtimeState ≠ .desynced ∧ locked = false ∧ (d'.runtimeState = .desynced → False) := by
  cases begins_of_begin h with
  | invalid _ | applyDesynced _ _ _ | applyUnsaved _ _ _ _ _ | resetDesynced _ _
  | resyncUnsaved _ _ | resync _ _ => cases hp
  | applyBlank _ hlocked hd _ | applyOver _ hlocked hd _ _ =>
    exact ⟨hd, hlocked, fun h => by cases h⟩
  | reset hlocked hd => exact ⟨hd, hlocked, hd⟩

theorem begin_desynced {w : World} {d : Daemon} {t : Nat} {o : Outside} {op : Operation} {p : Pc}
    (hd : w.daemon.runtimeState ≠ .desynced) (h : w.daemon.begin w.locked o op = some (d, p))
    (hd' : d.runtimeState = .desynced) : desyncs w (.call t op o) = true := by
  cases begins_of_begin h with
  | invalid _ | applyDesynced _ _ _ | resetDesynced _ _ | reset _ _ => exact absurd hd' hd
  | applyBlank _ _ _ _ | applyOver _ _ _ _ _ => cases hd'
  | applyUnsaved _ _ _ _ _ | resyncUnsaved _ _ | resync _ _ =>
    exact Daemon.flagged_of_refresh hd hd'

/-- A step of a worker that is not mutating, from a desynchronised state. -/
theorem advance_unhurried {d : Daemon} {k : Kernel} {o : Outside} {p : Pc} {m : Move}
    (hp : p.mutating = false) (hr : p.resyncing = false) (h : advance d k o p = some m) :
    m.pc.mutating = false ∧
      (d.runtimeState = .desynced → m.daemon.runtimeState = .desynced ∨ m.pc.resyncing = true) := by
  cases p with
  | idle _ => cases h
  | send x =>
    obtain ⟨hd, _⟩ := advance_daemon h rfl rfl
    refine ⟨?_, fun hs => .inl (hd ▸ hs)⟩
    rw [advance] at h
    cases x with
    | reset | apply _ | discard _ => cases hp
    | resync m a => split at h <;> cases h <;> rfl
  | sent x =>
    cases x with
    | reset | apply _ | discard _ => cases hp
    | resync m a =>
      cases h
      rcases (Sender.resync m a).accepted_cases d k o with he | ⟨_, he⟩
      · rw [he]
        exact ⟨rfl, fun _ => .inr rfl⟩
      · rw [he]
        exact ⟨rfl, fun hs => .inl hs⟩
  | adds job buses devices modem =>
    cases job with
    | apply _ | rollback _ _ _ => cases hp
    | resync _ _ => cases hr
  | rollback c s => cases hp
  | settleFailed =>
    cases h
    refine ⟨?_, fun _ => .inl (d.settle_desynced o)⟩
    dsimp only
    split <;> rfl
  | fatal | resyncFailed =>
    cases h
    exact ⟨rfl, fun _ => .inl (d.settle_desynced o)⟩

theorem advance_desynced {w : World} {t : Nat} {o : Outside} {p : Pc} {m : Move}
    (hp : w.pcs[t]? = some p) (hd : w.daemon.runtimeState ≠ .desynced)
    (h : advance w.daemon w.kernel o p = some m) (hm : m.daemon.runtimeState = .desynced) :
    desyncs w (.go t o) = true ∧
      ((p.mutating = true → o.unsaved = false) → m.pc.mutating = false) := by
  rw [desyncs, hp]
  cases p with
  | idle _ => cases h
  | send x =>
    rw [(advance_daemon h rfl rfl).1] at hm
    exact absurd hm hd
  | sent x =>
    cases h
    exfalso
    rcases x.accepted_cases w.daemon w.kernel o with he | ⟨_, he⟩
    · rw [he] at hm
      cases x with
      | reset | resync _ _ | discard _ => cases hm
      | apply _ => exact hd hm
    · rw [he] at hm
      exact hd hm
  | adds job buses devices modem =>
    cases h
    obtain ⟨rfl, rfl, rfl, hflag, hpc⟩ := Job.add_desynced hd hm
    refine ⟨hflag, fun hsaved => ?_⟩
    cases job with
    | apply c =>
      rw [hpc (hsaved rfl)]
      rfl
    | rollback c r a =>
      rw [hpc (hsaved rfl)]
      rfl
    | resync r a =>
      rcases Job.add_pc (.resync r a) w.daemon w.kernel o [] [] none with he | ⟨bs, ds, mo, he⟩ | he
      · rw [he]
        rfl
      · rw [he]
        rfl
      · rw [he]
        rfl
  | rollback c s =>
    exfalso
    rw [advance] at h
    split at h
    · cases h
      exact hd hm
    · rename_i restored attachments _
      cases h
      rcases c.rolledBack_cases w.daemon w.kernel o restored attachments with he | ⟨_, _, he⟩
      · rw [he] at hm
        exact hd hm
      · rw [he] at hm
        exact hd hm
  | settleFailed =>
    cases h
    refine ⟨rfl, fun _ => ?_⟩
    dsimp only
    split <;> rfl
  | fatal | resyncFailed =>
    cases h
    exact ⟨rfl, fun _ => rfl⟩

theorem Change.runtimeState_of_loose {c : Change} (h : c.locks = false) (d : Daemon) :
    (c.on d).runtimeState = d.runtimeState := by
  cases c with
  | uartConfig c => exact d.modifyByHandle_runtimeState c.handle _
  | faultedRequest id => rfl
  | updateDevice _ _ | attach _ _ | detach _ _ | bridgeFailure | refreshWorkers _
  | refreshBridgeMetrics _ => cases h

/-! ## Staying desynchronised -/

/-- A run with a note: the state has been `desynced` and no resync has succeeded since. -/
structure Watched where
  world : World
  tainted : Bool

/-- `apply_model` wrote `applying` over what its own snapshot had reported. -/
def overlooked (w : World) : Act → Bool
  | .call t (.apply _) o =>
    match w.pcs[t]? with
    | some (.send (.apply c)) => o.flagged && c.previous.isSome
    | _ => false
  | _ => false

/-- The last step of a resync that returns. -/
def resynced (w w' : World) : Act → Bool
  | .go t _ => (w.pcs[t]?).any Pc.resyncing && (w'.pcs[t]?).any Pc.isIdle
  | _ => false

def watch (s : Watched) (a : Act) : Option Watched :=
  (step s.world a).map fun w =>
    ⟨w, w.daemon.runtimeState = .desynced || overlooked w a ||
      (s.tainted && !resynced s.world w a)⟩

/-- Once `desynced`, always `desynced` until a resync has succeeded; in between only a resync inside
its lock section shows another state. -/
def Watched.Sticky (s : Watched) : Prop :=
  s.tainted = true → s.world.daemon.runtimeState = .desynced ∨ ∃ p ∈ s.world.pcs, p.resyncing = true

/-- An exception inside the lock section of a resync. -/
def raisesInResync (w : World) (t : Nat) (o : Outside) : Bool :=
  match w.pcs[t]? with
  | some (.adds (.resync m a) buses devices modem) =>
    match ((Job.resync m a).add w.daemon w.kernel o buses devices modem).pc with
    | .resyncFailed => true
    | _ => false
  | _ => false

/-- The state becomes `desynced` only while no mutation of another worker is past its guard, and the
mutation that finds it in its own snapshot does not write a state after it; a resync of a
desynchronised runtime raises nothing inside its lock section. -/
def timely (s : Watched) : Act → Prop
  | .call _ (.apply _) o => o.flagged = false
  | .call t op o => desyncs s.world (.call t op o) = true → s.world.Unhurried
  | .change c => desyncs s.world (.change c) = true → s.world.Unhurried
  | .go t o =>
    (desyncs s.world (.go t o) = true → (∀ p ∈ s.world.pcs.eraseIdx t, p.mutating = false) ∧
      ((s.world.pcs[t]?).any Pc.mutating = true → o.unsaved = false)) ∧
    (s.tainted = true → raisesInResync s.world t o = false)

instance (s : Watched) (a : Act) : Decidable (timely s a) :=
  match a with
  | .call _ (.apply _) o => inferInstanceAs (Decidable (o.flagged = false))
  | .call t .reset o =>
    inferInstanceAs (Decidable (desyncs s.world (.call t .reset o) = true → s.world.Unhurried))
  | .call t .resync o =>
    inferInstanceAs (Decidable (desyncs s.world (.call t .resync o) = true → s.world.Unhurried))
  | .change c =>
    inferInstanceAs (Decidable (desyncs s.world (.change c) = true → s.world.Unhurried))
  | .go t o =>
    inferInstanceAs (Decidable ((desyncs s.world (.go t o) = true →
      (∀ p ∈ s.world.pcs.eraseIdx t, p.mutating = false) ∧
        ((s.world.pcs[t]?).any Pc.mutating = true → o.unsaved = false)) ∧
      (s.tainted = true → raisesInResync s.world t o = false)))

namespace Watched

variable {s s' : Watched}

/-- The note is up to date, nothing mutates a desynchronised runtime, and it stays so. -/
structure Safe (s : Watched) : Prop where
  noted : s.world.daemon.runtimeState = .desynced → s.tainted = true
  unhurried : s.tainted = true → s.world.Unhurried
  sticky : s.Sticky

-- With the lock free, nobody is inside the section of a resync.
theorem Safe.desynced (h : s.Safe) (ht : s.tainted = true) (hfree : s.world.locked = false) :
    s.world.daemon.runtimeState = .desynced := by
  rcases h.sticky ht with hd | ⟨p, hp, hr⟩
  · exact hd
  · obtain ⟨u, hu⟩ := List.mem_iff_getElem?.mp hp
    have hholds := World.not_holds_of_not_locked hfree hu
    cases p with
    | adds _ _ _ _ => cases hholds
    | idle _ | send _ | sent _ | rollback _ _ | settleFailed | fatal | resyncFailed => cases hr

theorem unhurried_set {w : World} {t : Nat} {q : Pc}
    (h : ∀ p ∈ w.pcs.eraseIdx t, p.mutating = false) (hq : q.mutating = false) :
    ∀ p ∈ w.pcs.set t q, p.mutating = false := by
  intro p hp
  obtain ⟨u, hu⟩ := List.mem_iff_getElem?.mp hp
  rcases getElem?_set_cases hu with ⟨_, rfl⟩ | ⟨hne, hu⟩
  · exact hq
  · exact h p (List.mem_eraseIdx_iff_getElem?.mpr ⟨u, hne, hu⟩)

theorem unhurried_set_of_unhurried {w : World} {t : Nat} {q : Pc} (h : w.Unhurried)
    (hq : q.mutating = false) : ∀ p ∈ w.pcs.set t q, p.mutating = false :=
  unhurried_set (fun p hp => h p (List.mem_of_mem_eraseIdx hp)) hq

-- A worker that is not the one inside the section moves on.
theorem resyncing_set {w : World} {t : Nat} {p q : Pc} (hp : w.pcs[t]? = some p)
    (hr : p.resyncing = false) (h : ∃ r ∈ w.pcs, r.resyncing = true) :
    ∃ r ∈ w.pcs.set t q, r.resyncing = true := by
  obtain ⟨r, hmem, hrr⟩ := h
  obtain ⟨u, hu⟩ := List.mem_iff_getElem?.mp hmem
  by_cases hut : u = t
  · subst hut
    rw [hp] at hu
    cases hu
    rw [hr] at hrr
    cases hrr
  · exact ⟨r, List.mem_of_getElem? (getElem?_set_of_ne hut hu q), hrr⟩

theorem watch_eq_some {a : Act} (h : watch s a = some s') :
    step s.world a = some s'.world ∧ (s'.world.daemon.runtimeState = .desynced → s'.tainted = true) ∧
      (s'.tainted = true → s'.world.daemon.runtimeState = .desynced ∨
        overlooked s'.world a = true ∨ s.tainted = true ∧ resynced s.world s'.world a = false) := by
  obtain ⟨w, hw, rfl⟩ := Option.map_eq_some_iff.mp h
  refine ⟨hw, fun hd => ?_, fun ht => ?_⟩
  · change w.daemon.runtimeState = .desynced at hd
    simp [hd]
  · simpa [or_assoc] using ht

theorem safe_call {w : World} {t : Nat} {op : Operation} {o : Outside} (h : s.Safe)
    (hok : timely s (.call t op o)) (hs : step s.world (.call t op o) = some w) :
    ∀ b : Bool, (w.daemon.runtimeState = .desynced → b = true) →
      (b = true → w.daemon.runtimeState = .desynced ∨ overlooked w (.call t op o) = true ∨
        s.tainted = true) → Safe ⟨w, b⟩ := by
  intro b hnoted hb
  rw [step] at hs
  split at hs
  swap
  · cases hs
  rename_i last hp
  obtain ⟨⟨d, q⟩, hbegin, hw⟩ := Option.map_eq_some_iff.mp hs
  subst hw
  have hover : overlooked ⟨d, s.world.kernel, s.world.pcs.set t q⟩ (.call t op o) = false := by
    cases op with
    | apply raw =>
      have hflag : o.flagged = false := hok
      rw [overlooked]
      split
      · rw [hflag]
        rfl
      · rfl
    | reset | resync => rfl
  by_cases ht : s.tainted = true
  · -- Nothing that checks the state gets past it.
    have hq : q.mutating = false := by
      by_contra hq
      obtain ⟨hsync, hfree, _⟩ := begin_mutating hbegin (by simpa using hq)
      exact hsync (h.desynced ht hfree)
    refine ⟨hnoted, fun _ => unhurried_set_of_unhurried (h.unhurried ht) hq, fun _ => ?_⟩
    cases hlocked : s.world.locked with
    | true =>
      rw [hlocked] at hbegin
      rw [begin_locked hbegin]
      exact (h.sticky ht).imp_right (resyncing_set hp rfl)
    | false => exact .inl ((begins_of_begin hbegin).calm.2.2 (h.desynced ht hlocked))
  · have hd : s.world.daemon.runtimeState ≠ .desynced := fun hd => ht (h.noted hd)
    have hdesynced (hbt : b = true) : d.runtimeState = .desynced := by
      rcases hb hbt with hd' | ho | ht'
      · exact hd'
      · rw [hover] at ho
        cases ho
      · exact absurd ht' ht
    refine ⟨hnoted, fun hbt => ?_, fun hbt => .inl (hdesynced hbt)⟩
    have hreport := begin_desynced (t := t) hd hbegin (hdesynced hbt)
    have hq : q.mutating = false := by
      by_contra hq
      exact (begin_mutating hbegin (by simpa using hq)).2.2 (hdesynced hbt)
    refine unhurried_set_of_unhurried ?_ hq
    cases op with
    | apply raw =>
      have hflag : o.flagged = false := hok
      change o.flagged = true at hreport
      rw [hflag] at hreport
      cases hreport
    | reset => cases hreport
    | resync => exact hok hreport

section Goes

variable {t : Nat} {o : Outside} {p : Pc} {m : Move} {b : Bool} (h : s.Safe)
  (hm : advance s.world.daemon s.world.kernel o p = some m)
  (hnoted : m.daemon.runtimeState = .desynced → b = true)

include h hm hnoted

/-- The worker that resynchronises goes on with its adds, or it leaves the section: with an exception,
which `timely` excludes, or with the state that the step notes. -/
theorem safe_go_resyncing (ht : s.tainted = true) (hp : s.world.pcs[t]? = some p)
    (hr : p.resyncing = true) (hquiet : raisesInResync s.world t o = false)
    (hb : b = true → m.daemon.runtimeState = .desynced ∨ s.tainted = true ∧
      resynced s.world ⟨m.daemon, m.kernel, s.world.pcs.set t m.pc⟩ (.go t o) = false) :
    Safe ⟨⟨m.daemon, m.kernel, s.world.pcs.set t m.pc⟩, b⟩ := by
  have hpc := getElem?_set_of_eq hp m.pc
  obtain ⟨r, a, buses, devices, modem, rfl⟩ :
      ∃ r a buses devices modem, p = .adds (.resync r a) buses devices modem := by
    cases p with
    | adds job buses devices modem =>
      cases job with
      | resync r a => exact ⟨r, a, buses, devices, modem, rfl⟩
      | apply _ | rollback _ _ _ => cases hr
    | idle _ | send _ | sent _ | rollback _ _ | settleFailed | fatal | resyncFailed => cases hr
  rw [raisesInResync, hp] at hquiet
  cases hm
  rcases Job.add_pc (.resync r a) s.world.daemon s.world.kernel o buses devices modem with
    he | ⟨bs, ds, mo, he⟩ | he
  · dsimp only at hquiet
    rw [he] at hquiet
    cases hquiet
  · -- it stays inside the section
    refine ⟨hnoted, fun _ => unhurried_set_of_unhurried (h.unhurried ht) (by rw [he]; rfl),
      fun _ => .inr ⟨_, List.mem_of_getElem? hpc, by rw [he]; rfl⟩⟩
  · -- it has ended, so that only a state that is still desynchronised leaves the mark
    refine ⟨hnoted, fun _ => unhurried_set_of_unhurried (h.unhurried ht) (by rw [he]; rfl),
      fun hbt => ?_⟩
    rcases hb hbt with hd | ⟨_, hres⟩
    · exact .inl hd
    · rw [resynced, hp] at hres
      dsimp only at hres
      rw [hpc, he] at hres
      cases hres

/-- Another worker keeps the desynchronised state, or a worker that resynchronises is there. -/
theorem safe_go_waiting (ht : s.tainted = true) (hp : s.world.pcs[t]? = some p)
    (hfree : p.waits = true → s.world.locked = false) (hr : p.resyncing = false) :
    Safe ⟨⟨m.daemon, m.kernel, s.world.pcs.set t m.pc⟩, b⟩ := by
  have hpm : p.mutating = false := h.unhurried ht p (List.mem_of_getElem? hp)
  obtain ⟨hmm, hdes⟩ := advance_unhurried hpm hr hm
  refine ⟨hnoted, fun _ => unhurried_set_of_unhurried (h.unhurried ht) hmm, fun _ => ?_⟩
  by_cases hw : p.waits = true
  · refine (hdes (h.desynced ht (hfree hw))).imp_right fun hmr => ?_
    exact ⟨m.pc, List.mem_of_getElem? (getElem?_set_of_eq hp m.pc), hmr⟩
  · have hh : p.holds = false := by
      cases p with
      | adds job _ _ _ =>
        cases job with
        | apply _ | rollback _ _ _ => cases hpm
        | resync _ _ => cases hr
      | idle _ | send _ | sent _ | rollback _ _ | settleFailed | fatal | resyncFailed => rfl
    have hd := (advance_daemon hm (by simpa using hw) hh).1
    refine (h.sticky ht).imp (fun hs => ?_) (resyncing_set hp hr)
    rw [hd]
    exact hs

/-- The step that desynchronises the daemon leaves no worker that is about to change it. -/
theorem safe_go_untainted (ht : s.tainted ≠ true) (hok : timely s (.go t o))
    (hp : s.world.pcs[t]? = some p) (hb : b = true → m.daemon.runtimeState = .desynced) :
    Safe ⟨⟨m.daemon, m.kernel, s.world.pcs.set t m.pc⟩, b⟩ := by
  have hd : s.world.daemon.runtimeState ≠ .desynced := fun hd => ht (h.noted hd)
  refine ⟨hnoted, fun hbt => ?_, fun hbt => .inl (hb hbt)⟩
  obtain ⟨hreport, hown⟩ := advance_desynced hp hd hm (hb hbt)
  obtain ⟨hothers, hsaved⟩ := hok.1 hreport
  rw [hp] at hsaved
  exact unhurried_set hothers (hown hsaved)

end Goes

theorem safe_go {w : World} {t : Nat} {o : Outside} (h : s.Safe) (hok : timely s (.go t o))
    (hs : step s.world (.go t o) = some w) :
    ∀ b : Bool, (w.daemon.runtimeState = .desynced → b = true) →
      (b = true → w.daemon.runtimeState = .desynced ∨
        s.tainted = true ∧ resynced s.world w (.go t o) = false) → Safe ⟨w, b⟩ := by
  intro b hnoted hb
  rw [step] at hs
  split at hs
  swap
  · cases hs
  rename_i p hp
  split at hs
  · cases hs
  rename_i hfree
  obtain ⟨m, hm, hw⟩ := Option.map_eq_some_iff.mp hs
  subst hw
  by_cases ht : s.tainted = true
  · by_cases hr : p.resyncing = true
    · exact safe_go_resyncing h hm hnoted ht hp hr (hok.2 ht) hb
    · have hunlocked (hwaits : p.waits = true) : s.world.locked = false := by
        simpa [hwaits] using hfree
      exact safe_go_waiting h hm hnoted ht hp hunlocked (by simpa using hr)
  · exact safe_go_untainted h hm hnoted ht hok hp fun hbt =>
      (hb hbt).elim id fun htainted => absurd htainted.1 ht

theorem safe_change {w : World} {c : Change} (h : s.Safe) (hok : timely s (.change c))
    (hs : step s.world (.change c) = some w) :
    ∀ b : Bool, (w.daemon.runtimeState = .desynced → b = true) →
      (b = true → w.daemon.runtimeState = .desynced ∨ s.tainted = true) → Safe ⟨w, b⟩ := by
  intro b hnoted hb
  rw [step] at hs
  split at hs
  · cases hs
  rename_i hfree
  cases hs
  by_cases ht : s.tainted = true
  · refine ⟨hnoted, fun _ => h.unhurried ht, fun _ => ?_⟩
    by_cases hc : c.locks = true
    · have hlocked : s.world.locked = false := by simpa [hc] using hfree
      exact .inl (c.desynced (h.desynced ht hlocked))
    · refine (h.sticky ht).imp_left fun hd => ?_
      change (c.on s.world.daemon).runtimeState = _
      rw [c.runtimeState_of_loose (by simpa using hc), hd]
  · have hd : s.world.daemon.runtimeState ≠ .desynced := fun hd => ht (h.noted hd)
    have hdesynced (hbt : b = true) : (c.on s.world.daemon).runtimeState = .desynced := by
      rcases hb hbt with hd' | ht'
      · exact hd'
      · exact absurd ht' ht
    refine ⟨hnoted, fun hbt => ?_, fun hbt => .inl (hdesynced hbt)⟩
    exact hok (c.desyncs_of_desynced hd (hdesynced hbt))

theorem safe_step {a : Act} (h : s.Safe) (hok : timely s a) (hs : watch s a = some s') :
    s'.Safe := by
  obtain ⟨hw, hnoted, hb⟩ := watch_eq_some hs
  cases a with
  | call t op o =>
    refine safe_call h hok hw s'.tainted hnoted fun hbt => ?_
    exact (hb hbt).imp_right (Or.imp_right And.left)
  | go t o =>
    refine safe_go h hok hw s'.tainted hnoted fun hbt => ?_
    rcases hb hbt with hd | ho | hr
    · exact .inl hd
    · cases ho
    · exact .inr hr
  | change c =>
    refine safe_change h hok hw s'.tainted hnoted fun hbt => ?_
    rcases hb hbt with hd | ho | hr
    · exact .inl hd
    · cases ho
    · exact .inr hr.1

end Watched

/-- In a run whose steps are all timely, the state stays `desynced` until a resync has succeeded. -/
theorem desynced_sticky {k : Kernel} {generation n : Nat} {s : Watched}
    (hr : Reach watch timely ⟨start k generation n, false⟩ s) : s.Sticky := by
  have h0 : Watched.Safe ⟨start k generation n, false⟩ := ⟨nofun, nofun, nofun⟩
  exact (hr.invariant h0 fun _ _ _ h hok hs => Watched.safe_step h hok hs).sticky

/-- A bridge failure with no mutation under way; the next apply is refused. -/
theorem desynced_sticky_bench : ∃ s : Watched, s.tainted = true ∧
    s.world.daemon.entries = benchEntries ∧ s.Sticky := by
  have hrun : (exec (guarded watch timely) ⟨start .empty 0 2, false⟩
      (applyBench 0 ++ [.change .bridgeFailure, .call 1 (.apply bench) calm])).map
      (fun s => (s.tainted, s.world.daemon.entries)) = some (true, benchEntries) := by
    decide +kernel
  obtain ⟨s, hexec, hview⟩ := Option.map_eq_some_iff.mp hrun
  obtain ⟨htainted, hentries⟩ := Prod.mk.inj hview
  exact ⟨s, htainted, hentries, desynced_sticky (reach_of_exec hexec)⟩

-- The reader reports a failure between the guard of an apply and its last lock section.
def failureInsideApply : List Act :=
  [.call 0 (.apply bench) calm, .go 0 calm, .change .bridgeFailure] ++
    List.replicate 4 (.go 0 calm)

/-- The runtime ends `ready` although no resync was made. -/
theorem desynced_lost_by_apply :
    ¬ ∀ s, Reach watch anyStep ⟨start .empty 0 1, false⟩ s → s.Sticky := by
  intro h
  have hrun : (exec (guarded watch anyStep) ⟨start .empty 0 1, false⟩ failureInsideApply).map
      (fun s => (s.tainted, s.world.daemon.runtimeState, s.world.pcs.any Pc.resyncing)) =
      some (true, .ready, false) := by decide +kernel
  obtain ⟨s, hexec, hview⟩ := Option.map_eq_some_iff.mp hrun
  simp only [Prod.mk.injEq] at hview
  obtain ⟨htainted, hstate, hnone⟩ := hview
  rcases h s (reach_of_exec hexec) htainted with hd | ⟨p, hp, hr⟩
  · rw [hstate] at hd
    cases hd
  · exact List.any_eq_false.mp hnone p hp hr

/-! ## The bridge reader -/

/-- Where `_bridge_loop` is: before a `read_frame`, behind one that raised, or out of its loop. -/
inductive Reader
  | reading
  | raised
  | gone
  deriving DecidableEq

/-- The system with `_bridge_loop`, before `stop_event` is set. -/
structure Hosted where
  world : World
  reader : Reader

/-- A step of the system, an exception of `read_frame`, or the lock section that records it. -/
inductive HostedAct
  | inner (a : Act)
  | readFails (eof : Bool)
  | records

/-- The reader leaves its loop on every exception and never comes back; an `EOFError` is not
recorded. -/
def host (s : Hosted) : HostedAct → Option Hosted
  | .inner a => (step s.world a).map fun w => { s with world := w }
  | .readFails eof =>
    if s.reader = .reading then some { s with reader := if eof then .gone else .raised } else none
  | .records =>
    if s.reader = .raised && !s.world.locked then
      some ⟨{ s.world with daemon := s.world.daemon.setState .desynced }, .gone⟩
    else none

def RuntimeState.isHealthy : RuntimeState → Bool
  | ready | degraded => true
  | empty | applying | desynced => false

/-- The reader of a healthy runtime has not left its loop. -/
def Hosted.Healthy (s : Hosted) : Prop :=
  s.world.daemon.runtimeState.isHealthy = true → s.reader ≠ .gone

/-- The reader of a healthy runtime reads the next frame. -/
def Hosted.Read (s : Hosted) : Prop :=
  s.world.daemon.runtimeState.isHealthy = true → s.reader = .reading

/-- Nothing but `desynced` is left to write. -/
def World.Spent (w : World) : Prop := ∀ p ∈ w.pcs, p.spent = true

instance (w : World) : Decidable w.Spent :=
  inferInstanceAs (Decidable (∀ p ∈ w.pcs, p.spent = true))

/-- The call gets past its guard. -/
def enters (w : World) : Act → Bool
  | .call _ op o => (w.daemon.begin w.locked o op).any fun r => !r.2.isIdle
  | _ => false

/-- `read_frame` raises only while no operation is under way, and an `EOFError` only in a
desynchronised runtime; from then on no operation gets past its guard. -/
def attended (s : Hosted) : HostedAct → Prop
  | .inner a => s.reader ≠ .reading → enters s.world a = false
  | .readFails eof =>
    s.world.Spent ∧ (eof = true → s.world.daemon.runtimeState = .desynced)
  | .records => True

/-- Moreover, `read_frame` raises only in a runtime that is already desynchronised. -/
def forewarned (s : Hosted) (a : HostedAct) : Prop :=
  attended s a ∧ ∀ eof, a = .readFails eof → s.world.daemon.runtimeState = .desynced

instance (s : Hosted) (a : HostedAct) : Decidable (attended s a) :=
  match a with
  | .inner a => inferInstanceAs (Decidable (s.reader ≠ .reading → enters s.world a = false))
  | .readFails eof => inferInstanceAs (Decidable (s.world.Spent ∧
      (eof = true → s.world.daemon.runtimeState = .desynced)))
  | .records => .isTrue trivial

instance (s : Hosted) (a : HostedAct) : Decidable (forewarned s a) :=
  match a with
  | .inner a => decidable_of_iff (attended s (.inner a)) (by simp [forewarned])
  | .readFails eof => decidable_of_iff (attended s (.readFails eof) ∧
      s.world.daemon.runtimeState = .desynced) (by simp [forewarned])
  | .records => .isTrue ⟨trivial, nofun⟩

namespace World

variable {w w' : World}

theorem Spent.set (h : w.Spent) {t : Nat} {q : Pc} (hq : q.spent = true) :
    ∀ p ∈ w.pcs.set t q, p.spent = true := by
  intro p hp
  rcases List.mem_or_eq_of_mem_set hp with hp | rfl
  · exact h p hp
  · exact hq

theorem spent_of_isIdle {p : Pc} (h : p.isIdle = true) : p.spent = true := by
  cases p with
  | idle _ => rfl
  | send _ | sent _ | adds _ _ _ _ | rollback _ _ | settleFailed | fatal | resyncFailed => cases h

/-- What is spent stays spent as long as no operation begins, and a desynchronised state stays. -/
theorem Spent.step (h : w.Spent) {a : Act} (ha : enters w a = false) (hs : step w a = some w') :
    w'.Spent ∧ (w.daemon.runtimeState = .desynced → w'.daemon.runtimeState = .desynced) := by
  cases a with
  | call t op o =>
    rw [Inventory.step] at hs
    split at hs
    swap
    · cases hs
    obtain ⟨⟨d, q⟩, hb, hw'⟩ := Option.map_eq_some_iff.mp hs
    subst hw'
    rw [enters, hb] at ha
    have hidle : q.isIdle = true := by simpa using ha
    exact ⟨h.set (spent_of_isIdle hidle), (begins_of_begin hb).calm.2.2⟩
  | go t o =>
    rw [Inventory.step] at hs
    split at hs
    swap
    · cases hs
    rename_i p hp
    split at hs
    · cases hs
    obtain ⟨m, hm, hw'⟩ := Option.map_eq_some_iff.mp hs
    subst hw'
    have hp := h p (List.mem_of_getElem? hp)
    cases p with
    | idle _ => cases hm
    | send _ | sent _ | adds _ _ _ _ | rollback _ _ => cases hp
    | settleFailed =>
      cases hm
      refine ⟨h.set ?_, fun _ => w.daemon.settle_desynced o⟩
      dsimp only
      split <;> rfl
    | fatal | resyncFailed =>
      cases hm
      exact ⟨h.set rfl, fun _ => w.daemon.settle_desynced o⟩
  | change c =>
    rw [Inventory.step] at hs
    split at hs
    · cases hs
    · cases hs
      exact ⟨h, c.desynced⟩

end World

namespace Hosted

variable {s s' : Hosted}

/-- Without a reader the runtime is desynchronised, and behind an exception of `read_frame` it will
be: no operation will change that. -/
structure Safe (s : Hosted) : Prop where
  spent : s.reader ≠ .reading → s.world.Spent
  desynced : s.reader = .gone → s.world.daemon.runtimeState = .desynced

theorem safe_step {a : HostedAct} (h : s.Safe) (hok : attended s a) (hs : host s a = some s') :
    s'.Safe := by
  cases a with
  | inner a =>
    obtain ⟨w, hw, rfl⟩ := Option.map_eq_some_iff.mp hs
    -- behind an exception of `read_frame` no operation gets past its guard
    have hstep (hreader : s.reader ≠ .reading) := (h.spent hreader).step (hok hreader) hw
    refine ⟨fun hreader => (hstep hreader).1, fun hgone => ?_⟩
    have hgone : s.reader = .gone := hgone
    exact (hstep (by rw [hgone]; decide)).2 (h.desynced hgone)
  | readFails eof =>
    obtain ⟨hspent, heof⟩ := hok
    rw [host] at hs
    split at hs
    · cases hs
      -- only an `EOFError` takes the reader out of its loop at once
      refine ⟨fun _ => hspent, fun hgone => heof ?_⟩
      cases eof with
      | true => rfl
      | false => cases hgone
    · cases hs
  | records =>
    rw [host] at hs
    split at hs
    · rename_i hraised
      cases hs
      have hraised : s.reader = .raised := by
        simp only [Bool.and_eq_true, decide_eq_true_eq] at hraised
        exact hraised.1
      exact ⟨fun _ => h.spent (by rw [hraised]; decide), fun _ => rfl⟩
    · cases hs

/-- With a warning, the runtime is desynchronised as soon as the reader does not read. -/
theorem desynced_step {a : HostedAct} (h : s.Safe)
    (hd : s.reader ≠ .reading → s.world.daemon.runtimeState = .desynced) (hok : forewarned s a)
    (hs : host s a = some s') :
    s'.reader ≠ .reading → s'.world.daemon.runtimeState = .desynced := by
  cases a with
  | inner a =>
    obtain ⟨w, hw, rfl⟩ := Option.map_eq_some_iff.mp hs
    intro hreader
    exact ((h.spent hreader).step (hok.1 hreader) hw).2 (hd hreader)
  | readFails eof =>
    rw [host] at hs
    split at hs
    · cases hs
      exact fun _ => hok.2 eof rfl
    · cases hs
  | records =>
    rw [host] at hs
    split at hs
    · cases hs
      exact fun _ => rfl
    · cases hs

theorem safe_start (k : Kernel) (generation n : Nat) :
    Safe ⟨start k generation n, .reading⟩ := ⟨fun h => absurd rfl h, nofun⟩

end Hosted

/-- While the runtime is `ready` or `degraded` the reader has not left its loop, in every run in
which it fails only between operations and no operation follows; and where it fails only in a
desynchronised runtime, it reads the next frame. -/
theorem healthy_reader {k : Kernel} {generation n : Nat} {s : Hosted} :
    (Reach host attended ⟨start k generation n, .reading⟩ s → s.Healthy) ∧
      (Reach host forewarned ⟨start k generation n, .reading⟩ s → s.Read) := by
  constructor
  · intro hr hstate hgone
    have hsafe := hr.invariant (Hosted.safe_start k generation n)
      fun _ _ _ h hok hs => Hosted.safe_step h hok hs
    rw [hsafe.desynced hgone] at hstate
    cases hstate
  · intro hr hstate
    have hsafe := hr.invariant (I := fun s => s.Safe ∧
        (s.reader ≠ .reading → s.world.daemon.runtimeState = .desynced))
      ⟨Hosted.safe_start k generation n, fun h => absurd rfl h⟩
      fun _ _ _ h hok hs =>
        ⟨Hosted.safe_step h.1 hok.1 hs, Hosted.desynced_step h.1 h.2 hok hs⟩
    by_contra hreader
    rw [hsafe.2 hreader] at hstate
    cases hstate

/-- The reader fails over a device that is in use, and an apply is refused once that is recorded;
and it fails after a reply has failed. -/
theorem healthy_reader_bench :
    (∃ s : Hosted, s.world.daemon.entries = benchEntries ∧ s.reader = .gone ∧ s.Healthy) ∧
      ∃ s : Hosted, s.world.daemon.entries = benchEntries ∧ s.reader = .raised ∧ s.Read := by
  constructor
  · have hrun : (exec (guarded host attended) ⟨start .empty 0 2, .reading⟩
        ((applyBench 0).map HostedAct.inner ++ [.readFails false, .records,
          .inner (.call 1 (.apply bench) calm)])).map
        (fun s => (s.world.daemon.entries, s.reader)) = some (benchEntries, .gone) := by
      decide +kernel
    obtain ⟨s, hexec, hview⟩ := Option.map_eq_some_iff.mp hrun
    obtain ⟨hentries, hreader⟩ := Prod.mk.inj hview
    exact ⟨s, hentries, hreader, healthy_reader.1 (reach_of_exec hexec)⟩
  · have hrun : (exec (guarded host forewarned) ⟨start .empty 0 2, .reading⟩
        ((applyBench 0).map HostedAct.inner ++ [.inner (.change .bridgeFailure),
          .readFails false])).map
        (fun s => (s.world.daemon.entries, s.reader)) = some (benchEntries, .raised) := by
      decide +kernel
    obtain ⟨s, hexec, hview⟩ := Option.map_eq_some_iff.mp hrun
    obtain ⟨hentries, hreader⟩ := Prod.mk.inj hview
    exact ⟨s, hentries, hreader, healthy_reader.2 (reach_of_exec hexec)⟩

-- The reader fails on an empty runtime; then a resync of nothing: the call, `RESET`, the section,
-- its end.
def resyncWithoutReader : List HostedAct :=
  [.readFails false, .records, .inner (.call 0 .resync calm)] ++
    List.replicate 3 (.inner (.go 0 calm))

/-- The resync leaves the runtime `ready` with nobody reading. -/
theorem reader_gone_after_resync :
    ¬ ∀ s, Reach host anyStep ⟨start .empty 0 1, .reading⟩ s → s.Healthy := by
  intro h
  have hrun : (exec (guarded host anyStep) ⟨start .empty 0 1, .reading⟩ resyncWithoutReader).map
      (fun s => (s.world.daemon.runtimeState, s.reader)) = some (.ready, .gone) := by
    decide +kernel
  obtain ⟨s, hexec, hview⟩ := Option.map_eq_some_iff.mp hrun
  obtain ⟨hstate, hreader⟩ := Prod.mk.inj hview
  exact h s (reach_of_exec hexec) (by rw [hstate]; rfl) hreader

end Sensorium.Inventory

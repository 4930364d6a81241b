import Mathlib.Data.List.Infix
import Sensorium.Inventory.RoundTrip

/-!
# The saved snapshot and its restore

`restore_snapshot_if_available` reads the file, checks it, applies the model and attaches the
backends.  The file is written or removed wherever the operations persist the state, so a restore
that fails inside `apply_model` has already lost it.
-/

namespace Sensorium.Inventory

open Lib Model

/-! ## The interpreter's side -/

/-- Reading and decoding a file (`none` is an exception), the text of the payload saved at a time,
`repr`, and whether a float equals an integer. -/
structure Host (C : Type) where
  loads : C → Option Value
  dumps : Nat → Daemon → C
  repr : Value → Text
  floatEq : Text → Int → Bool

variable {C : Type} (h : Host C)

namespace Host

/-- `str(value)`. -/
def str : Value → Text
  | .str s => s
  | v => h.repr v

def segText (first : Bool) : Seg → Text
  | .field name => if first then text name else text "." ++ text name
  | .index i => text "[" ++ decimal i ++ text "]"
  | .key k => text "[" ++ h.repr k ++ text "]"
  | .item => text "[]"
  | .keyOf => text " key"

def labelText : Label → Text
  | [] => []
  | s :: label => h.segText true s ++ label.flatMap (h.segText false)

/-- `str(exc)`. -/
def failureText : Failure → Text
  | .model [] message => text message
  | .model label message => h.labelText label ++ text " " ++ text message
  | .unicodeEncode => text "surrogates not allowed"
  | .tooManyDigits => text "Exceeds the limit (4300 digits) for integer string conversion"

end Host

/-! ## Reading the file -/

/-- What the restore catches: an exception that is no `RuntimeError`, the one about the version of
the snapshot, or another `RuntimeError` with its text. -/
inductive RestoreError
  | other
  | version
  | runtime (message : Text)

/-- The text that the handler looks for. -/
def versionPhrase : Text := text "snapshot schema_version"

/-- Whether the handler takes the exception for one about the version. -/
def RestoreError.dropsFile : RestoreError → Bool
  | other => false
  | version => true
  | runtime message => versionPhrase <:+: message

def snapshotSchemaVersion : Int := 2

namespace Host

/-- `snapshot_version != RUNTIME_SNAPSHOT_SCHEMA_VERSION`. -/
def versionDiffers : Value → Bool
  | .int n => n ≠ snapshotSchemaVersion
  | .float literal => !h.floatEq literal snapshotSchemaVersion
  | _ => true

def checked {α : Type} : Checked α → Except RestoreError α
  | .ok a => .ok a
  | .error f => .error (.runtime (h.failureText f))

/-- `backend["kind"] != "controller"`. -/
def isTemplate : Part → Bool
  | .i2c _ (.template _ _) | .spi _ _ (.template _ _) | .uart _ (.template _ _) => true
  | _ => false

/-- The inner loop of `_validate_backend_attachments_for_devices`, on the entries of a file. -/
def validateFileIds (devices : List (Text × Device)) (backend : Text) :
    List (Text × Text) → List Value → Except RestoreError (List (Text × Text) × List Text)
  | attachedBy, [] => .ok (attachedBy, [])
  | attachedBy, v :: vs =>
    let id := h.str v
    match dictGet devices id with
    | none => .error (.runtime (text "unknown device id: " ++ id))
    | some dev =>
      if isTemplate dev.part then
        .error (.runtime (text "device " ++ id ++ text " is not controller-backed"))
      else if !isExternal dev.part then
        .error (.runtime (text "device " ++ id ++
          text " is broker-managed and cannot restore an external backend attachment"))
      else if (dictGet attachedBy id).any (· ≠ backend) then
        .error (.runtime (text "device " ++ id ++ text " cannot be attached to multiple backends"))
      else do
        let r ← validateFileIds devices backend (dictSet attachedBy id backend) vs
        .ok (r.1, id :: r.2)

/-- `_validate_backend_attachments_for_devices` on the mapping of a file. -/
def validateFileAttachments (devices : List (Text × Device)) :
    List (Text × Text) → Attachments → Entries → Except RestoreError Attachments
  | _, acc, [] => .ok acc
  | attachedBy, acc, (key, .list ids) :: es => do
    let r ← h.validateFileIds devices (h.str key) attachedBy ids
    validateFileAttachments devices r.1 (dictSet acc (h.str key) r.2) es
  | _, _, (key, _) :: _ =>
    .error (.runtime (text "snapshot backend attachment for " ++ h.repr key ++
      text " must be a list"))

/-- The checks before anything is applied. -/
def readSnapshot (c : C) : Except RestoreError (RuntimeModel × Attachments) :=
  match h.loads c with
  | some (.dict snapshot) =>
    if h.versionDiffers (get snapshot "schema_version") then .error .version
    else do
      let model ← h.checked (expectMapping (get snapshot "model") [.field "snapshot.model"])
      let m ← h.checked (normalizeRuntimeModelData (.dict model))
      let attachments ← h.checked (expectMapping (get snapshot "backend_attachments")
        [.field "snapshot.backend_attachments"])
      let attachments ← h.validateFileAttachments (devicesById m) [] [] attachments
      .ok (m, attachments)
  | _ => .error .other

end Host

/-! ## Writing the file -/

/-- `_persist_snapshot_locked` on a file system that does what it is asked. -/
def Host.persistFile (now : Nat) (d : Daemon) : Option C :=
  if d.buses.isEmpty && d.devices.isEmpty then none else some (h.dumps now d)

/-- The daemon that a step of an operation persists. -/
def persisted (d : Daemon) (o : Outside) : Pc → Option Daemon
  | .sent .reset | .sent (.discard _) =>
    if (d.clearState o).2 then some (d.clear.setState .empty) else none
  | .adds job [] [] none =>
    let r := d.attachAll job.attachments
    if r.2 then some ((r.1.ready (job.generation d)).refreshBridgeMetrics o) else none
  | .settleFailed | .fatal | .resyncFailed => some ((d.setState .desynced).refreshBridgeMetrics o)
  | _ => none

def Host.fileAfter (now : Nat) (file : Option C) (d : Daemon) (o : Outside) (p : Pc) : Option C :=
  match persisted d o p with
  | none => file
  | some d => h.persistFile now d

/-! ## The restore -/

/-- The mapping that `normalize_runtime_model_data` returns. -/
def modelValue (m : RuntimeModel) : Value :=
  exportedModel m.name
    (m.buses.map fun b => .dict [(.lit "id", .str b.id), (.lit "transport", .str b.transport.spelling),
      (.lit "name", .str b.name), (.lit "metadata", .dict b.metadata)])
    (m.devices.map Device.toItem)

/-- Where `restore_snapshot_if_available` is. -/
inductive RestorePc
  | idle
  | applying (p : Pc) (attachments : Attachments)
  | attaching (attachments : Attachments)
  | returned (ok : Bool)

structure Restore (C : Type) where
  daemon : Daemon
  kernel : Kernel
  file : Option C
  pc : RestorePc

/-- The call; one step of `apply_model`; what follows it, with whether the text of its exception
reads as one about the version; one `attach_backend`; a failure that the bridge reader reports. -/
inductive RestoreAct
  | call (flagged : Bool)
  | go (refused flagged : Bool) (now : Nat)
  | applied (reads : Bool)
  | attach (flagged : Bool) (now : Nat)
  | bridgeFailure

/-- Only the bridge decides: what is persisted has a form in JSON, and the managed workers are
launched after the last write that may fail, so that none has to be stopped. -/
def bridgeOutcome (refused flagged : Bool) : Outside := ⟨refused, flagged, false, false⟩

namespace Host

/-- The handler, which returns `False`. -/
def failed (r : Restore C) (drops : Bool) : Restore C :=
  { r with
    file := if drops then none else r.file
    pc := .returned false }

/-- Whether the handler takes an exception that `apply_model` raises before its `RESET` for one
about the version. -/
def refusalDrops (m : RuntimeModel) : Bool :=
  match normalizeRuntimeModelData (modelValue m) with
  | .error f => (RestoreError.runtime (h.failureText f)).dropsFile
  | .ok _ => false

def call (r : Restore C) (flagged : Bool) : Restore C :=
  match r.file with
  | none => { r with pc := .returned false }
  | some c =>
    match h.readSnapshot c with
    | .error e => failed r e.dropsFile
    | .ok (m, attachments) =>
      match r.daemon.begin false (bridgeOutcome false flagged) (.apply (modelValue m)) with
      | none => r
      | some (d, .idle _) => failed { r with daemon := d } (h.refusalDrops m)
      | some (d, p) =>
        { r with
          daemon := d
          pc := .applying p attachments }

/-- One `attach_backend` of the loop, or its end. -/
def attachNext (r : Restore C) (flagged : Bool) (now : Nat) : Attachments → Restore C
  | [] => { r with pc := .returned true }
  | (backend, ids) :: rest =>
    if ids = [] then { r with pc := .attaching rest }
    else if r.daemon.runtimeState = .desynced then failed r false
    else
      match r.daemon.attachBackend (.str backend) ids with
      | none => failed r false
      | some d =>
        let d := d.refreshBridgeMetrics (bridgeOutcome false flagged)
        { r with
          daemon := d
          file := h.persistFile now d
          pc := .attaching rest }

def step (r : Restore C) : RestoreAct → Option (Restore C)
  | .call flagged =>
    match r.pc with
    | .idle => some (h.call r flagged)
    | _ => none
  | .go refused flagged now =>
    match r.pc with
    | .applying p attachments =>
      let o := bridgeOutcome refused flagged
      (advance r.daemon r.kernel o p).map fun m =>
        ⟨m.daemon, m.kernel, h.fileAfter now r.file r.daemon o p, .applying m.pc attachments⟩
    | _ => none
  | .applied reads =>
    match r.pc with
    | .applying (.idle (some .raised)) _ => some (failed r reads)
    | .applying (.idle (some .returned)) attachments =>
      some { r with pc := .attaching attachments }
    | _ => none
  | .attach flagged now =>
    match r.pc with
    | .attaching attachments => some (h.attachNext r flagged now attachments)
    | _ => none
  | .bridgeFailure =>
    match r.pc with
    | .idle | .returned _ => none
    | _ => some { r with daemon := r.daemon.setState .desynced }

end Host

/-! ## When the file survives -/

/-- `apply_model` raises before its `RESET`. -/
def Daemon.RefusesApply (d : Daemon) (m : RuntimeModel) : Prop :=
  (∀ m', normalizeRuntimeModelData (modelValue m) ≠ .ok m') ∨ d.runtimeState = .desynced ∨
    (d.blank = false ∧ d.snapshot = none)

/-- The file is turned down, or the model that it holds, and the text of the exception does not
speak of the version of a snapshot. -/
def Host.Spares (d : Daemon) (c : C) : Prop :=
  match h.readSnapshot c with
  | .error e => e.dropsFile = false
  | .ok (m, _) => d.RefusesApply m ∧ h.refusalDrops m = false

theorem begin_apply_cases (d : Daemon) (o : Outside) (m : RuntimeModel) :
    (d.RefusesApply m ∧ ∃ d', d.begin false o (.apply (modelValue m)) =
        some (d', .idle (some .raised))) ∨
      (¬ d.RefusesApply m ∧ ∃ d' c, d.begin false o (.apply (modelValue m)) =
        some (d', .send (.apply c))) := by
  have hsame : (d.refreshBridgeMetrics o).snapshot = d.snapshot := by
    rcases d.refreshBridgeMetrics_eq o with he | he
    · rw [he]
    · rw [he]
      rfl
  rw [Daemon.begin]
  split
  · rename_i f hf
    refine .inl ⟨.inl fun m' hm' => ?_, d, rfl⟩
    rw [hf] at hm'
    cases hm'
  · rename_i m' hm'
    rw [if_neg Bool.false_ne_true]
    split
    · rename_i hdesynced
      exact .inl ⟨.inr (.inl hdesynced), d, rfl⟩
    · rename_i hsync
      split
      · rename_i hblank
        refine .inr ⟨?_, _, _, rfl⟩
        rintro (hno | hdesynced | ⟨hblank', _⟩)
        · exact hno m' hm'
        · exact hsync hdesynced
        · rw [hblank] at hblank'
          cases hblank'
      · rename_i hblank
        dsimp only
        split
        · rename_i hnone
          rw [hsame] at hnone
          exact .inl ⟨.inr (.inr ⟨by simpa using hblank, hnone⟩), _, rfl⟩
        · rename_i s hs
          rw [hsame] at hs
          refine .inr ⟨?_, _, _, rfl⟩
          rintro (hno | hdesynced | ⟨_, hnone⟩)
          · exact hno m' hm'
          · exact hsync hdesynced
          · rw [hs] at hnone
            cases hnone

/-- The first attempt of an `apply_model`, up to the section that persists what came of it. -/
def Pc.attempting : Pc → Bool
  | .send (.apply _) | .sent (.apply _) | .adds (.apply _) _ _ _ => true
  | .send (.discard _) | .sent (.discard _) | .settleFailed => true
  | _ => false

-- An attempt does not end without persisting.
theorem attempting_advance {d : Daemon} {k : Kernel} {o : Outside} {p : Pc} {m : Move}
    (ho : o.unstopped = false) (hp : p.attempting = true) (hm : advance d k o p = some m) :
    m.pc.attempting = true ∨ ∃ d', persisted d o p = some d' := by
  cases p with
  | idle _ | rollback _ _ | fatal | resyncFailed => cases hp
  | send x =>
    rw [advance] at hm
    cases x with
    | reset | resync _ _ => cases hp
    | apply c | discard c =>
      split at hm
      · cases hm
        exact .inl rfl
      · cases hm
        exact .inl rfl
  | sent x =>
    cases x with
    | reset | resync _ _ => cases hp
    | apply c =>
      cases hm
      rw [Sender.accepted, d.clearState_of_stopped ho]
      exact .inl rfl
    | discard c =>
      refine .inr ⟨_, if_pos ?_⟩
      rw [d.clearState_of_stopped ho]
  | adds job buses devices modem =>
    cases hm
    cases job with
    | rollback _ _ _ | resync _ _ => cases hp
    | apply c =>
      cases modem with
      | some handle =>
        rw [Job.add]
        split
        · exact .inl rfl
        · exact .inl rfl
      | none =>
        cases buses with
        | cons bus buses =>
          rw [Job.add]
          dsimp only
          split
          · exact .inl rfl
          · exact .inl rfl
        | nil =>
          cases devices with
          | cons dev devices =>
            rw [Job.add]
            dsimp only
            split
            · exact .inl rfl
            · exact .inl rfl
          -- with nothing left to add the apply persists
          | nil => exact .inr ⟨_, rfl⟩
  | settleFailed => exact .inr ⟨_, rfl⟩

/-- The time at which a step may write the file. -/
def RestoreAct.time : RestoreAct → Option Nat
  | .go _ _ now | .attach _ now => some now
  | .call _ | .applied _ | .bridgeFailure => none

/-- The file is not what it was, except while an attempt is under way. -/
def Restore.Lost (c : C) (r : Restore C) : Prop :=
  match r.pc with
  | .idle => False
  | .applying p _ => p.attempting = true ∨ r.file ≠ some c
  | .attaching _ | .returned _ => r.file ≠ some c

section Lost

variable {h} {c : C} {now : Nat} (hfresh : ∀ d, h.dumps now d ≠ c)

include hfresh

theorem persistFile_ne (d : Daemon) : h.persistFile now d ≠ some c := by
  unfold Host.persistFile
  split
  · exact nofun
  · exact fun heq => hfresh d (Option.some.inj heq)

theorem fileAfter_ne {file : Option C} {d : Daemon} {o : Outside} {p : Pc}
    (hfile : file ≠ some c ∨ ∃ d', persisted d o p = some d') :
    h.fileAfter now file d o p ≠ some c := by
  unfold Host.fileAfter
  split
  · rename_i hnone
    refine hfile.resolve_right ?_
    rintro ⟨d', hd'⟩
    rw [hnone] at hd'
    cases hd'
  · exact persistFile_ne hfresh _

end Lost

theorem failed_lost {c : C} {r : Restore C} (hfile : r.file ≠ some c) (drops : Bool) :
    (Host.failed r drops).Lost c := by
  change (if drops then none else r.file) ≠ some c
  split
  · exact nofun
  · exact hfile

theorem failed_file_iff {c : C} {r : Restore C} (hfile : r.file = some c) (drops : Bool) :
    (Host.failed r drops).file = some c ↔ drops = false := by
  change (if drops then none else r.file) = some c ↔ drops = false
  cases drops with
  | false => simp [hfile]
  | true => simp

theorem lost_step {c : C} {r r' : Restore C} {a : RestoreAct}
    (hfresh : ∀ now, a.time = some now → ∀ d, h.dumps now d ≠ c) (hr : r.Lost c)
    (hs : h.step r a = some r') : r'.Lost c := by
  obtain ⟨d, k, file, pc⟩ := r
  cases a with
  | call flagged =>
    rw [Host.step] at hs
    split at hs
    · rename_i hidle
      cases hidle
      exact hr.elim
    · cases hs
  | go refused flagged now =>
    rw [Host.step] at hs
    split at hs
    · rename_i p attachments hpc
      cases hpc
      obtain ⟨m, hm, rfl⟩ := Option.map_eq_some_iff.mp hs
      rcases hr with hp | hfile
      · rcases attempting_advance rfl hp hm with hnext | hsaved
        · exact .inl hnext
        · exact .inr (fileAfter_ne (hfresh now rfl) (.inr hsaved))
      · exact .inr (fileAfter_ne (hfresh now rfl) (.inl hfile))
    · cases hs
  | applied reads =>
    rw [Host.step] at hs
    split at hs
    · rename_i attachments hpc
      cases hpc
      cases hs
      exact failed_lost (hr.resolve_left nofun) reads
    · rename_i attachments hpc
      cases hpc
      cases hs
      exact hr.resolve_left nofun
    · cases hs
  | attach flagged now =>
    rw [Host.step] at hs
    split at hs
    · rename_i attachments hpc
      cases hpc
      cases hs
      cases attachments with
      | nil => exact hr
      | cons g rest =>
        rw [Host.attachNext]
        split
        · exact hr
        · split
          · exact failed_lost hr false
          · split
            · exact failed_lost hr false
            · exact persistFile_ne (hfresh now rfl) _
    · cases hs
  | bridgeFailure =>
    rw [Host.step] at hs
    split at hs
    · cases hs
    · cases hs
    · cases hs
      exact hr

/-- A restore that has returned takes no further step. -/
theorem step_returned {r : Restore C} {ok : Bool} (hr : r.pc = .returned ok) (a : RestoreAct) :
    h.step r a = none := by
  cases a <;> rw [Host.step, hr]

theorem exec_returned {r r' : Restore C} {ok : Bool} {acts : List RestoreAct}
    (hr : r.pc = .returned ok) (hrun : exec h.step r acts = some r') : r' = r := by
  cases acts with
  | nil =>
    cases hrun
    rfl
  | cons a acts =>
    rw [exec, step_returned h hr] at hrun
    cases hrun

/-- A restore that returns `False` leaves the file as it was exactly when it fails before the
`RESET` of `apply_model`, with an exception that does not read as one about the version.  What is
written during the call differs from what was there, since it carries the time. -/
theorem failed_restore_keeps_iff {c : C} {d : Daemon} {k : Kernel} {r : Restore C}
    {acts : List RestoreAct}
    (hfresh : ∀ a ∈ acts, ∀ now, a.time = some now → ∀ d, h.dumps now d ≠ c)
    (hrun : exec h.step ⟨d, k, some c, .idle⟩ acts = some r) (hret : r.pc = .returned false) :
    r.file = some c ↔ h.Spares d c := by
  cases acts with
  | nil =>
    cases hrun
    cases hret
  | cons a acts =>
    obtain ⟨r₁, hcall, hrest⟩ := Option.bind_eq_some_iff.mp hrun
    cases a with
    | go _ _ _ | applied _ | attach _ _ | bridgeFailure => cases hcall
    | call flagged =>
      have hr₁ : h.call ⟨d, k, some c, .idle⟩ flagged = r₁ := Option.some.inj hcall
      rw [Host.call] at hr₁
      dsimp only at hr₁
      unfold Host.Spares
      cases hread : h.readSnapshot c with
      | error e =>
        rw [hread] at hr₁
        subst hr₁
        rw [exec_returned h rfl hrest]
        exact failed_file_iff rfl _
      | ok x =>
        obtain ⟨m, attachments⟩ := x
        rw [hread] at hr₁
        dsimp only at hr₁ ⊢
        rcases begin_apply_cases d (bridgeOutcome false flagged) m with
          ⟨hrefuses, d', hbegin⟩ | ⟨haccepts, d', call, hbegin⟩
        · rw [hbegin] at hr₁
          subst hr₁
          rw [exec_returned h rfl hrest, failed_file_iff rfl, and_iff_right hrefuses]
        · rw [hbegin] at hr₁
          subst hr₁
          refine iff_of_false ?_ fun hspares => haccepts hspares.1
          have hstart : Restore.Lost c ⟨d', k, some c, .applying (.send (.apply call)) attachments⟩ :=
            Or.inl rfl
          have hlost : r.Lost c := by
            refine exec_invariant (I := Restore.Lost c) hstart ?_ hrest
            exact fun s b t hb hs ht =>
              lost_step h (hfresh b (List.mem_cons_of_mem _ hb)) hs ht
          rw [Restore.Lost, hret] at hlost
          exact hlost

/-! ## A saved bench -/

def savedValue (savedAt : Nat) (model : Value) (attachments : Entries) : Value :=
  .dict [(.lit "schema_version", .int snapshotSchemaVersion), (.lit "saved_at", .int savedAt),
    (.lit "model", model), (.lit "backend_attachments", .dict attachments)]

/-- Files as the values they decode to. -/
def plainHost : Host Value where
  loads v := some v
  dumps now d := savedValue now d.exportModel []
  repr _ := []
  floatEq _ _ := false

/-- What the restore has returned. -/
def Restore.result (r : Restore C) : Option Bool :=
  match r.pc with
  | .returned ok => some ok
  | _ => none

theorem returned_of_result {r : Restore C} {ok : Bool} (hr : r.result = some ok) :
    r.pc = .returned ok := by
  unfold Restore.result at hr
  split at hr
  · rename_i hpc
    rw [hpc, Option.some.inj hr]
  · cases hr

/-- A daemon that has just opened the bridge, with this file. -/
def restoring (file : Value) : Restore Value := ⟨(start .empty 0 0).daemon, .empty, some file, .idle⟩

theorem savedValue_ne {n m : Nat} (hne : n ≠ m) (x y : Value) (a b : Entries) :
    savedValue n x a ≠ savedValue m y b := by
  intro heq
  simp only [savedValue, Value.dict.injEq, List.cons.injEq, Prod.mk.injEq, Value.int.injEq,
    true_and, Nat.cast_inj] at heq
  exact hne heq.1

/-- The saved attachments name a device that the saved model does not have. -/
def strayFile : Value :=
  savedValue 1 bench [(.lit "ctl", .list [.lit "t1"])]

/-- The file with the stray device is kept.  A `DEVICE_ADD` and then the discarding `RESET` refused
leave a file that is not the one restored from. -/
theorem failed_restore_keeps_stray :
    (∃ r, exec plainHost.step (restoring strayFile) [.call false] = some r ∧
      r.result = some false ∧ r.file = some strayFile) ∧
    ∃ r acts, exec plainHost.step (restoring (savedValue 1 bench [])) acts = some r ∧
      r.result = some false ∧ r.file.isSome = true ∧ r.file ≠ some (savedValue 1 bench []) := by
  constructor
  · have hrun : (exec plainHost.step (restoring strayFile) [.call false]).map Restore.result =
        some (some false) := by decide +kernel
    have hread : (match plainHost.readSnapshot strayFile with
        | .error e => !e.dropsFile
        | .ok _ => false) = true := by decide +kernel
    obtain ⟨r, hexec, hresult⟩ := Option.map_eq_some_iff.mp hrun
    refine ⟨r, hexec, hresult, ?_⟩
    refine (failed_restore_keeps_iff plainHost ?_ hexec (returned_of_result hresult)).mpr ?_
    · intro a ha now htime
      cases List.mem_singleton.mp ha
      cases htime
    · unfold Host.Spares
      split at hread
      · rename_i e he
        rw [he]
        simpa using hread
      · cases hread
  · let acts : List RestoreAct := [.call false, .go false false 2, .go false false 2,
      .go false false 2, .go true false 2, .go true false 2, .go false false 2, .go false false 2,
      .applied false]
    have hrun : (exec plainHost.step (restoring (savedValue 1 bench [])) acts).map
        (fun r => (r.result, r.file.isSome)) = some (some false, true) := by decide +kernel
    have hread : (match plainHost.readSnapshot (savedValue 1 bench []) with
        | .error _ => false
        | .ok (m, _) => (normalizeRuntimeModelData (modelValue m)).toOption.isSome) = true := by
      decide +kernel
    obtain ⟨r, hexec, hview⟩ := Option.map_eq_some_iff.mp hrun
    obtain ⟨hresult, hfile⟩ := Prod.mk.inj hview
    refine ⟨r, acts, hexec, hresult, hfile, fun hsame => ?_⟩
    have hspares := (failed_restore_keeps_iff plainHost ?_ hexec (returned_of_result hresult)).mp hsame
    · unfold Host.Spares at hspares
      split at hread
      · cases hread
      · rename_i m attachments hm
        rw [hm] at hspares
        obtain ⟨hno | hdesynced | ⟨hblank, _⟩, _⟩ := hspares
        · obtain ⟨m', hm'⟩ := Option.isSome_iff_exists.mp hread
          exact hno m' (ok_of_toOption hm')
        · cases hdesynced
        · cases hblank
    · intro a ha now htime e
      have htimes : ∀ t ∈ acts.filterMap RestoreAct.time, t = 2 := by decide
      rw [htimes now (List.mem_filterMap.mpr ⟨a, ha, htime⟩)]
      exact savedValue_ne (by decide) _ _ _ _

/-- The first `RESET` is refused and the second, which discards, is accepted: the file is gone. -/
theorem failed_restore_removes_file :
    ¬ ∀ (r : Restore Value) (acts : List RestoreAct),
      exec plainHost.step (restoring (savedValue 1 bench [])) acts = some r →
      r.pc = .returned false → r.file = some (savedValue 1 bench []) := by
  intro hall
  have hrun : (exec plainHost.step (restoring (savedValue 1 bench []))
      [.call false, .go true false 2, .go false false 2, .go false false 2, .applied false]).map
      (fun r => (r.result, r.file.isSome)) = some (some false, false) := by decide +kernel
  obtain ⟨r, hexec, hview⟩ := Option.map_eq_some_iff.mp hrun
  obtain ⟨hresult, hfile⟩ := Prod.mk.inj hview
  rw [hall r _ hexec (returned_of_result hresult)] at hfile
  cases hfile

end Sensorium.Inventory

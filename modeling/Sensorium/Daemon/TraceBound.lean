import Sensorium.Daemon.TraceOrder

/-!
# The size of the trace file

A write appends its record, and where the file exceeds its limit in bytes it replaces the file by
the trace in memory, which has a limit in records.  So what a rewrite leaves depends on the sizes
of the last records that were recorded, by any thread, when the snapshot was taken.
-/

namespace Sensorium.TraceFile

open Lib

/-! ## What has been recorded -/

/-- The sizes of the records that the steps record. -/
def recordedSizes : List Act → List Nat :=
  List.filterMap fun a =>
    match a with
    | .record size => some size
    | _ => none

/-- All records of earlier sessions and of the steps. -/
def history (sizes : List Nat) (acts : List Act) : List Record :=
  earlierRecords 0 (sizes ++ recordedSizes acts)

theorem earlierRecords_append (first : Nat) (sizes sizes' : List Nat) :
    earlierRecords first (sizes ++ sizes') =
      earlierRecords first sizes ++ earlierRecords (first + sizes.length) sizes' := by
  induction sizes generalizing first with
  | nil => rfl
  | cons size sizes ih =>
    have hfirst : first + 1 + sizes.length = first + (size :: sizes).length := by
      rw [List.length_cons]
      omega
    rw [List.cons_append, earlierRecords, ih, hfirst]
    rfl

theorem length_earlierRecords (first : Nat) (sizes : List Nat) :
    (earlierRecords first sizes).length = sizes.length := by
  induction sizes generalizing first with
  | nil => rfl
  | cons size sizes ih => rw [earlierRecords, List.length_cons, List.length_cons, ih]

/-- The `seq`th record stands at its place. -/
theorem seq_earlierRecords {first i : Nat} {sizes : List Nat} {r : Record}
    (h : (earlierRecords first sizes)[i]? = some r) : r.seq = first + i := by
  induction sizes generalizing first i with
  | nil => cases h
  | cons size sizes ih =>
    cases i with
    | zero =>
      cases h
      rfl
    | succ i =>
      rw [ih h]
      omega

/-! ## Trimming -/

variable {cfg : Config} {w w' : Trace} {a : Act} {log records : List Record} {r : Record}

theorem trim_concat (cfg : Config) (records : List Record) (r : Record) :
    cfg.trim (cfg.trim records ++ [r]) = cfg.trim (records ++ [r]) := by
  unfold Config.trim
  have hle : records.length - cfg.maxTrace ≤ records.length := Nat.sub_le _ _
  rw [← List.drop_append_of_le_length hle, List.drop_drop, List.length_drop, List.length_append]
  congr 1
  rw [List.length_singleton]
  omega

/-- Trimming keeps a record as long as not too many come after it. -/
theorem mem_trim_iff (hseq : ∀ (i : Nat) (r : Record), log[i]? = some r → r.seq = i)
    (hr : r ∈ log) :
    r ∈ cfg.trim log ↔ log.length ≤ r.seq + cfg.maxTrace := by
  rw [Config.trim, List.mem_iff_getElem?]
  constructor
  · rintro ⟨i, hi⟩
    rw [List.getElem?_drop] at hi
    have hplace := hseq _ r hi
    omega
  · intro hlate
    obtain ⟨i, hi⟩ := List.mem_iff_getElem?.mp hr
    have hplace := hseq i r hi
    refine ⟨i - (log.length - cfg.maxTrace), ?_⟩
    rw [List.getElem?_drop]
    rw [show log.length - cfg.maxTrace + (i - (log.length - cfg.maxTrace)) = i by omega]
    exact hi

/-! ## The writer and what was recorded -/

/-- The write has appended the record `r`, which was recorded, and any snapshot that it has taken is
of the last records of its time. -/
def WriterPc.Follows (cfg : Config) (log : List Record) (r : Record) : WriterPc → Prop
  | .waiting | .appending _ => False
  | .checking | .snapshotting => r ∈ log
  | .replacing records recorded =>
    r ∈ log.take recorded ∧ recorded ≤ log.length ∧ records = cfg.trim (log.take recorded)

/-- The trace in memory has the last of the records, and the writer writes what was recorded. -/
structure Tracks (cfg : Config) (log : List Record) (w : Trace) : Prop where
  trace : w.trace = cfg.trim log
  recorded : w.recorded = log.length
  unwritten : ∀ r ∈ w.unwritten, r ∈ log
  writing : w.pc = .waiting ∨ (∃ r, w.pc = .appending r) ∨
    ∃ r, w.file.getLast? = some r ∧ w.pc.Follows cfg log r

/-- What a step adds to the records. -/
def recordedBy (log : List Record) : Act → List Record
  | .record size => [⟨log.length, size⟩]
  | _ => []

theorem WriterPc.Follows.append {pc : WriterPc} (h : pc.Follows cfg log r) (more : List Record) :
    pc.Follows cfg (log ++ more) r := by
  cases pc with
  | waiting | appending _ => exact h
  | checking | snapshotting => exact List.mem_append_left _ h
  | replacing records recorded =>
    obtain ⟨hr, hle, hrecords⟩ := h
    rw [WriterPc.Follows, List.take_append_of_le_length hle, List.length_append]
    exact ⟨hr, Nat.le_add_right_of_le hle, hrecords⟩

namespace Tracks

theorem initial (cfg : Config) (sizes : List Nat) :
    Tracks cfg (earlierRecords 0 sizes) (cfg.initial sizes) where
  trace := rfl
  recorded := (length_earlierRecords 0 sizes).symm
  unwritten r hr := by cases hr
  writing := .inl rfl

theorem record (h : Tracks cfg log w) (size : Nat) :
    Tracks cfg (log ++ [⟨log.length, size⟩]) (w.record cfg size) where
  trace := by
    show cfg.trim (w.trace ++ [⟨w.recorded, size⟩]) = _
    rw [h.trace, h.recorded, trim_concat]
  recorded := by
    show w.recorded + 1 = _
    rw [h.recorded, List.length_append]
    rfl
  unwritten r hr := by
    have hsplit : r ∈ w.unwritten ∨ r = ⟨w.recorded, size⟩ := by
      rw [← List.mem_singleton, ← List.mem_append]
      unfold Trace.unwritten at hr ⊢
      rw [List.append_assoc, List.append_assoc]
      exact hr
    rcases hsplit with hold | hnew
    · exact List.mem_append_left _ (h.unwritten r hold)
    · rw [hnew, h.recorded]
      exact List.mem_append_right _ List.mem_cons_self
  writing := by
    rcases h.writing with hpc | hpc | ⟨r, hlast, hfollows⟩
    · exact .inl hpc
    · exact .inr (.inl hpc)
    · exact .inr (.inr ⟨r, hlast, hfollows.append _⟩)

/-- The writer goes on with a write. -/
theorem writes {pc : WriterPc} (h : Tracks cfg log w) (hlast : w.file.getLast? = some r)
    (hfollows : pc.Follows cfg log r) (hnone : pc.unwritten = []) :
    Tracks cfg log { w with pc := pc } where
  trace := h.trace
  recorded := h.recorded
  unwritten r hr := by
    refine h.unwritten r ?_
    rw [Trace.unwritten, hnone] at hr
    exact List.mem_append_right _ hr
  writing := .inr (.inr ⟨r, hlast, hfollows⟩)

/-- The writer has ended a write. -/
theorem waits {file : List Record} {covered : Nat} (h : Tracks cfg log w) :
    Tracks cfg log { w with file := file, covered := covered, pc := .waiting } where
  trace := h.trace
  recorded := h.recorded
  unwritten r hr := h.unwritten r (List.mem_append_right _ hr)
  writing := .inl rfl

theorem follows (h : Tracks cfg log w) (hbusy : w.pc ≠ .waiting) (hwritten : w.pc.unwritten = []) :
    ∃ r, w.file.getLast? = some r ∧ w.pc.Follows cfg log r := by
  rcases h.writing with hpc | ⟨r, hpc⟩ | hfollows
  · exact absurd hpc hbusy
  · rw [hpc] at hwritten
    cases hwritten
  · exact hfollows

theorem enqueued {thread : Nat} (h : Tracks cfg log w) (hr : w.inHand[thread]? = some r) :
    Tracks cfg log (w.enqueue cfg thread r) where
  trace := h.trace
  recorded := h.recorded
  unwritten r' hr' := by
    refine h.unwritten r' ?_
    have hroom := makeRoom_suffix cfg r.size w.queue w.queueBytes w.dropCount
    -- a record in the queue came from it or from the hand of the thread
    rcases List.mem_append.mp hr' with hpc | hr'
    · exact List.mem_append_left _ hpc
    rcases List.mem_append.mp hr' with hqueue | hhand
    · rcases List.mem_append.mp hqueue with hqueue | hnew
      · exact List.mem_append_right _ (List.mem_append_left _ (hroom.subset hqueue))
      · rw [List.mem_singleton.mp hnew]
        exact List.mem_append_right _ (List.mem_append_right _ (List.mem_of_getElem? hr))
    · exact List.mem_append_right _ (List.mem_append_right _ (List.mem_of_mem_eraseIdx hhand))
  writing := h.writing

theorem moves (h : Tracks cfg log w) (hmove : Moves cfg w a w') :
    Tracks cfg (log ++ recordedBy log a) w' := by
  have hsame {v : Trace} (hv : Tracks cfg log v) : Tracks cfg (log ++ []) v := by
    rw [List.append_nil]
    exact hv
  cases hmove with
  | recorded size => exact h.record size
  | queued hr => exact hsame (h.enqueued hr)
  | @popped r queue hpc hqueue =>
    refine hsame ⟨h.trace, h.recorded, fun r' hr' => h.unwritten r' ?_, .inr (.inl ⟨r, rfl⟩)⟩
    rw [Trace.unwritten, hpc, hqueue]
    exact hr'
  | @appended r hpc =>
    refine hsame ⟨h.trace, h.recorded, fun r' hr' => h.unwritten r' ?_, .inr (.inr ⟨r, ?_, ?_⟩)⟩
    · exact List.mem_append_right _ hr'
    · exact List.getLast?_concat
    · refine h.unwritten r ?_
      rw [Trace.unwritten, hpc]
      exact List.mem_cons_self
  | halfAppended hpc | notAppended hpc | fits hpc hsize | unknown hpc | replaced hpc | kept hpc =>
    exact hsame h.waits
  | exceeds hpc hsize =>
    obtain ⟨r, hlast, hfollows⟩ := h.follows (by rw [hpc]; decide) (by rw [hpc]; rfl)
    rw [hpc] at hfollows
    exact hsame (h.writes hlast hfollows rfl)
  | snapshotted hpc =>
    obtain ⟨r, hlast, hfollows⟩ := h.follows (by rw [hpc]; decide) (by rw [hpc]; rfl)
    rw [hpc] at hfollows
    -- the snapshot is the trace of now, that is of all records up to now
    refine hsame (h.writes hlast ?_ rfl)
    rw [WriterPc.Follows, h.recorded, List.take_length]
    exact ⟨hfollows, Nat.le_refl _, h.trace⟩

theorem exec {acts : List Act} (h : Tracks cfg log w)
    (hrun : Lib.exec (step cfg) w acts = some w') :
    Tracks cfg (log ++ earlierRecords log.length (recordedSizes acts)) w' := by
  induction acts generalizing w log with
  | nil =>
    cases hrun
    rw [show earlierRecords log.length (recordedSizes []) = [] from rfl, List.append_nil]
    exact h
  | cons a acts ih =>
    obtain ⟨next, hstep, hrun⟩ := Option.bind_eq_some_iff.mp hrun
    have hnext := ih (h.moves (moves_of_step hstep)) hrun
    rw [List.append_assoc, List.length_append] at hnext
    have hmore : recordedBy log a ++
        earlierRecords (log.length + (recordedBy log a).length) (recordedSizes acts) =
        earlierRecords log.length (recordedSizes (a :: acts)) := by
      cases a with
      | record size => rfl
      | _ => rfl
    rw [hmore] at hnext
    exact hnext

end Tracks

theorem tracks_of_exec {sizes : List Nat} {acts : List Act}
    (hrun : exec (step cfg) (cfg.initial sizes) acts = some w) :
    Tracks cfg (history sizes acts) w := by
  have h := (Tracks.initial cfg sizes).exec hrun
  rw [length_earlierRecords] at h
  rw [history, earlierRecords_append, Nat.zero_add]
  exact h

/-! ## Writes -/

/-- The step with which a `_write_record` is done without an exception. -/
def Completes (cfg : Config) (w : Trace) : Act → Prop
  | .stat => totalSize w.file ≤ cfg.maxFileBytes
  | .replace => True
  | _ => False

/-- The file has not more than its limit, and it has the record that the write had appended. -/
def BoundedAfter (cfg : Config) (w w' : Trace) : Prop :=
  totalSize w'.file ≤ cfg.maxFileBytes ∧ ∃ r ∈ w.file.getLast?, r ∈ w'.file

/-- Where the write rewrites the file: the last records at the time of its snapshot fit into the
limit, and not as many as the trace holds have been recorded after the one that is written. -/
def RewriteFits (cfg : Config) (log : List Record) (w : Trace) : Prop :=
  ∀ records recorded, w.pc = .replacing records recorded →
    totalSize ((log.take recorded).drop (recorded - cfg.maxTrace)) ≤ cfg.maxFileBytes ∧
    ∀ r ∈ w.file.getLast?, recorded ≤ r.seq + cfg.maxTrace

theorem write_bounded_iff (h : Tracks cfg log w)
    (hseq : ∀ (i : Nat) (r : Record), log[i]? = some r → r.seq = i)
    (hstep : step cfg w a = some w') (hdone : Completes cfg w a) :
    BoundedAfter cfg w w' ↔ RewriteFits cfg log w := by
  cases moves_of_step hstep with
  | fits hpc hsize =>
    -- the record is the last line
    obtain ⟨r, hlast, -⟩ := h.follows (by rw [hpc]; decide) (by rw [hpc]; rfl)
    refine iff_of_true ⟨hdone, r, hlast, List.mem_of_getLast? hlast⟩
      fun records recorded hreplacing => ?_
    rw [hpc] at hreplacing
    cases hreplacing
  | @replaced records recorded hpc =>
    obtain ⟨r, hlast, hfollows⟩ := h.follows (by rw [hpc]; exact WriterPc.noConfusion)
      (by rw [hpc]; rfl)
    rw [hpc] at hfollows
    obtain ⟨hr, hle, hrecords⟩ := hfollows
    -- the file is then the snapshot, and what was recorded after it does not matter
    have hlength : (log.take recorded).length = recorded := by
      rw [List.length_take, Nat.min_eq_left hle]
    have hmem : r ∈ cfg.trim (log.take recorded) ↔ _ := mem_trim_iff (fun i r hi => hseq i r (by
      rw [List.getElem?_take] at hi
      split at hi
      · exact hi
      · cases hi)) hr
    rw [hlength] at hmem
    have htrim : records = (log.take recorded).drop (recorded - cfg.maxTrace) := by
      rw [hrecords, Config.trim, hlength]
    constructor
    · rintro ⟨hsize, r', hr', hin⟩ records' recorded' hreplacing
      rw [hpc] at hreplacing
      cases hreplacing
      rw [← htrim]
      refine ⟨hsize, fun r'' hr'' => ?_⟩
      cases hlast.symm.trans hr'
      cases hlast.symm.trans hr''
      exact hmem.mp (hrecords ▸ hin)
    · intro hfits
      obtain ⟨hsize, hrecent⟩ := hfits records recorded hpc
      refine ⟨?_, r, hlast, ?_⟩
      · show totalSize records ≤ _
        rw [htrim]
        exact hsize
      · show r ∈ records
        rw [hrecords]
        exact hmem.mpr (hrecent r hlast)
  | exceeds hpc hsize => exact absurd hdone (Nat.not_le_of_lt hsize)
  | _ => cases hdone

/-- In every run, each write that is done leaves a file within its limit and with the record that it
wrote, exactly if at each rewrite the last `trace_limit` records of that time fit into the limit and
the record that is written is one of them. -/
theorem trace_file_bounded_iff (cfg : Config) (sizes : List Nat) (acts : List Act) :
    (∀ done a w w', done ++ [a] <+: acts → exec (step cfg) (cfg.initial sizes) done = some w →
      step cfg w a = some w' → Completes cfg w a → BoundedAfter cfg w w') ↔
    (∀ done a w w', done ++ [a] <+: acts → exec (step cfg) (cfg.initial sizes) done = some w →
      step cfg w a = some w' → Completes cfg w a → RewriteFits cfg (history sizes done) w) := by
  refine forall_congr' fun done => forall_congr' fun a => forall_congr' fun w =>
    forall_congr' fun w' => imp_congr_right fun _ => forall_congr' fun hrun =>
      forall_congr' fun hstep => forall_congr' fun hdone => ?_
  refine write_bounded_iff (tracks_of_exec hrun) (fun i r hi => ?_) hstep hdone
  rw [seq_earlierRecords hi, Nat.zero_add]

/-- Two records of 600 bytes are still in memory, so the rewrite keeps both. -/
theorem rewritten_file_exceeds_limit :
    ¬ ∀ (cfg : Config) (sizes : List Nat) (acts : List Act),
      (∀ size ∈ sizes ++ recordedSizes acts, size < cfg.maxFileBytes) →
      ∀ done a w w', done ++ [a] <+: acts → exec (step cfg) (cfg.initial sizes) done = some w →
        step cfg w a = some w' → Completes cfg w a → BoundedAfter cfg w w' := by
  intro h
  have hrun : (exec (step .small) (Config.small.initial [600])
      [.record 600, .enqueue 0, .pop, .append, .stat, .snapshot]).map
      (fun w => (step .small w .replace).map fun w' => totalSize w'.file) = some (some 1200) := by
    decide +kernel
  obtain ⟨w, hw, hview⟩ := Option.map_eq_some_iff.mp hrun
  obtain ⟨w', hw', hsize⟩ := Option.map_eq_some_iff.mp hview
  have hbounded := h .small [600]
    [.record 600, .enqueue 0, .pop, .append, .stat, .snapshot, .replace] (by decide) _ .replace w w'
    (List.prefix_refl _) hw hw' trivial
  have hle := hbounded.1
  rw [hsize] at hle
  exact absurd hle (by decide)

end Sensorium.TraceFile

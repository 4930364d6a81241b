import Sensorium.Daemon.TraceWriter

/-!
# The order of the trace file

Records reach the file along two ways: through the queue, one by one, and through the trace in
memory, when the file is rewritten.  Each way keeps the order in which the records were recorded,
as long as no thread is overtaken between its two lock sections.  The two ways meet in the file,
and there the order is kept as long as the writer appends no record that the last rewrite has
passed.
-/

namespace Sensorium.TraceFile

open Lib

/-- The record that the writer has taken from the queue and not yet written. -/
def WriterPc.unwritten : WriterPc → List Record
  | .appending r => [r]
  | _ => []

/-- The records that are recorded and still to be appended, in the order of their appends. -/
def Trace.unwritten (w : Trace) : List Record := w.pc.unwritten ++ (w.queue ++ w.inHand)

/-- Threads enqueue in the order in which they recorded, and a record is appended to the file only
if the last rewrite of the file took its snapshot before the record was recorded. -/
def InTurn (w : Trace) : Act → Prop
  | .enqueue thread => thread = 0
  | .append | .appendFails true => ∀ r ∈ w.pc.unwritten, w.covered ≤ r.seq
  | _ => True

instance (w : Trace) (a : Act) : Decidable (InTurn w a) :=
  match a with
  | .enqueue thread => inferInstanceAs (Decidable (thread = 0))
  | .append | .appendFails true =>
    inferInstanceAs (Decidable (∀ r ∈ w.pc.unwritten, w.covered ≤ r.seq))
  | .appendFails false | .record _ | .pop | .stat | .statFails | .snapshot | .replace
  | .replaceFails => .isTrue trivial

/-! ## Lists of records -/

/-- Some of the first `n` records, in the order in which they were recorded, none of them twice. -/
structure Recorded (n : Nat) (records : List Record) : Prop where
  inOrder : records.Pairwise fun r r' => r.seq < r'.seq
  before : ∀ r ∈ records, r.seq < n

namespace Recorded

variable {n m : Nat} {records : List Record} {r : Record}

theorem nil : Recorded n [] := ⟨.nil, fun _ h => (List.not_mem_nil h).elim⟩

theorem sublist {records' : List Record} (h : Recorded n records) (hs : records'.Sublist records) :
    Recorded n records' :=
  ⟨h.inOrder.sublist hs, fun r hr => h.before r (hs.subset hr)⟩

theorem mono (h : Recorded n records) (hn : n ≤ m) : Recorded m records :=
  ⟨h.inOrder, fun r hr => Nat.lt_of_lt_of_le (h.before r hr) hn⟩

theorem concat (hp : records.Pairwise fun r r' => r.seq < r'.seq)
    (h : ∀ x ∈ records, x.seq < r.seq) (hr : r.seq < n) : Recorded n (records ++ [r]) := by
  constructor
  · rw [List.pairwise_append]
    refine ⟨hp, List.pairwise_singleton _ _, fun x hx y hy => ?_⟩
    rw [List.mem_singleton.mp hy]
    exact h x hx
  · intro x hx
    rcases List.mem_append.mp hx with hx | hx
    · exact Nat.lt_trans (h x hx) hr
    · rw [List.mem_singleton.mp hx]
      exact hr

theorem next (h : Recorded n records) (size : Nat) :
    Recorded (n + 1) (records ++ [{ seq := n, size := size }]) :=
  concat h.inOrder h.before (Nat.lt_succ_self n)

theorem trim (h : Recorded n records) (cfg : Config) : Recorded n (cfg.trim records) :=
  h.sublist (List.drop_sublist _ _)

end Recorded

theorem earlierRecords_after (sizes : List Nat) (first : Nat) :
    ∀ r ∈ earlierRecords first sizes, first ≤ r.seq := by
  induction sizes generalizing first with
  | nil => exact fun _ h => (List.not_mem_nil h).elim
  | cons size sizes ih =>
    intro r hr
    rcases List.mem_cons.mp hr with heq | hr
    · subst heq
      exact Nat.le_refl first
    · exact Nat.le_trans (Nat.le_succ first) (ih (first + 1) r hr)

theorem earlierRecords_recorded (sizes : List Nat) (first : Nat) :
    Recorded (first + sizes.length) (earlierRecords first sizes) := by
  induction sizes generalizing first with
  | nil => exact Recorded.nil
  | cons size sizes ih =>
    have hrest := ih (first + 1)
    rw [show first + 1 + sizes.length = first + (sizes.length + 1) by omega] at hrest
    constructor
    · exact .cons (earlierRecords_after sizes (first + 1)) hrest.inOrder
    · intro r hr
      rcases List.mem_cons.mp hr with heq | hr
      · subst heq
        show first < first + (sizes.length + 1)
        omega
      · exact hrest.before r hr

/-! ## The invariant -/

/-- Every list of records is in order, and what is to be appended comes after what is in the file,
unless the last rewrite put it there. -/
structure Ordered (w : Trace) : Prop where
  trace : Recorded w.recorded w.trace
  unwritten : Recorded w.recorded w.unwritten
  file : Recorded w.recorded w.file
  covered : w.covered ≤ w.recorded
  ahead : ∀ x ∈ w.file, x.seq < w.covered ∨ ∀ r ∈ w.unwritten, x.seq < r.seq
  snapshot : ∀ records recorded, w.pc = .replacing records recorded →
    Recorded recorded records ∧ recorded ≤ w.recorded

theorem Ordered.initial (cfg : Config) (sizes : List Nat) : Ordered (cfg.initial sizes) := by
  have hearlier := earlierRecords_recorded sizes 0
  rw [Nat.zero_add] at hearlier
  exact {
    trace := hearlier.trim cfg
    unwritten := Recorded.nil
    file := hearlier
    covered := Nat.le_refl _
    ahead := fun x hx => .inl (hearlier.before x hx)
    snapshot := fun _ _ h => by cases h }

namespace Ordered

variable {cfg : Config} {w w' : Trace} {a : Act}

/-- A step of the writer that leaves the file and takes nothing up. -/
theorem of_pc {pc : WriterPc} (h : Ordered w) (hpc : pc.unwritten = [])
    (hsnapshot : ∀ records recorded, pc = .replacing records recorded →
      Recorded recorded records ∧ recorded ≤ w.recorded) : Ordered { w with pc := pc } := by
  have hsub : (Trace.unwritten { w with pc := pc }).Sublist w.unwritten := by
    show (pc.unwritten ++ _).Sublist _
    rw [hpc]
    exact List.sublist_append_right _ _
  exact {
    trace := h.trace
    unwritten := h.unwritten.sublist hsub
    file := h.file
    covered := h.covered
    ahead := fun x hx => (h.ahead x hx).imp_right fun hr r hmem => hr r (hsub.subset hmem)
    snapshot := hsnapshot }

/-- The record in the writer's hand comes after the file, and before all that is still unwritten. -/
theorem appended {r : Record} {pc : WriterPc} (h : Ordered w) (hpc : w.pc = .appending r)
    (hr : w.covered ≤ r.seq) (hpc' : pc.unwritten = [])
    (hsnapshot : ∀ records recorded, pc ≠ .replacing records recorded) :
    Ordered { w with file := w.file ++ [r], pc := pc } := by
  have hunwritten : w.unwritten = r :: (w.queue ++ w.inHand) := by
    rw [Trace.unwritten, hpc]
    rfl
  have hrest : Trace.unwritten { w with file := w.file ++ [r], pc := pc } = w.queue ++ w.inHand := by
    show pc.unwritten ++ _ = _
    rw [hpc', List.nil_append]
  have hall := h.unwritten
  rw [hunwritten] at hall
  have hlater : ∀ y ∈ w.queue ++ w.inHand, r.seq < y.seq :=
    fun _ => List.rel_of_pairwise_cons hall.inOrder
  have hfile : ∀ x ∈ w.file, x.seq < r.seq := fun x hx => by
    rcases h.ahead x hx with hcovered | hahead
    · exact Nat.lt_of_lt_of_le hcovered hr
    · exact hahead r (hunwritten ▸ List.mem_cons_self)
  refine {
    trace := h.trace
    unwritten := hrest ▸ hall.sublist (List.sublist_cons_self _ _)
    file := .concat h.file.inOrder hfile (hall.before r List.mem_cons_self)
    covered := h.covered
    ahead := fun x hx => .inr fun y hy => ?_
    snapshot := fun records recorded heq => absurd heq (hsnapshot records recorded) }
  rw [hrest] at hy
  rcases List.mem_append.mp hx with hx | hx
  · exact Nat.lt_trans (hfile x hx) (hlater y hy)
  · rw [List.mem_singleton.mp hx]
    exact hlater y hy

theorem record (h : Ordered w) (size : Nat) : Ordered (w.record cfg size) := by
  have hunwritten : (w.record cfg size).unwritten =
      w.unwritten ++ [{ seq := w.recorded, size := size }] := by
    simp [Trace.unwritten, Trace.record]
  refine {
    trace := (h.trace.next size).trim cfg
    unwritten := hunwritten ▸ h.unwritten.next size
    file := h.file.mono (Nat.le_succ _)
    covered := Nat.le_trans h.covered (Nat.le_succ _)
    ahead := fun x hx => (h.ahead x hx).imp_right fun hahead r hr => ?_
    snapshot := fun records recorded heq => (h.snapshot records recorded heq).imp_right
      fun hle => Nat.le_trans hle (Nat.le_succ _) }
  rw [hunwritten] at hr
  rcases List.mem_append.mp hr with hr | hr
  · exact hahead r hr
  · rw [List.mem_singleton.mp hr]
    exact h.file.before x hx

/-- The first thread in line puts its record at the end of what is left of the queue. -/
theorem enqueue {r : Record} (h : Ordered w) (hr : w.inHand[0]? = some r) :
    Ordered (w.enqueue cfg 0 r) := by
  have hsub : (w.enqueue cfg 0 r).unwritten.Sublist w.unwritten := by
    cases hhand : w.inHand with
    | nil =>
      rw [hhand] at hr
      cases hr
    | cons r' hand =>
      rw [hhand] at hr
      cases hr
      have hroom := (makeRoom_suffix cfg r.size w.queue w.queueBytes w.dropCount).sublist
      simp only [Trace.unwritten, Trace.enqueue, hhand, List.eraseIdx_zero, List.tail_cons,
        List.append_assoc, List.singleton_append]
      exact (List.Sublist.refl _).append (hroom.append (.refl _))
  exact {
    trace := h.trace
    unwritten := h.unwritten.sublist hsub
    file := h.file
    covered := h.covered
    ahead := fun x hx => (h.ahead x hx).imp_right fun hahead y hy => hahead y (hsub.subset hy)
    snapshot := h.snapshot }

theorem pop {r : Record} {queue : List Record} (h : Ordered w) (hpc : w.pc = .waiting)
    (hqueue : w.queue = r :: queue) :
    Ordered { w with queue := queue, queueBytes := w.queueBytes - r.size, pc := .appending r } := by
  have hunwritten : w.unwritten = [r] ++ (queue ++ w.inHand) := by
    rw [Trace.unwritten, hpc, hqueue]
    rfl
  have hall := h.unwritten
  have hahead := h.ahead
  rw [hunwritten] at hall hahead
  exact {
    trace := h.trace
    unwritten := hall
    file := h.file
    covered := h.covered
    ahead := hahead
    snapshot := fun _ _ heq => by cases heq }

/-- What is in the file after a rewrite is what the rewrite covers. -/
theorem replace {records : List Record} {recorded : Nat} (h : Ordered w)
    (hpc : w.pc = .replacing records recorded) :
    Ordered { w with file := records, covered := recorded, pc := .waiting } := by
  obtain ⟨hrecords, hle⟩ := h.snapshot records recorded hpc
  have hsub : (w.queue ++ w.inHand).Sublist w.unwritten := List.sublist_append_right _ _
  exact {
    trace := h.trace
    unwritten := h.unwritten.sublist hsub
    file := hrecords.mono hle
    covered := hle
    ahead := fun x hx => .inl (hrecords.before x hx)
    snapshot := fun _ _ heq => by cases heq }

theorem moves (h : Ordered w) (hturn : InTurn w a) (hmove : Moves cfg w a w') : Ordered w' := by
  cases hmove with
  | recorded size => exact h.record size
  | queued hr =>
    rw [show _ = 0 from hturn] at hr ⊢
    exact h.enqueue hr
  | popped hpc hqueue => exact h.pop hpc hqueue
  | appended hpc =>
    exact h.appended hpc (hturn _ (by rw [hpc]; exact List.mem_singleton_self _)) rfl
      fun _ _ heq => by cases heq
  | halfAppended hpc =>
    exact h.appended hpc (hturn _ (by rw [hpc]; exact List.mem_singleton_self _)) rfl
      fun _ _ heq => by cases heq
  | snapshotted =>
    refine h.of_pc rfl fun records recorded heq => ?_
    cases heq
    exact ⟨h.trace, Nat.le_refl _⟩
  | replaced hpc => exact h.replace hpc
  | notAppended | exceeds | fits | unknown | kept =>
    exact h.of_pc rfl fun _ _ heq => by cases heq

end Ordered

/-- In every run in which threads enqueue in turn and the writer appends no record that the last
rewrite has passed, the file has the records in the order in which they were recorded, none twice.
-/
theorem trace_in_order {cfg : Config} {sizes : List Nat} {w : Trace}
    (hr : Reach (step cfg) InTurn (cfg.initial sizes) w) :
    w.file.Pairwise fun r r' => r.seq < r'.seq :=
  (hr.invariant (Ordered.initial cfg sizes)
    fun _ _ _ h hturn hs => h.moves hturn (moves_of_step hs)).file.inOrder

/-! ## Runs with a rewrite

The lines have 600 bytes, and the file may have 1024. -/

def Config.small : Config :=
  { traceLimit := 8, fileLimitBytes := 1024, queueLimitRecords := 4, queueLimitBytes := 4096 }

/-- The writer appends a record, and then rewrites the file. -/
def rewriting : List Act := [.pop, .append, .stat, .snapshot, .replace]

/-- The file is rewritten while the queue is empty, and has one more record afterwards. -/
theorem trace_in_order_rewritten : ∃ w : Trace, w.covered = 2 ∧ w.file.length = 3 ∧
    w.file.Pairwise fun r r' => r.seq < r'.seq := by
  have hrun : (exec (guarded (step .small) InTurn) (Config.small.initial [600])
      ([.record 600, .enqueue 0] ++ rewriting ++ [.record 600, .enqueue 0, .pop, .append])).map
      (fun w => decide (w.covered = 2 ∧ w.file.length = 3)) = some true := by
    decide +kernel
  obtain ⟨w, hw, hview⟩ := Option.map_eq_some_iff.mp hrun
  have hview := of_decide_eq_true hview
  exact ⟨w, hview.1, hview.2, trace_in_order (reach_of_exec hw)⟩

/-- The rewrite takes a record from memory that still waits in the queue, and the writer appends it
again. -/
theorem trace_repeated : ∃ w : Trace, Reach (step .small) anyStep (Config.small.initial [600]) w ∧
    w.file.map Record.seq = [0, 1, 2, 2] ∧ ¬w.file.Pairwise fun r r' => r.seq < r'.seq := by
  have hrun : (exec (guarded (step .small) anyStep) (Config.small.initial [600])
      ([.record 600, .enqueue 0, .record 600, .enqueue 0] ++ rewriting ++ [.pop, .append])).map
      (fun w => w.file.map Record.seq) = some [0, 1, 2, 2] := by
    decide +kernel
  obtain ⟨w, hw, hview⟩ := Option.map_eq_some_iff.mp hrun
  refine ⟨w, reach_of_exec hw, hview, fun horder => ?_⟩
  have hseqs : (w.file.map Record.seq).Pairwise (· < ·) := List.pairwise_map.mpr horder
  rw [hview] at hseqs
  revert hseqs
  decide

/-- A thread that is overtaken between its two lock sections writes after the one that overtook
it. -/
theorem trace_overtaken : ∃ w : Trace, Reach (step .small) anyStep (Config.small.initial []) w ∧
    w.file.map Record.seq = [1, 0] := by
  have hrun : (exec (guarded (step .small) anyStep) (Config.small.initial [])
      [.record 400, .record 400, .enqueue 1, .enqueue 0, .pop, .append, .stat, .pop, .append]).map
      (fun w => w.file.map Record.seq) = some [1, 0] := by
    decide +kernel
  obtain ⟨w, hw, hview⟩ := Option.map_eq_some_iff.mp hrun
  exact ⟨w, reach_of_exec hw, hview⟩

end Sensorium.TraceFile

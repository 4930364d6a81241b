import Mathlib.Algebra.Order.Ring.Nat
import Mathlib.Data.List.Pairwise
import Sensorium.Lib.Runs

/-!
# The trace file

Request threads append a record to the trace in memory under the lock of the manager, and put it
into the queue of the trace writer under the lock of the writer.  The writer thread appends the
records of the queue to the trace file, and when the file exceeds its limit it replaces the file
by the trace in memory.  Between two lock sections, and between two accesses to the file, any
other thread may run.
-/

namespace Sensorium.TraceFile

open Lib

/-- The arguments of the manager and of `AsyncTraceWriter`. -/
structure Config where
  traceLimit : Int
  fileLimitBytes : Int
  queueLimitRecords : Int
  queueLimitBytes : Int

/-- A record as the `seq`th that was recorded, and the size of its line in the file. -/
structure Record where
  seq : Nat
  size : Nat
deriving DecidableEq

/-- The writer thread between two of its accesses to what it shares. -/
inductive WriterPc
  | waiting
  | appending (r : Record)
  | checking
  | snapshotting
  -- the snapshot, and how many records there were when it was taken
  | replacing (records : List Record) (recorded : Nat)
deriving DecidableEq

/-- `inHand` are the records whose threads are between the two locks of `_record_trace`, in the
order in which they were recorded.  `covered` is how many records there were when the last rewrite
of the file took its snapshot. -/
structure Trace where
  trace : List Record
  recorded : Nat
  inHand : List Record
  queue : List Record
  queueBytes : Nat
  dropCount : Nat
  pc : WriterPc
  file : List Record
  covered : Nat

inductive Act
  | record (size : Nat)
  | enqueue (thread : Nat)
  | pop
  | append
  -- `OSError`, with the line in the file or not
  | appendFails (written : Bool)
  | stat
  | statFails
  | snapshot
  | replace
  | replaceFails

namespace Config

variable (cfg : Config)

def maxTrace : Nat := max 1 cfg.traceLimit.toNat
def maxFileBytes : Nat := max 1024 cfg.fileLimitBytes.toNat
def maxQueueRecords : Nat := max 1 cfg.queueLimitRecords.toNat
def maxQueueBytes : Nat := max 1024 cfg.queueLimitBytes.toNat

/-- `del self.trace[: len(self.trace) - self.trace_limit]`. -/
def trim (records : List Record) : List Record := records.drop (records.length - cfg.maxTrace)

/-- The loop of `enqueue` that drops the oldest records: the queue, its bytes and the drops. -/
def makeRoom (size : Nat) : List Record → Nat → Nat → List Record × Nat × Nat
  | [], bytes, drops => ([], bytes, drops)
  | r :: queue, bytes, drops =>
    if cfg.maxQueueRecords ≤ queue.length + 1 ∨ cfg.maxQueueBytes < bytes + size then
      makeRoom size queue (bytes - r.size) (drops + 1)
    else (r :: queue, bytes, drops)

end Config

def totalSize (records : List Record) : Nat := (records.map Record.size).sum

/-- The records of earlier sessions, by the sizes of their lines. -/
def earlierRecords (first : Nat) : List Nat → List Record
  | [] => []
  | size :: sizes => { seq := first, size := size } :: earlierRecords (first + 1) sizes

/-- `_load_trace_history`. -/
def Config.initial (cfg : Config) (sizes : List Nat) : Trace where
  trace := cfg.trim (earlierRecords 0 sizes)
  recorded := sizes.length
  inHand := []
  queue := []
  queueBytes := 0
  dropCount := 0
  pc := .waiting
  file := earlierRecords 0 sizes
  covered := sizes.length

namespace Trace

variable (cfg : Config) (w : Trace)

/-- The first lock section of `_record_trace`. -/
def record (size : Nat) : Trace :=
  let r : Record := { seq := w.recorded, size := size }
  { w with
    trace := cfg.trim (w.trace ++ [r])
    recorded := w.recorded + 1
    inHand := w.inHand ++ [r] }

/-- The lock section of `enqueue`. -/
def enqueue (thread : Nat) (r : Record) : Trace :=
  let room := cfg.makeRoom r.size w.queue w.queueBytes w.dropCount
  { w with
    inHand := w.inHand.eraseIdx thread
    queue := room.1 ++ [r]
    queueBytes := room.2.1 + r.size
    dropCount := room.2.2 }

end Trace

/-- `_record_trace` in the request threads, `_loop` and `_write_record` in the writer. -/
def step (cfg : Config) (w : Trace) : Act → Option Trace
  | .record size => some (w.record cfg size)
  | .enqueue thread => w.inHand[thread]?.map (w.enqueue cfg thread)
  | .pop =>
    match w.pc, w.queue with
    | .waiting, r :: queue =>
      some { w with queue := queue, queueBytes := w.queueBytes - r.size, pc := .appending r }
    | _, _ => none
  | .append =>
    match w.pc with
    | .appending r => some { w with file := w.file ++ [r], pc := .checking }
    | _ => none
  | .appendFails written =>
    match w.pc with
    | .appending r =>
      some { w with file := if written then w.file ++ [r] else w.file, pc := .waiting }
    | _ => none
  | .stat =>
    match w.pc with
    | .checking =>
      some { w with
        pc := if cfg.maxFileBytes < totalSize w.file then .snapshotting else .waiting }
    | _ => none
  | .statFails =>
    match w.pc with
    | .checking => some { w with pc := .waiting }
    | _ => none
  | .snapshot =>
    match w.pc with
    | .snapshotting => some { w with pc := .replacing w.trace w.recorded }
    | _ => none
  | .replace =>
    match w.pc with
    | .replacing records recorded =>
      some { w with file := records, covered := recorded, pc := .waiting }
    | _ => none
  | .replaceFails =>
    match w.pc with
    | .replacing _ _ => some { w with pc := .waiting }
    | _ => none

/-! ## The steps, one constructor a branch -/

inductive Moves (cfg : Config) (w : Trace) : Act → Trace → Prop
  | recorded (size : Nat) : Moves cfg w (.record size) (w.record cfg size)
  | queued {thread : Nat} {r : Record} (hr : w.inHand[thread]? = some r) :
    Moves cfg w (.enqueue thread) (w.enqueue cfg thread r)
  | popped {r : Record} {queue : List Record} (hpc : w.pc = .waiting)
    (hqueue : w.queue = r :: queue) :
    Moves cfg w .pop
      { w with queue := queue, queueBytes := w.queueBytes - r.size, pc := .appending r }
  | appended {r : Record} (hpc : w.pc = .appending r) :
    Moves cfg w .append { w with file := w.file ++ [r], pc := .checking }
  | halfAppended {r : Record} (hpc : w.pc = .appending r) :
    Moves cfg w (.appendFails true) { w with file := w.file ++ [r], pc := .waiting }
  | notAppended {r : Record} (hpc : w.pc = .appending r) :
    Moves cfg w (.appendFails false) { w with pc := .waiting }
  | exceeds (hpc : w.pc = .checking) (hsize : cfg.maxFileBytes < totalSize w.file) :
    Moves cfg w .stat { w with pc := .snapshotting }
  | fits (hpc : w.pc = .checking) (hsize : ¬cfg.maxFileBytes < totalSize w.file) :
    Moves cfg w .stat { w with pc := .waiting }
  | unknown (hpc : w.pc = .checking) : Moves cfg w .statFails { w with pc := .waiting }
  | snapshotted (hpc : w.pc = .snapshotting) :
    Moves cfg w .snapshot { w with pc := .replacing w.trace w.recorded }
  | replaced {records : List Record} {recorded : Nat} (hpc : w.pc = .replacing records recorded) :
    Moves cfg w .replace { w with file := records, covered := recorded, pc := .waiting }
  | kept {records : List Record} {recorded : Nat} (hpc : w.pc = .replacing records recorded) :
    Moves cfg w .replaceFails { w with pc := .waiting }

variable {cfg : Config} {w w' : Trace} {a : Act}

theorem moves_of_step (h : step cfg w a = some w') : Moves cfg w a w' := by
  cases a with
  | record size =>
    cases h
    exact .recorded size
  | enqueue thread =>
    obtain ⟨r, hr, heq⟩ := Option.map_eq_some_iff.mp h
    cases heq
    exact .queued hr
  | pop =>
    simp only [step] at h
    split at h
    · rename_i hpc hqueue
      cases h
      exact .popped hpc hqueue
    · cases h
  | append =>
    simp only [step] at h
    split at h
    · rename_i hpc
      cases h
      exact .appended hpc
    · cases h
  | appendFails written =>
    simp only [step] at h
    split at h
    · rename_i hpc
      cases h
      cases written with
      | true => exact .halfAppended hpc
      | false => exact .notAppended hpc
    · cases h
  | stat =>
    simp only [step] at h
    split at h
    · rename_i hpc
      by_cases hsize : cfg.maxFileBytes < totalSize w.file
      · rw [if_pos hsize] at h
        cases h
        exact .exceeds hpc hsize
      · rw [if_neg hsize] at h
        cases h
        exact .fits hpc hsize
    · cases h
  | statFails =>
    simp only [step] at h
    split at h
    · rename_i hpc
      cases h
      exact .unknown hpc
    · cases h
  | snapshot =>
    simp only [step] at h
    split at h
    · rename_i hpc
      cases h
      exact .snapshotted hpc
    · cases h
  | replace =>
    simp only [step] at h
    split at h
    · rename_i hpc
      cases h
      exact .replaced hpc
    · cases h
  | replaceFails =>
    simp only [step] at h
    split at h
    · rename_i hpc
      cases h
      exact .kept hpc
    · cases h

/-! ## The queue -/

/-- What `makeRoom` leaves is the end of the queue. -/
theorem makeRoom_suffix (cfg : Config) (size : Nat) (queue : List Record) (bytes drops : Nat) :
    (cfg.makeRoom size queue bytes drops).1 <:+ queue := by
  induction queue generalizing bytes drops with
  | nil => exact List.suffix_refl []
  | cons r queue ih =>
    rw [Config.makeRoom]
    split
    · exact (ih _ _).trans (List.suffix_cons r queue)
    · exact List.suffix_refl _

/-- `queue_bytes` is the size of the queue. -/
theorem makeRoom_bytes (size : Nat) (queue : List Record) (drops : Nat) :
    (cfg.makeRoom size queue (totalSize queue) drops).2.1 =
      totalSize (cfg.makeRoom size queue (totalSize queue) drops).1 := by
  induction queue generalizing drops with
  | nil => rfl
  | cons r queue ih =>
    rw [Config.makeRoom]
    split
    · have hrest : totalSize (r :: queue) - r.size = totalSize queue := by
        simp [totalSize]
      rw [hrest]
      exact ih _
    · rfl

theorem makeRoom_length (cfg : Config) (size : Nat) (queue : List Record) (bytes drops : Nat) :
    (cfg.makeRoom size queue bytes drops).1.length < cfg.maxQueueRecords := by
  induction queue generalizing bytes drops with
  | nil => exact Nat.lt_of_lt_of_le Nat.zero_lt_one (Nat.le_max_left _ _)
  | cons r queue ih =>
    rw [Config.makeRoom]
    split
    · exact ih _ _
    · rename_i h
      rw [List.length_cons]
      omega

/-- The bounds of the queue hold in every state, whatever the threads do. -/
structure QueueBounded (cfg : Config) (w : Trace) : Prop where
  bytes : w.queueBytes = totalSize w.queue
  length : w.queue.length ≤ cfg.maxQueueRecords

theorem QueueBounded.moves (h : QueueBounded cfg w) (hmove : Moves cfg w a w') :
    QueueBounded cfg w' := by
  cases hmove with
  | queued =>
    rename_i thread r _
    have hlength := makeRoom_length cfg r.size w.queue w.queueBytes w.dropCount
    constructor
    · show _ + r.size = totalSize (_ ++ [r])
      rw [h.bytes, makeRoom_bytes]
      simp [totalSize]
    · show (_ ++ [r]).length ≤ _
      rw [List.length_append]
      exact hlength
  | popped hpc hqueue =>
    have hlength := h.length
    have hbytes := h.bytes
    rw [hqueue] at hlength hbytes
    constructor
    · show w.queueBytes - _ = totalSize _
      rw [hbytes]
      simp [totalSize]
    · exact Nat.le_trans (Nat.le_succ _) hlength
  | _ => exact ⟨h.bytes, h.length⟩

theorem queueBounded_of_reach {sizes : List Nat}
    (hr : Reach (step cfg) anyStep (cfg.initial sizes) w) : QueueBounded cfg w :=
  hr.invariant ⟨rfl, Nat.zero_le _⟩ fun _ _ _ h _ hs => h.moves (moves_of_step hs)

end Sensorium.TraceFile

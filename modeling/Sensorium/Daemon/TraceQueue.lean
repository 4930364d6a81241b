import Sensorium.Daemon.TraceWriter

/-!
# The accounts of the trace queue

`enqueue`, the writer's pop, `reset_counters` and `stats`, each a section under the lock of the
writer, in any order and from any threads.  Nothing is taken out of the queue but what a pop takes
for writing and what an enqueue drops to make room.
-/

namespace Sensorium.TraceFile

open Lib

/-- What `AsyncTraceWriter` keeps under its lock.  `enqueued`, `popped` and `dropped` are history, in
the order of the sections; `droppedAtReset` is how many had been dropped at the last reset. -/
structure Queue where
  queue : List Record
  queueBytes : Nat
  pendingWrites : Nat
  dropCount : Nat
  maxQueueDepth : Nat
  maxQueueBytes : Nat
  enqueued : List Record
  popped : List Record
  dropped : List Record
  droppedAtReset : Nat

structure Stats where
  queueDepth : Nat
  queueBytes : Nat
  dropCount : Nat
  maxQueueDepth : Nat
  maxQueueBytes : Nat
  deriving DecidableEq

namespace Queue

inductive Act
  | enqueue (r : Record)
  | pop
  | written
  | resetCounters

variable (cfg : Config) (q : Queue)

/-- The lock section of `enqueue`; what makes room is a suffix of the queue. -/
def enqueue (r : Record) : Queue :=
  let room := cfg.makeRoom r.size q.queue q.queueBytes q.dropCount
  let queue := room.1 ++ [r]
  let queueBytes := room.2.1 + r.size
  { q with
    queue
    queueBytes
    dropCount := room.2.2
    maxQueueDepth := max q.maxQueueDepth queue.length
    maxQueueBytes := max q.maxQueueBytes queueBytes
    enqueued := q.enqueued ++ [r]
    dropped := q.dropped ++ q.queue.take (q.queue.length - room.1.length) }

/-- The first lock section of `_loop`, where there is something to write. -/
def pop : Option Queue :=
  match q.queue with
  | [] => none
  | r :: queue =>
    some { q with
      queue
      queueBytes := q.queueBytes - r.size
      pendingWrites := q.pendingWrites + 1
      popped := q.popped ++ [r] }

def resetCounters : Queue :=
  { q with
    dropCount := 0
    maxQueueDepth := q.queue.length
    maxQueueBytes := q.queueBytes
    droppedAtReset := q.dropped.length }

def stats : Stats where
  queueDepth := q.queue.length
  queueBytes := q.queueBytes
  dropCount := q.dropCount
  maxQueueDepth := q.maxQueueDepth
  maxQueueBytes := q.maxQueueBytes

def step : Act → Option Queue
  | .enqueue r => some (q.enqueue cfg r)
  | .pop => q.pop
  | .written => some { q with pendingWrites := q.pendingWrites - 1 }
  | .resetCounters => some q.resetCounters

/-- A new writer. -/
def empty : Queue where
  queue := []
  queueBytes := 0
  pendingWrites := 0
  dropCount := 0
  maxQueueDepth := 0
  maxQueueBytes := 0
  enqueued := []
  popped := []
  dropped := []
  droppedAtReset := 0

end Queue

/-! ## The loop that drops -/

variable {cfg : Config} {size : Nat} {queue : List Record}

/-- Each record that is dropped is counted. -/
theorem makeRoom_drops (cfg : Config) (size : Nat) (queue : List Record) (bytes drops : Nat) :
    (cfg.makeRoom size queue bytes drops).2.2 =
      drops + (queue.length - (cfg.makeRoom size queue bytes drops).1.length) := by
  induction queue generalizing bytes drops with
  | nil => rfl
  | cons r queue ih =>
    rw [Config.makeRoom]
    split
    · have hsuffix := (makeRoom_suffix cfg size queue (bytes - r.size) (drops + 1)).length_le
      rw [ih, List.length_cons]
      omega
    · rw [Nat.sub_self, Nat.add_zero]

/-- The new record fits, or nothing is left before it. -/
theorem makeRoom_fits (cfg : Config) (size : Nat) (queue : List Record) (bytes drops : Nat) :
    (cfg.makeRoom size queue bytes drops).1 = [] ∨
      (cfg.makeRoom size queue bytes drops).2.1 + size ≤ cfg.maxQueueBytes := by
  induction queue generalizing bytes drops with
  | nil => exact .inl rfl
  | cons r queue ih =>
    rw [Config.makeRoom]
    split
    · exact ih _ _
    · rename_i hroom
      rw [not_or, Nat.not_lt] at hroom
      exact .inr hroom.2

/-- What is dropped and what is left are the queue. -/
theorem makeRoom_split (cfg : Config) (size : Nat) (queue : List Record) (bytes drops : Nat) :
    queue.take (queue.length - (cfg.makeRoom size queue bytes drops).1.length) ++
      (cfg.makeRoom size queue bytes drops).1 = queue := by
  obtain ⟨before, hbefore⟩ := makeRoom_suffix cfg size queue bytes drops
  generalize (cfg.makeRoom size queue bytes drops).1 = room at hbefore
  rw [← hbefore, List.length_append, Nat.add_sub_cancel, List.take_left]

/-! ## The accounts -/

theorem totalSize_append (records records' : List Record) :
    totalSize (records ++ records') = totalSize records + totalSize records' := by
  rw [totalSize, List.map_append, List.sum_append]
  rfl

namespace Queue

variable {q q' : Queue}

/-- What holds between any two sections. -/
structure Balanced (cfg : Config) (q : Queue) : Prop where
  bytes : q.queueBytes = totalSize q.queue
  records : q.queue.length ≤ cfg.maxQueueRecords
  limit : q.queueBytes ≤ cfg.maxQueueBytes ∨ q.queue.length = 1
  inOrder : (q.popped ++ q.queue).Sublist q.enqueued
  count : ∀ r, q.popped.count r + q.queue.count r + q.dropped.count r = q.enqueued.count r
  drops : q.droppedAtReset + q.dropCount = q.dropped.length

theorem balanced_empty (cfg : Config) : Balanced cfg empty where
  bytes := rfl
  records := Nat.zero_le _
  limit := .inl (Nat.zero_le _)
  inOrder := List.Sublist.refl []
  count _ := rfl
  drops := rfl

theorem Balanced.enqueue (h : Balanced cfg q) (r : Record) : Balanced cfg (q.enqueue cfg r) := by
  have hsplit := makeRoom_split cfg r.size q.queue q.queueBytes q.dropCount
  have hlength := makeRoom_length cfg r.size q.queue q.queueBytes q.dropCount
  have hdrops := makeRoom_drops cfg r.size q.queue q.queueBytes q.dropCount
  have hfits := makeRoom_fits cfg r.size q.queue q.queueBytes q.dropCount
  have hbytes : (cfg.makeRoom r.size q.queue q.queueBytes q.dropCount).2.1 =
      totalSize (cfg.makeRoom r.size q.queue q.queueBytes q.dropCount).1 := by
    rw [h.bytes]
    exact makeRoom_bytes r.size q.queue q.dropCount
  unfold Queue.enqueue
  generalize cfg.makeRoom r.size q.queue q.queueBytes q.dropCount = room at *
  have hsum := congrArg List.length hsplit
  rw [List.length_append] at hsum
  constructor
  · show room.2.1 + r.size = totalSize (room.1 ++ [r])
    rw [totalSize_append, hbytes]
    rfl
  · show (room.1 ++ [r]).length ≤ _
    rw [List.length_append]
    exact hlength
  · show room.2.1 + r.size ≤ _ ∨ (room.1 ++ [r]).length = 1
    -- a record that exceeds the limit by itself is alone in the queue
    rcases hfits with hnone | hfits
    · rw [hnone]
      exact .inr rfl
    · exact .inl hfits
  · show (q.popped ++ (room.1 ++ [r])).Sublist (q.enqueued ++ [r])
    rw [← List.append_assoc]
    -- dropping takes records out of the middle: behind the popped ones, before the rest
    refine List.Sublist.append ?_ (List.Sublist.refl [r])
    refine List.Sublist.trans ?_ h.inOrder
    exact List.Sublist.append_left (hsplit ▸ List.sublist_append_right _ _) _
  · intro r'
    have hcount := h.count r'
    -- each copy of a record that leaves the queue is in `dropped`
    have heach := congrArg (List.count r') hsplit
    rw [List.count_append] at heach
    show q.popped.count r' + (room.1 ++ [r]).count r' + (q.dropped ++ _).count r' =
      (q.enqueued ++ [r]).count r'
    rw [List.count_append, List.count_append, List.count_append]
    omega
  · show q.droppedAtReset + room.2.2 = (q.dropped ++ _).length
    rw [List.length_append, hdrops, ← h.drops]
    omega

theorem Balanced.pop (h : Balanced cfg q) (hpop : q.pop = some q') : Balanced cfg q' := by
  unfold Queue.pop at hpop
  split at hpop
  · cases hpop
  · rename_i r queue hqueue
    have hbytes := h.bytes
    have hrecords := h.records
    have hcount := h.count
    have hinOrder := h.inOrder
    have hlimit := h.limit
    rw [hqueue] at hbytes hrecords hcount hinOrder hlimit
    have hsize : totalSize (r :: queue) = r.size + totalSize queue := by
      rw [totalSize, List.map_cons, List.sum_cons]
      rfl
    rw [List.length_cons] at hrecords hlimit
    cases hpop
    constructor
    · show q.queueBytes - r.size = totalSize queue
      omega
    · exact Nat.le_of_succ_le hrecords
    · show q.queueBytes - r.size ≤ _ ∨ queue.length = 1
      refine .inl ?_
      rcases hlimit with hlimit | hsingle
      · omega
      · -- the single record is gone
        have hnone : queue = [] := List.length_eq_zero_iff.mp (by omega)
        rw [hbytes, hsize, hnone, Nat.add_sub_cancel_left]
        exact Nat.zero_le _
    · show (q.popped ++ [r] ++ queue).Sublist q.enqueued
      rw [List.append_assoc]
      exact hinOrder
    · intro r'
      show (q.popped ++ [r]).count r' + queue.count r' + q.dropped.count r' = q.enqueued.count r'
      rw [← hcount r', List.count_append, Nat.add_assoc (q.popped.count r'), ← List.count_append]
      rfl
    · exact h.drops

theorem Balanced.step {a : Act} (h : Balanced cfg q) (hstep : Queue.step cfg q a = some q') :
    Balanced cfg q' := by
  cases a with
  | enqueue r =>
    cases hstep
    exact h.enqueue r
  | pop => exact h.pop hstep
  | written =>
    cases hstep
    exact ⟨h.bytes, h.records, h.limit, h.inOrder, h.count, h.drops⟩
  | resetCounters =>
    cases hstep
    exact ⟨h.bytes, h.records, h.limit, h.inOrder, h.count, Nat.add_zero _⟩

end Queue

/-- Every record that was enqueued is popped, queued or dropped. -/
theorem Queue.Balanced.perm {q : Queue} (h : Balanced cfg q) :
    (q.popped ++ q.queue ++ q.dropped).Perm q.enqueued := by
  rw [List.perm_iff_count]
  intro r
  rw [List.count_append, List.count_append]
  exact h.count r

open Queue in
/-- In every run of enqueues, pops and resets: the bytes are those of the queued records; both limits
hold, but for the bytes of a single record; what was popped and what is queued was enqueued in that
order; every record that was enqueued is popped, queued or dropped; and the drops that are reported
are those since the last reset. -/
theorem trace_queue_conserved {q : Queue} (h : Reach (Queue.step cfg) anyStep Queue.empty q) :
    q.queueBytes = totalSize q.queue ∧ q.queue.length ≤ cfg.maxQueueRecords ∧
    (q.queueBytes ≤ cfg.maxQueueBytes ∨ q.queue.length = 1) ∧
    (q.popped ++ q.queue).Sublist q.enqueued ∧
    (q.popped ++ q.queue ++ q.dropped).Perm q.enqueued ∧
    q.popped.length + q.queue.length + q.dropped.length = q.enqueued.length ∧
    q.stats.dropCount = q.dropped.length - q.droppedAtReset := by
  have hbalanced : Balanced cfg q :=
    h.invariant (balanced_empty cfg) fun _ _ _ hq _ hstep => hq.step hstep
  have hlength := hbalanced.perm.length_eq
  rw [List.length_append, List.length_append] at hlength
  refine ⟨hbalanced.bytes, hbalanced.records, hbalanced.limit, hbalanced.inOrder, hbalanced.perm,
    hlength, ?_⟩
  have hdrops := hbalanced.drops
  show q.dropCount = _
  omega

/-- Two records are dropped, one of them after a reset, and one that exceeds the limit is popped. -/
theorem trace_queue_conserved_oversized :
    ∃ q : Queue, q.enqueued.length = 3 ∧ q.popped = [⟨2, 2000⟩] ∧ q.stats.dropCount = 1 ∧
      q.popped.length + q.queue.length + q.dropped.length = q.enqueued.length := by
  have hrun : (exec (guarded (Queue.step ⟨8, 4096, 2, 1024⟩) anyStep) Queue.empty
      [.enqueue ⟨0, 600⟩, .enqueue ⟨1, 600⟩, .resetCounters, .enqueue ⟨2, 2000⟩, .pop]).map
      (fun q => (q.enqueued.length, q.popped, q.stats.dropCount)) = some (3, [⟨2, 2000⟩], 1) := by
    decide +kernel
  obtain ⟨q, hexec, hview⟩ := Option.map_eq_some_iff.mp hrun
  obtain ⟨henqueued, hview⟩ := Prod.mk.inj hview
  obtain ⟨hpopped, hdrops⟩ := Prod.mk.inj hview
  exact ⟨q, henqueued, hpopped, hdrops,
    (trace_queue_conserved (reach_of_exec hexec)).2.2.2.2.2.1⟩

/-- The queue in every run of the threads that trace is one of these. -/
theorem queue_of_reach {sizes : List Nat} {w : Trace}
    (h : Reach (step cfg) anyStep (cfg.initial sizes) w) :
    ∃ q, Reach (Queue.step cfg) anyStep Queue.empty q ∧ q.queue = w.queue ∧
      q.queueBytes = w.queueBytes ∧ q.dropCount = w.dropCount := by
  induction h with
  | start => exact ⟨Queue.empty, .start, rfl, rfl, rfl⟩
  | next _ _ hstep ih =>
    obtain ⟨q, hq, hqueue, hbytes, hdrops⟩ := ih
    -- the other steps of the threads do not touch the queue
    cases moves_of_step hstep with
    | @queued thread r hr =>
      refine ⟨q.enqueue cfg r, hq.next (a := .enqueue r) trivial rfl, ?_, ?_, ?_⟩
      · rw [Queue.enqueue, hqueue, hbytes, hdrops]
        rfl
      · rw [Queue.enqueue, hqueue, hbytes, hdrops]
        rfl
      · rw [Queue.enqueue, hqueue, hbytes, hdrops]
        rfl
    | popped hpc hhead =>
      have hpop : Queue.step cfg q .pop = q.pop := rfl
      rw [Queue.pop, hqueue, hhead] at hpop
      exact ⟨_, hq.next trivial hpop, rfl, by rw [hbytes], hdrops⟩
    | _ => exact ⟨q, hq, hqueue, hbytes, hdrops⟩

end Sensorium.TraceFile

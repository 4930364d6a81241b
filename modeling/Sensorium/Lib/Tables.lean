import Sensorium.Lib.Bytes
import Mathlib.Data.List.Forall2

/-!
# Tables with data

A byte string of a head, a table of records of one size and the data of the records.  The head says
how many records and how many bytes of data there are, and a record declares its share of the data.
A reader that checks the head against the length has not yet checked the records: `Fits` is the
first, `Exact` is both, and the exact strings are those that a writer can have made.
-/

namespace Sensorium.Lib

structure TableFormat where
  headSize : Nat
  countAt : Nat
  dataLenAt : Nat
  recordSize : Nat
  maxCount : Nat
  declared : List UInt8 → Nat
  count_inside : countAt + 4 ≤ headSize
  dataLen_inside : dataLenAt + 4 ≤ headSize

namespace TableFormat

variable (f : TableFormat)

/-! ## Reading -/

def count (p : List UInt8) : Nat := readLe p f.countAt 4

def dataLen (p : List UInt8) : Nat := readLe p f.dataLenAt 4

/-- The record at an offset. -/
def recordAt (p : List UInt8) (offset : Nat) : List UInt8 := (p.drop offset).take f.recordSize

def records (p : List UInt8) : List (List UInt8) :=
  unpackTable f.recordAt f.recordSize p (f.count p) f.headSize

def data (p : List UInt8) : List UInt8 := p.drop (f.headSize + f.recordSize * f.count p)

/-- What the head says fits the length. -/
structure Fits (p : List UInt8) : Prop where
  count_pos : 1 ≤ f.count p
  count_le : f.count p ≤ f.maxCount
  length : p.length = f.headSize + f.recordSize * f.count p + f.dataLen p
  head : f.headSize ≤ p.length

/-- The bytes that records declare. -/
def total (records : List (List UInt8)) : Nat := (records.map f.declared).sum

structure Exact (p : List UInt8) : Prop where
  fits : f.Fits p
  total : f.total (f.records p) = f.dataLen p

/-! ## Writing -/

/-- A head that says what follows it. -/
structure Encodes (p : List UInt8) : Prop where
  parts : ∃ head : List UInt8, ∃ records chunks : List (List UInt8),
    p = head ++ (records.flatten ++ chunks.flatten) ∧ head.length = f.headSize ∧
      readLe head f.countAt 4 = records.length ∧
      readLe head f.dataLenAt 4 = chunks.flatten.length ∧
      1 ≤ records.length ∧ records.length ≤ f.maxCount ∧
      (∀ r ∈ records, r.length = f.recordSize) ∧
      List.Forall₂ (fun r c => c.length = f.declared r) records chunks

/-! ## The exact strings -/

theorem readLe_append_left {as bs : List UInt8} {offset w : Nat} (h : offset + w ≤ as.length) :
    readLe (as ++ bs) offset w = readLe as offset w := by
  unfold readLe
  rw [List.drop_append_of_le_length (by omega),
    List.take_append_of_le_length (by rw [List.length_drop]; omega)]

/-- A field inside a slice. -/
theorem readLe_slice {bs : List UInt8} {start size offset w : Nat} (h : offset + w ≤ size) :
    readLe ((bs.drop start).take size) offset w = readLe bs (start + offset) w := by
  unfold readLe
  rw [List.drop_take, List.take_take, List.drop_drop, Nat.min_eq_left (by omega)]

theorem flatten_unpackTable (bs : List UInt8) (size n offset : Nat) :
    (unpackTable (fun bs offset => (bs.drop offset).take size) size bs n offset).flatten =
      (bs.drop offset).take (size * n) := by
  induction n generalizing offset with
  | zero => simp [unpackTable]
  | succ n ih =>
    rw [unpackTable, List.flatten_cons, ih, Nat.mul_succ, Nat.add_comm (size * n), List.take_add,
      List.drop_drop]

theorem length_unpackTable {β : Type*} (unpack : List UInt8 → Nat → β) (size : Nat)
    (bs : List UInt8) (n offset : Nat) : (unpackTable unpack size bs n offset).length = n := by
  induction n generalizing offset with
  | zero => rfl
  | succ n ih => rw [unpackTable, List.length_cons, ih]

/-- The records are the part of the string behind the head. -/
theorem length_of_mem_records {p : List UInt8} {n offset : Nat}
    (h : offset + f.recordSize * n ≤ p.length) :
    ∀ r ∈ unpackTable f.recordAt f.recordSize p n offset, r.length = f.recordSize := by
  induction n generalizing offset with
  | zero => simp [unpackTable]
  | succ n ih =>
    rw [Nat.mul_succ] at h
    intro r hr
    rcases List.mem_cons.mp hr with rfl | hr
    · rw [recordAt, List.length_take, List.length_drop]
      omega
    · exact ih (by omega) r hr

/-- The data cut as the records declare. -/
def chunks (data : List UInt8) : List (List UInt8) → List (List UInt8)
  | [] => []
  | r :: rs => data.take (f.declared r) :: chunks (data.drop (f.declared r)) rs

theorem chunks_of_total {records : List (List UInt8)} {data : List UInt8}
    (h : f.total records = data.length) :
    (f.chunks data records).flatten = data ∧
      List.Forall₂ (fun r c => c.length = f.declared r) records (f.chunks data records) := by
  induction records generalizing data with
  | nil => exact ⟨(List.length_eq_zero_iff.mp h.symm).symm, .nil⟩
  | cons r rs ih =>
    have hsum : f.declared r + f.total rs = data.length := h
    have hrest : f.total rs = (data.drop (f.declared r)).length := by
      rw [List.length_drop]
      omega
    obtain ⟨hflat, hchunks⟩ := ih hrest
    refine ⟨?_, .cons ?_ hchunks⟩
    · rw [chunks, List.flatten_cons, hflat, List.take_append_drop]
    · rw [List.length_take]
      omega

theorem total_of_chunks {records chunks : List (List UInt8)}
    (h : List.Forall₂ (fun r c => c.length = f.declared r) records chunks) :
    f.total records = chunks.flatten.length := by
  induction h with
  | nil => rfl
  | cons hlen _ ih =>
    rw [total, List.map_cons, List.sum_cons, List.flatten_cons, List.length_append, hlen]
    exact congrArg (_ + ·) ih

variable {f}

theorem Encodes.exact {p : List UInt8} (h : f.Encodes p) : f.Exact p := by
  obtain ⟨head, records, chunks, rfl, hhead, hcount, hdata, hpos, hmax, hsize, hchunks⟩ := h.parts
  have hcountAt := f.count_inside
  have hdataAt := f.dataLen_inside
  have hn : f.count (head ++ (records.flatten ++ chunks.flatten)) = records.length := by
    rw [count, readLe_append_left (by omega), hcount]
  have hlen : f.dataLen (head ++ (records.flatten ++ chunks.flatten)) = chunks.flatten.length := by
    rw [dataLen, readLe_append_left (by omega), hdata]
  have hrecords : f.records (head ++ (records.flatten ++ chunks.flatten)) = records := by
    have hrecord : ∀ r ∈ records, ∀ before after,
        f.recordAt (before ++ (id r ++ after)) before.length = id r := by
      intro r hr before after
      rw [recordAt, List.drop_left, id, List.take_left' (hsize r hr)]
    have htable : unpackTable f.recordAt f.recordSize
        (head ++ (records.flatMap id ++ chunks.flatten)) records.length head.length =
          records.map id := unpackTable_flatMap hsize hrecord head chunks.flatten
    rw [List.flatMap_id, List.map_id] at htable
    rw [TableFormat.records, hn, ← hhead]
    exact htable
  have hflat : records.flatten.length = f.recordSize * records.length := by
    have hpacked : (records.flatMap id).length = f.recordSize * records.length :=
      length_flatMap_pack hsize
    rwa [List.flatMap_id] at hpacked
  refine ⟨⟨by omega, by omega, ?_, ?_⟩, ?_⟩
  · rw [hn, hlen, List.length_append, List.length_append, hhead, hflat]
    omega
  · rw [List.length_append, hhead]
    omega
  · rw [hrecords, hlen, total_of_chunks f hchunks]

theorem Exact.encodes {p : List UInt8} (h : f.Exact p) : f.Encodes p := by
  obtain ⟨⟨hpos, hmax, hlength, hhead⟩, htotal⟩ := h
  have hcountAt := f.count_inside
  have hdataAt := f.dataLen_inside
  have hdata : (f.data p).length = f.dataLen p := by
    rw [data, List.length_drop]
    omega
  obtain ⟨hflat, hchunks⟩ := f.chunks_of_total (htotal.trans hdata.symm)
  have hn : (f.records p).length = f.count p := length_unpackTable _ _ _ _ _
  have htake : ∀ {offset}, offset + 4 ≤ f.headSize →
      readLe (p.take f.headSize) offset 4 = readLe p offset 4 := by
    intro offset hoffset
    have hslice : readLe ((p.drop 0).take f.headSize) offset 4 = readLe p (0 + offset) 4 :=
      readLe_slice hoffset
    rwa [List.drop_zero, Nat.zero_add] at hslice
  refine ⟨p.take f.headSize, f.records p, f.chunks (f.data p) (f.records p), ?_, ?_, ?_, ?_, ?_, ?_,
    ?_, hchunks⟩
  · have hrecords : (f.records p).flatten =
        (p.drop f.headSize).take (f.recordSize * f.count p) := flatten_unpackTable _ _ _ _
    rw [hflat, hrecords, data, ← List.drop_drop, List.take_append_drop, List.take_append_drop]
  · rw [List.length_take]
    omega
  · rw [htake hcountAt, hn]
    rfl
  · rw [htake hdataAt, hflat, hdata]
    rfl
  · rw [hn]
    exact hpos
  · rw [hn]
    exact hmax
  · exact f.length_of_mem_records (by omega)

/-- The exact strings are those that a writer can have made. -/
theorem encodes_iff (p : List UInt8) : f.Encodes p ↔ f.Exact p :=
  ⟨Encodes.exact, Exact.encodes⟩

end TableFormat

end Sensorium.Lib

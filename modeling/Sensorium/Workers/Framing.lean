import Sensorium.Workers.Sessions

/-!
# Timeouts inside a message

A receiver that is told of a timeout calls again.  What an interrupted call has taken from the
socket is gone: between two messages that is nothing, inside one it is a part of the message, and
the rest can never be read as a message again.
-/

namespace Sensorium.Workers

open Lib
open Sensorium.Model (Value Entries)

/-- What is documented of `json`: encoded text has no control character, text with a null byte does
not decode. -/
structure Library.Json (lib : Library) : Prop where
  printable : ∀ message encoded, lib.dumps message = some encoded → ∀ b ∈ encoded, 32 ≤ b.toNat
  noNull : ∀ encoded, 0 ∈ encoded → lib.loads encoded = none

/-! ## Where timeouts strike -/

/-- How many bytes the receiver has when it waits for a segment longer than a timeout: its clock
follows the segments that it has taken. -/
def strikesOn (timeout : Nat) : Nat → List Segment → List Nat
  | _, [] => []
  | now, seg :: segments =>
    (if seg.arrival ≤ now + timeout then [] else [0]) ++
      (strikesOn timeout (max now seg.arrival) segments).map (· + seg.bytes.length)

def Sock.strikes (sock : Sock) (timeout : Nat) : List Nat :=
  strikesOn timeout sock.now sock.segments

/-- The receiver has taken `bs` in time. -/
structure Took (timeout : Nat) (sock : Sock) (bs : List UInt8) (sock' : Sock) : Prop where
  bytes : bs ++ bytesOf sock'.segments = bytesOf sock.segments
  strikes : ∀ p, p ∈ sock.strikes timeout ↔ ∃ q ∈ sock'.strikes timeout, p = q + bs.length
  nothing : bs = [] → sock' = sock

variable {lib : Library} {timeout length : Nat} {chunks taken : List UInt8} {sock sock' : Sock}

theorem Took.refl (timeout : Nat) (sock : Sock) : Took timeout sock [] sock where
  bytes := rfl
  strikes p := ⟨fun hp => ⟨p, hp, rfl⟩, fun ⟨_, hq, hp⟩ => hp ▸ hq⟩
  nothing _ := rfl

theorem Took.trans {sock'' : Sock} {bs bs' : List UInt8} (h : Took timeout sock bs sock')
    (h' : Took timeout sock' bs' sock'') : Took timeout sock (bs ++ bs') sock'' where
  bytes := by rw [List.append_assoc, h'.bytes, h.bytes]
  strikes p := by
    rw [h.strikes, List.length_append]
    constructor
    · rintro ⟨q, hq, rfl⟩
      obtain ⟨q', hq', rfl⟩ := (h'.strikes q).mp hq
      exact ⟨q', hq', by omega⟩
    · rintro ⟨q', hq', rfl⟩
      exact ⟨q' + bs'.length, (h'.strikes _).mpr ⟨q', hq', rfl⟩, by omega⟩
  nothing hnone := by
    obtain ⟨hbs, hbs'⟩ := List.append_eq_nil_iff.mp hnone
    rw [h'.nothing hbs', h.nothing hbs]

theorem mem_strikesOn_cons {now p : Nat} {seg : Segment} {segments : List Segment} :
    p ∈ strikesOn timeout now (seg :: segments) ↔
      (now + timeout < seg.arrival ∧ p = 0) ∨
        ∃ q ∈ strikesOn timeout (max now seg.arrival) segments, p = q + seg.bytes.length := by
  rw [strikesOn, List.mem_append, List.mem_map]
  constructor
  · rintro (hp | ⟨q, hq, rfl⟩)
    · split at hp
      · cases hp
      · rename_i hlate
        exact .inl ⟨Nat.lt_of_not_le hlate, List.mem_singleton.mp hp⟩
    · exact .inr ⟨q, hq, rfl⟩
  · rintro (⟨hlate, rfl⟩ | ⟨q, hq, rfl⟩)
    · rw [if_neg (Nat.not_le_of_lt hlate)]
      exact .inl List.mem_cons_self
    · exact .inr ⟨q, hq, rfl⟩

/-- A segment that has come gives what is asked for, or all that it has. -/
theorem took_recv {now : Nat} {seg : Segment} (segments : List Segment) (closedAt : Option Nat)
    {size : Nat} (hsize : 0 < size) (htime : seg.arrival ≤ now + timeout) :
    seg.bytes.take size ≠ [] ∧ (seg.bytes.take size).length ≤ size ∧
      Took timeout ⟨now, seg :: segments, closedAt⟩ (seg.bytes.take size)
        ⟨max now seg.arrival, seg.dropped size ++ segments, closedAt⟩ := by
  have hpos : 0 < seg.bytes.length := List.length_pos_iff.mpr seg.bytes_ne
  have hlen : (seg.bytes.take size).length = min size seg.bytes.length := List.length_take
  have hne : seg.bytes.take size ≠ [] := by
    rw [← List.length_pos_iff]
    omega
  refine ⟨hne, by omega, ?_, fun p => ?_, fun hnone => absurd hnone hne⟩
  · rw [bytesOf_dropped, bytesOf_cons, ← List.append_assoc, List.take_append_drop]
  · show p ∈ strikesOn timeout now (seg :: segments) ↔ ∃ q ∈ strikesOn timeout
      (max now seg.arrival) (seg.dropped size ++ segments), p = q + (seg.bytes.take size).length
    have hhead : ¬ (now + timeout < seg.arrival ∧ p = 0) := fun hlate => by omega
    rw [mem_strikesOn_cons, or_iff_right hhead, hlen]
    unfold Segment.dropped
    split
    · rename_i hdrop
      -- the whole segment is taken, and the next one is waited for from its arrival on
      have hall : seg.bytes.length ≤ size := List.drop_eq_nil_iff.mp hdrop
      rw [Nat.min_eq_right hall, List.nil_append]
    · rename_i hdrop
      have hpart : size < seg.bytes.length := by
        by_contra hall
        exact hdrop (List.drop_eq_nil_of_le (Nat.le_of_not_lt hall))
      -- the rest of the segment has come already
      rw [Nat.min_eq_left (Nat.le_of_lt hpart), List.singleton_append]
      have hclock : max (max now seg.arrival) seg.arrival = max now seg.arrival := by omega
      constructor
      · rintro ⟨q, hq, rfl⟩
        refine ⟨q + (seg.bytes.length - size), mem_strikesOn_cons.mpr (.inr ⟨q, ?_, ?_⟩), by omega⟩
        · rw [hclock]
          exact hq
        · rw [List.length_drop]
      · rintro ⟨q, hq, rfl⟩
        rcases mem_strikesOn_cons.mp hq with ⟨hlate, -⟩ | ⟨q', hq', rfl⟩
        · have hlate' : max now seg.arrival + timeout < seg.arrival := hlate
          omega
        · rw [hclock] at hq'
          refine ⟨q', hq', ?_⟩
          rw [List.length_drop]
          omega

/-! ## One call -/

/-- Where a receive stops that does not get its bytes. -/
inductive Stops (timeout : Nat) (sock : Sock) : Except Raised (Option (List UInt8)) → Sock → Prop
  | late (strikes : 0 ∈ sock.strikes timeout) :
    Stops timeout sock (.error (silence timeout)) { sock with now := sock.now + timeout }
  | dry {result : Except Raised (Option (List UInt8))} {sock' : Sock} (empty : sock.segments = [])
    (empty' : sock'.segments = []) (none : ∀ bs, result ≠ .ok (some bs)) :
    Stops timeout sock result sock'

/-- A call of `recv` takes bytes in time, waits in vain for a segment, or finds none. -/
theorem recv_cases (timeout : Nat) (sock : Sock) {size : Nat} (hsize : 0 < size) :
    (∃ chunk sock', sock.recv timeout size = (.ok chunk, sock') ∧ chunk ≠ [] ∧
      chunk.length ≤ size ∧ Took timeout sock chunk sock') ∨
    (sock.recv timeout size = (.error (silence timeout), { sock with now := sock.now + timeout }) ∧
      0 ∈ sock.strikes timeout) ∨
    ∃ result sock', sock.recv timeout size = (result, sock') ∧ sock.segments = [] ∧
      sock'.segments = [] ∧ ∀ chunk, result = .ok chunk → chunk = [] := by
  obtain ⟨now, segments, closedAt⟩ := sock
  cases segments with
  | nil =>
    refine .inr (.inr ?_)
    cases closedAt with
    | none => exact ⟨_, _, rfl, rfl, rfl, fun chunk h => by cases h⟩
    | some closed =>
      by_cases htime : closed ≤ now + timeout
      · exact ⟨_, _, if_pos htime, rfl, rfl, fun chunk h => by cases h; rfl⟩
      · exact ⟨_, _, if_neg htime, rfl, rfl, fun chunk h => by cases h⟩
  | cons seg rest =>
    by_cases htime : seg.arrival ≤ now + timeout
    · obtain ⟨hne, hlen, htook⟩ := took_recv rest closedAt hsize htime
      exact .inl ⟨_, _, if_pos htime, hne, hlen, htook⟩
    · exact .inr (.inl ⟨if_neg htime,
        mem_strikesOn_cons.mpr (.inl ⟨Nat.lt_of_not_le htime, rfl⟩)⟩)

section Recv

variable {timeout size : Nat} {sock sock' : Sock}

-- What a call of `recv` returned tells which of the three it was.
theorem stops_of_raised (hsize : 0 < size) {raised : Raised}
    (h : sock.recv timeout size = (.error raised, sock')) :
    Stops timeout sock (.error raised) sock' := by
  rcases recv_cases timeout sock hsize with
    ⟨chunk, _, hchunk, -⟩ | ⟨hlate, hstrikes⟩ | ⟨result, _, hdry, hempty, hempty', -⟩
  · rw [h] at hchunk
    cases hchunk
  · rw [h] at hlate
    cases hlate
    exact .late hstrikes
  · rw [h] at hdry
    cases hdry
    exact .dry hempty hempty' fun bs hbs => by cases hbs

theorem empty_of_closed (hsize : 0 < size) (h : sock.recv timeout size = (.ok [], sock')) :
    sock.segments = [] ∧ sock'.segments = [] := by
  rcases recv_cases timeout sock hsize with
    ⟨chunk, _, hchunk, hne, -⟩ | ⟨hlate, -⟩ | ⟨result, _, hdry, hempty, hempty', -⟩
  · rw [h] at hchunk
    cases hchunk
    exact absurd rfl hne
  · rw [h] at hlate
    cases hlate
  · rw [h] at hdry
    cases hdry
    exact ⟨hempty, hempty'⟩

theorem took_of_chunk (hsize : 0 < size) {b : UInt8} {chunk : List UInt8}
    (h : sock.recv timeout size = (.ok (b :: chunk), sock')) :
    (b :: chunk).length ≤ size ∧ Took timeout sock (b :: chunk) sock' := by
  rcases recv_cases timeout sock hsize with
    ⟨chunk', _, hchunk, -, hlen, htook⟩ | ⟨hlate, -⟩ | ⟨result, _, hdry, -, -, hnone⟩
  · rw [h] at hchunk
    cases hchunk
    exact ⟨hlen, htook⟩
  · rw [h] at hlate
    cases hlate
  · rw [h] at hdry
    cases hdry
    exact absurd (hnone _ rfl) (List.cons_ne_nil b chunk)

end Recv

/-- All bytes are taken in time, or some of them before the receive stops. -/
theorem recvExact_cases (timeout : Nat) (sock : Sock) (h : chunks.length ≤ length) :
    (∃ taken sock', Took timeout sock taken sock' ∧ (chunks ++ taken).length = length ∧
      recvExact timeout length chunks sock = (.ok (some (chunks ++ taken)), sock')) ∨
    ∃ taken sock₁ result sock', Took timeout sock taken sock₁ ∧
      (chunks ++ taken).length < length ∧ Stops timeout sock₁ result sock' ∧
      recvExact timeout length chunks sock = (result, sock') := by
  induction chunks, sock using recvExact.induct timeout length with
  | case1 chunks sock hdone =>
    refine .inl ⟨[], sock, .refl timeout sock, ?_, ?_⟩
    · rw [List.append_nil]
      exact Nat.le_antisymm h hdone
    · rw [List.append_nil, recvExact_done hdone]
  | case2 chunks sock hmissing raised sock' hrecv =>
    have hstops := stops_of_raised (Nat.sub_pos_of_lt (Nat.lt_of_not_le hmissing)) hrecv
    refine .inr ⟨[], sock, .error raised, sock', .refl timeout sock, ?_, hstops, ?_⟩
    · rw [List.append_nil]
      exact Nat.lt_of_not_le hmissing
    · exact recvExact_raised (Nat.lt_of_not_le hmissing) hrecv
  | case3 chunks sock hmissing sock' hrecv =>
    -- the peer has closed
    have hempty := empty_of_closed (Nat.sub_pos_of_lt (Nat.lt_of_not_le hmissing)) hrecv
    refine .inr ⟨[], sock, (if chunks = [] then .ok none else .error .eofError), sock',
      .refl timeout sock, ?_, .dry hempty.1 hempty.2 fun bs hbs => ?_, ?_⟩
    · rw [List.append_nil]
      exact Nat.lt_of_not_le hmissing
    · split at hbs
      · cases hbs
      · cases hbs
    · rw [recvExact, if_neg hmissing, hrecv]
  | case4 chunks sock hmissing b chunk sock' hrecv ih =>
    have hfirst := took_of_chunk (Nat.sub_pos_of_lt (Nat.lt_of_not_le hmissing)) hrecv
    have hlength : (chunks ++ b :: chunk).length ≤ length := by
      rw [List.length_append]
      omega
    rw [recvExact_chunk (Nat.lt_of_not_le hmissing) (List.cons_ne_nil b chunk) hrecv]
    rcases ih hlength with ⟨taken, last, htook, hlen, hread⟩ |
      ⟨taken, sock₁, result, last, htook, hlen, hstops, hread⟩
    · refine .inl ⟨b :: chunk ++ taken, last, hfirst.2.trans htook, ?_, ?_⟩
      · rw [← List.append_assoc]
        exact hlen
      · rw [hread, List.append_assoc]
    · refine .inr
        ⟨b :: chunk ++ taken, sock₁, result, last, hfirst.2.trans htook, ?_, hstops, hread⟩
      rw [← List.append_assoc]
      exact hlen

/-- A part of a message, its length or its payload. -/
def Inside (taken : List UInt8) : Prop :=
  taken.length < 4 ∨
    ∃ header payload, taken = header ++ payload ∧ header.length = 4 ∧
      payload.length < leNat header

/-- What a call of `recv_worker_message` comes to. -/
inductive Received (lib : Library) (timeout : Nat) (sock : Sock) :
    Except Raised (Option Value) → Sock → Prop
  | message {header payload : List UInt8} {message : Value} {sock' : Sock}
    (took : Took timeout sock (header ++ payload) sock') (head : header.length = 4)
    (valid : leNat header ≤ workerMessageLimit) (whole : payload.length = leNat header)
    (loads : lib.loads payload = some message) :
    Received lib timeout sock (.ok (some message)) sock'
  | invalid {header : List UInt8} {sock' : Sock} (took : Took timeout sock header sock')
    (head : header.length = 4) (bad : leNat header = 0 ∨ workerMessageLimit < leNat header) :
    Received lib timeout sock (.error .runtimeError) sock'
  | garbled {header payload : List UInt8} {sock' : Sock}
    (took : Took timeout sock (header ++ payload) sock') (head : header.length = 4)
    (whole : payload.length = leNat header) (loads : lib.loads payload = none) :
    Received lib timeout sock (.error .valueError) sock'
  | late {taken : List UInt8} {sock₁ : Sock} (took : Took timeout sock taken sock₁)
    (inside : Inside taken) (strikes : 0 ∈ sock₁.strikes timeout) :
    Received lib timeout sock (.error (silence timeout)) { sock₁ with now := sock₁.now + timeout }
  | dry {taken : List UInt8} {sock₁ sock' : Sock} {result : Except Raised (Option Value)}
    (took : Took timeout sock taken sock₁) (inside : Inside taken) (empty : sock₁.segments = [])
    (empty' : sock'.segments = []) (none : ∀ message, result ≠ .ok (some message)) :
    Received lib timeout sock result sock'

theorem received (lib : Library) (timeout : Nat) (sock : Sock) :
    Received lib timeout sock (recvWorkerMessage lib timeout sock).1
      (recvWorkerMessage lib timeout sock).2 := by
  unfold recvWorkerMessage
  rcases recvExact_cases timeout sock
      (show ([] : List UInt8).length ≤ 4 by decide) with
    ⟨header, after, htook, hhead, hread⟩ | ⟨taken, sock₁, result, last, htook, hpart, hstops, hread⟩
  · rw [hread]
    rw [List.nil_append] at hhead ⊢
    dsimp only
    split
    · rename_i hbad
      exact .invalid htook hhead hbad
    rename_i hvalid
    rw [not_or, Nat.not_lt] at hvalid
    rcases recvExact_cases timeout after
        (show ([] : List UInt8).length ≤ leNat header from Nat.zero_le _) with
      ⟨payload, last, htook', hwhole, hread'⟩ |
        ⟨taken, sock₁, result, last, htook', hpart, hstops, hread'⟩
    · rw [hread']
      rw [List.nil_append] at hwhole ⊢
      dsimp only
      cases hloads : lib.loads payload with
      | some message => exact .message (htook.trans htook') hhead hvalid.2 hwhole hloads
      | none => exact .garbled (htook.trans htook') hhead hwhole hloads
    · rw [hread']
      rw [List.nil_append] at hpart
      have hinside : Inside (header ++ taken) := .inr ⟨header, taken, rfl, hhead, hpart⟩
      cases hstops with
      | late hstrikes => exact .late (htook.trans htook') hinside hstrikes
      | dry hempty hempty' hnone =>
        cases result with
        | error raised =>
          exact .dry (htook.trans htook') hinside hempty hempty' fun _ h => by cases h
        | ok found =>
          cases found with
          | none => exact .dry (htook.trans htook') hinside hempty hempty' fun _ h => by cases h
          | some bs => exact absurd rfl (hnone bs)
  · rw [hread]
    rw [List.nil_append] at hpart
    cases hstops with
    | late hstrikes => exact .late htook (.inl hpart) hstrikes
    | dry hempty hempty' hnone =>
      cases result with
      | error raised => exact .dry htook (.inl hpart) hempty hempty' fun _ h => by cases h
      | ok found =>
        cases found with
        | none => exact .dry htook (.inl hpart) hempty hempty' fun _ h => by cases h
        | some bs => exact absurd rfl (hnone bs)

/-! ## Frames -/

/-- A frame of printable text, as it is sent. -/
structure IsFrame (frame encoded : List UInt8) : Prop where
  eq : frame = leBytes 4 encoded.length ++ encoded
  ne : encoded ≠ []
  limit : encoded.length ≤ workerMessageLimit
  printable : ∀ b ∈ encoded, 32 ≤ b.toNat

theorem isFrame_of_sent {message : Value} {frame : List UInt8} (hjson : lib.Json)
    (hlib : lib.RoundTrips message) (hsent : sendWorkerMessage lib message = some frame) :
    ∃ encoded, IsFrame frame encoded ∧ lib.loads encoded = some message := by
  obtain ⟨encoded, hencoded, hframe⟩ := Option.bind_eq_some_iff.mp hsent
  split at hframe
  · cases hframe
  · rename_i hlimit
    obtain ⟨hne, hloads⟩ := hlib encoded hencoded
    exact ⟨encoded, ⟨(Option.some.inj hframe).symm, hne, Nat.le_of_not_lt hlimit,
      hjson.printable message encoded hencoded⟩, hloads⟩

section

variable {frame encoded : List UInt8} (h : IsFrame frame encoded)

include h

theorem IsFrame.length_eq : frame.length = 4 + encoded.length := by
  rw [h.eq, List.length_append, length_leBytes]

theorem IsFrame.lengthField : leNat (leBytes 4 encoded.length) = encoded.length := by
  have hlimit := h.limit
  unfold workerMessageLimit at hlimit
  exact leNat_leBytes (by omega)

/-- The last byte of the length is null. -/
theorem IsFrame.null (after : List UInt8) : (frame ++ after)[3]? = some 0 := by
  have hlimit := h.limit
  unfold workerMessageLimit at hlimit
  have hzero : encoded.length / 256 / 256 / 256 = 0 := by omega
  rw [h.eq]
  simp [leBytes, hzero]

/-- A message that is read from the start of a frame is the one of the frame. -/
theorem IsFrame.read {header payload after rest : List UInt8}
    (hbytes : header ++ payload ++ after = frame ++ rest) (hhead : header.length = 4)
    (hwhole : payload.length = leNat header) : payload = encoded ∧ after = rest := by
  rw [h.eq, List.append_assoc, List.append_assoc] at hbytes
  obtain ⟨hheader, hbody⟩ := List.append_inj hbytes (by rw [hhead, length_leBytes])
  rw [hheader, h.lengthField] at hwhole
  exact List.append_inj hbody hwhole

end

theorem le_leNat {b : UInt8} {bs : List UInt8} (h : b ∈ bs) : b.toNat ≤ leNat bs := by
  induction bs with
  | nil => cases h
  | cons c bs ih =>
    rw [leNat]
    rcases List.mem_cons.mp h with rfl | h
    · omega
    · have hle := ih h
      omega

/-- What is left of a frame behind its first byte. -/
def Cut (start : List UInt8) : Prop :=
  ∃ head encoded, start = head ++ encoded ∧ head.length ≤ 3 ∧ encoded ≠ [] ∧
    ∀ b ∈ encoded, 32 ≤ b.toNat

theorem cut_drop {head encoded : List UInt8} (hne : encoded ≠ [])
    (hprintable : ∀ b ∈ encoded, 32 ≤ b.toNat) {i : Nat} (hi : head.length ≤ 3 + i) :
    (head ++ encoded).drop i = [] ∨ Cut ((head ++ encoded).drop i) := by
  rw [List.drop_append]
  by_cases hnone : encoded.drop (i - head.length) = []
  · have hlen := List.drop_eq_nil_iff.mp hnone
    have hpos : 0 < encoded.length := List.length_pos_iff.mpr hne
    rw [hnone, List.append_nil]
    exact .inl (List.drop_eq_nil_of_le (by omega))
  · refine .inr ⟨head.drop i, encoded.drop (i - head.length), rfl, ?_, hnone, ?_⟩
    · rw [List.length_drop]
      omega
    · exact fun b hb => hprintable b (List.mem_of_mem_drop hb)

/-- The end of a stream of frames, with `n` whole ones. -/
def Tail (n : Nat) (bs : List UInt8) : Prop :=
  ∃ (start : List UInt8) (rest : List (List UInt8)), bs = start ++ rest.flatten ∧
    rest.length = n ∧ (start = [] ∨ Cut start) ∧
    ∀ frame ∈ rest, ∃ encoded, IsFrame frame encoded

theorem tail_frames {frames : List (List UInt8)}
    (h : ∀ frame ∈ frames, ∃ encoded, IsFrame frame encoded) : Tail frames.length frames.flatten :=
  ⟨[], frames, rfl, rfl, .inl rfl, h⟩

theorem IsFrame.drop {frame encoded : List UInt8} (h : IsFrame frame encoded) {i : Nat}
    (hi : 1 ≤ i) : frame.drop i = [] ∨ Cut (frame.drop i) := by
  rw [h.eq]
  refine cut_drop h.ne h.printable ?_
  rw [length_leBytes]
  omega

theorem tail_drop_frames {frames : List (List UInt8)}
    (h : ∀ frame ∈ frames, ∃ encoded, IsFrame frame encoded) (i : Nat) :
    ∃ m ≤ frames.length, Tail m (frames.flatten.drop i) := by
  induction frames generalizing i with
  | nil => exact ⟨0, Nat.le_refl 0, [], [], by simp, rfl, .inl rfl, h⟩
  | cons frame frames ih =>
    have hrest : ∀ frame ∈ frames, ∃ encoded, IsFrame frame encoded :=
      fun other hother => h other (List.mem_cons_of_mem _ hother)
    rcases Nat.eq_zero_or_pos i with rfl | hpos
    · exact ⟨_, Nat.le_refl _, tail_frames h⟩
    rw [List.flatten_cons, List.drop_append]
    by_cases hinside : i ≤ frame.length
    · obtain ⟨encoded, hframe⟩ := h frame List.mem_cons_self
      rw [Nat.sub_eq_zero_of_le hinside, List.drop_zero]
      exact ⟨frames.length, Nat.le_succ _, frame.drop i, frames, rfl, rfl, hframe.drop hpos, hrest⟩
    · rw [List.drop_eq_nil_of_le (by omega), List.nil_append]
      obtain ⟨m, hm, htail⟩ := ih hrest (i - frame.length)
      exact ⟨m, Nat.le_succ_of_le hm, htail⟩

/-- Bytes that are lost leave no more whole frames than there were. -/
theorem Tail.drop {n : Nat} {bs : List UInt8} (h : Tail n bs) (i : Nat) :
    ∃ m ≤ n, Tail m (bs.drop i) := by
  obtain ⟨start, rest, rfl, rfl, hstart, hrest⟩ := h
  rw [List.drop_append]
  by_cases hinside : i ≤ start.length
  · rw [Nat.sub_eq_zero_of_le hinside, List.drop_zero]
    refine ⟨rest.length, Nat.le_refl _, start.drop i, rest, rfl, rfl, ?_, hrest⟩
    rcases hstart with rfl | ⟨head, encoded, rfl, hhead, hne, hprintable⟩
    · exact .inl (List.drop_nil)
    · exact cut_drop hne hprintable (by omega)
  · rw [List.drop_eq_nil_of_le (by omega), List.nil_append]
    exact tail_drop_frames hrest _

theorem Took.tail {n : Nat} {bs : List UInt8} (h : Took timeout sock bs sock')
    (htail : Tail n (bytesOf sock.segments)) : ∃ m ≤ n, Tail m (bytesOf sock'.segments) := by
  have hdrop : bytesOf sock'.segments = (bytesOf sock.segments).drop bs.length := by
    rw [← h.bytes, List.drop_left]
  rw [hdrop]
  exact htail.drop bs.length

/-- Four bytes that are no length are taken for one: the text that they announce runs over the null
byte of the next length. -/
theorem null_of_cut {start header payload after : List UInt8} {rest : List (List UInt8)}
    (hcut : Cut start) (hrest : ∀ frame ∈ rest, ∃ encoded, IsFrame frame encoded)
    (hbytes : header ++ payload ++ after = start ++ rest.flatten) (hhead : header.length = 4)
    (hvalid : leNat header ≤ workerMessageLimit) (hwhole : payload.length = leNat header) :
    0 ∈ payload := by
  obtain ⟨head, encoded, rfl, hshort, hne, hprintable⟩ := hcut
  -- the last of the four bytes is null, so it is in the length of the next frame
  have hlast : header[3]? = some 0 := by
    match header, hhead with
    | [a, b, c, d], _ =>
      simp only [leNat] at hvalid
      unfold workerMessageLimit at hvalid
      have hzero : d.toNat = 0 := by omega
      have hd : d = 0 := UInt8.toNat_inj.mp hzero
      rw [hd]
      rfl
  have hheader : ∀ i < 4, header[i]? = (head ++ encoded ++ rest.flatten)[i]? := by
    intro i hi
    rw [← hbytes, List.append_assoc, List.getElem?_append_left (by omega)]
  have hpos : 0 < encoded.length := List.length_pos_iff.mpr hne
  have hstart : head.length + encoded.length ≤ 3 := by
    by_contra hlong
    have hin : (head ++ encoded ++ rest.flatten)[3]? = encoded[3 - head.length]? := by
      rw [List.append_assoc, List.getElem?_append_right hshort,
        List.getElem?_append_left (by omega)]
    have hzero : encoded[3 - head.length]? = some 0 :=
      hin.symm.trans ((hheader 3 (by decide)).symm.trans hlast)
    have hletter := hprintable 0 (List.mem_of_getElem? hzero)
    exact absurd hletter (by decide)
  have hnext : (head ++ encoded ++ rest.flatten)[head.length + encoded.length + 3]? = some 0 := by
    cases rest with
    | nil =>
      have hmissing := (hheader 3 (by decide)).symm.trans hlast
      rw [List.flatten_nil, List.append_nil, List.getElem?_eq_none (by
        rw [List.length_append]
        exact hstart)] at hmissing
      cases hmissing
    | cons frame rest =>
      obtain ⟨encoded', hframe⟩ := hrest frame List.mem_cons_self
      rw [List.getElem?_append_right (by rw [List.length_append]; omega), List.length_append,
        Nat.add_sub_cancel_left, List.flatten_cons]
      exact hframe.null rest.flatten
  -- a letter among the four bytes makes the announced text longer than that
  have hletter : 32 ≤ leNat header := by
    have hfirst : header[head.length]? = some (encoded.head hne) := by
      rw [hheader _ (by omega), List.append_assoc, List.getElem?_append_right (Nat.le_refl _),
        Nat.sub_self, List.getElem?_append_left hpos, ← List.head?_eq_getElem?,
        List.head?_eq_some_head hne]
    exact (hprintable _ (List.head_mem hne)).trans (le_leNat (List.mem_of_getElem? hfirst))
  rw [← hbytes, List.append_assoc, List.getElem?_append_right (by omega),
    List.getElem?_append_left (by omega)] at hnext
  exact List.mem_of_getElem? hnext

/-! ## A receiver that calls again -/

/-- Calls of `recv_worker_message` one after another, again after a `TimeoutError` and until anything
else is raised or the peer has closed: the messages, and the socket after them. -/
def receiveCalls (lib : Library) (timeout : Nat) : Nat → Sock → List Value × Sock
  | 0, sock => ([], sock)
  | calls + 1, sock =>
    match recvWorkerMessage lib timeout sock with
    | (.ok (some message), sock) =>
      let later := receiveCalls lib timeout calls sock
      (message :: later.1, later.2)
    | (.error .timeoutError, sock) => receiveCalls lib timeout calls sock
    | (_, sock) => ([], sock)

theorem receiveCalls_message {message : Value} (calls : Nat)
    (h : recvWorkerMessage lib timeout sock = (.ok (some message), sock')) :
    receiveCalls lib timeout (calls + 1) sock =
      (message :: (receiveCalls lib timeout calls sock').1,
        (receiveCalls lib timeout calls sock').2) := by
  rw [receiveCalls, h]

theorem receiveCalls_again (calls : Nat)
    (h : recvWorkerMessage lib timeout sock = (.error .timeoutError, sock')) :
    receiveCalls lib timeout (calls + 1) sock = receiveCalls lib timeout calls sock' := by
  rw [receiveCalls, h]

/-- A call without a message leads to another one, or to none. -/
theorem receiveCalls_other {result : Except Raised (Option Value)} (calls : Nat)
    (h : recvWorkerMessage lib timeout sock = (result, sock'))
    (hnone : ∀ message, result ≠ .ok (some message)) :
    receiveCalls lib timeout (calls + 1) sock = receiveCalls lib timeout calls sock' ∨
      receiveCalls lib timeout (calls + 1) sock = ([], sock') := by
  rw [receiveCalls, h]
  split
  · rename_i heq
    exact absurd (Prod.mk.inj heq).1 (hnone _)
  · rename_i heq
    rw [(Prod.mk.inj heq).2]
    exact .inl rfl
  · rename_i heq
    rw [(Prod.mk.inj heq).2]
    exact .inr rfl

/-- A message that is obtained is one of the whole frames. -/
theorem Took.tail_message (hjson : lib.Json) {header payload : List UInt8} {message : Value}
    (took : Took timeout sock (header ++ payload) sock') (head : header.length = 4)
    (valid : leNat header ≤ workerMessageLimit) (whole : payload.length = leNat header)
    (loads : lib.loads payload = some message) {n : Nat} (h : Tail n (bytesOf sock.segments)) :
    ∃ m < n, Tail m (bytesOf sock'.segments) := by
  obtain ⟨start, rest, hbytes, rfl, hstart, hrest⟩ := h
  have hread := took.bytes.trans hbytes
  rcases hstart with rfl | hcut
  · cases rest with
    | nil =>
      have hlen := congrArg List.length hread
      simp only [List.length_append, List.flatten_nil, List.length_nil] at hlen
      omega
    | cons frame rest =>
      obtain ⟨encoded, hframe⟩ := hrest frame List.mem_cons_self
      rw [List.nil_append, List.flatten_cons] at hread
      have hafter := (hframe.read hread head whole).2
      exact ⟨rest.length, Nat.lt_succ_self _, hafter ▸ tail_frames
        fun other hmem => hrest other (List.mem_cons_of_mem _ hmem)⟩
  · -- what stands after a cut is no text
    have hnull := null_of_cut hcut hrest hread head valid whole
    rw [hjson.noNull payload hnull] at loads
    cases loads

/-- No more messages are obtained than there are whole frames. -/
theorem length_receiveCalls_le (hjson : lib.Json) {n : Nat} (calls : Nat)
    (h : Tail n (bytesOf sock.segments)) : (receiveCalls lib timeout calls sock).1.length ≤ n := by
  induction calls generalizing sock n with
  | zero => exact Nat.zero_le n
  | succ calls ih =>
    -- a call without a message may lose bytes, but no frame comes of it
    have hother : ∀ {result : Except Raised (Option Value)} {sock' : Sock} {m : Nat},
        recvWorkerMessage lib timeout sock = (result, sock') →
        (∀ message, result ≠ .ok (some message)) → m ≤ n → Tail m (bytesOf sock'.segments) →
        (receiveCalls lib timeout (calls + 1) sock).1.length ≤ n := by
      intro result sock' m hcall hnone hm htail
      rcases receiveCalls_other calls hcall hnone with hsame | hstop
      · rw [hsame]
        exact (ih htail).trans hm
      · rw [hstop]
        exact Nat.zero_le n
    have hcall := received lib timeout sock
    generalize hresult : recvWorkerMessage lib timeout sock = p at hcall
    obtain ⟨result, sock'⟩ := p
    cases hcall with
    | message took head valid whole loads =>
      obtain ⟨m, hm, htail⟩ := took.tail_message hjson head valid whole loads h
      rw [receiveCalls_message calls hresult, List.length_cons]
      exact Nat.lt_of_le_of_lt (ih htail) hm
    | invalid took _ _ =>
      obtain ⟨m, hm, htail⟩ := took.tail h
      exact hother hresult (fun _ hm => by cases hm) hm htail
    | garbled took _ _ _ =>
      obtain ⟨m, hm, htail⟩ := took.tail h
      exact hother hresult (fun _ hm => by cases hm) hm htail
    | late took _ _ =>
      obtain ⟨m, hm, htail⟩ := took.tail h
      exact hother hresult (fun _ hm => by cases hm) hm htail
    | dry took _ empty empty' none =>
      obtain ⟨m, hm, htail⟩ := took.tail h
      rw [empty, ← empty'] at htail
      exact hother hresult none hm htail

/-! ## A receiver in step with the frames -/

/-- `frame` is read as `message`. -/
def Reads (lib : Library) (message : Value) (frame : List UInt8) : Prop :=
  ∃ encoded, IsFrame frame encoded ∧ lib.loads encoded = some message

theorem IsFrame.inside {frame encoded taken after rest : List UInt8} (h : IsFrame frame encoded)
    (hinside : Inside taken) (hbytes : taken ++ after = frame ++ rest) :
    taken.length < frame.length := by
  rw [h.length_eq]
  rcases hinside with hshort | ⟨header, payload, rfl, hhead, hpart⟩
  · omega
  · rw [h.eq, List.append_assoc, List.append_assoc] at hbytes
    have hheader := (List.append_inj hbytes (by rw [hhead, length_leBytes])).1
    rw [hheader, h.lengthField] at hpart
    rw [List.length_append, hhead]
    omega

/-- Before a frame a call gets its message, or waits, or has a part of it when the timeout
strikes. -/
theorem receive_frame (timeout : Nat) {message : Value} {frame rest : List UInt8}
    (h : Reads lib message frame)
    (hbytes : bytesOf sock.segments = frame ++ rest) :
    (∃ sock', recvWorkerMessage lib timeout sock = (.ok (some message), sock') ∧
      Took timeout sock frame sock') ∨
    (0 ∈ sock.strikes timeout ∧ recvWorkerMessage lib timeout sock =
      (.error (silence timeout), { sock with now := sock.now + timeout })) ∨
    ∃ p ∈ sock.strikes timeout, 0 < p ∧ p < frame.length ∧ ∃ sock',
      recvWorkerMessage lib timeout sock = (.error (silence timeout), sock') ∧
      bytesOf sock'.segments = frame.drop p ++ rest := by
  obtain ⟨encoded, hframe, hloads⟩ := h
  have hcall := received lib timeout sock
  generalize hresult : recvWorkerMessage lib timeout sock = r at hcall
  obtain ⟨result, sock'⟩ := r
  cases hcall with
  | message took head valid whole loads =>
    rename_i header payload message'
    have hread := took.bytes.trans hbytes
    obtain ⟨rfl, hafter⟩ := hframe.read hread head whole
    -- the payload that was read is the one of the frame
    have hsame : message' = message := Option.some.inj (loads.symm.trans hloads)
    rw [hafter] at hread
    have hall : header ++ payload = frame := List.append_cancel_right hread
    exact .inl ⟨sock', by rw [hsame], hall ▸ took⟩
  | invalid took head bad =>
    rename_i header
    have hread := took.bytes.trans hbytes
    rw [hframe.eq, List.append_assoc] at hread
    -- the length field of the frame is read, and that is valid
    have hheader := (List.append_inj hread (by rw [head, length_leBytes])).1
    rw [hheader, hframe.lengthField] at bad
    have hpos : 0 < encoded.length := List.length_pos_iff.mpr hframe.ne
    have hlimit := hframe.limit
    omega
  | garbled took head whole loads =>
    obtain ⟨rfl, -⟩ := hframe.read (took.bytes.trans hbytes) head whole
    rw [hloads] at loads
    cases loads
  | late took inside strikes =>
    rename_i taken sock₁
    have hlen := hframe.inside inside (took.bytes.trans hbytes)
    by_cases hnone : taken = []
    · rw [took.nothing hnone] at strikes ⊢
      exact .inr (.inl ⟨strikes, rfl⟩)
    · have hpos : 0 < taken.length := List.length_pos_iff.mpr hnone
      have hstrike : taken.length ∈ sock.strikes timeout :=
        (took.strikes _).mpr ⟨0, strikes, (Nat.zero_add _).symm⟩
      refine .inr (.inr ⟨taken.length, hstrike, hpos, hlen, _, rfl, ?_⟩)
      show bytesOf sock₁.segments = _
      have hleft := congrArg (List.drop taken.length) (took.bytes.trans hbytes)
      rw [List.drop_left, List.drop_append_of_le_length (Nat.le_of_lt hlen)] at hleft
      exact hleft
  | dry took inside empty _ _ =>
    rename_i taken sock₁
    have hread := took.bytes.trans hbytes
    have hlen := hframe.inside inside hread
    -- the bytes cannot end inside the frame, which has arrived as a whole
    have hall := congrArg List.length hread
    rw [empty, List.length_append, List.length_append, bytesOf, List.flatMap_nil,
      List.length_nil] at hall
    omega

/-- `p` is the end of a frame, or the start of all. -/
def OnBoundary (frames : List (List UInt8)) (p : Nat) : Prop :=
  ∃ k, p = (frames.take k).flatten.length

theorem onBoundary_zero (frames : List (List UInt8)) : OnBoundary frames 0 := ⟨0, rfl⟩

theorem onBoundary_cons {frame : List UInt8} {frames : List (List UInt8)} {p : Nat} :
    OnBoundary (frame :: frames) p ↔ p = 0 ∨ ∃ q, OnBoundary frames q ∧ p = q + frame.length := by
  constructor
  · rintro ⟨k, rfl⟩
    cases k with
    | zero => exact .inl rfl
    | succ k =>
      refine .inr ⟨_, ⟨k, rfl⟩, ?_⟩
      rw [List.take_succ_cons, List.flatten_cons, List.length_append, Nat.add_comm]
  · rintro (rfl | ⟨_, ⟨k, rfl⟩, rfl⟩)
    · exact onBoundary_zero _
    · refine ⟨k + 1, ?_⟩
      rw [List.take_succ_cons, List.flatten_cons, List.length_append, Nat.add_comm]

theorem onBoundary_after {frame : List UInt8} {frames : List (List UInt8)} {q : Nat}
    (hne : frame ≠ []) : OnBoundary (frame :: frames) (q + frame.length) ↔ OnBoundary frames q := by
  have hpos : 0 < frame.length := List.length_pos_iff.mpr hne
  rw [onBoundary_cons]
  constructor
  · rintro (hzero | ⟨q', hq', heq⟩)
    · omega
    · have hsame : q = q' := by omega
      exact hsame ▸ hq'
  · exact fun hq => .inr ⟨q, hq, rfl⟩

theorem Reads.ne {message : Value} {frame : List UInt8} (h : Reads lib message frame) :
    frame ≠ [] := by
  obtain ⟨encoded, hframe, -⟩ := h
  have hlen := hframe.length_eq
  rw [← List.length_pos_iff]
  omega

theorem frames_of_reads {messages : List Value} {frames : List (List UInt8)}
    (h : List.Forall₂ (Reads lib) messages frames) :
    ∀ frame ∈ frames, ∃ encoded, IsFrame frame encoded := by
  induction h with
  | nil => exact fun frame hmem => absurd hmem List.not_mem_nil
  | cons hread _ ih =>
    obtain ⟨encoded, hframe, -⟩ := hread
    exact List.forall_mem_cons.mpr ⟨⟨encoded, hframe⟩, ih⟩

/-! ### Waiting -/

/-- How long the first segment is still away. -/
def Sock.wait (sock : Sock) : Nat :=
  match sock.segments with
  | [] => 0
  | seg :: _ => seg.arrival - sock.now

theorem strikesOn_mono {now now' p : Nat} (hle : now ≤ now') {segments : List Segment}
    (h : p ∈ strikesOn timeout now' segments) : p ∈ strikesOn timeout now segments := by
  induction segments generalizing now now' p with
  | nil => cases h
  | cons seg segments ih =>
    rcases mem_strikesOn_cons.mp h with ⟨hlate, hp⟩ | ⟨q, hq, rfl⟩
    · exact mem_strikesOn_cons.mpr (.inl ⟨by omega, hp⟩)
    · exact mem_strikesOn_cons.mpr (.inr ⟨q, ih (by omega) hq, rfl⟩)

/-- A timeout that strikes before the first byte is waited out; the others strike where they did. -/
theorem strikes_waited (h : 0 ∈ sock.strikes timeout) (hT : 0 < timeout) :
    let waited : Sock := { sock with now := sock.now + timeout }
    waited.wait < sock.wait ∧ (∀ p ∈ waited.strikes timeout, p ∈ sock.strikes timeout) ∧
      ∀ p ∈ sock.strikes timeout, p ≠ 0 → p ∈ waited.strikes timeout := by
  obtain ⟨now, segments, closedAt⟩ := sock
  have hzero : 0 ∈ strikesOn timeout now segments := h
  cases segments with
  | nil => cases hzero
  | cons seg segments =>
    have hpos : 0 < seg.bytes.length := List.length_pos_iff.mpr seg.bytes_ne
    have hlate : now + timeout < seg.arrival := by
      rcases mem_strikesOn_cons.mp hzero with ⟨hlate, -⟩ | ⟨q, -, hq⟩
      · exact hlate
      · omega
    refine ⟨?_, fun p hp => strikesOn_mono (Nat.le_add_right now timeout) hp, fun p hp hne => ?_⟩
    · show seg.arrival - (now + timeout) < seg.arrival - now
      omega
    · rcases mem_strikesOn_cons.mp hp with ⟨-, hp⟩ | ⟨q, hq, rfl⟩
      · exact absurd hp hne
      · have hclock : max (now + timeout) seg.arrival = max now seg.arrival := by omega
        refine mem_strikesOn_cons.mpr (.inr ⟨q, ?_, rfl⟩)
        rw [hclock]
        exact hq

/-! ### Runs -/

section

variable {messages : List Value} {frames : List (List UInt8)}

theorem strikes_took {frame : List UInt8} (hne : frame ≠ [])
    (htook : Took timeout sock frame sock') :
    (∀ p ∈ sock.strikes timeout, OnBoundary (frame :: frames) p) ↔
      ∀ q ∈ sock'.strikes timeout, OnBoundary frames q := by
  constructor
  · intro hall q hq
    exact (onBoundary_after hne).mp (hall _ ((htook.strikes _).mpr ⟨q, hq, rfl⟩))
  · intro hall p hp
    obtain ⟨q, hq, rfl⟩ := (htook.strikes p).mp hp
    exact (onBoundary_after hne).mpr (hall q hq)

theorem not_inside_boundary {frame : List UInt8} {p : Nat} (hpos : 0 < p) (hlt : p < frame.length) :
    ¬ OnBoundary (frame :: frames) p := by
  intro hon
  rcases onBoundary_cons.mp hon with hzero | ⟨q, -, hq⟩
  · omega
  · omega

theorem bytes_took {frame rest : List UInt8} (htook : Took timeout sock frame sock')
    (hbytes : bytesOf sock.segments = frame ++ rest) : bytesOf sock'.segments = rest :=
  List.append_cancel_left (htook.bytes.trans hbytes)

/-- Where timeouts strike between the messages alone, all of them are obtained. -/
theorem receive_all (hjson : lib.Json) (hT : 0 < timeout)
    (h : List.Forall₂ (Reads lib) messages frames)
    (hbytes : bytesOf sock.segments = frames.flatten)
    (hstrikes : ∀ p ∈ sock.strikes timeout, OnBoundary frames p) :
    ∃ enough, ∀ n ≥ enough, (receiveCalls lib timeout n sock).1 = messages := by
  induction h generalizing sock with
  | nil =>
    refine ⟨0, fun n _ => ?_⟩
    have htail : Tail 0 (bytesOf sock.segments) := by
      rw [hbytes]
      exact @tail_frames [] fun frame hmem => absurd hmem List.not_mem_nil
    exact List.length_eq_zero_iff.mp (Nat.le_zero.mp (length_receiveCalls_le hjson n htail))
  | @cons message frame messages frames hread hrest ih =>
    -- the waits before the first byte get shorter
    induction hwait : sock.wait using Nat.strong_induction_on generalizing sock with
    | _ wait ihwait =>
      rcases receive_frame timeout hread hbytes with
        ⟨sock', hcall, htook⟩ | ⟨hzero, hcall⟩ | ⟨p, hp, hpos, hlt, -⟩
      -- the message comes, and the rest is as at the start
      · obtain ⟨enough, hall⟩ := ih (bytes_took htook hbytes)
          ((strikes_took hread.ne htook).mp hstrikes)
        refine ⟨enough + 1, fun n hn => ?_⟩
        obtain ⟨n, rfl⟩ : ∃ m, n = m + 1 := ⟨n - 1, by omega⟩
        rw [receiveCalls_message n hcall, hall n (by omega)]
      -- a timeout before the first byte takes nothing
      · obtain ⟨hless, hold, -⟩ := strikes_waited hzero hT
        obtain ⟨enough, hall⟩ := @ihwait _ (hwait ▸ hless)
          { sock with now := sock.now + timeout } hbytes
          (fun p hp => hstrikes p (hold p hp)) rfl
        refine ⟨enough + 1, fun n hn => ?_⟩
        obtain ⟨n, rfl⟩ : ∃ m, n = m + 1 := ⟨n - 1, by omega⟩
        rw [silence, if_neg (Nat.ne_of_gt hT)] at hcall
        rw [receiveCalls_again n hcall, hall n (by omega)]
      · exact absurd (hstrikes p hp) (not_inside_boundary hpos hlt)

theorem received_drop (lib : Library) (timeout : Nat) (sock : Sock) :
    ∃ i, bytesOf (recvWorkerMessage lib timeout sock).2.segments =
      (bytesOf sock.segments).drop i := by
  have hcall := received lib timeout sock
  generalize recvWorkerMessage lib timeout sock = r at hcall
  obtain ⟨result, sock'⟩ := r
  cases hcall with
  | message took _ _ _ _ | invalid took _ _ | garbled took _ _ _ | late took _ _ =>
    exact ⟨_, by rw [← took.bytes, List.drop_left]⟩
  | dry took _ empty empty' _ =>
    refine ⟨(bytesOf sock.segments).length, ?_⟩
    rw [List.drop_length]
    exact (congrArg bytesOf empty').trans rfl

theorem receiveCalls_dry (n : Nat) (h : bytesOf sock.segments = []) :
    bytesOf (receiveCalls lib timeout n sock).2.segments = [] := by
  induction n generalizing sock with
  | zero => exact h
  | succ n ih =>
    have hnext : bytesOf (recvWorkerMessage lib timeout sock).2.segments = [] := by
      obtain ⟨i, hi⟩ := received_drop lib timeout sock
      rw [hi, h, List.drop_nil]
    rw [receiveCalls]
    split
    · rename_i hcall
      rw [hcall] at hnext
      exact ih hnext
    · rename_i hcall
      rw [hcall] at hnext
      exact ih hnext
    · rename_i _ _ hcall
      rw [hcall] at hnext
      exact hnext

/-- There, every length that is read is one. -/
theorem receive_in_step (hT : 0 < timeout) (h : List.Forall₂ (Reads lib) messages frames)
    (hbytes : bytesOf sock.segments = frames.flatten)
    (hstrikes : ∀ p ∈ sock.strikes timeout, OnBoundary frames p) (n : Nat) :
    ∃ k, bytesOf (receiveCalls lib timeout n sock).2.segments = (frames.drop k).flatten := by
  induction n generalizing sock messages frames with
  | zero => exact ⟨0, hbytes⟩
  | succ n ih =>
    cases h with
    | nil => exact ⟨0, receiveCalls_dry (n + 1) hbytes⟩
    | @cons message frame messages frames hread hrest =>
      rcases receive_frame timeout hread hbytes with
        ⟨sock', hcall, htook⟩ | ⟨hzero, hcall⟩ | ⟨p, hp, hpos, hlt, -⟩
      · obtain ⟨k, hk⟩ := ih hrest (bytes_took htook hbytes)
          ((strikes_took hread.ne htook).mp hstrikes)
        refine ⟨k + 1, ?_⟩
        rw [receiveCalls_message n hcall]
        exact hk
      · obtain ⟨-, hold, -⟩ := strikes_waited hzero hT
        rw [silence, if_neg (Nat.ne_of_gt hT)] at hcall
        rw [receiveCalls_again n hcall]
        exact ih (.cons hread hrest) hbytes fun p hp => hstrikes p (hold p hp)
      · exact absurd (hstrikes p hp) (not_inside_boundary hpos hlt)

/-- Where a timeout strikes inside a message, one is never obtained. -/
theorem length_receiveCalls_lt (hjson : lib.Json) (hT : 0 < timeout)
    (h : List.Forall₂ (Reads lib) messages frames)
    (hbytes : bytesOf sock.segments = frames.flatten) {p : Nat} (hp : p ∈ sock.strikes timeout)
    (hinside : ¬ OnBoundary frames p) (n : Nat) :
    (receiveCalls lib timeout n sock).1.length < frames.length := by
  induction n generalizing sock messages frames p with
  | zero =>
    cases h with
    | nil =>
      rw [Sock.strikes, eq_nil_of_bytesOf hbytes] at hp
      cases hp
    | cons _ _ => exact Nat.succ_pos _
  | succ n ih =>
    cases h with
    | nil =>
      rw [Sock.strikes, eq_nil_of_bytesOf hbytes] at hp
      cases hp
    | @cons message frame messages frames hread hrest =>
      have hagain : silence timeout = .timeoutError := if_neg (Nat.ne_of_gt hT)
      rcases receive_frame timeout hread hbytes with
        ⟨sock', hcall, htook⟩ | ⟨hzero, hcall⟩ | ⟨i, -, hpos, -, sock', hcall, hleft⟩
      · obtain ⟨q, hq, rfl⟩ := (htook.strikes p).mp hp
        rw [onBoundary_after hread.ne] at hinside
        rw [receiveCalls_message n hcall]
        exact Nat.succ_lt_succ (ih hrest (bytes_took htook hbytes) hq hinside)
      -- the strike inside a message is still to come
      · obtain ⟨-, -, hlater⟩ := strikes_waited hzero hT
        have hne : p ≠ 0 := fun hp0 => hinside (hp0 ▸ onBoundary_zero _)
        rw [hagain] at hcall
        rw [receiveCalls_again n hcall]
        exact ih (.cons hread hrest) hbytes (hlater p hp hne) hinside
      · rw [hagain] at hcall
        rw [receiveCalls_again n hcall]
        -- of the frame a cut is left, which never becomes a message
        obtain ⟨encoded, hframe, -⟩ := hread
        have htail : Tail frames.length (bytesOf sock'.segments) :=
          ⟨frame.drop i, frames, hleft, rfl, hframe.drop hpos, frames_of_reads hrest⟩
        exact Nat.lt_succ_of_le (length_receiveCalls_le hjson n htail)

end

/-- Messages that are sent, however they come and whenever timeouts strike: a receiver that calls
again obtains them and no others, in order, and takes nothing else for a length, exactly if every
timeout strikes between two messages. -/
theorem framing_survives_iff (hjson : lib.Json) (hT : 0 < timeout) {messages : List Value}
    {frames : List (List UInt8)} (hlib : ∀ message ∈ messages, lib.RoundTrips message)
    (hsent : List.Forall₂ (fun message frame => sendWorkerMessage lib message = some frame)
      messages frames)
    (hbytes : bytesOf sock.segments = frames.flatten) :
    ((∃ enough, ∀ n ≥ enough, (receiveCalls lib timeout n sock).1 = messages) ∧
      ∀ n, ∃ k, bytesOf (receiveCalls lib timeout n sock).2.segments = (frames.drop k).flatten) ↔
      ∀ p ∈ sock.strikes timeout, ∃ k, p = (frames.take k).flatten.length := by
  have hreads : List.Forall₂ (Reads lib) messages frames := by
    clear hbytes
    induction hsent with
    | nil => exact .nil
    | cons hone _ ih =>
      obtain ⟨hmessage, hrest⟩ := List.forall_mem_cons.mp hlib
      exact .cons (isFrame_of_sent hjson hmessage hone) (ih hrest)
  constructor
  · rintro ⟨⟨enough, hall⟩, -⟩ p hp
    by_contra hinside
    -- fewer messages than frames are obtained, however often the receiver calls
    have hfew := length_receiveCalls_lt hjson hT hreads hbytes hp hinside enough
    rw [hall enough (Nat.le_refl enough), hreads.length_eq] at hfew
    exact Nat.lt_irrefl _ hfew
  · intro hstrikes
    exact ⟨receive_all hjson hT hreads hbytes hstrikes,
      receive_in_step hT hreads hbytes hstrikes⟩

/-! ## A shutdown in two pieces -/

theorem json_twoMessages : twoMessages.Json where
  printable := by
    intro message encoded h b hb
    have htexts : ∀ b ∈ shutdownText ++ readEventText, 32 ≤ b.toNat := by decide +kernel
    refine htexts b (List.mem_append.mpr ?_)
    unfold twoMessages at h
    dsimp only at h
    split at h
    · split at h
      · exact .inl (Option.some.inj h ▸ hb)
      · split at h
        · exact .inr (Option.some.inj h ▸ hb)
        · cases h
    · cases h
  noNull := by
    intro encoded hnull
    have htexts : 0 ∉ shutdownText ∧ 0 ∉ readEventText := by decide +kernel
    have hshutdown : encoded ≠ shutdownText := by
      rintro rfl
      exact htexts.1 hnull
    have hevent : encoded ≠ readEventText := by
      rintro rfl
      exact htexts.2 hnull
    exact (if_neg hshutdown).trans (if_neg hevent)

def shutdownFrame : List UInt8 := leBytes 4 shutdownText.length ++ shutdownText

theorem sent_shutdown : List.Forall₂
    (fun message frame => sendWorkerMessage twoMessages message = some frame) [shutdownMessage]
    [shutdownFrame] :=
  .cons (by decide +kernel) .nil

/-- Six bytes at `first` and the others at `second`. -/
def shutdownAt (first second : Nat) : Sock where
  now := 0
  segments := [⟨first, shutdownFrame.take 6, by decide +kernel⟩,
    ⟨second, shutdownFrame.drop 6, by decide +kernel⟩]
  closedAt := none

theorem roundTrips_only_shutdown : ∀ message ∈ [shutdownMessage], twoMessages.RoundTrips message :=
  fun _ hmem => List.mem_singleton.mp hmem ▸ roundTrips_shutdown

/-- Two timeouts before the first byte, and none after it. -/
theorem framing_survives_shutdown :
    (shutdownAt 12 14).strikes 5 = [0] ∧
      ∃ enough, ∀ n ≥ enough,
        (receiveCalls twoMessages 5 n (shutdownAt 12 14)).1 = [shutdownMessage] := by
  have hstrikes : (shutdownAt 12 14).strikes 5 = [0] := by decide +kernel
  refine ⟨hstrikes, ((framing_survives_iff json_twoMessages (by decide) roundTrips_only_shutdown
    sent_shutdown (by decide +kernel)).mpr fun p hp => ?_).1⟩
  rw [hstrikes] at hp
  exact ⟨0, List.mem_singleton.mp hp⟩

/-- One timeout after six bytes: the length and two letters are lost. -/
theorem timeout_inside_message :
    ¬ ∀ (lib : Library) (timeout : Nat) (messages : List Value) (frames : List (List UInt8))
      (sock : Sock), lib.Json → 0 < timeout → (∀ message ∈ messages, lib.RoundTrips message) →
      List.Forall₂ (fun message frame => sendWorkerMessage lib message = some frame) messages
        frames →
      bytesOf sock.segments = frames.flatten →
      ∃ enough, ∀ n ≥ enough, (receiveCalls lib timeout n sock).1 = messages := by
  intro h
  obtain ⟨enough, hall⟩ := h twoMessages 5 [shutdownMessage] [shutdownFrame] (shutdownAt 1 20)
    json_twoMessages (by decide) roundTrips_only_shutdown sent_shutdown (by decide +kernel)
  have hreads : List.Forall₂ (Reads twoMessages) [shutdownMessage] [shutdownFrame] :=
    .cons (isFrame_of_sent json_twoMessages roundTrips_shutdown (by decide +kernel)) .nil
  have hstrike : 6 ∈ (shutdownAt 1 20).strikes 5 := by decide +kernel
  have hfew := length_receiveCalls_lt json_twoMessages (by decide) hreads (by decide +kernel)
    hstrike (not_inside_boundary (by decide) (by decide +kernel)) enough
  rw [hall enough (Nat.le_refl enough)] at hfew
  exact Nat.lt_irrefl 1 hfew

end Sensorium.Workers

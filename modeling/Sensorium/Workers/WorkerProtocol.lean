import Sensorium.Lib.Bytes
import Sensorium.Model.Base

/-!
# The worker protocol

The daemon and a managed worker exchange JSON messages over a socket, each behind its length in four
little-endian bytes.  The receiving end is a clock and the segments in the order of their arrival,
those that have come and those that will.  A `recv` takes from the oldest segment and waits for it
at most as long as the timeout of the socket.
-/

namespace Sensorium.Workers

open Lib
open Sensorium.Model (Value Entries)

/-- `WORKER_MESSAGE_LIMIT`. -/
def workerMessageLimit : Nat := 8 * 1024 * 1024

/-- What the functions of a session raise. -/
inductive Raised
  | timeoutError
  | blockingIOError
  | eofError
  | runtimeError
  | valueError
  | keyError (key : String)
  | typeError
  | attributeError
  deriving DecidableEq

/-- The standard library: `json.dumps(payload, separators=(",", ":")).encode("utf-8")`,
`json.loads(payload.decode("utf-8"))` and `int`, with `none` where they raise. -/
structure Library where
  dumps : Value → Option (List UInt8)
  loads : List UInt8 → Option Value
  int : Value → Option Int

/-- A message that the encoder spells is spelled by at least one byte and read back as it was. -/
def Library.RoundTrips (lib : Library) (message : Value) : Prop :=
  ∀ encoded, lib.dumps message = some encoded → encoded ≠ [] ∧ lib.loads encoded = some message

/-! ## The socket -/

structure Segment where
  arrival : Nat
  bytes : List UInt8
  bytes_ne : bytes ≠ []

/-- What stays of a segment after `size` bytes of it. -/
def Segment.dropped (seg : Segment) (size : Nat) : List Segment :=
  if h : seg.bytes.drop size = [] then [] else [⟨seg.arrival, seg.bytes.drop size, h⟩]

/-- The receiving end; the peer closes its end after the last segment, or never. -/
structure Sock where
  now : Nat
  segments : List Segment
  closedAt : Option Nat

/-- What a receive that gets nothing raises: a timeout of zero makes the socket non-blocking. -/
def silence (timeout : Nat) : Raised := if timeout = 0 then .blockingIOError else .timeoutError

/-- `sock.recv(size)`; no byte means that the peer has closed. -/
def Sock.recv (sock : Sock) (timeout size : Nat) : Except Raised (List UInt8) × Sock :=
  match sock.segments with
  | seg :: rest =>
    if seg.arrival ≤ sock.now + timeout then
      (.ok (seg.bytes.take size),
        { sock with now := max sock.now seg.arrival, segments := seg.dropped size ++ rest })
    else (.error (silence timeout), { sock with now := sock.now + timeout })
  | [] =>
    match sock.closedAt with
    | some closed =>
      if closed ≤ sock.now + timeout then (.ok [], { sock with now := max sock.now closed })
      else (.error (silence timeout), { sock with now := sock.now + timeout })
    | none => (.error (silence timeout), { sock with now := sock.now + timeout })

/-- `_recv_exact`, with `chunks` received so far. -/
def recvExact (timeout length : Nat) (chunks : List UInt8) (sock : Sock) :
    Except Raised (Option (List UInt8)) × Sock :=
  if length ≤ chunks.length then (.ok (some chunks), sock)
  else
    match sock.recv timeout (length - chunks.length) with
    | (.error raised, sock) => (.error raised, sock)
    | (.ok [], sock) => (if chunks = [] then .ok none else .error .eofError, sock)
    | (.ok (b :: chunk), sock) => recvExact timeout length (chunks ++ b :: chunk) sock
termination_by length - chunks.length
decreasing_by
  rw [List.length_append, List.length_cons]
  omega

/-! ## Messages -/

/-- `recv_worker_message` with a timeout. -/
def recvWorkerMessage (lib : Library) (timeout : Nat) (sock : Sock) :
    Except Raised (Option Value) × Sock :=
  match recvExact timeout 4 [] sock with
  | (.error raised, sock) => (.error raised, sock)
  | (.ok none, sock) => (.ok none, sock)
  | (.ok (some header), sock) =>
    let length := leNat header
    if length = 0 ∨ workerMessageLimit < length then (.error .runtimeError, sock)
    else
      match recvExact timeout length [] sock with
      | (.error raised, sock) => (.error raised, sock)
      | (.ok none, sock) => (.error .eofError, sock)
      | (.ok (some payload), sock) =>
        match lib.loads payload with
        | some message => (.ok (some message), sock)
        | none => (.error .valueError, sock)

/-- What `send_worker_message` writes. -/
def sendWorkerMessage (lib : Library) (message : Value) : Option (List UInt8) :=
  (lib.dumps message).bind fun encoded =>
    if workerMessageLimit < encoded.length then none
    else some (leBytes 4 encoded.length ++ encoded)

/-! ## Reading -/

def bytesOf (segments : List Segment) : List UInt8 := segments.flatMap Segment.bytes

@[simp] theorem bytesOf_cons (seg : Segment) (segments : List Segment) :
    bytesOf (seg :: segments) = seg.bytes ++ bytesOf segments :=
  rfl

theorem eq_nil_of_bytesOf {segments : List Segment} (h : bytesOf segments = []) :
    segments = [] := by
  cases segments with
  | nil => rfl
  | cons seg segments =>
    rw [bytesOf_cons, List.append_eq_nil_iff] at h
    exact absurd h.1 seg.bytes_ne

theorem bytesOf_dropped (seg : Segment) (size : Nat) (segments : List Segment) :
    bytesOf (seg.dropped size ++ segments) = seg.bytes.drop size ++ bytesOf segments := by
  unfold Segment.dropped
  split
  · rename_i h
    rw [h]
    rfl
  · rfl

theorem arrival_dropped {seg seg' : Segment} {size : Nat} (h : seg' ∈ seg.dropped size) :
    seg'.arrival = seg.arrival := by
  unfold Segment.dropped at h
  split at h
  · cases h
  · rw [List.mem_singleton.mp h]

/-- Segments that have arrived together by `t`. -/
def Arrived (t : Nat) (segments : List Segment) : Prop := ∀ seg ∈ segments, seg.arrival = t

variable {lib : Library} {timeout length now t : Nat} {closedAt : Option Nat}
  {chunks chunk : List UInt8} {sock sock' : Sock}

theorem recvExact_done (h : length ≤ chunks.length) :
    recvExact timeout length chunks sock = (.ok (some chunks), sock) := by
  rw [recvExact, if_pos h]

theorem recvExact_chunk (hmissing : chunks.length < length) (hchunk : chunk ≠ [])
    (hrecv : sock.recv timeout (length - chunks.length) = (.ok chunk, sock')) :
    recvExact timeout length chunks sock = recvExact timeout length (chunks ++ chunk) sock' := by
  rw [recvExact, if_neg (Nat.not_le_of_lt hmissing), hrecv]
  cases chunk with
  | nil => exact absurd rfl hchunk
  | cons b chunk => rfl

theorem recvExact_raised {raised : Raised} (hmissing : chunks.length < length)
    (hrecv : sock.recv timeout (length - chunks.length) = (.error raised, sock')) :
    recvExact timeout length chunks sock = (.error raised, sock') := by
  rw [recvExact, if_neg (Nat.not_le_of_lt hmissing), hrecv]

theorem recvExact_closed (hmissing : 0 < length)
    (hrecv : sock.recv timeout length = (.ok [], sock')) :
    recvExact timeout length [] sock = (.ok none, sock') := by
  have hnone : ¬ length ≤ ([] : List UInt8).length := Nat.not_le_of_lt hmissing
  rw [recvExact, if_neg hnone, List.length_nil, Nat.sub_zero, hrecv]
  rfl

theorem recv_segment {seg : Segment} (segments : List Segment) (size : Nat)
    (closedAt : Option Nat) (htime : seg.arrival ≤ now + timeout) :
    Sock.recv ⟨now, seg :: segments, closedAt⟩ timeout size =
      (.ok (seg.bytes.take size),
        ⟨max now seg.arrival, seg.dropped size ++ segments, closedAt⟩) :=
  if_pos htime

/-- Reading inside segments that come in time takes their bytes in order. -/
theorem recvExact_arrived {block : List Segment} (rest : List Segment) (closedAt : Option Nat)
    {length : Nat} {chunks : List UInt8} (harrived : Arrived t block)
    (htime : t ≤ now + timeout) (hmissing : chunks.length < length)
    (henough : length - chunks.length ≤ (bytesOf block).length) :
    ∃ left, Arrived t left ∧ bytesOf left = (bytesOf block).drop (length - chunks.length) ∧
      recvExact timeout length chunks ⟨now, block ++ rest, closedAt⟩ =
        (.ok (some (chunks ++ (bytesOf block).take (length - chunks.length))),
          ⟨max now t, left ++ rest, closedAt⟩) := by
  induction block generalizing now chunks with
  | nil =>
    rw [bytesOf, List.flatMap_nil, List.length_nil] at henough
    omega
  | cons seg block ih =>
    have hseg : seg.arrival = t := harrived seg List.mem_cons_self
    have hblock : Arrived t block := fun other h => harrived other (List.mem_cons_of_mem _ h)
    have hpos : 0 < seg.bytes.length := List.length_pos_iff.mpr seg.bytes_ne
    have hchunk : seg.bytes.take (length - chunks.length) ≠ [] := by
      rw [← List.length_pos_iff, List.length_take]
      omega
    have hrecv := recv_segment (block ++ rest) (length - chunks.length) closedAt
      (hseg.symm ▸ htime)
    rw [hseg] at hrecv
    rw [List.cons_append, recvExact_chunk hmissing hchunk hrecv]
    rw [bytesOf_cons, List.length_append] at henough
    by_cases hinside : length - chunks.length ≤ seg.bytes.length
    · -- the segment has all that is missing
      refine ⟨seg.dropped (length - chunks.length) ++ block, ?_, ?_, ?_⟩
      · intro other hother
        rcases List.mem_append.mp hother with hother | hother
        · rw [arrival_dropped hother, hseg]
        · exact hblock other hother
      · rw [bytesOf_dropped, bytesOf_cons, List.drop_append_of_le_length hinside]
      · rw [bytesOf_cons, List.take_append_of_le_length hinside, List.append_assoc,
          recvExact_done]
        rw [List.length_append, List.length_take]
        omega
    · -- it is used up, and the segments behind it have the rest
      have htake : seg.bytes.take (length - chunks.length) = seg.bytes :=
        List.take_of_length_le (by omega)
      have hdrop : seg.bytes.drop (length - chunks.length) = [] :=
        List.drop_of_length_le (by omega)
      have hdropped : seg.dropped (length - chunks.length) = [] := dif_pos hdrop
      have hmissing' : (chunks ++ seg.bytes).length < length := by
        rw [List.length_append]
        omega
      have hrest : length - (chunks ++ seg.bytes).length =
          length - chunks.length - seg.bytes.length := by
        rw [List.length_append]
        omega
      obtain ⟨left, hleft, hbytes, hread⟩ := ih hblock
        (show t ≤ max now t + timeout by omega) hmissing' (by rw [hrest]; omega)
      rw [hrest] at hbytes hread
      refine ⟨left, hleft, ?_, ?_⟩
      · rw [hbytes, bytesOf_cons, List.drop_append, hdrop, List.nil_append]
      · rw [htake, hdropped, List.nil_append, hread, bytesOf_cons, List.take_append, htake,
          List.append_assoc, Nat.max_assoc, Nat.max_self]

/-- A frame that comes in time is read as its message, and nothing behind it is touched. -/
theorem recvWorkerMessage_frame {message : Value} {frame : List UInt8} {block rest : List Segment}
    (hlib : lib.RoundTrips message) (hsent : sendWorkerMessage lib message = some frame)
    (hblock : bytesOf block = frame) (harrived : Arrived t block) (htime : t ≤ now + timeout) :
    recvWorkerMessage lib timeout ⟨now, block ++ rest, closedAt⟩ =
      (.ok (some message), ⟨max now t, rest, closedAt⟩) := by
  obtain ⟨encoded, hencoded, hframe⟩ := Option.bind_eq_some_iff.mp hsent
  obtain ⟨hne, hloads⟩ := hlib encoded hencoded
  have hlimit : encoded.length ≤ workerMessageLimit := by
    by_contra hlong
    rw [if_pos (Nat.lt_of_not_le hlong)] at hframe
    cases hframe
  rw [if_neg (Nat.not_lt_of_le hlimit), Option.some_inj] at hframe
  rw [← hframe] at hblock
  have hheader : (leBytes 4 encoded.length).length = 4 := length_leBytes 4 _
  have hlength : leNat (leBytes 4 encoded.length) = encoded.length := by
    apply leNat_leBytes
    unfold workerMessageLimit at hlimit
    omega
  obtain ⟨left, hleft, hbytes, hread⟩ := recvExact_arrived rest closedAt harrived htime
    (show ([] : List UInt8).length < 4 by decide)
    (by rw [hblock, List.length_append, hheader, List.length_nil]; omega)
  rw [List.length_nil, Nat.sub_zero, hblock] at hbytes hread
  rw [List.take_left' hheader, List.nil_append] at hread
  rw [List.drop_left' hheader] at hbytes
  have hpos : 0 < encoded.length := List.length_pos_iff.mpr hne
  obtain ⟨left', -, hbytes', hread'⟩ := recvExact_arrived rest closedAt hleft
    (show t ≤ max now t + timeout by omega) (show ([] : List UInt8).length < encoded.length from hpos)
    (by rw [hbytes, List.length_nil]; omega)
  rw [List.length_nil, Nat.sub_zero, hbytes, List.drop_length] at hbytes'
  rw [List.length_nil, Nat.sub_zero, hbytes, List.take_length, List.nil_append, Nat.max_assoc,
    Nat.max_self, eq_nil_of_bytesOf hbytes', List.nil_append] at hread'
  have hvalid : ¬ (encoded.length = 0 ∨ workerMessageLimit < encoded.length) := by omega
  rw [recvWorkerMessage, hread]
  simp only [hlength, if_neg hvalid, hread', hloads]

/-- Where nothing comes in time, the receive raises. -/
theorem recvWorkerMessage_silent
    (hrecv : sock.recv timeout 4 = (.error (silence timeout), sock')) :
    recvWorkerMessage lib timeout sock = (.error (silence timeout), sock') := by
  rw [recvWorkerMessage, recvExact_raised (show ([] : List UInt8).length < 4 by decide) hrecv]

theorem recvWorkerMessage_closed (hrecv : sock.recv timeout 4 = (.ok [], sock')) :
    recvWorkerMessage lib timeout sock = (.ok none, sock') := by
  rw [recvWorkerMessage, recvExact_closed (by decide) hrecv]

/-! ## What is read -/

theorem recv_bytes {size : Nat} (h : sock.recv timeout size = (.ok chunk, sock')) :
    chunk ++ bytesOf sock'.segments = bytesOf sock.segments := by
  unfold Sock.recv at h
  split at h
  · rename_i seg rest hsegments
    rw [hsegments]
    split at h
    · obtain ⟨hchunk, rfl⟩ := Prod.mk.inj h
      rw [← Except.ok.inj hchunk, bytesOf_dropped, bytesOf_cons, ← List.append_assoc,
        List.take_append_drop]
    · cases h
  · split at h
    · split at h
      · obtain ⟨hchunk, rfl⟩ := Prod.mk.inj h
        rw [← Except.ok.inj hchunk]
        rfl
      · cases h
    · cases h

/-- No byte is lost where nothing is raised. -/
theorem recvExact_bytes {bs : List UInt8}
    (h : recvExact timeout length chunks sock = (.ok (some bs), sock')) :
    bs ++ bytesOf sock'.segments = chunks ++ bytesOf sock.segments ∧ length ≤ bs.length := by
  induction chunks, sock using recvExact.induct timeout length with
  | case1 chunks sock hdone =>
    rw [recvExact_done hdone] at h
    obtain ⟨hbs, rfl⟩ := Prod.mk.inj h
    rw [Except.ok.injEq, Option.some_inj] at hbs
    rw [← hbs]
    exact ⟨rfl, hdone⟩
  | case2 chunks sock hmissing raised sock'' hrecv =>
    rw [recvExact_raised (Nat.lt_of_not_le hmissing) hrecv] at h
    cases h
  | case3 chunks sock hmissing sock'' hrecv =>
    rw [recvExact, if_neg hmissing, hrecv] at h
    have hresult := (Prod.mk.inj h).1
    by_cases hchunks : chunks = []
    · rw [if_pos hchunks] at hresult
      cases hresult
    · rw [if_neg hchunks] at hresult
      cases hresult
  | case4 chunks sock hmissing b chunk sock'' hrecv ih =>
    rw [recvExact_chunk (Nat.lt_of_not_le hmissing) (List.cons_ne_nil b chunk) hrecv] at h
    obtain ⟨hbytes, hlength⟩ := ih h
    rw [hbytes, List.append_assoc, recv_bytes hrecv]
    exact ⟨rfl, hlength⟩

/-- A message takes at least the bytes of its length. -/
theorem recvWorkerMessage_bytes {message : Value}
    (h : recvWorkerMessage lib timeout sock = (.ok (some message), sock')) :
    (bytesOf sock'.segments).length + 4 ≤ (bytesOf sock.segments).length := by
  unfold recvWorkerMessage at h
  split at h
  · cases h
  · cases h
  · rename_i header after hheader
    have hread := recvExact_bytes hheader
    have hlength := congrArg List.length hread.1
    rw [List.length_append, List.nil_append] at hlength
    simp only at h
    split at h
    · cases h
    · split at h
      · cases h
      · cases h
      · rename_i payload last hpayload
        have hread' := recvExact_bytes hpayload
        have hlength' := congrArg List.length hread'.1
        rw [List.length_append, List.nil_append] at hlength'
        have hlast : last = sock' := by
          split at h
          · exact (Prod.mk.inj h).2
          · cases h
        rw [← hlast]
        omega

end Sensorium.Workers

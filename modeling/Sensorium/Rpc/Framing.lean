import Sensorium.Rpc.Steps

/-!
# Requests and chunks

The input buffer of a client is the unterminated rest of what it sent, whatever the chunks were, and
the requests it has accepted are those of the lines before.
-/

namespace Sensorium.Rpc

open Lib
open Sensorium.Model (Value Entries)

variable {cfg : Config}

/-- The requests of the lines that are not blank and parse. -/
def Config.decoded (cfg : Config) (ls : List (List UInt8)) : List Value :=
  (ls.filter fun l => !isBlank l).filterMap fun l => (cfg.loads l).toOption

theorem decoded_append (ls ls' : List (List UInt8)) :
    cfg.decoded (ls ++ ls') = cfg.decoded ls ++ cfg.decoded ls' := by
  rw [Config.decoded, List.filter_append, List.filterMap_append]
  rfl

theorem decoded_prefix {ls ls' : List (List UInt8)} (h : ls <+: ls') :
    cfg.decoded ls <+: cfg.decoded ls' := by
  obtain ⟨rest, rfl⟩ := h
  rw [decoded_append]
  exact List.prefix_append _ _

theorem decoded_blank {l : List UInt8} (h : isBlank l = true) : cfg.decoded [l] = [] := by
  simp [Config.decoded, h]

theorem decoded_error {l : List UInt8} {message : Text} (h : cfg.loads l = .error message) :
    cfg.decoded [l] = [] := by
  cases hblank : isBlank l <;> simp [Config.decoded, hblank, h, Except.toOption]

theorem decoded_ok {l : List UInt8} {request : Value} (hblank : isBlank l = false)
    (h : cfg.loads l = .ok request) : cfg.decoded [l] = [request] := by
  simp [Config.decoded, hblank, h, Except.toOption]

/-- A line or an unterminated rest that is too long. -/
def Config.Oversize (cfg : Config) (stream : List UInt8) : Prop :=
  (∃ l ∈ lines newline stream, isBlank l = false ∧ cfg.maxRequestBytes < l.length) ∨
    cfg.maxRequestBytes < (unterminated newline stream).length

namespace Client

variable {client client' : Client} {before : List (List UInt8)}

/-- The lines `before` have been taken, and the buffer still holds all that follows. -/
structure Reading (cfg : Config) (client : Client) (before : List (List UInt8)) : Prop where
  lines : lines newline client.received = before ++ lines newline client.inbuf
  rest : unterminated newline client.received = unterminated newline client.inbuf
  fits : ∀ l ∈ before, isBlank l = false → l.length ≤ cfg.maxRequestBytes
  accepted : client.accepted = cfg.decoded before
  opened : client.closed = false

/-- Between two chunks the accepted requests are those of the lines `before`, which are all lines
that were received unless the client was closed for its size or its number of requests. -/
structure Framed (cfg : Config) (client : Client) (before : List (List UInt8)) : Prop where
  lines : before <+: lines newline client.received
  fits : ∀ l ∈ before, isBlank l = false → l.length ≤ cfg.maxRequestBytes
  accepted : client.accepted = cfg.decoded before
  size : client.closedFor = some .size → cfg.Oversize client.received
  whole : client.closedFor ≠ some .size → client.closedFor ≠ some .pending →
    before = Lib.lines newline client.received
  rest : client.closed = false → client.inbuf = unterminated newline client.received
  opened : client.closed = false → client.closedFor = none

theorem Framed.congr (h : client.Framed cfg before) (hr : client'.received = client.received)
    (ha : client'.accepted = client.accepted) (hi : client'.inbuf = client.inbuf)
    (hc : client'.closed = client.closed) (hf : client'.closedFor = client.closedFor) :
    client'.Framed cfg before where
  lines := hr ▸ h.lines
  fits := h.fits
  accepted := ha ▸ h.accepted
  size := by rw [hf, hr]; exact h.size
  whole := by rw [hf, hr]; exact h.whole
  rest := by rw [hc, hi, hr]; exact h.rest
  opened := by rw [hc, hf]; exact h.opened

theorem framed_fresh : ({} : Client).Framed cfg [] where
  lines := List.nil_prefix
  fits := fun _ h => (List.not_mem_nil h).elim
  accepted := rfl
  size := fun h => by cases h
  whole := fun _ _ => rfl
  rest := fun _ => rfl
  opened := fun _ => rfl

/-- A client that is closed by its peer or at the end keeps what it has accepted. -/
theorem Framed.close (h : client.Framed cfg before) (hopen : client.closed = false)
    {reason : Reason} (hsize : reason ≠ .size) :
    (client.close reason).Framed cfg before where
  lines := h.lines
  fits := h.fits
  accepted := h.accepted
  size := fun heq => absurd (Option.some.inj heq) hsize
  whole := by
    intro _ _
    have hnone := h.opened hopen
    exact h.whole (by simp [hnone]) (by simp [hnone])
  rest := fun h => by cases h
  opened := fun h => by cases h

/-- A chunk goes behind the unterminated rest. -/
theorem Framed.receive (h : client.Framed cfg before) (hopen : client.closed = false)
    (bytes : List UInt8) : (client.receive bytes).Reading cfg before := by
  have hnone := h.opened hopen
  have hwhole := h.whole (by simp [hnone]) (by simp [hnone])
  refine ⟨?_, ?_, h.fits, h.accepted, hopen⟩
  · show Lib.lines newline (client.received ++ bytes) =
      _ ++ Lib.lines newline (client.inbuf ++ bytes)
    rw [lines_append, ← hwhole, h.rest hopen]
  · show unterminated newline (client.received ++ bytes) =
      unterminated newline (client.inbuf ++ bytes)
    rw [unterminated_append, h.rest hopen]

namespace Reading

/-- One line is taken off the buffer. -/
theorem drop (h : client.Reading cfg before) (hmem : newline ∈ client.inbuf)
    (hfits : isBlank client.line = false → client.line.length ≤ cfg.maxRequestBytes)
    {requests : List Value} (hdecoded : cfg.decoded [client.line] = requests)
    (hinbuf : client'.inbuf = client.dropLine.inbuf) (hreceived : client'.received = client.received)
    (haccepted : client'.accepted = client.accepted ++ requests)
    (hclosed : client'.closed = client.closed) :
    client'.Reading cfg (before ++ [client.line]) where
  lines := by
    rw [hreceived, h.lines, lines_eq_cons hmem, hinbuf, List.append_assoc]
    rfl
  rest := by
    rw [hreceived, h.rest, hinbuf]
    exact (unterminated_remainder hmem).symm
  fits := by
    intro l hl
    rcases List.mem_append.mp hl with hl | hl
    · exact h.fits l hl
    · rw [List.mem_singleton.mp hl]
      exact hfits
  accepted := by rw [haccepted, h.accepted, decoded_append, hdecoded]
  opened := hclosed ▸ h.opened

/-- The loop ends at a line, and the client is closed for it. -/
theorem stop (h : client.Reading cfg before) (hmem : newline ∈ client.inbuf) {reason : Reason}
    (hreason : reason = .pending ∨ reason = .size ∧ isBlank client.line = false ∧
      cfg.maxRequestBytes < client.line.length) :
    (client.dropLine.close reason).Framed cfg before where
  lines := ⟨_, h.lines.symm⟩
  fits := h.fits
  accepted := h.accepted
  size := by
    intro heq
    cases Option.some.inj heq
    rcases hreason with heq | ⟨_, hblank, hlong⟩
    · cases heq
    · refine .inl ⟨client.line, ?_, hblank, hlong⟩
      show client.line ∈ Lib.lines newline client.received
      rw [h.lines, lines_eq_cons hmem]
      exact List.mem_append_right _ List.mem_cons_self
  whole := by
    intro hsize hpending
    rcases hreason with rfl | ⟨rfl, _⟩
    · exact absurd rfl hpending
    · exact absurd rfl hsize
  rest := fun h => by cases h
  opened := fun h => by cases h

/-- The loop over the lines ends between two lines or closes the client. -/
theorem takes {result : Taken} (h : client.Reading cfg before) (htake : client.Takes cfg result)
    (hnone : client.closedFor = none) :
    (∀ client', result = .all client' → ∃ before, client'.Framed cfg before) ∧
    ∀ client' reason, result = .closing client' reason →
      client'.closed = false ∧ ∃ before, (client'.close reason).Framed cfg before := by
  induction htake generalizing before with
  | done hnot =>
    refine ⟨fun client' heq => ?_, fun _ _ heq => by cases heq⟩
    cases heq
    have hlines := h.lines
    rw [lines_eq_nil_of_notMem hnot, List.append_nil] at hlines
    refine ⟨before, ⟨[], by rw [hlines, List.append_nil]⟩, h.fits, h.accepted, ?_, ?_, ?_, ?_⟩
    · intro hsize
      rw [hnone] at hsize
      cases hsize
    · exact fun _ _ => hlines.symm
    · intro _
      rw [h.rest, unterminated_eq_self hnot]
    · exact fun _ => hnone
  | blank hmem hblank _ ih =>
    refine ih (h.drop hmem (fun hf => ?_) (decoded_blank hblank) rfl rfl ?_ rfl) hnone
    · rw [hblank] at hf
      cases hf
    · exact (List.append_nil _).symm
  | malformed hmem hblank hfits hloads _ _ ih =>
    exact ih (h.drop hmem (fun _ => hfits) (decoded_error hloads) rfl rfl
      (List.append_nil _).symm rfl) hnone
  | pushed hmem hblank hfits hloads _ _ ih =>
    exact ih (h.drop hmem (fun _ => hfits) (decoded_ok hblank hloads) rfl rfl rfl rfl) hnone
  | tooLong hmem hblank hlong =>
    refine ⟨fun _ heq => (by cases heq), fun client' reason heq => ?_⟩
    cases heq
    exact ⟨h.opened, before, h.stop hmem (.inr ⟨rfl, hblank, hlong⟩)⟩
  | overfull hmem =>
    refine ⟨fun _ heq => (by cases heq), fun client' reason heq => ?_⟩
    cases heq
    exact ⟨h.opened, before, h.stop hmem (.inl rfl)⟩

/-- A buffer without a newline that is too long closes the client. -/
theorem tooLong (h : client.Reading cfg before) (hnot : newline ∉ client.inbuf)
    (hlong : cfg.maxRequestBytes < client.inbuf.length) :
    (client.close .size).Framed cfg before where
  lines := ⟨_, h.lines.symm⟩
  fits := h.fits
  accepted := h.accepted
  size := by
    intro _
    refine .inr ?_
    show cfg.maxRequestBytes < (unterminated newline client.received).length
    rw [h.rest, unterminated_eq_self hnot]
    exact hlong
  whole := fun hsize _ => absurd rfl hsize
  rest := fun h => by cases h
  opened := fun h => by cases h

end Reading

end Client

/-! ## Runs -/

namespace Server

variable {s t : Server} {c : Nat} {client client' : Client}

def Framed (cfg : Config) (s : Server) : Prop :=
  ∀ client ∈ s.clients, ∃ before, client.Framed cfg before

namespace Framed

theorem set (h : s.Framed cfg) (hc : t.clients = s.clients.set c client')
    (hclient : ∃ before, client'.Framed cfg before) : t.Framed cfg := by
  intro other hmem
  rw [hc] at hmem
  rcases List.mem_or_eq_of_mem_set hmem with hmem | rfl
  · exact h other hmem
  · exact hclient

/-- What a client has sent and what was accepted of it stay the same. -/
theorem update (h : s.Framed cfg) (hc : t.clients = s.clients.set c client')
    (hclient : s.clients[c]? = some client) (hr : client'.received = client.received)
    (ha : client'.accepted = client.accepted) (hi : client'.inbuf = client.inbuf)
    (hclosed : client'.closed = client.closed) (hf : client'.closedFor = client.closedFor) :
    t.Framed cfg := by
  obtain ⟨before, hframed⟩ := h client (List.mem_of_getElem? hclient)
  exact h.set hc ⟨before, hframed.congr hr ha hi hclosed hf⟩

theorem close (h : s.Framed cfg) (hc : t.clients = (s.closeClient c client' .peer).clients)
    (hclient : s.clients[c]? = some client') : t.Framed cfg := by
  unfold closeClient at hc
  split at hc
  · intro other hmem
    rw [hc] at hmem
    exact h other hmem
  · rename_i hopen
    obtain ⟨before, hframed⟩ := h client' (List.mem_of_getElem? hclient)
    exact h.set hc ⟨before, hframed.close (by simpa using hopen) (by simp)⟩

theorem closeAs (h : s.Framed cfg) {reason : Reason}
    (hc : t.clients = (s.closeClient c client' reason).clients)
    (hclient : ∃ before, (client'.close reason).Framed cfg before) : t.Framed cfg := by
  unfold closeClient at hc
  split at hc
  · intro other hmem
    rw [hc] at hmem
    exact h other hmem
  · exact h.set hc hclient

theorem moves {a : Act} (h : s.Framed cfg) (hmove : Moves cfg s a t) : t.Framed cfg := by
  cases hmove with
  | left | selected | passed | toFlush | rejected | gone | unflushed | dispatched | drained
  | discarded | skipped | finished | completed | shutDown => exact h
  | connected =>
    intro client hmem
    rcases List.mem_append.mp hmem with hmem | hmem
    · exact h client hmem
    · rw [List.mem_singleton.mp hmem]
      exact ⟨[], Client.framed_fresh⟩
  | hungUp hat => exact h.close rfl hat.here
  | unwritable _ _ hclient | unmodified _ _ hclient => exact h.close rfl hclient
  | tooLong hat hopen hline hlong =>
    obtain ⟨before, hframed⟩ := h _ (List.mem_of_getElem? hat.here)
    exact h.closeAs rfl ⟨before, (hframed.receive hopen _).tooLong hline hlong⟩
  | refused hat hopen htake =>
    obtain ⟨before, hframed⟩ := h _ (List.mem_of_getElem? hat.here)
    exact h.closeAs rfl
      (((hframed.receive hopen _).takes htake (hframed.opened hopen)).2 _ _ rfl).2
  | took hat hopen _ htake =>
    obtain ⟨before, hframed⟩ := h _ (List.mem_of_getElem? hat.here)
    exact h.set rfl (((hframed.receive hopen _).takes htake (hframed.opened hopen)).1 _ rfl)
  | flushed _ _ hclient => exact h.update rfl hclient rfl rfl rfl rfl rfl
  | waitRaised hpop | foundRaised hpop | found hpop | waits hpop | full hpop | submitted hpop =>
    exact h.update rfl hpop.here rfl rfl rfl rfl rfl
  | drainRaised hdrain | answered hdrain => exact h.update rfl hdrain.here rfl rfl rfl rfl rfl
  | pollRaised hat | polled hat => exact h.update rfl hat.here rfl rfl rfl rfl rfl
  | serverClosed =>
    intro other hmem
    obtain ⟨d, hd⟩ := List.getElem?_of_mem hmem
    rcases getElem?_closeAll hd with hold | ⟨client, hold, hopen, rfl⟩
    · exact h other (List.mem_of_getElem? hold)
    · obtain ⟨before, hframed⟩ := h client (List.mem_of_getElem? hold)
      exact ⟨before, hframed.close hopen (by simp)⟩

theorem reach (hr : Reach (step cfg) anyStep cfg.initial s) : s.Framed cfg :=
  Reach.invariant (I := Framed cfg) (fun _ h => (List.not_mem_nil h).elim)
    (fun _ _ _ h _ hs => h.moves (moves_of_step hs)) hr

end Framed

end Server

/-! ## Streams -/

theorem Config.Oversize.extend {received stream : List UInt8} (h : cfg.Oversize received)
    (hstart : received <+: stream)
    (hlines : ∀ l ∈ lines newline stream, l.length ≤ cfg.maxRequestBytes)
    (hrest : (unterminated newline stream).length ≤ cfg.maxRequestBytes) : False := by
  rcases h with ⟨l, hmem, _, hlong⟩ | hlong
  · have hfits := hlines l ((lines_extend hstart).subset hmem)
    omega
  · have hfits := length_unterminated_le hstart hlines hrest
    omega

/-- Of two parts of one list of lines, the one whose lines all fit ends before the line that does
not. -/
theorem prefix_before {before all earlier later : List (List UInt8)} {l : List UInt8}
    (hbefore : before <+: all)
    (hfits : ∀ l ∈ before, isBlank l = false → l.length ≤ cfg.maxRequestBytes)
    (hall : all = earlier ++ l :: later) (hblank : isBlank l = false)
    (hlong : cfg.maxRequestBytes < l.length) : before <+: earlier := by
  have hearlier : earlier ++ [l] <+: all := ⟨later, by rw [hall, List.append_assoc]; rfl⟩
  rcases List.prefix_or_prefix_of_prefix hbefore hearlier with h | h
  · rcases List.prefix_concat_iff.mp h with rfl | h
    · have hl := hfits l (List.mem_append_right _ (List.mem_singleton.mpr rfl)) hblank
      omega
    · exact h
  · have hl := hfits l (h.subset (List.mem_append_right _ (List.mem_singleton.mpr rfl))) hblank
    omega

/-- Whatever the chunks are in which a client's stream was received so far: if no line of the
stream and no unterminated rest is too long, the accepted requests are those of the lines
received, unless the client was closed for the number of its requests, and it is not closed for
size; and if a line that is not blank is too long, the accepted requests are among those of the
lines before it. -/
theorem framing_of_stream {s : Server} (hr : Reach (step cfg) anyStep cfg.initial s)
    (client : Client) (hclient : client ∈ s.clients) (stream : List UInt8)
    (hstream : client.received <+: stream) :
    (client.closedFor ≠ some .pending →
      (∀ l ∈ lines newline stream, l.length ≤ cfg.maxRequestBytes) →
      (unterminated newline stream).length ≤ cfg.maxRequestBytes →
      client.accepted = cfg.decoded (lines newline client.received) ∧
        client.closedFor ≠ some .size) ∧
    ∀ earlier l later, lines newline stream = earlier ++ l :: later → isBlank l = false →
      cfg.maxRequestBytes < l.length → client.accepted <+: cfg.decoded earlier := by
  obtain ⟨before, h⟩ := Server.Framed.reach hr client hclient
  constructor
  · intro hpending hlines hrest
    have hsize : client.closedFor ≠ some .size :=
      fun heq => (h.size heq).extend hstream hlines hrest
    refine ⟨?_, hsize⟩
    rw [h.accepted, h.whole hsize hpending]
  · intro earlier l later hall hblank hlong
    rw [h.accepted]
    exact decoded_prefix
      (prefix_before (h.lines.trans (lines_extend hstream)) h.fits hall hblank hlong)

/-- A request in two chunks, a blank line and a line that does not parse. -/
theorem framing_of_two_chunks : ∃ s : Server, ∃ client ∈ s.clients,
    client.received = call "status" ++ ascii "\n \n!\n" ∧
    client.accepted = Config.small.decoded (lines newline client.received) ∧
    client.closedFor ≠ some .size := by
  have hrun : (exec (guarded (step .small) anyStep) Config.small.initial
      (connecting ++ sending 0 ((call "status").take 14) ++
        [.dispatch none 0, .drain 0, .poll none] ++
        sending 0 ((call "status").drop 14 ++ ascii "\n \n!\n"))).map
      (fun s => decide (s.clients.map (fun client => (client.received, client.closedFor)) =
        [(call "status" ++ ascii "\n \n!\n", none)])) = some true := by
    decide +kernel
  obtain ⟨s, hs, hview⟩ := Option.map_eq_some_iff.mp hrun
  obtain ⟨client, hclients, hclient⟩ := List.map_eq_singleton_iff.mp (of_decide_eq_true hview)
  have hreceived : client.received = call "status" ++ ascii "\n \n!\n" :=
    congrArg Prod.fst hclient
  have hclosed : client.closedFor = none := congrArg Prod.snd hclient
  have hmem : client ∈ s.clients := hclients ▸ List.mem_cons_self
  refine ⟨s, client, hmem, hreceived, ?_⟩
  refine (framing_of_stream (reach_of_exec hs) client hmem client.received
    (List.prefix_refl _)).1 (by simp [hclosed]) ?_ ?_
  · rw [hreceived]
    decide +kernel
  · rw [hreceived]
    decide +kernel

end Sensorium.Rpc

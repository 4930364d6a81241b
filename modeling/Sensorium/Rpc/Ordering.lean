import Mathlib.Data.List.Forall2
import Sensorium.Rpc.Framing
import Sensorium.Rpc.Survival

/-!
# The order of the responses

The requests of a client are answered one at a time, in the order of their lines.  A line that
does not parse is answered when it is read: that is its turn only where no earlier request of the
client is still to be answered.
-/

namespace Sensorium.Rpc

open Lib
open Sensorium.Model (Value Entries)

/-- A response for a line: a parse error for a line that does not parse, the event of a wait for a
`backend.next_event` request, and a result, an error or a busy error for any other request. -/
def Response.Answers (cfg : Config) (line : List UInt8) : Response → Prop
  | .parseError message => cfg.loads line = .error message
  | .busy => ∃ request, cfg.loads line = .ok request ∧ cfg.nextEvent? request = none
  | .ran request _ => cfg.loads line = .ok request ∧ cfg.nextEvent? request = none
  | .event es _ => cfg.loads line = .ok (.dict es) ∧ cfg.nextEvent? (.dict es) = some es

def Response.isParseError : Response → Bool
  | .parseError _ => true
  | .busy | .ran _ _ | .event _ _ => false

/-- The lines that are not blank. -/
def requestLines (ls : List (List UInt8)) : List (List UInt8) := ls.filter fun l => !isBlank l

namespace Client

/-- The requests that are still to be answered, in their order. -/
def outstanding (client : Client) : List Value :=
  client.running.toList ++ (client.waitingForEvent.map fun w => Value.dict w.request).toList ++
    client.pendingRequests

end Client

/-- The lines of a chunk are in turn: one that does not parse comes only while no request is to be
answered.  `idle` says so of the lines before, `good` that all were in turn; a client that the
server closes over a line needs no answer. -/
def inTurn (cfg : Config) : List (List UInt8) → (idle : Bool) → (queued : Nat) → (good : Bool) → Bool
  | [], _, _, good => good
  | l :: ls, idle, queued, good =>
    if isBlank l then inTurn cfg ls idle queued good
    else if cfg.maxRequestBytes < l.length then true
    else
      match cfg.loads l with
      | .error _ => inTurn cfg ls idle queued (good && idle)
      | .ok _ =>
        if cfg.maxPendingRequests ≤ queued then true else inTurn cfg ls false (queued + 1) good

/-- The client whose socket the loop is about to read. -/
def Server.reading (s : Server) : Option Client :=
  match s.pc with
  | .events (.client c true _) _ => s.clients[c]?
  | _ => none

/-- The lines that a chunk completes are in turn. -/
def punctual (cfg : Config) (s : Server) : Act → Prop
  | .recv (.chunk bytes) =>
    ∀ client ∈ s.reading,
      inTurn cfg (lines newline (client.inbuf ++ bytes)) client.outstanding.isEmpty
        client.pendingRequests.length true = true
  | _ => True

instance (cfg : Config) (s : Server) : (a : Act) → Decidable (punctual cfg s a)
  | .recv (.chunk bytes) =>
    inferInstanceAs (Decidable (∀ client ∈ s.reading,
      inTurn cfg (lines newline (client.inbuf ++ bytes)) client.outstanding.isEmpty
        client.pendingRequests.length true = true))
  | .recv .blocking | .recv .failed | .leave | .select _ | .accept _ | .drainWake | .send _
  | .dispatch _ _ | .drain _ | .poll _ | .finish _ _ | .complete _ | .modifyFails _ | .shutdown
  | .serverClose =>
    .isTrue trivial

variable {cfg : Config}

theorem inTurn_blank {l : List UInt8} (h : isBlank l = true) (ls : List (List UInt8))
    (idle : Bool) (queued : Nat) (good : Bool) :
    inTurn cfg (l :: ls) idle queued good = inTurn cfg ls idle queued good := by
  rw [inTurn, if_pos h]

theorem inTurn_malformed {l : List UInt8} {message : Text} (hblank : isBlank l = false)
    (hfits : l.length ≤ cfg.maxRequestBytes) (hloads : cfg.loads l = .error message)
    (ls : List (List UInt8)) (idle : Bool) (queued : Nat) (good : Bool) :
    inTurn cfg (l :: ls) idle queued good = inTurn cfg ls idle queued (good && idle) := by
  rw [inTurn, if_neg (by simp [hblank]), if_neg (Nat.not_lt_of_le hfits), hloads]

theorem inTurn_pushed {l : List UInt8} {request : Value} {queued : Nat} (hblank : isBlank l = false)
    (hfits : l.length ≤ cfg.maxRequestBytes) (hloads : cfg.loads l = .ok request)
    (hfree : queued < cfg.maxPendingRequests) (ls : List (List UInt8)) (idle good : Bool) :
    inTurn cfg (l :: ls) idle queued good = inTurn cfg ls false (queued + 1) good := by
  rw [inTurn, if_neg (by simp [hblank]), if_neg (Nat.not_lt_of_le hfits), hloads]
  exact if_neg (Nat.not_le_of_lt hfree)

/-! ## Clients -/

namespace Client

theorem outstanding_idle {client : Client} (hr : client.running = none)
    (hw : client.waitingForEvent = none) : client.outstanding = client.pendingRequests := by
  rw [outstanding, hr, hw]
  rfl

theorem outstanding_running {client : Client} {request : Value} (hr : client.running = some request)
    (hw : client.waitingForEvent = none) :
    client.outstanding = request :: client.pendingRequests := by
  rw [outstanding, hr, hw]
  rfl

theorem outstanding_waiting {client : Client} {w : Waiter} (hr : client.running = none)
    (hw : client.waitingForEvent = some w) :
    client.outstanding = .dict w.request :: client.pendingRequests := by
  rw [outstanding, hr, hw]
  rfl

variable {client client' : Client} {answered rest : List (List UInt8)} {ls : List (List UInt8)}

/-- Of the lines `ls` the first ones are answered, one by one, and the others are those of the
requests that are still to be answered. -/
structure Answered (cfg : Config) (client : Client) (ls answered rest : List (List UInt8)) :
    Prop where
  lines : requestLines ls = answered ++ rest
  answers : List.Forall₂ (fun line r => Response.Answers cfg line r) answered client.responses
  rest : rest.map cfg.loads = client.outstanding.map .ok

/-- What the running request and the waiter are. -/
structure Kinds (cfg : Config) (client : Client) : Prop where
  active : client.activeRequest = client.running.isSome
  running : ∀ request ∈ client.running, cfg.nextEvent? request = none
  waiting : ∀ w ∈ client.waitingForEvent, cfg.nextEvent? (.dict w.request) = some w.request

theorem Kinds.congr (h : client.Kinds cfg) (ha : client'.activeRequest = client.activeRequest)
    (hr : client'.running = client.running)
    (hw : client'.waitingForEvent = client.waitingForEvent) : client'.Kinds cfg where
  active := by rw [ha, hr]; exact h.active
  running := by rw [hr]; exact h.running
  waiting := by rw [hw]; exact h.waiting

namespace Answered

theorem congr (h : client.Answered cfg ls answered rest)
    (hr : client'.responses = client.responses) (ho : client'.outstanding = client.outstanding) :
    client'.Answered cfg ls answered rest where
  lines := h.lines
  answers := by rw [hr]; exact h.answers
  rest := by rw [ho]; exact h.rest

/-- The first request that is still to be answered gets its response. -/
theorem answer (h : client.Answered cfg ls answered rest) {request : Value} {requests : List Value}
    (hfirst : client.outstanding = request :: requests) {r : Response}
    (hr : ∀ line, cfg.loads line = .ok request → r.Answers cfg line)
    (hresponses : client'.responses = client.responses ++ [r])
    (hrest : client'.outstanding = requests) :
    ∃ answered rest, client'.Answered cfg ls answered rest := by
  have hmap := h.rest
  rw [hfirst] at hmap
  cases rest with
  | nil => cases hmap
  | cons line rest =>
    obtain ⟨hline, hmap⟩ := List.cons.inj hmap
    refine ⟨answered ++ [line], rest, ?_, ?_, ?_⟩
    · rw [h.lines, List.append_assoc]
      rfl
    · rw [hresponses]
      exact List.rel_append h.answers (.cons (hr line hline) .nil)
    · rw [hrest]
      exact hmap

/-- A line that parses joins the queue. -/
theorem push (h : client.Answered cfg ls answered rest) {line : List UInt8} {request : Value}
    (hblank : isBlank line = false) (hloads : cfg.loads line = .ok request)
    (hr : client'.responses = client.responses)
    (ho : client'.outstanding = client.outstanding ++ [request]) :
    client'.Answered cfg (ls ++ [line]) answered (rest ++ [line]) where
  lines := by
    have hl := h.lines
    rw [requestLines] at hl ⊢
    rw [List.filter_append, hl, List.append_assoc, List.filter_cons_of_pos (by simp [hblank])]
    rfl
  answers := by rw [hr]; exact h.answers
  rest := by
    rw [ho, List.map_append, List.map_append, h.rest]
    exact congrArg (client.outstanding.map .ok ++ ·) (congrArg (fun x => [x]) hloads)

/-- A line that does not parse is answered where nothing else is to be answered. -/
theorem malformed (h : client.Answered cfg ls answered rest) {line : List UInt8} {message : Text}
    (hblank : isBlank line = false) (hloads : cfg.loads line = .error message)
    (hidle : client.outstanding = [])
    (hr : client'.responses = client.responses ++ [.parseError message])
    (ho : client'.outstanding = client.outstanding) :
    client'.Answered cfg (ls ++ [line]) (answered ++ [line]) [] where
  lines := by
    have hl := h.lines
    have hempty : rest = [] := List.map_eq_nil_iff.mp (h.rest.trans (by rw [hidle]; rfl))
    rw [hempty, List.append_nil] at hl
    rw [requestLines] at hl ⊢
    rw [List.filter_append, hl, List.append_nil, List.filter_cons_of_pos (by simp [hblank])]
    rfl
  answers := by
    rw [hr]
    exact List.rel_append h.answers (.cons hloads .nil)
  rest := by
    rw [ho, hidle]
    rfl

theorem blank (h : client.Answered cfg ls answered rest) {line : List UInt8}
    (hblank : isBlank line = true) : client.Answered cfg (ls ++ [line]) answered rest where
  lines := by
    have hl := h.lines
    rw [requestLines] at hl ⊢
    rw [List.filter_append, hl, List.filter_cons_of_neg (by simp [hblank]), List.filter_nil,
      List.append_nil]
  answers := h.answers
  rest := h.rest

end Answered

theorem lines_inbuf (h : newline ∈ client.inbuf) :
    lines newline client.inbuf = client.line :: lines newline client.dropLine.inbuf :=
  lines_eq_cons h

/-- Once a line was out of turn, only the closing of the client makes up for it. -/
theorem Takes.not_inTurn {result : Taken} (htake : client.Takes cfg result)
    (hall : result = .all client') (idle : Bool) :
    inTurn cfg (lines newline client.inbuf) idle client.pendingRequests.length false = false := by
  induction htake generalizing idle with
  | done hnot =>
    rw [lines_eq_nil_of_notMem hnot]
    rfl
  | blank hmem hblank _ ih =>
    rw [lines_inbuf hmem, inTurn_blank hblank]
    exact ih hall idle
  | malformed hmem hblank hfits hloads _ _ ih =>
    rw [lines_inbuf hmem, inTurn_malformed hblank hfits hloads]
    exact ih hall idle
  | pushed hmem hblank hfits hloads hfree _ ih =>
    rw [lines_inbuf hmem, inTurn_pushed hblank hfits hloads hfree]
    have hrest := ih hall false
    simp only [push, List.length_append, List.length_singleton] at hrest
    exact hrest
  | tooLong | overfull => cases hall

/-- Lines that are all in turn keep the answers in the order of the lines. -/
theorem Answered.takes {result : Taken} (htake : client.Takes cfg result)
    (hall : result = .all client') (h : client.Answered cfg ls answered rest)
    (hturn : inTurn cfg (Lib.lines newline client.inbuf) client.outstanding.isEmpty
      client.pendingRequests.length true = true) :
    ∃ answered rest, client'.Answered cfg (ls ++ Lib.lines newline client.inbuf) answered rest := by
  induction htake generalizing ls answered rest with
  | done hnot =>
    cases hall
    rw [lines_eq_nil_of_notMem hnot, List.append_nil]
    exact ⟨answered, rest, h⟩
  | blank hmem hblank _ ih =>
    rw [lines_inbuf hmem, inTurn_blank hblank] at hturn
    rw [lines_inbuf hmem, List.append_cons]
    exact ih hall ((h.blank hblank).congr rfl rfl) hturn
  | malformed hmem hblank hfits hloads _ htake ih =>
    rename_i client _ message bytes _
    rw [lines_inbuf hmem, inTurn_malformed hblank hfits hloads] at hturn
    have hidle : client.outstanding = [] := by
      cases hempty : client.outstanding.isEmpty with
      | true => exact List.isEmpty_iff.mp hempty
      | false =>
        rw [hempty] at hturn
        have hfalse := htake.not_inTurn hall false
        exact absurd (hfalse.symm.trans hturn) (by simp)
    rw [lines_inbuf hmem, List.append_cons]
    refine ih hall (h.malformed hblank hloads hidle rfl rfl) ?_
    rw [hidle] at hturn
    show inTurn cfg _ client.outstanding.isEmpty _ true = true
    rw [hidle]
    exact hturn
  | pushed hmem hblank hfits hloads hfree _ ih =>
    rename_i client _ request _
    rw [lines_inbuf hmem, inTurn_pushed hblank hfits hloads hfree] at hturn
    have houtstanding : (client.dropLine.push request).outstanding =
        client.outstanding ++ [request] := (List.append_assoc _ _ _).symm
    rw [lines_inbuf hmem, List.append_cons]
    refine ih hall (h.push hblank hloads rfl houtstanding) ?_
    have hbusy : (client.outstanding ++ [request]).isEmpty = false := by simp
    rw [houtstanding, hbusy]
    simp only [Client.push, List.length_append, List.length_singleton]
    exact hturn
  | tooLong | overfull => cases hall

theorem Takes.kinds {result : Taken} (htake : client.Takes cfg result)
    (hall : result = .all client') (h : client.Kinds cfg) :
    client'.Kinds cfg ∧ client'.running = client.running ∧ client'.closed = client.closed ∧
      client'.received = client.received :=
  htake.invariant (I := fun other => other.Kinds cfg ∧ other.running = client.running ∧
      other.closed = client.closed ∧ other.received = client.received) ⟨h, rfl, rfl, rfl⟩
    (fun _ h => ⟨h.1.congr rfl rfl rfl, h.2⟩) (fun _ _ _ h _ => ⟨h.1.congr rfl rfl rfl, h.2⟩)
    (fun _ _ h => ⟨h.1.congr rfl rfl rfl, h.2⟩) (.inl hall)

/-- While the loop runs, the lines of an open client are answered in order; after it has raised,
those that were answered. -/
def InOrder (cfg : Config) (raised : Bool) (client : Client) : Prop :=
  ∃ answered rest, requestLines (lines newline client.received) = answered ++ rest ∧
    List.Forall₂ (fun line r => Response.Answers cfg line r) answered client.responses ∧
    (raised = false → rest.map cfg.loads = client.outstanding.map .ok)

theorem InOrder.exists_answered (h : client.InOrder cfg false) :
    ∃ answered rest, client.Answered cfg (lines newline client.received) answered rest := by
  obtain ⟨answered, rest, hlines, hanswers, hrest⟩ := h
  exact ⟨answered, rest, hlines, hanswers, hrest rfl⟩

theorem Answered.inOrder (h : client.Answered cfg (Lib.lines newline client.received) answered rest)
    (raised : Bool) : client.InOrder cfg raised :=
  ⟨answered, rest, h.lines, h.answers, fun _ => h.rest⟩

theorem InOrder.raise {raised : Bool} (h : client.InOrder cfg raised)
    (hr : client'.responses = client.responses) (hs : client'.received = client.received) :
    client'.InOrder cfg true := by
  obtain ⟨answered, rest, hlines, hanswers, _⟩ := h
  exact ⟨answered, rest, hs ▸ hlines, hr ▸ hanswers, fun hf => by cases hf⟩

end Client

/-! ## The server -/

namespace Server

variable {s t : Server} {c : Nat} {client client' : Client}

structure InOrder (cfg : Config) (s : Server) : Prop where
  clients : ∀ (c : Nat) (client : Client), s.clients[c]? = some client → client.closed = false →
    client.InOrder cfg s.pc.hasRaised ∧ client.Kinds cfg
  jobs : ∀ job ∈ s.jobs, ∀ client : Client, s.clients[job.client]? = some client →
    client.closed = false →
    client.running = some job.request ∧ ∀ r ∈ job.response, ∃ outcome, r = .ran job.request outcome
  completions : ∀ p ∈ s.completions, ∀ client : Client, s.clients[p.1]? = some client →
    client.closed = false → ∃ request outcome,
      p.2 = .ran request outcome ∧ client.running = some request

namespace InOrder

/-- The clients, the jobs and the completions are the same. -/
theorem congr (h : s.InOrder cfg) (hc : t.clients = s.clients) (hj : t.jobs = s.jobs)
    (hq : t.completions = s.completions) (hrun : s.pc.hasRaised = false) : t.InOrder cfg where
  clients := by
    intro c client hclient hopen
    obtain ⟨horder, hkinds⟩ := h.clients c client (hc ▸ hclient) hopen
    rw [hrun] at horder
    obtain ⟨answered, rest, hanswered⟩ := horder.exists_answered
    exact ⟨hanswered.inOrder _, hkinds⟩
  jobs := by rw [hj, hc]; exact h.jobs
  completions := by rw [hq, hc]; exact h.completions

/-- One client changes, and those that have requests of theirs in the executor keep them. -/
theorem set (h : s.InOrder cfg) (hc : t.clients = s.clients.set c client')
    (hrun : s.pc.hasRaised = false ∨ t.pc.hasRaised = s.pc.hasRaised)
    (hself : client'.closed = false → client'.InOrder cfg t.pc.hasRaised ∧ client'.Kinds cfg)
    (hjobs : ∀ job ∈ t.jobs, (job.client ≠ c → job ∈ s.jobs) ∧
      (job.client = c → client'.closed = false → client'.running = some job.request ∧
        ∀ r ∈ job.response, ∃ outcome, r = .ran job.request outcome))
    (hcompletions : ∀ p ∈ t.completions, (p.1 ≠ c → p ∈ s.completions) ∧
      (p.1 = c → client'.closed = false → ∃ request outcome,
        p.2 = .ran request outcome ∧ client'.running = some request)) : t.InOrder cfg where
  clients := by
    intro d other hother hopen
    rw [hc] at hother
    rcases getElem?_set_cases hother with ⟨rfl, rfl⟩ | ⟨_, hother⟩
    · exact hself hopen
    · obtain ⟨horder, hkinds⟩ := h.clients d other hother hopen
      refine ⟨?_, hkinds⟩
      rcases hrun with hrun | hrun
      · rw [hrun] at horder
        obtain ⟨answered, rest, hanswered⟩ := horder.exists_answered
        exact hanswered.inOrder _
      · exact hrun ▸ horder
  jobs := by
    intro job hjob other hother hopen
    rw [hc] at hother
    rcases getElem?_set_cases hother with ⟨heq, rfl⟩ | ⟨hne, hother⟩
    · exact (hjobs job hjob).2 heq hopen
    · exact h.jobs job ((hjobs job hjob).1 hne) other hother hopen
  completions := by
    intro p hp other hother hopen
    rw [hc] at hother
    rcases getElem?_set_cases hother with ⟨heq, rfl⟩ | ⟨hne, hother⟩
    · exact (hcompletions p hp).2 heq hopen
    · exact h.completions p ((hcompletions p hp).1 hne) other hother hopen

/-- The running request of the client that changes stays the same. -/
theorem set_same (h : s.InOrder cfg) (hc : t.clients = s.clients.set c client')
    (hclient : s.clients[c]? = some client) (hopen : client.closed = false)
    (hrunning : client'.running = client.running) (hj : t.jobs = s.jobs)
    (hq : t.completions = s.completions) (hrun : s.pc.hasRaised = false)
    (hself : client'.InOrder cfg t.pc.hasRaised) (hkinds : client'.Kinds cfg) :
    t.InOrder cfg := by
  refine h.set hc (.inl hrun) (fun _ => ⟨hself, hkinds⟩) (fun job hjob => ?_) fun p hp => ?_
  · rw [hj] at hjob
    refine ⟨fun _ => hjob, fun heq _ => ?_⟩
    rw [hrunning]
    exact h.jobs job hjob client (heq ▸ hclient) hopen
  · rw [hq] at hp
    refine ⟨fun _ => hp, fun heq _ => ?_⟩
    rw [hrunning]
    exact h.completions p hp client (heq ▸ hclient) hopen

theorem close (h : s.InOrder cfg) {reason : Reason} (hrun : s.pc.hasRaised = false)
    (hopen : client'.closed = false) (pc : Pc) :
    ({ s.closeClient c client' reason with pc := pc } : Server).InOrder cfg := by
  rw [closeClient, if_neg (by simp [hopen])]
  exact h.set rfl (.inl hrun) (fun hf => by cases hf)
    (fun job hjob => ⟨fun _ => hjob, fun _ hf => by cases hf⟩)
    fun p hp => ⟨fun _ => hp, fun _ hf => by cases hf⟩

/-- A response for the first outstanding request. -/
theorem respond (h : s.InOrder cfg) (r : Response) (hclient : s.clients[c]? = some client)
    (hopen : client.closed = false) (hrun : s.pc.hasRaised = false) {request : Value}
    {requests : List Value} (hfirst : client.outstanding = request :: requests)
    (hr : ∀ line, cfg.loads line = .ok request → r.Answers cfg line)
    (hresponses : client'.responses = client.responses ++ [r])
    (hreceived : client'.received = client.received) (hrest : client'.outstanding = requests)
    (raised : Bool) : client'.InOrder cfg raised := by
  obtain ⟨horder, _⟩ := h.clients c client hclient hopen
  rw [hrun] at horder
  obtain ⟨answered, rest, hanswered⟩ := horder.exists_answered
  obtain ⟨answered, rest, hanswered⟩ := hanswered.answer hfirst hr hresponses hrest
  exact (hreceived ▸ hanswered).inOrder raised

/-- Nothing is answered and nothing is added. -/
theorem keep (h : s.InOrder cfg) (hclient : s.clients[c]? = some client)
    (hopen : client.closed = false) (hrun : s.pc.hasRaised = false)
    (hresponses : client'.responses = client.responses)
    (hreceived : client'.received = client.received)
    (houtstanding : client'.outstanding = client.outstanding) (raised : Bool) :
    client'.InOrder cfg raised := by
  obtain ⟨horder, _⟩ := h.clients c client hclient hopen
  rw [hrun] at horder
  obtain ⟨answered, rest, hanswered⟩ := horder.exists_answered
  have hkept := hanswered.congr hresponses houtstanding
  exact (hreceived ▸ hkept).inOrder raised

theorem raise (h : s.InOrder cfg) (hclient : s.clients[c]? = some client)
    (hopen : client.closed = false) (hresponses : client'.responses = client.responses)
    (hreceived : client'.received = client.received) : client'.InOrder cfg true :=
  (h.clients c client hclient hopen).1.raise hresponses hreceived

/-- A new client has sent nothing and has no requests. -/
theorem connect (h : s.InOrder cfg) (hsound : s.Sound cfg) (hrun : s.pc.hasRaised = false) (n : Nat)
    {pc : Pc} (hpc : pc.hasRaised = false) :
    ({ s with clients := s.clients ++ [{}], activeClients := n, pc := pc } : Server).InOrder cfg where
  clients := by
    intro d other hother hopen
    rcases getElem?_concat_cases hother with hold | ⟨_, rfl⟩
    · obtain ⟨horder, hkinds⟩ := h.clients d other hold hopen
      rw [hrun] at horder
      exact ⟨hpc ▸ horder, hkinds⟩
    · exact ⟨⟨[], [], rfl, .nil, fun _ => rfl⟩, rfl, fun _ hr => (by cases hr),
        fun _ hw => by cases hw⟩
  jobs := by
    intro job hjob other hother hopen
    rcases getElem?_concat_cases hother with hold | ⟨heq, _⟩
    · exact h.jobs job hjob other hold hopen
    · exact absurd heq (Nat.ne_of_lt (hsound.jobs job hjob))
  completions := by
    intro p hp other hother hopen
    rcases getElem?_concat_cases hother with hold | ⟨heq, _⟩
    · exact h.completions p hp other hold hopen
    · exact absurd heq (Nat.ne_of_lt (hsound.completions p hp))

end InOrder

theorem eq_dict_of_nextEvent? {request : Value} {es : Entries}
    (h : cfg.nextEvent? request = some es) : request = .dict es := by
  unfold Config.nextEvent? at h
  split at h
  · split at h
    · rw [Option.ite_none_right_eq_some] at h
      rw [Option.some.inj h.2]
    · cases h
  · cases h

theorem running_eq_none (hkinds : client.Kinds cfg) (h : client.activeRequest = false) :
    client.running = none := by
  have hactive := hkinds.active
  rw [h] at hactive
  simpa using hactive.symm

/-- The request that is popped is the first one to be answered. -/
theorem Pops.outstanding {request : Value} {requests : List Value}
    (h : s.Pops c client request requests) (hkinds : client.Kinds cfg) :
    client.outstanding = request :: requests := by
  rw [Client.outstanding_idle (running_eq_none hkinds h.inactive) h.unblocked, h.pending]

namespace InOrder

variable {request : Value} {rest : List Value} {es : Entries} {event : Option Value} {now : Nat}
  {r : Response} {bytes : List UInt8}

/-- The lines that are new are those of the rest of the stream with the chunk. -/
theorem took {write : Bool} {keys : List Key} (h : s.InOrder cfg) (hframed : s.Framed cfg)
    (hok : punctual cfg s (.recv (.chunk bytes))) (hat : s.AtClient c true write keys client)
    (hopen : client.closed = false) (htake : (client.receive bytes).Takes cfg (.all client')) :
    ({ s.setClient c client' with
        pc := .afterRead c write keys, dispatching := some c } : Server).InOrder cfg := by
  have hrun := hasRaised_eq hat.pc rfl
  obtain ⟨horder, hkinds⟩ := h.clients _ _ hat.here hopen
  rw [hrun] at horder
  obtain ⟨answered, rest, hanswered⟩ := horder.exists_answered
  obtain ⟨hkinds', hrunning, _, hreceived⟩ := htake.kinds rfl (hkinds.congr rfl rfl rfl)
  have hreading : s.reading = some client := by
    rw [reading, hat.pc]
    exact hat.here
  obtain ⟨answered, rest, hanswered'⟩ := Client.Answered.takes htake rfl
    (hanswered.congr rfl rfl) (hok client hreading)
  obtain ⟨before, hframe⟩ := hframed _ (List.mem_of_getElem? hat.here)
  have hlines : lines newline client'.received =
      lines newline client.received ++ lines newline (client.receive bytes).inbuf := by
    rw [hreceived, Client.receive, hframe.rest hopen]
    exact lines_append client.received bytes
  rw [← hlines] at hanswered'
  exact h.set_same rfl hat.here hopen hrunning rfl rfl hrun (hanswered'.inOrder _) hkinds'

theorem found (h : s.InOrder cfg) (hhalts : s.Halts) (hpop : s.Pops c client request rest)
    (hnext : cfg.nextEvent? request = some es)
    (hbegin : beginNextEventWait cfg es event now = some (.inl r)) :
    ({ s.setClient c (({ client with pendingRequests := rest } : Client).respond r bytes) with
        dispatching := none } : Server).InOrder cfg := by
  have hkinds := (h.clients _ _ hpop.here hpop.closed).2
  have hnone := running_eq_none hkinds hpop.inactive
  have hrun := hhalts.running hpop.dispatching
  rcases beginNextEventWait_eq_some hbegin with ⟨e, rfl, hr⟩ | ⟨_, _, hr, _⟩
  · cases hr
    have hdict := eq_dict_of_nextEvent? hnext
    refine h.set_same rfl hpop.here hpop.closed rfl rfl rfl hrun ?_ (hkinds.congr rfl rfl rfl)
    refine h.respond (.event es (some e)) hpop.here hpop.closed hrun (hpop.outstanding hkinds)
      (fun line hline => ?_) ?_ ?_ ?_ _
    · exact ⟨hdict ▸ hline, hdict ▸ hnext⟩
    · rfl
    · rfl
    · exact Client.outstanding_idle hnone hpop.unblocked
  · cases hr

theorem waits {w : Waiter} (h : s.InOrder cfg) (hhalts : s.Halts)
    (hpop : s.Pops c client request rest) (hnext : cfg.nextEvent? request = some es)
    (hbegin : beginNextEventWait cfg es event now = some (.inr w)) :
    ({ s.setClient c { client with pendingRequests := rest, waitingForEvent := some w } with
        dispatching := none } : Server).InOrder cfg := by
  have hkinds := (h.clients _ _ hpop.here hpop.closed).2
  have hrun := hhalts.running hpop.dispatching
  have hnone := running_eq_none hkinds hpop.inactive
  rcases beginNextEventWait_eq_some hbegin with ⟨_, _, hr⟩ | ⟨_, w, hr, hw⟩
  · cases hr
  · cases hr
    have hdict := eq_dict_of_nextEvent? hnext
    refine h.set_same rfl hpop.here hpop.closed rfl rfl rfl hrun ?_
      ⟨hkinds.active, hkinds.running, ?_⟩
    · refine h.keep hpop.here hpop.closed hrun ?_ ?_ ?_ _
      · rfl
      · rfl
      · rw [hpop.outstanding hkinds, hdict, ← hw]
        exact Client.outstanding_waiting hnone rfl
    · intro w' hw'
      cases hw'
      rw [hw, ← hdict]
      exact hnext

theorem full (h : s.InOrder cfg) (hhalts : s.Halts) (hpop : s.Pops c client request rest)
    (hnext : cfg.nextEvent? request = none) :
    (s.setClient c (({ client with pendingRequests := rest } : Client).respond .busy
      bytes)).InOrder cfg := by
  have hkinds := (h.clients _ _ hpop.here hpop.closed).2
  have hnone := running_eq_none hkinds hpop.inactive
  have hrun := hhalts.running hpop.dispatching
  refine h.set_same rfl hpop.here hpop.closed rfl rfl rfl hrun ?_ (hkinds.congr rfl rfl rfl)
  refine h.respond .busy hpop.here hpop.closed hrun (hpop.outstanding hkinds)
    (fun line hline => ?_) ?_ ?_ ?_ _
  · exact ⟨_, hline, hnext⟩
  · rfl
  · rfl
  · exact Client.outstanding_idle hnone hpop.unblocked

/-- The client of the new job has no other one. -/
theorem submitted {slots : Nat} (h : s.InOrder cfg) (hsound : s.Sound cfg) (hhalts : s.Halts)
    (hpop : s.Pops c client request rest) (hnext : cfg.nextEvent? request = none) :
    ({ s.setClient c { client with
          pendingRequests := rest, activeRequest := true, running := some request } with
        freeSlots := slots, jobs := s.jobs ++ [⟨c, request, none⟩] } : Server).InOrder cfg := by
  have hkinds := (h.clients _ _ hpop.here hpop.closed).2
  have hrun := hhalts.running hpop.dispatching
  obtain ⟨hjobs, hcompletions⟩ :=
    Sound.requestsOf_eq_zero (hsound.requestsOf_of_inactive hpop.here hpop.closed hpop.inactive)
  refine h.set rfl (.inl hrun) (fun _ => ⟨?_, ?_⟩) (fun job hjob => ?_) fun p hp => ?_
  · refine h.keep hpop.here hpop.closed hrun ?_ ?_ ?_ _
    · rfl
    · rfl
    · rw [hpop.outstanding hkinds]
      exact Client.outstanding_running rfl hpop.unblocked
  · refine ⟨rfl, fun request hrequest => ?_, hkinds.waiting⟩
    cases hrequest
    exact hnext
  · rcases List.mem_append.mp hjob with hjob | hjob
    · exact ⟨fun _ => hjob, fun heq => absurd heq (hjobs job hjob)⟩
    · rw [List.mem_singleton.mp hjob]
      exact ⟨fun hne => absurd rfl hne, fun _ _ => ⟨rfl, fun _ hr => by cases hr⟩⟩
  · exact ⟨fun _ => hp, fun heq => absurd heq (hcompletions p hp)⟩

/-- A completion answers the request that its client has running. -/
theorem answered {left : List (Nat × Response)} (h : s.InOrder cfg) (hsound : s.Sound cfg)
    (hdrain : s.Drains c client r left) :
    ({ s.setClient c
          (({ client with activeRequest := false, running := none } : Client).respond r bytes) with
        completions := left, dispatching := some c } : Server).InOrder cfg := by
  have hkinds := (h.clients _ _ hdrain.here hdrain.closed).2
  have hrun := hasRaised_eq hdrain.pc rfl
  obtain ⟨hjobs, hcompletions⟩ := hsound.alone hdrain
  have hmem : (c, r) ∈ s.completions := hdrain.completions ▸ List.mem_cons_self
  obtain ⟨request, outcome, hr, hrunning⟩ :=
    h.completions (c, r) hmem client hdrain.here hdrain.closed
  have hunblocked : client.waitingForEvent = none :=
    (hsound.here hdrain.here hdrain.closed).exclusive (by rw [hkinds.active, hrunning]; rfl)
  refine h.set rfl (.inl hrun) (fun _ => ⟨?_, ?_⟩) (fun job hjob => ?_) fun p hp => ?_
  · refine h.respond r hdrain.here hdrain.closed hrun
      (Client.outstanding_running hrunning hunblocked) (fun line hline => ?_) ?_ ?_ ?_ _
    · show Response.Answers cfg line r
      rw [show r = _ from hr]
      exact ⟨hline, hkinds.running request hrunning⟩
    · rfl
    · rfl
    · exact Client.outstanding_idle rfl hunblocked
  · exact ⟨rfl, fun _ hr => (by cases hr), hkinds.waiting⟩
  · exact ⟨fun _ => hjob, fun heq => absurd heq (hjobs job hjob)⟩
  · exact ⟨fun _ => hdrain.completions ▸ List.mem_cons_of_mem _ hp,
      fun heq => absurd heq (hcompletions p hp)⟩

/-- What a client waits for is the first request to be answered. -/
theorem polled {cs : List Nat} {w : Waiter} (h : s.InOrder cfg) (hsound : s.Sound cfg)
    (hat : s.AtWaiter now c cs client w) :
    ({ s.setClient c
          (({ client with waitingForEvent := none } : Client).respond (.event w.request event) bytes)
        with pc := .ofWaiters now cs, dispatching := some c } : Server).InOrder cfg := by
  have hkinds := (h.clients _ _ hat.here hat.closed).2
  have hrun := hasRaised_eq hat.pc rfl
  have hinactive : client.activeRequest = false := by
    by_contra hactive
    have hnone := (hsound.here hat.here hat.closed).exclusive (by simpa using hactive)
    rw [hat.waiting] at hnone
    cases hnone
  have hnone := running_eq_none hkinds hinactive
  refine h.set_same rfl hat.here hat.closed rfl rfl rfl hrun ?_
    ⟨hkinds.active, hkinds.running, fun _ hw => by cases hw⟩
  refine h.respond (.event w.request event) hat.here hat.closed hrun
    (Client.outstanding_waiting hnone hat.waiting)
    (fun line hline => ?_) ?_ ?_ ?_ _
  · exact ⟨hline, hkinds.waiting w hat.waiting⟩
  · rfl
  · rfl
  · exact Client.outstanding_idle hnone rfl

/-- The clients that are still open are as they were, and the others are closed. -/
theorem closeAll (h : s.InOrder cfg) : ({ s.closeAll with stop := true } : Server).InOrder cfg := by
  obtain ⟨clients, n, heq⟩ := closeAll_eq s
  have hold : ∀ (d : Nat) (other : Client), s.closeAll.clients[d]? = some other →
      other.closed = false → s.clients[d]? = some other := by
    intro d other hother hopen
    rcases getElem?_closeAll hother with hold | ⟨_, _, _, rfl⟩
    · exact hold
    · cases hopen
  rw [heq] at hold ⊢
  exact ⟨fun d other hother hopen => h.clients d other (hold d other hother hopen) hopen,
    fun job hjob other hother hopen => h.jobs job hjob other (hold _ other hother hopen) hopen,
    fun p hp other hother hopen => h.completions p hp other (hold _ other hother hopen) hopen⟩

end InOrder

theorem InOrder.moves {a : Act} (h : s.InOrder cfg) (hsound : s.Sound cfg)
    (hframed : s.Framed cfg) (hhalts : s.Halts) (hok : punctual cfg s a)
    (hmove : Moves cfg s a t) : t.InOrder cfg := by
  cases hmove with
  | left _ hpc | selected _ hpc | passed _ hpc | rejected _ hpc | unflushed _ hpc | drained _ hpc
  | skipped _ hpc => exact h.congr rfl rfl rfl (hasRaised_eq hpc rfl)
  | toFlush hat | gone hat => exact h.congr rfl rfl rfl (hasRaised_eq hat.pc rfl)
  | connected _ hpc => exact h.connect hsound (hasRaised_eq hpc rfl) _ (hasRaised_ofKeys _)
  | hungUp hat hopen => exact h.close (hasRaised_eq hat.pc rfl) hopen _
  | tooLong hat hopen =>
    refine h.close (hasRaised_eq hat.pc rfl) ?_ _
    exact hopen
  | refused hat hopen htake =>
    refine h.close (hasRaised_eq hat.pc rfl) ?_ _
    exact htake.invariant (I := fun other => other.closed = false) hopen (fun _ h => h)
      (fun _ _ _ h _ => h) (fun _ _ h => h) (.inr ⟨_, rfl⟩)
  | unwritable _ hpc _ hopen => exact h.close (hasRaised_eq hpc rfl) hopen _
  | unmodified hrun _ _ hopen => exact h.close (hasRaised_of_not_ended hrun) hopen _
  | took hat hopen _ htake => exact h.took hframed hok hat hopen htake
  | flushed _ hpc hclient hopen =>
    have hrun := hasRaised_eq hpc rfl
    exact h.set_same rfl hclient hopen rfl rfl rfl hrun
      (h.keep hclient hopen hrun rfl rfl rfl _) ((h.clients _ _ hclient hopen).2.congr rfl rfl rfl)
  | dispatched hd => exact h.congr rfl rfl rfl (hhalts.running hd)
  | waitRaised hpop | foundRaised hpop =>
    exact h.set_same rfl hpop.here hpop.closed rfl rfl rfl (hhalts.running hpop.dispatching)
      (h.raise hpop.here hpop.closed rfl rfl)
      ((h.clients _ _ hpop.here hpop.closed).2.congr rfl rfl rfl)
  | found hpop hnext hbegin => exact h.found hhalts hpop hnext hbegin
  | waits hpop hnext hbegin => exact h.waits hhalts hpop hnext hbegin
  | full hpop hnext => exact h.full hhalts hpop hnext
  | submitted hpop hnext => exact h.submitted hsound hhalts hpop hnext
  | discarded _ hpc hcomp =>
    -- the completions that are left were there before
    refine ⟨h.clients, h.jobs, fun p hp => h.completions p ?_⟩
    rw [hcomp]
    exact List.mem_cons_of_mem _ hp
  | drainRaised hdrain =>
    have hkinds := (h.clients _ _ hdrain.here hdrain.closed).2
    -- no other job and no other completion is this client's
    obtain ⟨hjobs, hcompletions⟩ := hsound.alone hdrain
    refine h.set rfl (.inl (hasRaised_eq hdrain.pc rfl)) (fun _ => ⟨?_, ?_⟩) (fun job hjob => ?_)
      fun p hp => ?_
    · exact h.raise hdrain.here hdrain.closed rfl rfl
    · exact ⟨rfl, fun _ hr => (by cases hr), hkinds.waiting⟩
    · exact ⟨fun _ => hjob, fun heq => absurd heq (hjobs job hjob)⟩
    · exact ⟨fun _ => hdrain.completions ▸ List.mem_cons_of_mem _ hp,
        fun heq => absurd heq (hcompletions p hp)⟩
  | answered hdrain => exact h.answered hsound hdrain
  | pollRaised hat =>
    have hkinds := (h.clients _ _ hat.here hat.closed).2
    exact h.set_same rfl hat.here hat.closed rfl rfl rfl (hasRaised_eq hat.pc rfl)
      (h.raise hat.here hat.closed rfl rfl) ⟨hkinds.active, hkinds.running, fun _ hw => by cases hw⟩
  | polled hat => exact h.polled hsound hat
  | finished hjob =>
    refine ⟨h.clients, fun job hmem client hclient hopen => ?_, h.completions⟩
    rcases List.mem_or_eq_of_mem_set hmem with hmem | rfl
    · exact h.jobs job hmem client hclient hopen
    · refine ⟨(h.jobs _ (List.mem_of_getElem? hjob) client hclient hopen).1, fun r hr => ?_⟩
      cases hr
      exact ⟨_, rfl⟩
  | completed hjob =>
    refine ⟨h.clients, fun job hmem => h.jobs job (List.mem_of_mem_eraseIdx hmem),
      fun p hp client hclient hopen => ?_⟩
    rcases List.mem_append.mp hp with hp | hp
    · exact h.completions p hp client hclient hopen
    · -- the new completion has the response of its job
      rw [List.mem_singleton.mp hp] at hclient ⊢
      obtain ⟨hrunning, hresponse⟩ := h.jobs _ (List.mem_of_getElem? hjob) client hclient hopen
      obtain ⟨outcome, hr⟩ := hresponse _ rfl
      exact ⟨_, outcome, hr, hrunning⟩
  | shutDown => exact ⟨h.clients, h.jobs, h.completions⟩
  | serverClosed => exact h.closeAll

theorem InOrder.reach (hr : Reach (step cfg) (punctual cfg) cfg.initial s) : s.InOrder cfg := by
  have hinitial : cfg.initial.InOrder cfg :=
    ⟨fun _ _ hc => (by cases hc), fun _ hjob => (List.not_mem_nil hjob).elim,
      fun _ hp => (List.not_mem_nil hp).elim⟩
  refine Reach.invariant_of_reach (I := InOrder cfg) hinitial ?_ hr
  intro s a t hr h hok hs
  have hany : Reach (step cfg) anyStep cfg.initial s := hr.mono fun _ _ _ => trivial
  exact h.moves (Sound.reach hany) (Framed.reach hany) (Halts.reach hr) hok (moves_of_step hs)

end Server

/-- In a run in which every line that does not parse comes in turn, the responses of an open
client answer its lines one by one and in order, they are what was written to it, and while the
loop runs the lines that are not answered yet are those of its running, waiting and queued
requests. -/
theorem responses_in_order {s : Server} (hr : Reach (step cfg) (punctual cfg) cfg.initial s)
    (client : Client) (hclient : client ∈ s.clients) (hopen : client.closed = false) :
    (∃ answered rest, requestLines (lines newline client.received) = answered ++ rest ∧
      List.Forall₂ (fun line r => Response.Answers cfg line r) answered client.responses ∧
      (s.pc.hasRaised = false → rest.map cfg.loads = client.outstanding.map .ok)) ∧
    client.sent ++ client.outbuf = client.queued := by
  obtain ⟨c, hc⟩ := List.getElem?_of_mem hclient
  have hany : Reach (step cfg) anyStep cfg.initial s := hr.mono fun _ _ _ => trivial
  exact ⟨((Server.InOrder.reach hr).clients c client hc hopen).1,
    ((Server.Sound.reach hany).here hc hopen).written⟩

/-- A malformed line behind a request that has been answered. -/
theorem responses_in_order_malformed : ∃ s : Server, ∃ client ∈ s.clients,
    client.responses.length = 2 ∧ ∃ answered rest,
      requestLines (lines newline client.received) = answered ++ rest ∧
      List.Forall₂ (fun line r => Response.Answers .small line r) answered client.responses := by
  have hrun : (exec (guarded (step .small) (punctual .small)) Config.small.initial
      (connecting ++ sending 0 (call "status" ++ [newline]) ++
        [.dispatch none 0, .dispatch none 0, .finish 0 (.ok .null), .complete 0, .drain 0,
          .dispatch none 0, .drain 0, .poll none] ++ sending 0 (ascii "!\n"))).map
      (fun s => s.clients.any fun client =>
        !client.closed && decide (client.responses.length = 2)) = some true := by
    decide +kernel
  obtain ⟨s, hs, hview⟩ := Option.map_eq_some_iff.mp hrun
  obtain ⟨client, hmem, hclient⟩ := List.any_eq_true.mp hview
  have hopen : client.closed = false ∧ client.responses.length = 2 := by simpa using hclient
  obtain ⟨answered, rest, hlines, hanswers, _⟩ :=
    (responses_in_order (reach_of_exec hs) client hmem hopen.1).1
  exact ⟨s, client, hmem, hopen.2, answered, rest, hlines, hanswers⟩

/-- A request and a malformed line in one chunk: the first response is the parse error, and it does
not answer the first line. -/
theorem responses_out_of_order : ∃ s : Server, Reach (step .small) anyStep Config.small.initial s ∧
    ∃ client ∈ s.clients, client.closed = false ∧ ∃ line r,
      (requestLines (lines newline client.received)).head? = some line ∧
      client.responses.head? = some r ∧ ¬r.Answers .small line := by
  have hrun : (exec (guarded (step .small) anyStep) Config.small.initial
      (connecting ++ sending 0 (call "status" ++ ascii "\n!\n"))).map
      (fun s => s.clients.any fun client => !client.closed &&
        client.responses.head?.any Response.isParseError &&
        decide ((requestLines (lines newline client.received)).head? =
          some (call "status"))) = some true := by
    decide +kernel
  obtain ⟨s, hs, hview⟩ := Option.map_eq_some_iff.mp hrun
  obtain ⟨client, hmem, hclient⟩ := List.any_eq_true.mp hview
  rw [Bool.and_eq_true, Bool.and_eq_true, decide_eq_true_eq] at hclient
  obtain ⟨⟨hopen, hresponse⟩, hline⟩ := hclient
  obtain ⟨r, hr, hparse⟩ := (Option.any_eq_true _ _).mp hresponse
  refine ⟨s, reach_of_exec hs, client, hmem, by simpa using hopen, _, r, hline, hr, fun h => ?_⟩
  -- the first line parses
  cases r with
  | parseError message =>
    have hloads : Config.small.loads (call "status") = .ok statusRequest := rfl
    rw [show Config.small.loads _ = _ from h] at hloads
    cases hloads
  | busy | ran | event => cases hparse

end Sensorium.Rpc

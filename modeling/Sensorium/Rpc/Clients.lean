import Mathlib.Algebra.Order.Ring.Nat
import Mathlib.Data.List.Perm.Basic
import Sensorium.Rpc.Steps

/-!
# The state of the clients

What the loop and the workers keep together: the counter of clients, the slots of the workers, the
active request of each client, and the bytes written to it.
-/

namespace Sensorium.Rpc

open Lib
open Sensorium.Model (Value Entries)

/-- The bytes of the responses that were queued. -/
def Client.queued (client : Client) : List UInt8 :=
  client.responses.flatMap fun r => r.encode.getD []

namespace Server

variable (s : Server)

def openCount : Nat := s.clients.countP fun client => !client.closed

/-- The requests of a client in the executor or in the completion queue. -/
def requestsOf (c : Nat) : Nat :=
  s.jobs.countP (·.client = c) + s.completions.countP (·.1 = c)

/-- The requests that were submitted and are not finished. -/
def unfinished : Nat := s.jobs.countP (·.response.isNone)

end Server

structure Client.Sound (client : Client) : Prop where
  exclusive : client.activeRequest = true → client.waitingForEvent = none
  written : client.sent ++ client.outbuf = client.queued

structure Server.Sound (cfg : Config) (s : Server) : Prop where
  counter : s.activeClients = s.openCount
  atMost : s.activeClients ≤ cfg.maxClients
  slots : s.freeSlots + s.unfinished = cfg.maxWorkers
  jobs : ∀ job ∈ s.jobs, job.client < s.clients.length
  completions : ∀ p ∈ s.completions, p.1 < s.clients.length
  active : ∀ c client, s.clients[c]? = some client → client.closed = false →
    s.requestsOf c = client.activeRequest.toNat
  client : ∀ client ∈ s.clients, client.closed = false → client.Sound

/-! ## Lists -/

theorem countP_set_of_eq {α : Type*} {p : α → Bool} {xs : List α} {i : Nat} {x y : α}
    (h : xs[i]? = some x) (hxy : p y = p x) : (xs.set i y).countP p = xs.countP p := by
  obtain ⟨hi, rfl⟩ := List.getElem?_eq_some_iff.mp h
  rw [List.countP_set hi, hxy]
  by_cases hp : p xs[i] = true
  · have hpos : 0 < xs.countP p := List.countP_pos_iff.mpr ⟨_, List.getElem_mem hi, hp⟩
    rw [if_pos hp]
    omega
  · rw [if_neg hp]
    rfl

theorem countP_set_of_pos {α : Type*} {p : α → Bool} {xs : List α} {i : Nat} {x y : α}
    (h : xs[i]? = some x) (hx : p x = true) (hy : p y = false) :
    (xs.set i y).countP p + 1 = xs.countP p := by
  obtain ⟨hi, rfl⟩ := List.getElem?_eq_some_iff.mp h
  have hpos : 0 < xs.countP p := List.countP_pos_iff.mpr ⟨_, List.getElem_mem hi, hx⟩
  rw [List.countP_set hi, if_pos hx, if_neg (by simp [hy])]
  omega

theorem countP_eraseIdx {α : Type*} (p : α → Bool) {xs : List α} {i : Nat} {x : α}
    (h : xs[i]? = some x) : (xs.eraseIdx i).countP p + (p x).toNat = xs.countP p := by
  obtain ⟨hi, rfl⟩ := List.getElem?_eq_some_iff.mp h
  have hperm := (List.getElem_cons_eraseIdx_perm hi).countP_eq p
  rw [List.countP_cons] at hperm
  rw [← hperm]
  cases p xs[i] <;> rfl

/-! ## Clients -/

namespace Client.Sound

variable {client : Client}

/-- A response is queued behind what was written. -/
theorem respond (h : client.Sound) {r : Response} {bytes : List UInt8}
    (henc : r.encode = some bytes) : (client.respond r bytes).Sound where
  exclusive := h.exclusive
  written := by
    show client.sent ++ (client.outbuf ++ bytes) = (client.responses ++ [r]).flatMap _
    rw [List.flatMap_append, List.flatMap_singleton, henc, ← List.append_assoc, h.written]
    rfl

theorem congr {client' : Client} (h : client.Sound)
    (hactive : client'.activeRequest = true → client'.waitingForEvent = none)
    (hsent : client'.sent = client.sent) (hout : client'.outbuf = client.outbuf)
    (hresp : client'.responses = client.responses) : client'.Sound where
  exclusive := hactive
  written := by
    rw [hsent, hout, Client.queued, hresp]
    exact h.written

theorem takes {cfg : Config} {client' : Client} (htake : client.Takes cfg (.all client'))
    (h : client.Sound) (hopen : client.closed = false) :
    client'.Sound ∧ client'.closed = false ∧ client'.activeRequest = client.activeRequest := by
  refine htake.invariant (I := fun other => other.Sound ∧ other.closed = false ∧
    other.activeRequest = client.activeRequest) ⟨h, hopen, rfl⟩ ?_ ?_ ?_ (.inl rfl)
  · rintro other ⟨hs, hc, ha⟩
    exact ⟨hs.congr hs.exclusive rfl rfl rfl, hc, ha⟩
  · rintro other message bytes ⟨hs, hc, ha⟩ henc
    exact ⟨hs.respond henc, hc, ha⟩
  · rintro other request ⟨hs, hc, ha⟩
    exact ⟨hs.congr hs.exclusive rfl rfl rfl, hc, ha⟩

end Client.Sound

/-! ## Updates of the server -/

namespace Server.Sound

variable {cfg : Config} {s t : Server} {c : Nat} {client client' : Client}

theorem congr (h : s.Sound cfg) (hc : t.clients = s.clients) (ha : t.activeClients = s.activeClients)
    (hf : t.freeSlots = s.freeSlots) (hj : t.jobs = s.jobs) (hq : t.completions = s.completions) :
    t.Sound cfg where
  counter := by rw [ha, h.counter, openCount, openCount, hc]
  atMost := ha ▸ h.atMost
  slots := by rw [hf, unfinished, hj]; exact h.slots
  jobs := by rw [hj, hc]; exact h.jobs
  completions := by rw [hq, hc]; exact h.completions
  active := by
    intro c client
    rw [hc, requestsOf, hj, hq]
    exact h.active c client
  client := by rw [hc]; exact h.client

theorem here (h : s.Sound cfg) (hclient : s.clients[c]? = some client)
    (hopen : client.closed = false) : client.Sound :=
  h.client client (List.mem_of_getElem? hclient) hopen

/-- An open client changes; only its own requests may move. -/
theorem setClient (h : s.Sound cfg) (hc : t.clients = s.clients.set c client')
    (hclient : s.clients[c]? = some client) (hopen : client.closed = false)
    (hopen' : client'.closed = false) (hsound : client'.Sound)
    (ha : t.activeClients = s.activeClients)
    (hslots : t.freeSlots + t.unfinished = cfg.maxWorkers)
    (hjobs : ∀ job ∈ t.jobs, job.client < s.clients.length)
    (hcompletions : ∀ p ∈ t.completions, p.1 < s.clients.length)
    (hself : t.requestsOf c = client'.activeRequest.toNat)
    (hothers : ∀ d ≠ c, t.requestsOf d = s.requestsOf d) : t.Sound cfg where
  counter := by
    rw [ha, h.counter, openCount, openCount, hc, countP_set_of_eq hclient]
    rw [hopen, hopen']
  atMost := ha ▸ h.atMost
  slots := hslots
  jobs := by
    rw [hc, List.length_set]
    exact hjobs
  completions := by
    rw [hc, List.length_set]
    exact hcompletions
  active := by
    intro d other hd hdopen
    rw [hc] at hd
    rcases getElem?_set_cases hd with ⟨rfl, rfl⟩ | ⟨hne, hd⟩
    · exact hself
    · rw [hothers d hne]
      exact h.active d other hd hdopen
  client := by
    intro other hmem hother
    rw [hc] at hmem
    rcases List.mem_or_eq_of_mem_set hmem with hmem | rfl
    · exact h.client other hmem hother
    · exact hsound

/-- An open client changes and no request moves. -/
theorem setClient_same (h : s.Sound cfg) (hc : t.clients = s.clients.set c client')
    (hclient : s.clients[c]? = some client) (hopen : client.closed = false)
    (hopen' : client'.closed = false) (hsound : client'.Sound)
    (hactive : client'.activeRequest = client.activeRequest)
    (ha : t.activeClients = s.activeClients)
    (hf : t.freeSlots = s.freeSlots) (hj : t.jobs = s.jobs) (hq : t.completions = s.completions) :
    t.Sound cfg := by
  have hreq : ∀ d, t.requestsOf d = s.requestsOf d := by
    intro d
    rw [requestsOf, requestsOf, hj, hq]
  refine h.setClient hc hclient hopen hopen' hsound ha ?_ ?_ ?_ ?_ fun d _ => hreq d
  · rw [hf, unfinished, hj]
    exact h.slots
  · rw [hj]
    exact h.jobs
  · rw [hq]
    exact h.completions
  · rw [hreq, hactive]
    exact h.active c client hclient hopen

theorem closeClient (h : s.Sound cfg) (hclient : s.clients[c]? = some client)
    (hopen : client.closed = false) (client' : Client) (reason : Reason) :
    (s.closeClient c client' reason).Sound cfg := by
  unfold Server.closeClient
  split
  · exact h
  · have hcount := countP_set_of_pos (p := fun client => !client.closed)
      (y := client'.close reason) hclient (by simp [hopen]) rfl
    refine ⟨?_, ?_, h.slots, ?_, ?_, ?_, ?_⟩
    · show s.activeClients - 1 = (s.clients.set c (client'.close reason)).countP _
      rw [h.counter, openCount]
      omega
    · show s.activeClients - 1 ≤ cfg.maxClients
      have hmax := h.atMost
      omega
    · show ∀ job ∈ s.jobs, job.client < (s.clients.set c _).length
      rw [List.length_set]
      exact h.jobs
    · show ∀ p ∈ s.completions, p.1 < (s.clients.set c _).length
      rw [List.length_set]
      exact h.completions
    · intro d other hd hdopen
      rcases getElem?_set_cases hd with ⟨_, rfl⟩ | ⟨_, hd⟩
      · cases hdopen
      · exact h.active d other hd hdopen
    · intro other hmem hother
      rcases List.mem_or_eq_of_mem_set hmem with hmem | rfl
      · exact h.client other hmem hother
      · cases hother

theorem closeAll (h : s.Sound cfg) : s.closeAll.Sound cfg := by
  unfold Server.closeAll
  refine List.foldlRecOn s.openClients _ h fun t ht c _ => ?_
  split
  · exact ht
  · rename_i client hclient
    by_cases hopen : client.closed = false
    · exact ht.closeClient hclient hopen client .shutdown
    · rw [Server.closeClient, if_pos (by simpa using hopen)]
      exact ht

theorem connect (h : s.Sound cfg) (hfree : s.activeClients < cfg.maxClients) (pc : Pc) :
    ({ s with
      clients := s.clients ++ [{}]
      activeClients := s.activeClients + 1
      pc := pc } : Server).Sound cfg where
  counter := by
    show s.activeClients + 1 = (s.clients ++ _).countP _
    rw [h.counter, List.countP_append]
    rfl
  atMost := hfree
  slots := h.slots
  jobs := by
    intro job hjob
    rw [List.length_append]
    exact Nat.lt_add_right _ (h.jobs job hjob)
  completions := by
    intro p hp
    rw [List.length_append]
    exact Nat.lt_add_right _ (h.completions p hp)
  active := by
    intro c client hclient hopen
    rcases getElem?_concat_cases hclient with hclient | ⟨hc, hfresh⟩
    · exact h.active c client hclient hopen
    · -- the new client is none of those that requests belong to
      have hge : ¬c < s.clients.length := by omega
      have hj : s.jobs.countP (·.client = c) = 0 :=
        List.countP_eq_zero.mpr fun job hjob heq => hge (of_decide_eq_true heq ▸ h.jobs job hjob)
      have hq : s.completions.countP (·.1 = c) = 0 :=
        List.countP_eq_zero.mpr fun p hp heq => hge (of_decide_eq_true heq ▸ h.completions p hp)
      show s.jobs.countP (·.client = c) + s.completions.countP (·.1 = c) = _
      rw [hj, hq, hfresh]
      rfl
  client := by
    intro client hmem hopen
    rcases List.mem_append.mp hmem with hmem | hmem
    · exact h.client client hmem hopen
    · rw [List.mem_singleton.mp hmem]
      exact ⟨fun hf => (by cases hf), rfl⟩

/-! ## Requests -/

theorem requestsOf_eq_zero (h : s.requestsOf c = 0) :
    (∀ job ∈ s.jobs, job.client ≠ c) ∧ ∀ p ∈ s.completions, p.1 ≠ c := by
  obtain ⟨hjobs, hcompletions⟩ := Nat.add_eq_zero_iff.mp h
  refine ⟨fun job hjob heq => ?_, fun p hp heq => ?_⟩
  · exact List.countP_eq_zero.mp hjobs job hjob (decide_eq_true heq)
  · exact List.countP_eq_zero.mp hcompletions p hp (decide_eq_true heq)

theorem requestsOf_of_inactive (h : s.Sound cfg) (hclient : s.clients[c]? = some client)
    (hopen : client.closed = false) (hinactive : client.activeRequest = false) :
    s.requestsOf c = 0 := by
  rw [h.active c client hclient hopen, hinactive]
  rfl

/-- The completion that is taken off the queue is the only request of its client. -/
theorem alone (h : s.Sound cfg) {r : Response} {rest : List (Nat × Response)}
    (hdrain : s.Drains c client r rest) :
    (∀ job ∈ s.jobs, job.client ≠ c) ∧ ∀ p ∈ rest, p.1 ≠ c := by
  have hone : s.requestsOf c ≤ 1 := by
    rw [h.active c client hdrain.here hdrain.closed]
    exact Bool.toNat_le _
  have hzero : ({ s with completions := rest } : Server).requestsOf c = 0 := by
    rw [requestsOf, hdrain.completions, List.countP_cons_of_pos (by simp)] at hone
    show s.jobs.countP _ + rest.countP _ = 0
    omega
  exact requestsOf_eq_zero hzero

theorem submit (h : s.Sound cfg) {request : Value} {rest : List Value}
    (hpop : s.Pops c client request rest) (hslots : s.freeSlots ≠ 0) :
    ({ s.setClient c { client with
        pendingRequests := rest, activeRequest := true, running := some request } with
      freeSlots := s.freeSlots - 1, jobs := s.jobs ++ [⟨c, request, none⟩] } : Server).Sound cfg := by
  have hzero := h.requestsOf_of_inactive hpop.here hpop.closed hpop.inactive
  have hcount : ∀ d, ({ s.setClient c { client with
      pendingRequests := rest, activeRequest := true, running := some request } with
      freeSlots := s.freeSlots - 1, jobs := s.jobs ++ [⟨c, request, none⟩] } : Server).requestsOf d =
      s.requestsOf d + if c = d then 1 else 0 := by
    intro d
    show (s.jobs ++ [_]).countP _ + s.completions.countP _ = _
    rw [List.countP_append, List.countP_singleton, requestsOf]
    simp only [decide_eq_true_eq]
    omega
  refine h.setClient rfl hpop.here hpop.closed ?_ ?_ rfl ?_ ?_ h.completions ?_ ?_
  · exact hpop.closed
  · exact (h.here hpop.here hpop.closed).congr (fun _ => hpop.unblocked) rfl rfl rfl
  · have hs := h.slots
    show s.freeSlots - 1 + (s.jobs ++ [_]).countP _ = cfg.maxWorkers
    rw [List.countP_append, List.countP_singleton]
    rw [unfinished] at hs
    simp only [Option.isNone_none, if_true]
    omega
  · intro job hjob
    rcases List.mem_append.mp hjob with hjob | hjob
    · exact h.jobs job hjob
    · rw [List.mem_singleton.mp hjob]
      exact (List.getElem?_eq_some_iff.mp hpop.here).1
  · rw [hcount, hzero, if_pos rfl]
    rfl
  · intro d hd
    rw [hcount, if_neg (Ne.symm hd), Nat.add_zero]

/-- A completion is taken off the queue and its client is no longer active. -/
theorem drain (h : s.Sound cfg) {r : Response} {rest : List (Nat × Response)}
    (hc : t.clients = s.clients.set c client') (hdrain : s.Drains c client r rest)
    (hopen' : client'.closed = false) (hsound : client'.Sound)
    (hactive : client'.activeRequest = false) (ha : t.activeClients = s.activeClients)
    (hf : t.freeSlots = s.freeSlots)
    (hj : t.jobs = s.jobs) (hq : t.completions = rest) : t.Sound cfg := by
  have hcount : ∀ d, s.requestsOf d = t.requestsOf d + if c = d then 1 else 0 := by
    intro d
    rw [requestsOf, requestsOf, hj, hq, hdrain.completions, List.countP_cons]
    simp only [decide_eq_true_eq]
    omega
  have hone : s.requestsOf c ≤ 1 := by
    rw [h.active c client hdrain.here hdrain.closed]
    exact Bool.toNat_le _
  refine h.setClient hc hdrain.here hdrain.closed hopen' hsound ha ?_ ?_ ?_ ?_ ?_
  · rw [hf, unfinished, hj]
    exact h.slots
  · rw [hj]
    exact h.jobs
  · rw [hq]
    intro p hp
    exact h.completions p (hdrain.completions ▸ List.mem_cons_of_mem _ hp)
  · have hc := hcount c
    rw [if_pos rfl] at hc
    rw [hactive, Bool.toNat_false]
    omega
  · intro d hd
    rw [hcount d, if_neg (Ne.symm hd), Nat.add_zero]

/-- The completion of a closed client is dropped. -/
theorem discard (h : s.Sound cfg) {r : Response} {rest : List (Nat × Response)}
    (hcomp : s.completions = (c, r) :: rest)
    (hclosed : ∀ client, s.clients[c]? = some client → client.closed = true) :
    ({ s with completions := rest } : Server).Sound cfg where
  counter := h.counter
  atMost := h.atMost
  slots := h.slots
  jobs := h.jobs
  completions := fun p hp => h.completions p (hcomp ▸ List.mem_cons_of_mem _ hp)
  active := by
    intro d other hd hopen
    have hne : c ≠ d := by
      rintro rfl
      rw [hclosed other hd] at hopen
      cases hopen
    have hactive := h.active d other hd hopen
    rw [requestsOf, hcomp, List.countP_cons_of_neg (by simpa using hne)] at hactive
    exact hactive
  client := h.client

theorem finish (h : s.Sound cfg) {j : Nat} {request : Value} {r : Response}
    (hjob : s.jobs[j]? = some ⟨c, request, none⟩) :
    ({ s with
      jobs := s.jobs.set j ⟨c, request, some r⟩
      freeSlots := s.freeSlots + 1 } : Server).Sound cfg where
  counter := h.counter
  atMost := h.atMost
  slots := by
    have hs := h.slots
    have hcount := countP_set_of_pos (p := fun job : Job => job.response.isNone)
      (y := ⟨c, request, some r⟩) hjob rfl rfl
    rw [unfinished] at hs
    show s.freeSlots + 1 + (s.jobs.set j _).countP _ = cfg.maxWorkers
    omega
  jobs := by
    intro job hmem
    rcases List.mem_or_eq_of_mem_set hmem with hmem | rfl
    · exact h.jobs job hmem
    · exact h.jobs ⟨c, request, none⟩ (List.mem_of_getElem? hjob)
  completions := h.completions
  active := by
    intro d other hd hopen
    have hcount := countP_set_of_eq (p := fun job : Job => decide (job.client = d))
      (y := ⟨c, request, some r⟩) hjob rfl
    show (s.jobs.set j _).countP _ + s.completions.countP _ = _
    rw [hcount]
    exact h.active d other hd hopen
  client := h.client

theorem complete (h : s.Sound cfg) {j : Nat} {request : Value} {r : Response}
    (hjob : s.jobs[j]? = some ⟨c, request, some r⟩) :
    ({ s with
      jobs := s.jobs.eraseIdx j
      completions := s.completions ++ [(c, r)] } : Server).Sound cfg where
  counter := h.counter
  atMost := h.atMost
  slots := by
    have hs := h.slots
    have hcount := countP_eraseIdx (fun job : Job => job.response.isNone) hjob
    rw [unfinished] at hs
    show s.freeSlots + (s.jobs.eraseIdx j).countP _ = cfg.maxWorkers
    rw [← hcount] at hs
    exact hs
  jobs := fun job hmem => h.jobs job (List.mem_of_mem_eraseIdx hmem)
  completions := by
    intro p hp
    rcases List.mem_append.mp hp with hp | hp
    · exact h.completions p hp
    · rw [List.mem_singleton.mp hp]
      exact h.jobs _ (List.mem_of_getElem? hjob)
  active := by
    intro d other hd hopen
    have hactive := h.active d other hd hopen
    have hcount := countP_eraseIdx (fun job : Job => decide (job.client = d)) hjob
    show (s.jobs.eraseIdx j).countP _ + (s.completions ++ [(c, r)]).countP _ = _
    rw [requestsOf] at hactive
    rw [List.countP_append, List.countP_singleton, ← hactive, ← hcount]
    by_cases hc : c = d
    · simp [hc]
      omega
    · simp [hc]
  client := h.client

/-! ## Runs -/

theorem initial (cfg : Config) : cfg.initial.Sound cfg where
  counter := rfl
  atMost := Nat.zero_le _
  slots := rfl
  jobs := fun _ h => (List.not_mem_nil h).elim
  completions := fun _ h => (List.not_mem_nil h).elim
  active := fun _ _ h => by cases h
  client := fun _ h => (List.not_mem_nil h).elim

theorem moves {a : Act} (h : s.Sound cfg) (hmove : Moves cfg s a t) : t.Sound cfg := by
  cases hmove with
  | left | selected | passed | toFlush | rejected | gone | unflushed | dispatched
  | drained | skipped | shutDown => exact h.congr rfl rfl rfl rfl rfl
  | connected _ _ hfree => exact h.connect hfree _
  | hungUp hat hopen => exact (h.closeClient hat.here hopen _ .peer).congr rfl rfl rfl rfl rfl
  | tooLong hat hopen => exact (h.closeClient hat.here hopen _ .size).congr rfl rfl rfl rfl rfl
  | refused hat hopen => exact (h.closeClient hat.here hopen _ _).congr rfl rfl rfl rfl rfl
  | unwritable _ _ hclient hopen =>
    exact (h.closeClient hclient hopen _ .peer).congr rfl rfl rfl rfl rfl
  | unmodified _ _ hclient hopen => exact h.closeClient hclient hopen _ .peer
  | took hat hopen _ htake =>
    have hsound := h.here hat.here hopen
    obtain ⟨hsound', hopen', hactive⟩ := Client.Sound.takes htake
      (hsound.congr hsound.exclusive rfl rfl rfl) hopen
    exact h.setClient_same rfl hat.here hopen hopen' hsound' hactive rfl rfl rfl rfl
  | flushed _ _ hclient hopen =>
    have hsound := h.here hclient hopen
    refine h.setClient_same rfl hclient hopen hopen ⟨hsound.exclusive, ?_⟩ rfl rfl rfl rfl rfl
    -- what was sent has moved from one side to the other
    show _ ++ _ ++ List.drop _ _ = _
    rw [List.append_assoc, List.take_append_drop]
    exact hsound.written
  | waitRaised hpop | foundRaised hpop =>
    have hsound := h.here hpop.here hpop.closed
    exact h.setClient_same rfl hpop.here hpop.closed hpop.closed
      (hsound.congr hsound.exclusive rfl rfl rfl) rfl rfl rfl rfl rfl
  | found hpop _ _ henc | full hpop _ _ henc =>
    have hsound := h.here hpop.here hpop.closed
    refine h.setClient_same rfl hpop.here hpop.closed hpop.closed (.respond ?_ henc) rfl rfl rfl
      rfl rfl
    exact hsound.congr hsound.exclusive rfl rfl rfl
  | waits hpop =>
    have hsound := h.here hpop.here hpop.closed
    refine h.setClient_same rfl hpop.here hpop.closed hpop.closed
      (hsound.congr (fun hactive => ?_) rfl rfl rfl) rfl rfl rfl rfl rfl
    rw [hpop.inactive] at hactive
    cases hactive
  | submitted hpop _ hslots => exact h.submit hpop hslots
  | discarded _ _ hcomp hclosed => exact h.discard hcomp hclosed
  | drainRaised hdrain =>
    have hsound := h.here hdrain.here hdrain.closed
    exact h.drain rfl hdrain hdrain.closed (hsound.congr (fun hf => by cases hf) rfl rfl rfl) rfl
      rfl rfl rfl rfl
  | answered hdrain henc =>
    have hsound := h.here hdrain.here hdrain.closed
    refine h.drain rfl hdrain hdrain.closed (.respond ?_ henc) rfl rfl rfl rfl rfl
    exact hsound.congr (fun hf => by cases hf) rfl rfl rfl
  | pollRaised hat =>
    have hsound := h.here hat.here hat.closed
    exact h.setClient_same rfl hat.here hat.closed hat.closed
      (hsound.congr (fun _ => rfl) rfl rfl rfl) rfl rfl rfl rfl rfl
  | polled hat _ henc =>
    have hsound := h.here hat.here hat.closed
    refine h.setClient_same rfl hat.here hat.closed hat.closed (.respond ?_ henc) rfl rfl rfl rfl
      rfl
    exact hsound.congr (fun _ => rfl) rfl rfl rfl
  | finished hjob => exact h.finish hjob
  | completed hjob => exact h.complete hjob
  | serverClosed => exact h.closeAll.congr rfl rfl rfl rfl rfl

theorem reach (hr : Reach (step cfg) anyStep cfg.initial s) : s.Sound cfg :=
  Reach.invariant (I := Server.Sound cfg) (initial cfg)
    (fun _ _ _ h _ hs => h.moves (moves_of_step hs)) hr

end Server.Sound

/-- In every state of every run the counter is the number of open clients and at most the maximum,
a client is active if and only if exactly one request of it is in the executor or completed, and
then it does not wait, the free slots and those of the unfinished requests are all the slots, and an
open client has been sent, or still has in its buffer, the responses that were queued. -/
theorem clients_consistent {cfg : Config} {s : Server}
    (hr : Reach (step cfg) anyStep cfg.initial s) :
    (s.activeClients = s.openCount ∧ s.activeClients ≤ cfg.maxClients) ∧
    s.freeSlots + s.unfinished = cfg.maxWorkers ∧
    ∀ c client, s.clients[c]? = some client → client.closed = false →
      (client.activeRequest = true ↔ s.requestsOf c = 1) ∧
      (client.activeRequest = true → client.waitingForEvent = none) ∧
      client.sent ++ client.outbuf = client.queued := by
  have h := Server.Sound.reach hr
  refine ⟨⟨h.counter, h.atMost⟩, h.slots, ?_⟩
  intro c client hclient hopen
  have hsound := h.here hclient hopen
  refine ⟨?_, hsound.exclusive, hsound.written⟩
  rw [h.active c client hclient hopen]
  cases client.activeRequest <;> decide

/-- Two pipelined requests and one worker: the second waits in the queue while the first runs. -/
theorem clients_consistent_pipelined : ∃ s : Server, ∃ client, s.clients[0]? = some client ∧
    client.pendingRequests.length = 1 ∧ s.activeClients = s.openCount ∧
    s.freeSlots + s.unfinished = 1 ∧ s.requestsOf 0 = 1 ∧ client.waitingForEvent = none ∧
    client.sent ++ client.outbuf = client.queued := by
  have hrun : (exec (guarded (step .small) anyStep) Config.small.initial
      (connecting ++ sending 0 (call "status" ++ [newline] ++ call "status" ++ [newline]) ++
        [.dispatch none 0, .dispatch none 0])).map
      (fun s => s.clients[0]?.any fun client => !client.closed && client.activeRequest &&
        decide (client.pendingRequests.length = 1)) = some true := by
    decide +kernel
  obtain ⟨s, hs, hview⟩ := Option.map_eq_some_iff.mp hrun
  obtain ⟨client, hclient, hview⟩ := (Option.any_eq_true _ _).mp hview
  rw [Bool.and_eq_true, Bool.and_eq_true, Bool.not_eq_true', decide_eq_true_eq] at hview
  obtain ⟨⟨hopen, hactive⟩, hqueued⟩ := hview
  obtain ⟨hcount, hslots, hclients⟩ := clients_consistent (reach_of_exec hs)
  obtain ⟨hrequest, hwait, hbytes⟩ := hclients 0 client hclient hopen
  exact ⟨s, client, hclient, hqueued, hcount.1, hslots, hrequest.mp hactive, hwait hactive, hbytes⟩

end Sensorium.Rpc

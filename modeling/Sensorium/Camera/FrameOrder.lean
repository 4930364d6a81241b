import Sensorium.Camera.Buffers

/-!
# The order of the frames

Userspace queues inject buffers, and the driver copies their frames into capture buffers.  The calls
of `VIDIOC_QBUF` are numbered here, and each captured frame is filed under the number of its call, so
that the order in which frames arrive can be compared with the order in which they were queued.
Before `STREAMON` vb2 keeps the queued buffers, and gives them to the driver in the order in which
they were queued.
-/

namespace Sensorium.Camera

open Lib

/-- A captured frame with the number of the `VIDIOC_QBUF` that it came with. -/
structure Shot where
  frame : Frame
  number : Nat
deriving DecidableEq

/-- A device with the number of the last `VIDIOC_QBUF` of each inject buffer, which is 0 for a buffer
that was never queued, and the frames captured so far. -/
structure Film where
  dev : Device
  number : Nat → Nat := fun _ => 0
  nextNumber : Nat := 1
  shots : List Shot := []

namespace Device

variable (cfg : Config) (s : Device)

/-- The inject buffer that a step of userspace queues. -/
def enqueued : Act → Option Nat
  | .qBuf .inject i => some i
  | _ => none

/-- The inject buffer that vb2 gives the driver. -/
def given : Act → Option Nat
  | .give .inject i => some i
  | _ => none

/-- The device after the loop that drops inject buffers. -/
def dropped : Device :=
  { s with inject := s.inject.dropUndersized s.layout.sizeImage s.inject.list }

/-- The inject buffer whose frame `sensorium_try_deliver_frame` copies. -/
def frameSource (mode : Mode) : Option Nat :=
  if !s.canRun then none
  else
    match s.capture.list with
    | [] => none
    | c :: _ =>
      if (s.capture.buffer c).planeSize < mode.frameSize || !(s.capture.buffer c).mapped then none
      else
        match s.dropped.inject.list.head?.filter fun i => (s.dropped.inject.buffer i).mapped with
        | some i => some i
        | none =>
          if cfg.repeatLastFrame then s.held.filter fun i => (s.dropped.inject.buffer i).mapped
          else none

/-- The inject buffer whose frame a step captures. -/
def captured : Act → Option Nat
  | .deliver => s.work.bind fun run => s.frameSource cfg (cfg.modeAt run.mode)
  | _ => none

/-- The frame that a delivery would complete. -/
def frame : Frame := { sequence := s.sequence, timestamp := s.timestamp }

end Device

namespace Film

def next (cfg : Config) (f : Film) (a : Act) : Film where
  dev := f.dev.next cfg a
  number := match Device.enqueued a with
    | some i => Function.update f.number i f.nextNumber
    | none => f.number
  nextNumber := f.nextNumber + (Device.enqueued a).toList.length
  shots := f.shots ++
    (f.dev.captured cfg a).toList.map fun i => { frame := f.dev.frame, number := f.number i }

def step (cfg : Config) (f : Film) (a : Act) : Option Film :=
  if f.dev.enabled cfg a then some (f.next cfg a) else none

def initial (cfg : Config) (now : Nat) : Film := { dev := cfg.initial now }

/-- Of the buffers that it keeps, vb2 gives the driver the one that was queued first. -/
def QueuedFirst (f : Film) (a : Act) : Prop :=
  ∀ i ∈ Device.given a, ∀ j < f.dev.inject.buffers.length,
    (f.dev.inject.buffer j).state = .queued → f.number i ≤ f.number j

instance (f : Film) (a : Act) : Decidable (f.QueuedFirst a) :=
  inferInstanceAs (Decidable (∀ i ∈ Device.given a, ∀ j < f.dev.inject.buffers.length,
    (f.dev.inject.buffer j).state = .queued → f.number i ≤ f.number j))

end Film

theorem film_step_eq_some {cfg : Config} {f g : Film} {a : Act} :
    f.step cfg a = some g ↔ f.dev.enabled cfg a = true ∧ g = f.next cfg a := by
  unfold Film.step
  split
  · rename_i h
    simp [h, eq_comm]
  · rename_i h
    simp [h]

/-- The device of a film is the camera. -/
theorem reach_dev {cfg : Config} {now : Nat} {ok : Film → Act → Prop} {f : Film}
    (hr : Reach (Film.step cfg) ok (Film.initial cfg now) f) :
    Reach (step cfg) anyStep (cfg.initial now) f.dev := by
  induction hr with
  | start => exact .start
  | next hr hok hstep ih =>
    obtain ⟨ha, rfl⟩ := film_step_eq_some.mp hstep
    exact .next ih trivial (step_eq_some.mpr ⟨ha, rfl⟩)

/-! ## States of the inject buffers -/

section Nodes

variable {n : Node} {i : Nat} {state : BufferState}

theorem buffer_modify (f : Buffer → Buffer) (j : Nat) :
    (n.modify i f).buffer j = n.buffer j ∨ j = i ∧ (n.modify i f).buffer j = f (n.buffer j) := by
  simp only [Node.buffer, Node.modify, List.getD_eq_getElem?_getD, List.getElem?_modify]
  cases n.buffers[j]? with
  | none => exact .inl rfl
  | some b =>
    by_cases hij : i = j
    · exact .inr ⟨hij.symm, by simp [hij]⟩
    · exact .inl (by simp [hij])

theorem state_bufferDone (state : BufferState) (j : Nat) :
    ((n.bufferDone i state).buffer j).state = (n.buffer j).state ∨
      j = i ∧ ((n.bufferDone i state).buffer j).state = state := by
  rcases buffer_modify (n := n) (i := i)
    (fun b => { b with state := state, returned := b.returned + 1 }) j with hsame | ⟨hj, hdone⟩
  · exact .inl (congrArg Buffer.state hsame)
  · exact .inr ⟨hj, congrArg Buffer.state hdone⟩

theorem state_completeBuffer (state : BufferState) (j : Nat) :
    ((n.completeBuffer i state).buffer j).state = (n.buffer j).state ∨
      j = i ∧ ((n.completeBuffer i state).buffer j).state = state :=
  state_bufferDone (n := { n with list := n.list.erase i }) state j

/-- A buffer in a state other than the one that is set was in it before. -/
theorem state_of_bufferDone (state : BufferState) {other : BufferState} {j : Nat}
    (hne : other ≠ state) (h : ((n.bufferDone i state).buffer j).state = other) :
    (n.buffer j).state = other := by
  rcases state_bufferDone (n := n) (i := i) state j with hsame | ⟨-, hset⟩
  · exact hsame ▸ h
  · exact absurd (h.symm.trans hset) hne

theorem state_dropUndersized (size : Nat) (l : List Nat) (j : Nat) :
    ((n.dropUndersized size l).buffer j).state = (n.buffer j).state ∨
      j ∈ l ∧ ((n.dropUndersized size l).buffer j).state = .error := by
  induction l generalizing n with
  | nil => exact .inl rfl
  | cons i l ih =>
    rw [Node.dropUndersized]
    split
    · rcases ih (n := n.completeBuffer i .error) with hsame | ⟨hj, herror⟩
      · rw [hsame]
        rcases state_completeBuffer (n := n) (i := i) .error j with
          hkept | ⟨rfl, herror⟩
        · exact .inl hkept
        · exact .inr ⟨List.mem_cons_self, herror⟩
      · exact .inr ⟨List.mem_cons_of_mem _ hj, herror⟩
    · exact .inl rfl

theorem list_dropUndersized (size : Nat) (l : List Nat) :
    (n.dropUndersized size l).list.Sublist n.list := by
  induction l generalizing n with
  | nil => exact .refl _
  | cons i l ih =>
    rw [Node.dropUndersized]
    split
    · exact ih.trans List.erase_sublist
    · exact .refl _

theorem list_foldl_completeBuffer (l : List Nat) :
    (l.foldl (fun n i => n.completeBuffer i state) n).list.Sublist n.list := by
  induction l generalizing n with
  | nil => exact .refl _
  | cons i l ih => exact ih.trans List.erase_sublist

theorem state_dequeueAll (j : Nat) : (n.dequeueAll.buffer j).state = .dequeued := by
  simp only [Node.dequeueAll, Node.buffer, List.getD_eq_getElem?_getD, List.getElem?_map]
  cases n.buffers[j]? with
  | none => rfl
  | some => rfl

end Nodes

/-! ## Steps that take back inject buffers -/

/-- No inject buffer is queued, the driver takes none and completes none, and no frame is captured.
Buffers it has can come back with an error, and the node starts to stream only when vb2 keeps no
buffer back. -/
structure Device.Recedes (s t : Device) : Prop where
  list : t.inject.list.Sublist s.inject.list
  held : t.held = s.held ∨ t.held = none
  queued : ∀ j, (t.inject.buffer j).state = .queued → (s.inject.buffer j).state = .queued
  phase : t.inject.phase = .streaming →
    s.inject.phase = .streaming ∨ ∀ j, (t.inject.buffer j).state ≠ .queued
  done : ∀ j, (t.inject.buffer j).state = .done → (s.inject.buffer j).state = .done
  error : ∀ j, (t.inject.buffer j).state = .error →
    (s.inject.buffer j).state = .error ∨ j ∈ s.out .inject
  delivered : t.delivered = s.delivered ∨ t.delivered = []
  copies : t.copies = s.copies

section Recedes

variable {cfg : Config} {s t u : Device} {i : Nat} {n : Node}

namespace Device.Recedes

theorem refl (s : Device) : s.Recedes s where
  list := .refl _
  held := .inl rfl
  queued := fun _ hqueued => hqueued
  phase := .inl
  done := fun _ hdone => hdone
  error := fun _ herror => .inl herror
  delivered := .inl rfl
  copies := rfl

theorem out (h : s.Recedes t) (hi : i ∈ t.out .inject) : i ∈ s.out .inject := by
  rcases List.mem_append.mp hi with hheld | hlist
  · rcases h.held with hsame | hnone
    · exact List.mem_append_left _ (hsame ▸ hheld)
    · rw [hnone] at hheld
      exact (List.not_mem_nil hheld).elim
  · exact List.mem_append_right _ (h.list.subset hlist)

theorem trans (h : s.Recedes t) (h' : t.Recedes u) : s.Recedes u where
  list := h'.list.trans h.list
  held := by
    rcases h'.held with hsame | hnone
    · rw [hsame]
      exact h.held
    · exact .inr hnone
  queued := fun j hqueued => h.queued j (h'.queued j hqueued)
  phase := fun hu => by
    rcases h'.phase hu with ht | hnone
    · rcases h.phase ht with hs | hnone
      · exact .inl hs
      · exact .inr fun j hj => hnone j (h'.queued j hj)
    · exact .inr hnone
  done := fun j hdone => h.done j (h'.done j hdone)
  error := fun j herror => by
    rcases h'.error j herror with hbefore | hout
    · exact h.error j hbefore
    · exact .inr (h.out hout)
  delivered := by
    rcases h'.delivered with hsame | hnil
    · rw [hsame]
      exact h.delivered
    · exact .inr hnil
  copies := h'.copies.trans h.copies

theorem of_eq (hinject : t.inject = s.inject) (hheld : t.held = s.held)
    (hdelivered : t.delivered = s.delivered ∨ t.delivered = []) (hcopies : t.copies = s.copies) :
    s.Recedes t where
  list := by rw [hinject]
  held := .inl hheld
  queued := fun j hqueued => by rwa [hinject] at hqueued
  phase := fun ht => .inl (by rwa [hinject] at ht)
  done := fun j hdone => by rwa [hinject] at hdone
  error := fun j herror => .inl (by rwa [hinject] at herror)
  delivered := hdelivered
  copies := hcopies

theorem of_timeless (h : t.timeless = s.timeless) : s.Recedes t := by
  have hs := sameButClock h
  exact .of_eq hs.inject hs.held (.inl hs.delivered) hs.copies

/-- A change of a node in which no inject buffer is queued, becomes done or fails. -/
theorem setNode {k : NodeId} (hlist : n.list = (s.node k).list)
    (hphase : n.phase = .streaming →
      (s.node k).phase = .streaming ∨ ∀ j, (n.buffer j).state ≠ .queued)
    (hkept : ∀ j state, state ≠ .dequeued → (n.buffer j).state = state →
      ((s.node k).buffer j).state = state) :
    s.Recedes (s.setNode k n) := by
  cases k with
  | inject =>
    exact {
      list := (show n.list = s.inject.list from hlist) ▸ .refl _
      held := .inl rfl
      queued := fun j => hkept j _ fun hs => by cases hs
      phase := hphase
      done := fun j => hkept j _ fun hs => by cases hs
      error := fun j h => .inl (hkept j _ (fun hs => by cases hs) h)
      delivered := .inl rfl
      copies := rfl }
  | capture => exact .of_eq rfl rfl (.inl rfl) rfl

theorem setPhase (c : Caller) {p : Phase} (hp : p ≠ .streaming) : s.Recedes (s.setPhase c p) := by
  cases c with
  | node k => exact .setNode rfl (fun hn => absurd hn hp) fun _ _ _ => id
  | sensor => exact .of_eq rfl rfl (.inl rfl) rfl

theorem modify {k : NodeId} {f : Buffer → Buffer}
    (hf : ∀ b : Buffer, (f b).state = b.state ∨ (f b).state = .dequeued) :
    s.Recedes (s.setNode k ((s.node k).modify i f)) := by
  refine .setNode rfl .inl fun j state hstate h => ?_
  rcases buffer_modify (n := s.node k) (i := i) f j with hsame | ⟨-, hnew⟩
  · rwa [hsame] at h
  · rw [hnew] at h
    rcases hf ((s.node k).buffer j) with hsame | hdequeued
    · rwa [hsame] at h
    · exact absurd (h.symm.trans hdequeued) hstate

end Device.Recedes

theorem recedes_releaseHeld (s : Device) : s.Recedes (s.releaseHeld .error) := by
  unfold Device.releaseHeld
  cases hheld : s.held with
  | none => exact .refl s
  | some i =>
    exact {
      list := .refl _
      held := .inr rfl
      queued := fun j hqueued =>
        state_of_bufferDone (n := s.inject) (i := i) .error (fun hs => by cases hs) hqueued
      phase := .inl
      done := fun j hdone =>
        state_of_bufferDone (n := s.inject) (i := i) .error (fun hs => by cases hs) hdone
      error := fun j herror => by
        rcases state_bufferDone (n := s.inject) (i := i) .error j with hsame | ⟨rfl, -⟩
        · exact .inl (hsame ▸ herror)
        · exact .inr (List.mem_append_left _ (by rw [hheld]; exact List.mem_singleton_self _))
      delivered := .inl rfl
      copies := rfl }

theorem recedes_setInjectFormat (cfg : Config) (s : Device) (pixelformat : PixelFormat) :
    s.Recedes (s.setInjectFormat cfg pixelformat).2 := by
  unfold Device.setInjectFormat
  split
  · exact .refl s
  · exact .of_eq rfl rfl (.inl rfl) rfl

theorem recedes_applyMode (cfg : Config) (s : Device) (mode : Nat) :
    s.Recedes (s.applyMode cfg mode) := by
  have hactive : s.Recedes { s with active := mode } := .of_eq rfl rfl (.inl rfl) rfl
  have hchange : s.Recedes (s.changeMode cfg mode) :=
    (hactive.trans (recedes_releaseHeld _)).trans (recedes_setInjectFormat cfg _ _)
  exact hchange.trans (.of_timeless (timeless_applyMode cfg s mode))

theorem recedes_granted (h : Granted cfg s t) : s.Recedes t := by
  cases h with
  | unchanged => exact .refl s
  | format pixelformat => exact recedes_setInjectFormat cfg s pixelformat
  | mode mode => exact recedes_applyMode cfg s mode
  | modeAndFormat mode pixelformat =>
    exact (recedes_applyMode cfg s mode).trans (recedes_setInjectFormat cfg _ pixelformat)

/-- All buffers of the node are dequeued when its `STREAMOFF` ends. -/
theorem recedes_returnBuffers (s : Device) (k : NodeId) : s.Recedes (s.returnBuffers k) := by
  cases k with
  | inject =>
    have hreleased := recedes_releaseHeld s
    have hdequeued := state_dequeueAll (n := (s.releaseHeld .error).inject.returnAll .error)
    have hnot : ∀ j state, state ≠ .dequeued →
        ((s.returnBuffers .inject).inject.buffer j).state ≠ state := fun j state hne h => by
      exact hne (h.symm.trans (hdequeued j))
    exact hreleased.trans {
      list := list_foldl_completeBuffer _
      held := .inl rfl
      queued := fun j h => absurd h (hnot j _ fun hs => by cases hs)
      phase := fun hidle => by cases hidle
      done := fun j h => absurd h (hnot j _ fun hs => by cases hs)
      error := fun j h => absurd h (hnot j _ fun hs => by cases hs)
      delivered := .inl rfl
      copies := rfl }
  | capture => exact .of_eq rfl rfl (.inl rfl) rfl

/-- A buffer in a state other than that of an error was in it before the loop. -/
theorem state_of_dropped (s : Device) {state : BufferState} (hne : state ≠ .error) {j : Nat}
    (h : (s.dropped.inject.buffer j).state = state) : (s.inject.buffer j).state = state := by
  rcases state_dropUndersized (n := s.inject) s.layout.sizeImage s.inject.list j with
    hsame | ⟨-, herror⟩
  · exact hsame ▸ h
  · exact absurd (h.symm.trans herror) hne

theorem recedes_dropped (s : Device) : s.Recedes s.dropped where
  list := list_dropUndersized _ _
  held := .inl rfl
  queued := fun _ => state_of_dropped s fun hs => by cases hs
  phase := fun ht => .inl ((phase_dropUndersized _ _ s.inject).symm.trans ht)
  done := fun _ => state_of_dropped s fun hs => by cases hs
  error := fun j herror => by
    rcases state_dropUndersized (n := s.inject) s.layout.sizeImage s.inject.list j with
      hsame | ⟨hj, -⟩
    · exact .inl (hsame ▸ herror)
    · exact .inr (List.mem_append_right _ hj)
  delivered := .inl rfl
  copies := rfl

end Recedes

/-! ## Steps that capture a frame -/

/-- The frame of the inject buffer `i` is captured: the buffer is the first of the list and leaves
it, or it is held. -/
structure Device.Takes (cfg : Config) (s t : Device) (i : Nat) : Prop where
  list : s.inject.list = i :: t.inject.list ∨
    cfg.repeatLastFrame = true ∧ s.held = some i ∧ t.inject.list = s.inject.list
  held : t.held = if cfg.repeatLastFrame then some i else s.held
  queued : ∀ j, (t.inject.buffer j).state = .queued → (s.inject.buffer j).state = .queued
  phase : t.inject.phase = s.inject.phase
  done : ∀ j, (t.inject.buffer j).state = .done →
    (s.inject.buffer j).state = .done ∨ j = i ∨ s.held = some j
  error : ∀ j, (t.inject.buffer j).state = .error → (s.inject.buffer j).state = .error
  delivered : t.delivered = s.delivered ++ [s.frame]
  copies : t.copies.length = s.copies.length + 1

section Takes

variable {cfg : Config} {s t : Device} {mode : Mode} {c i : Nat} {rest : List Nat}

theorem takes_deliverFrom (hlist : s.inject.list = i :: rest) :
    s.Takes cfg (s.deliverFrom cfg mode c i) i := by
  have herase : s.inject.list.erase i = rest := by rw [hlist, List.erase_cons_head]
  unfold Device.deliverFrom
  cases hrepeat : cfg.repeatLastFrame with
  | true =>
    unfold Device.holdInject Device.releaseHeld
    cases hheld : s.held with
    | none =>
      exact {
        list := .inl (by rw [hlist, ← herase]; rfl)
        held := by rw [hrepeat]; rfl
        queued := fun _ => id
        phase := rfl
        done := fun _ => .inl
        error := fun _ => id
        delivered := rfl
        copies := List.length_append }
    | some k =>
      -- the buffer that was held comes back done
      exact {
        list := .inl (by rw [hlist, ← herase]; rfl)
        held := by rw [hrepeat]; rfl
        queued := fun j h => state_of_bufferDone (n := s.inject) (i := k) .done
          (fun hs => by cases hs) h
        phase := rfl
        done := fun j h => by
          rcases state_bufferDone (n := s.inject) (i := k) .done j with hsame | ⟨rfl, -⟩
          · exact .inl (hsame ▸ h)
          · exact .inr (.inr hheld)
        error := fun j h => state_of_bufferDone (n := s.inject) (i := k) .done
          (fun hs => by cases hs) h
        delivered := rfl
        copies := List.length_append }
  | false =>
    exact {
      list := .inl (by rw [hlist, ← herase]; rfl)
      held := by rw [hrepeat]; rfl
      queued := fun j h =>
        state_of_bufferDone (n := { s.inject with list := s.inject.list.erase i }) (i := i) .done
          (fun hs => by cases hs) h
      phase := rfl
      done := fun j h => by
        rcases state_completeBuffer (n := s.inject) (i := i) .done j with
          hsame | ⟨rfl, -⟩
        · exact .inl (hsame ▸ h)
        · exact .inr (.inl rfl)
      error := fun j h => by
        rcases state_completeBuffer (n := s.inject) (i := i) .done j with
          hsame | ⟨-, hset⟩
        · exact hsame ▸ h
        · exact absurd ((show ((s.inject.completeBuffer i .done).buffer j).state = .error
            from h).symm.trans hset) fun hs => by cases hs
      delivered := rfl
      copies := List.length_append }

theorem Device.Takes.sublist {t : Device} (ht : s.Takes cfg t i) :
    t.inject.list.Sublist s.inject.list := by
  rcases ht.list with hlist | ⟨-, -, hlist⟩
  · exact hlist ▸ List.sublist_cons_self _ _
  · exact hlist ▸ .refl _

theorem takes_repeatFrame (hrepeat : cfg.repeatLastFrame = true) (hheld : s.held = some i)
    (hmapped : (s.inject.buffer i).mapped = true) : s.Takes cfg (s.repeatFrame cfg mode c) i := by
  unfold Device.repeatFrame
  rw [hheld]
  simp only [hmapped, if_true]
  exact {
    list := .inr ⟨hrepeat, hheld, rfl⟩
    held := by
      rw [hrepeat]
      rfl
    queued := fun _ => id
    phase := rfl
    done := fun _ => .inl
    error := fun _ => id
    delivered := rfl
    copies := List.length_append }

theorem repeatFrame_eq_self (h : (s.held.filter fun i => (s.inject.buffer i).mapped) = none) :
    s.repeatFrame cfg mode c = s := by
  unfold Device.repeatFrame
  cases hheld : s.held with
  | none => rfl
  | some i =>
    have hunmapped : (s.inject.buffer i).mapped = false := by simpa [hheld] using h
    simp [hunmapped]

/-- Without a source, the call drops buffers at most. -/
theorem recedes_tryDeliverFrame (h : s.frameSource cfg mode = none) :
    s.Recedes (s.tryDeliverFrame cfg mode) := by
  unfold Device.frameSource at h
  unfold Device.tryDeliverFrame
  by_cases hstopped : (!s.canRun) = true
  · rw [if_pos hstopped]
    exact .refl s
  · rw [if_neg hstopped] at h ⊢
    cases hlist : s.capture.list with
    | nil => exact .refl s
    | cons c rest =>
      rw [hlist] at h
      simp only at h ⊢
      by_cases hsmall : (decide ((s.capture.buffer c).planeSize < mode.frameSize) ||
          !(s.capture.buffer c).mapped) = true
      · rw [if_pos hsmall]
        exact .of_eq rfl rfl (.inl rfl) rfl
      · rw [if_neg hsmall] at h ⊢
        have hdropped := recedes_dropped s
        cases hhead : s.dropped.inject.list.head?.filter
            fun i => (s.dropped.inject.buffer i).mapped with
        | some i =>
          rw [hhead] at h
          cases h
        | none =>
          rw [hhead] at h
          simp only [Device.dropped] at hhead hdropped h ⊢
          rw [hhead]
          simp only at h ⊢
          by_cases hrepeat : cfg.repeatLastFrame = true
          · rw [if_pos hrepeat] at h ⊢
            exact (repeatFrame_eq_self (s := s.dropped) h).symm ▸ hdropped
          · rw [if_neg hrepeat]
            exact hdropped

theorem takes_tryDeliverFrame (h : s.frameSource cfg mode = some i) :
    s.dropped.Takes cfg (s.tryDeliverFrame cfg mode) i := by
  unfold Device.frameSource at h
  unfold Device.tryDeliverFrame
  by_cases hstopped : (!s.canRun) = true
  · rw [if_pos hstopped] at h
    cases h
  · rw [if_neg hstopped] at h ⊢
    cases hlist : s.capture.list with
    | nil =>
      rw [hlist] at h
      cases h
    | cons c rest =>
      rw [hlist] at h
      simp only at h ⊢
      by_cases hsmall : (decide ((s.capture.buffer c).planeSize < mode.frameSize) ||
          !(s.capture.buffer c).mapped) = true
      · rw [if_pos hsmall] at h
        cases h
      rw [if_neg hsmall] at h ⊢
      cases hhead : s.dropped.inject.list.head?.filter
          fun i => (s.dropped.inject.buffer i).mapped with
      | some k =>
        rw [hhead] at h
        cases h
        have hfirst := (Option.filter_eq_some_iff.mp hhead).1
        obtain ⟨rest, hlist⟩ := List.head?_eq_some_iff.mp hfirst
        simp only [Device.dropped] at hhead ⊢
        rw [hhead]
        exact takes_deliverFrom hlist
      | none =>
        rw [hhead] at h
        simp only [Device.dropped] at hhead h ⊢
        rw [hhead]
        simp only at h ⊢
        by_cases hrepeat : cfg.repeatLastFrame = true
        · rw [if_pos hrepeat] at h ⊢
          obtain ⟨hheld, hmapped⟩ := Option.filter_eq_some_iff.mp h
          exact takes_repeatFrame hrepeat hheld hmapped
        · rw [if_neg hrepeat] at h
          cases h

end Takes

/-! ## The invariant -/

/-- A buffer that vb2 keeps is newer than those that the driver has and than the captured frames. -/
structure Film.Later (f : Film) (i : Nat) : Prop where
  list : ∀ j ∈ f.dev.inject.list, f.number j < f.number i
  shots : ∀ x ∈ f.shots, x.number < f.number i
  pos : 0 < f.number i

/-- The waiting frames are in the order in which they were queued and newer than every captured one,
and the captured ones are in order.  A held buffer has the newest captured frame; a buffer that came
back done has a captured frame. -/
structure Ordered (cfg : Config) (f : Film) : Prop where
  waiting : (f.dev.inject.list.map f.number).Pairwise (· < ·)
  newer : ∀ i ∈ f.dev.inject.list, ∀ x ∈ f.shots, x.number < f.number i
  given : ∀ i ∈ f.dev.inject.list, 0 < f.number i
  queued : ∀ i, (f.dev.inject.buffer i).state = .queued → f.Later i
  started : f.dev.inject.phase = .streaming → ∀ i, (f.dev.inject.buffer i).state ≠ .queued
  below : ∀ i, f.number i < f.nextNumber
  distinct : ∀ i j, f.number i = f.number j → i = j ∨ f.number i = 0
  taken : ∀ x ∈ f.shots, x.number < f.nextNumber
  held : ∀ i ∈ f.dev.held,
    (∃ x ∈ f.shots, x.number = f.number i) ∧ ∀ x ∈ f.shots, x.number ≤ f.number i
  single : cfg.repeatLastFrame = false → f.dev.held = none
  order : f.shots.Pairwise fun x y =>
    x.number < y.number ∨ cfg.repeatLastFrame = true ∧ x.number = y.number
  done : ∀ i, (f.dev.inject.buffer i).state = .done → ∃ x ∈ f.shots, x.number = f.number i
  error : cfg.repeatLastFrame = false → ∀ i, (f.dev.inject.buffer i).state = .error →
    ∀ x ∈ f.shots, x.number ≠ f.number i
  frames : f.dev.delivered <:+ f.shots.map Shot.frame
  copies : f.dev.copies.length = f.shots.length

namespace Ordered

variable {cfg : Config} {f : Film} {t : Device} {i : Nat}

theorem recedes (h : Ordered cfg f) (hr : f.dev.Recedes t) : Ordered cfg { f with dev := t } :=
  { h with
    waiting := h.waiting.sublist (hr.list.map _)
    newer := fun j hj => h.newer j (hr.list.subset hj)
    given := fun j hj => h.given j (hr.list.subset hj)
    queued := fun j hj => by
      have hlater := h.queued j (hr.queued j hj)
      exact ⟨fun k hk => hlater.list k (hr.list.subset hk), hlater.shots, hlater.pos⟩
    started := fun hstreaming j hj => by
      rcases hr.phase hstreaming with hbefore | hnone
      · exact h.started hbefore j (hr.queued j hj)
      · exact hnone j hj
    held := fun j hj => by
      rcases hr.held with hsame | hnone
      · exact h.held j (hsame ▸ hj)
      · rw [hnone] at hj
        cases hj
    single := fun hrepeat => by
      rcases hr.held with hsame | hnone
      · exact hsame.trans (h.single hrepeat)
      · exact hnone
    done := fun j hj => h.done j (hr.done j hj)
    error := fun hrepeat j hj x hx => by
      rcases hr.error j hj with hbefore | hout
      · exact h.error hrepeat j hbefore x hx
      · -- nothing is held, so the buffer was waiting
        have hlist : j ∈ f.dev.inject.list := by
          simpa [Device.out, h.single hrepeat] using hout
        exact (h.newer j hlist x hx).ne
    frames := by
      rcases hr.delivered with hsame | hnil
      · exact hsame ▸ h.frames
      · exact hnil ▸ List.nil_suffix
    copies := (congrArg List.length hr.copies).trans h.copies }

theorem distinct_renumber (h : Ordered cfg f) (i j k : Nat)
    (hjk : Function.update f.number i f.nextNumber j = Function.update f.number i f.nextNumber k) :
    j = k ∨ Function.update f.number i f.nextNumber j = 0 := by
  have hself : Function.update f.number i f.nextNumber i = f.nextNumber := Function.update_self ..
  have hother : ∀ j, j ≠ i → Function.update f.number i f.nextNumber j = f.number j :=
    fun j hj => Function.update_of_ne hj _ _
  by_cases hj : j = i <;> by_cases hk : k = i
  · exact .inl (hj.trans hk.symm)
  · rw [hj, hself, hother k hk] at hjk
    exact absurd hjk (h.below k).ne'
  · rw [hk, hself, hother j hj] at hjk
    exact absurd hjk (h.below j).ne
  · rw [hother j hj, hother k hk] at hjk
    rw [hother j hj]
    exact h.distinct j k hjk

/-- A buffer that is neither queued nor with the driver nor back from it gets the next number. -/
theorem renumber (h : Ordered cfg f) (hout : i ∉ f.dev.out .inject)
    (hstate : (f.dev.inject.buffer i).state = .dequeued) :
    Ordered cfg
      { f with
        number := Function.update f.number i f.nextNumber
        nextNumber := f.nextNumber + 1 } := by
  have hself : Function.update f.number i f.nextNumber i = f.nextNumber := Function.update_self ..
  have hother : ∀ j, j ≠ i → Function.update f.number i f.nextNumber j = f.number j :=
    fun j hj => Function.update_of_ne hj _ _
  have hwith : ∀ j ∈ f.dev.out .inject, Function.update f.number i f.nextNumber j = f.number j :=
    fun j hj => hother j fun hji => hout (hji ▸ hj)
  have hwait : ∀ j ∈ f.dev.inject.list, Function.update f.number i f.nextNumber j = f.number j :=
    fun j hj => hwith j (List.mem_append_right _ hj)
  have hin : ∀ j state, state ≠ .dequeued → (f.dev.inject.buffer j).state = state →
      Function.update f.number i f.nextNumber j = f.number j := by
    intro j state hne hj
    refine hother j fun hji => hne ?_
    rw [← hj, hji]
    exact hstate
  exact {
    h with
    waiting := by
      show (f.dev.inject.list.map (Function.update f.number i f.nextNumber)).Pairwise (· < ·)
      rw [List.map_congr_left hwait]
      exact h.waiting
    newer := fun j hj x hx => by
      show _ < Function.update f.number i f.nextNumber j
      rw [hwait j hj]
      exact h.newer j hj x hx
    given := fun j hj => by
      show 0 < Function.update f.number i f.nextNumber j
      rw [hwait j hj]
      exact h.given j hj
    queued := fun j hj => by
      have hlater := h.queued j hj
      have hsame := hin j _ (fun hs => by cases hs) hj
      refine ⟨fun k hk => ?_, fun x hx => ?_, ?_⟩
      · show Function.update f.number i f.nextNumber k < Function.update f.number i f.nextNumber j
        rw [hsame, hwait k hk]
        exact hlater.list k hk
      · show x.number < Function.update f.number i f.nextNumber j
        rw [hsame]
        exact hlater.shots x hx
      · show 0 < Function.update f.number i f.nextNumber j
        rw [hsame]
        exact hlater.pos
    below := fun j => by
      show Function.update f.number i f.nextNumber j < f.nextNumber + 1
      by_cases hj : j = i
      · rw [hj, hself]
        omega
      · rw [hother j hj]
        exact Nat.lt_succ_of_lt (h.below j)
    distinct := h.distinct_renumber i
    taken := fun x hx => Nat.lt_succ_of_lt (h.taken x hx)
    held := fun j hj => by
      have hji := hwith j (List.mem_append_left _ (Option.mem_toList.mpr hj))
      show (∃ x ∈ f.shots, x.number = Function.update f.number i f.nextNumber j) ∧
        ∀ x ∈ f.shots, x.number ≤ Function.update f.number i f.nextNumber j
      rw [hji]
      exact h.held j hj
    done := fun j hj => by
      show ∃ x ∈ f.shots, x.number = Function.update f.number i f.nextNumber j
      rw [hin j _ (fun hs => by cases hs) hj]
      exact h.done j hj
    error := fun hrepeat j hj x hx => by
      show x.number ≠ Function.update f.number i f.nextNumber j
      rw [hin j _ (fun hs => by cases hs) hj]
      exact h.error hrepeat j hj x hx }

/-- The number of a queued buffer is above all the others. -/
theorem later_renumber (h : Ordered cfg f) (hout : i ∉ f.dev.out .inject) :
    Film.Later
      { f with
        number := Function.update f.number i f.nextNumber
        nextNumber := f.nextNumber + 1 } i := by
  have hself : Function.update f.number i f.nextNumber i = f.nextNumber := Function.update_self ..
  refine ⟨fun j hj => ?_, fun x hx => ?_, ?_⟩
  · show Function.update f.number i f.nextNumber j < Function.update f.number i f.nextNumber i
    have hne : j ≠ i := fun hji => hout (hji ▸ List.mem_append_right _ hj)
    rw [hself, Function.update_of_ne hne]
    exact h.below j
  · show x.number < Function.update f.number i f.nextNumber i
    rw [hself]
    exact h.taken x hx
  · show 0 < Function.update f.number i f.nextNumber i
    rw [hself]
    exact Nat.zero_lt_of_lt (h.below i)

/-- vb2 keeps one more buffer. -/
theorem enqueue (h : Ordered cfg f) (hlater : f.Later i) (hphase : f.dev.inject.phase ≠ .streaming)
    (hsame : t.inject.phase = f.dev.inject.phase) (hlist : t.inject.list = f.dev.inject.list)
    (hstate : ∀ j, (t.inject.buffer j).state = (f.dev.inject.buffer j).state ∨
      j = i ∧ (t.inject.buffer j).state = .queued)
    (hheld : t.held = f.dev.held) (hdelivered : t.delivered = f.dev.delivered)
    (hcopies : t.copies = f.dev.copies) : Ordered cfg { f with dev := t } := by
  have hold : ∀ j state, state ≠ .queued → (t.inject.buffer j).state = state →
      (f.dev.inject.buffer j).state = state := by
    intro j state hne hj
    rcases hstate j with hsame | ⟨-, hqueued⟩
    · exact hsame ▸ hj
    · exact absurd (hj.symm.trans hqueued) hne
  exact {
    h with
    waiting := hlist ▸ h.waiting
    newer := fun j hj => h.newer j (hlist ▸ hj)
    given := fun j hj => h.given j (hlist ▸ hj)
    queued := fun j hj => by
      have hj' : f.Later j := by
        rcases hstate j with hbefore | ⟨rfl, -⟩
        · exact h.queued j (hbefore ▸ hj)
        · exact hlater
      exact ⟨fun k hk => hj'.list k (hlist ▸ hk), hj'.shots, hj'.pos⟩
    started := fun hstreaming => absurd (hsame.symm.trans hstreaming) hphase
    held := fun j hj => h.held j (hheld ▸ hj)
    single := fun hrepeat => hheld.trans (h.single hrepeat)
    done := fun j hj => h.done j (hold j _ (fun hs => by cases hs) hj)
    error := fun hrepeat j hj => h.error hrepeat j (hold j _ (fun hs => by cases hs) hj)
    frames := hdelivered ▸ h.frames
    copies := (congrArg List.length hcopies).trans h.copies }

/-- The driver is given the oldest buffer that it does not have. -/
theorem hand (h : Ordered cfg f) (hlater : f.Later i)
    (hfirst : ∀ j, j ≠ i → (f.dev.inject.buffer j).state = .queued → f.number i < f.number j)
    (hsame : t.inject.phase = f.dev.inject.phase)
    (hlist : t.inject.list = f.dev.inject.list ++ [i])
    (hstate : ∀ j, (t.inject.buffer j).state = (f.dev.inject.buffer j).state ∧ j ≠ i ∨
      (t.inject.buffer j).state = .active)
    (hheld : t.held = f.dev.held) (hdelivered : t.delivered = f.dev.delivered)
    (hcopies : t.copies = f.dev.copies) : Ordered cfg { f with dev := t } := by
  have hold : ∀ j state, state ≠ .active → (t.inject.buffer j).state = state →
      j ≠ i ∧ (f.dev.inject.buffer j).state = state := by
    intro j state hne hj
    rcases hstate j with ⟨hsame, hji⟩ | hactive
    · exact ⟨hji, hsame ▸ hj⟩
    · exact absurd (hj.symm.trans hactive) hne
  have hmem : ∀ j ∈ t.inject.list, j ∈ f.dev.inject.list ∨ j = i := by
    intro j hj
    rw [hlist] at hj
    exact (List.mem_append.mp hj).imp id List.mem_singleton.mp
  exact {
    h with
    waiting := by
      show (t.inject.list.map f.number).Pairwise (· < ·)
      rw [hlist, List.map_append, List.map_singleton]
      refine List.pairwise_append.mpr ⟨h.waiting, List.pairwise_singleton _ _, ?_⟩
      intro a ha b hb
      obtain ⟨j, hj, rfl⟩ := List.mem_map.mp ha
      rw [List.mem_singleton.mp hb]
      exact hlater.list j hj
    newer := fun j hj x hx => by
      rcases hmem j hj with hj | rfl
      · exact h.newer j hj x hx
      · exact hlater.shots x hx
    given := fun j hj => by
      rcases hmem j hj with hj | rfl
      · exact h.given j hj
      · exact hlater.pos
    queued := fun j hj => by
      obtain ⟨hji, hqueued⟩ := hold j _ (fun hs => by cases hs) hj
      have hj' := h.queued j hqueued
      refine ⟨fun k hk => ?_, hj'.shots, hj'.pos⟩
      rcases hmem k hk with hk | rfl
      · exact hj'.list k hk
      · exact hfirst j hji hqueued
    started := fun hstreaming j hj =>
      h.started (hsame.symm.trans hstreaming) j (hold j _ (fun hs => by cases hs) hj).2
    held := fun j hj => h.held j (hheld ▸ hj)
    single := fun hrepeat => hheld.trans (h.single hrepeat)
    done := fun j hj => h.done j (hold j _ (fun hs => by cases hs) hj).2
    error := fun hrepeat j hj => h.error hrepeat j (hold j _ (fun hs => by cases hs) hj).2
    frames := hdelivered ▸ h.frames
    copies := (congrArg List.length hcopies).trans h.copies }

/-! The buffer whose frame is captured, against the frames and the buffers around it. -/

theorem before_of_takes (h : Ordered cfg f) (ht : f.dev.Takes cfg t i) :
    ∀ x ∈ f.shots,
      x.number < f.number i ∨ cfg.repeatLastFrame = true ∧ x.number = f.number i := by
  intro x hx
  rcases ht.list with hlist | ⟨hrepeat, hheld, -⟩
  · exact .inl (h.newer i (hlist ▸ List.mem_cons_self) x hx)
  · rcases ((h.held i hheld).2 x hx).lt_or_eq with hlt | heq
    · exact .inl hlt
    · exact .inr ⟨hrepeat, heq⟩

theorem after_of_takes (h : Ordered cfg f) (ht : f.dev.Takes cfg t i) :
    ∀ j ∈ t.inject.list, f.number i < f.number j := by
  intro j hj
  rcases ht.list with hlist | ⟨-, hheld, hlist⟩
  · have hwaiting := h.waiting
    rw [hlist, List.map_cons, List.pairwise_cons] at hwaiting
    exact hwaiting.1 _ (List.mem_map_of_mem hj)
  · obtain ⟨x, hx, hnumber⟩ := (h.held i hheld).1
    exact hnumber ▸ h.newer j (hlist ▸ hj) x hx

theorem later_of_takes (h : Ordered cfg f) (ht : f.dev.Takes cfg t i) {j : Nat}
    (hlater : f.Later j) : f.number i < f.number j := by
  -- the frame is that of a buffer of the list, or captured before
  rcases ht.list with hlist | ⟨-, hheld, -⟩
  · exact hlater.list i (hlist ▸ List.mem_cons_self)
  · obtain ⟨x, hx, hnumber⟩ := (h.held i hheld).1
    exact hnumber ▸ hlater.shots x hx

theorem held_of_takes (h : Ordered cfg f) (ht : f.dev.Takes cfg t i) {j : Nat} (hj : j ∈ t.held) :
    j = i := by
  rw [ht.held] at hj
  split at hj
  · exact (Option.mem_some.mp hj).symm
  · rename_i hrepeat
    rw [h.single (Bool.eq_false_iff.mpr hrepeat)] at hj
    cases hj

/-- Where frames are not repeated, no buffer that came back in error has the captured frame: the
frame is that of a buffer of the list, which is with the driver. -/
theorem error_of_takes (h : Ordered cfg f) (ht : f.dev.Takes cfg t i)
    (hactive : i ∈ f.dev.inject.list → (f.dev.inject.buffer i).state = .active)
    (hrepeat : cfg.repeatLastFrame = false) {j : Nat}
    (herror : (f.dev.inject.buffer j).state = .error) : f.number i ≠ f.number j := by
  have hi : i ∈ f.dev.inject.list := by
    rcases ht.list with hlist | ⟨hon, -, -⟩
    · exact hlist ▸ List.mem_cons_self
    · rw [hrepeat] at hon
      cases hon
  intro hnumber
  rcases h.distinct i j hnumber with rfl | hzero
  · rw [hactive hi] at herror
    cases herror
  · exact absurd hzero (h.given i hi).ne'

/-- The captured frame is newer than those before it, or it is that of the held buffer again. -/
theorem takes (h : Ordered cfg f) (ht : f.dev.Takes cfg t i)
    (hactive : i ∈ f.dev.inject.list → (f.dev.inject.buffer i).state = .active) :
    Ordered cfg
      { f with dev := t, shots := f.shots ++ [{ frame := f.dev.frame, number := f.number i }] } := by
  have hsub := ht.sublist
  have hbefore := h.before_of_takes ht
  have hmem : ∀ x, x ∈ f.shots ++ [⟨f.dev.frame, f.number i⟩] ↔
      x ∈ f.shots ∨ x = ⟨f.dev.frame, f.number i⟩ := fun x => by simp
  exact {
    waiting := h.waiting.sublist (hsub.map _)
    newer := fun j hj x hx => by
      rcases (hmem x).mp hx with hx | rfl
      · exact h.newer j (hsub.subset hj) x hx
      · exact h.after_of_takes ht j hj
    given := fun j hj => h.given j (hsub.subset hj)
    queued := fun j hj => by
      have hlater := h.queued j (ht.queued j hj)
      refine ⟨fun k hk => hlater.list k (hsub.subset hk), fun x hx => ?_, hlater.pos⟩
      rcases (hmem x).mp hx with hx | rfl
      · exact hlater.shots x hx
      · exact h.later_of_takes ht hlater
    started := fun hstreaming j hj =>
      h.started (ht.phase.symm.trans hstreaming) j (ht.queued j hj)
    below := h.below
    distinct := h.distinct
    taken := fun x hx => by
      rcases (hmem x).mp hx with hx | rfl
      · exact h.taken x hx
      · exact h.below i
    held := fun j hj => by
      have hji := h.held_of_takes ht hj
      subst hji
      refine ⟨⟨_, (hmem _).mpr (.inr rfl), rfl⟩, fun x hx => ?_⟩
      rcases (hmem x).mp hx with hx | rfl
      · rcases hbefore x hx with hlt | ⟨-, heq⟩
        · exact hlt.le
        · exact heq.le
      · exact le_rfl
    single := fun hrepeat => by
      show t.held = none
      rw [ht.held, if_neg (Bool.eq_false_iff.mp hrepeat)]
      exact h.single hrepeat
    order := by
      refine List.pairwise_append.mpr ⟨h.order, List.pairwise_singleton _ _, ?_⟩
      intro x hx y hy
      rw [List.mem_singleton.mp hy]
      exact hbefore x hx
    done := fun j hj => by
      rcases ht.done j hj with hdone | rfl | hheld
      · obtain ⟨x, hx, hnumber⟩ := h.done j hdone
        exact ⟨x, (hmem x).mpr (.inl hx), hnumber⟩
      · exact ⟨_, (hmem _).mpr (.inr rfl), rfl⟩
      · obtain ⟨x, hx, hnumber⟩ := (h.held j hheld).1
        exact ⟨x, (hmem x).mpr (.inl hx), hnumber⟩
    error := fun hrepeat j hj x hx => by
      have herror := ht.error j hj
      rcases (hmem x).mp hx with hx | rfl
      · exact h.error hrepeat j herror x hx
      · exact h.error_of_takes ht hactive hrepeat herror
    frames := by
      show t.delivered <:+ _
      rw [ht.delivered, List.map_append]
      obtain ⟨before, hbefore⟩ := h.frames
      exact ⟨before, by rw [← hbefore, List.append_assoc]; rfl⟩
    copies := by
      show t.copies.length = _
      rw [ht.copies, h.copies, List.length_append]
      rfl }

end Ordered

/-! ## Every run -/

section Runs

variable {cfg : Config} {s : Device} {a : Act} {f : Film} {i : Nat}

theorem Device.Recedes.resetArm {t : Device} (h : s.Recedes t) :
    s.Recedes ((t.resetClock cfg).armClock cfg) :=
  h.trans (.of_timeless ((timeless_armClock cfg _).trans (timeless_resetClock cfg t)))

theorem recedes_bufQueue_capture : s.Recedes (s.bufQueue cfg .capture i) := by
  have hadd : s.Recedes (s.setNode .capture ((s.node .capture).addTail i)) :=
    .of_eq rfl rfl (.inl rfl) rfl
  unfold Device.bufQueue
  simp only
  split
  · exact hadd.trans (.of_timeless (timeless_armClock cfg _))
  · exact hadd

theorem recedes_advance (elapsed : Nat) : s.Recedes (s.advance cfg elapsed) := by
  unfold Device.advance
  split
  · exact .refl s
  · have hclock : s.Recedes { s with
        frameInterval := s.interval cfg, nextFrame := (s.schedule cfg).getD 0
        now := s.now + elapsed } := .of_eq rfl rfl (.inl rfl) rfl
    simp only
    split
    · exact hclock
    · exact hclock.trans (.of_timeless (timeless_modDelayedWork cfg _ _))

theorem state_fresh (count j : Nat) (n : Node) :
    (Node.buffer { n with buffers := List.replicate count {} } j).state = .dequeued := by
  simp only [Node.buffer, List.getD_eq_getElem?_getD, List.getElem?_replicate]
  split <;> rfl

theorem state_created {n : Node} {count j : Nat} {state : BufferState} (hne : state ≠ .dequeued)
    (h : (Node.buffer { n with buffers := n.buffers ++ List.replicate count {} } j).state = state) :
    (n.buffer j).state = state := by
  simp only [Node.buffer, List.getD_eq_getElem?_getD, List.getElem?_append] at h ⊢
  split at h
  · exact h
  · -- a new buffer is dequeued
    simp only [List.getElem?_replicate] at h
    split at h <;> exact absurd h.symm hne

/-- Once vb2 has given the driver all that was queued, no buffer is queued. -/
theorem not_queued_of_all {n : Node} (hall : ∀ b ∈ n.buffers, b.state ≠ .queued) (j : Nat) :
    (n.buffer j).state ≠ .queued := by
  intro hj
  by_cases hlength : j < n.buffers.length
  · exact hall _ (List.mem_of_getElem? (getElem?_buffer hlength)) hj
  · have hnone : (n.buffer j).state = .dequeued := by
      rw [Node.buffer, List.getD_eq_getElem?_getD, List.getElem?_eq_none (by omega)]
      rfl
    exact absurd (hj.symm.trans hnone) fun hs => by cases hs

/-- A step that neither queues an inject buffer nor gives one to the driver nor captures a frame. -/
theorem recedes_next (ha : s.enabled cfg a = true) (hqueues : ∀ i, a ≠ .qBuf .inject i)
    (hgives : ∀ i, a ≠ .give .inject i) (hcaptured : s.captured cfg a = none) :
    s.Recedes (s.next cfg a) := by
  cases a with
  | injectSFmt width height pixelformat => exact recedes_granted (granted_injectSFmt _ _ _)
  | captureSFmt width height => exact recedes_granted (granted_captureSFmt _ _)
  | setFmt pad tried width height => exact recedes_granted (granted_setFmt _ _ _ _)
  | reqBufs k count =>
    exact .setNode rfl .inl fun j state hne h =>
      absurd (h.symm.trans (state_fresh count j (s.node k))) hne
  | createBufs k count => exact .setNode rfl .inl fun j state hne h => state_created hne h
  | prepareBuf k i planeSize mapped =>
    simp only [Device.next, Device.bufPrepare]
    split
    · exact .refl s
    · exact .modify fun _ => .inl rfl
  | qBuf k i =>
    simp only [Device.next]
    cases k with
    | inject => exact absurd rfl (hqueues i)
    | capture =>
      split
      · exact recedes_bufQueue_capture
      · exact .of_eq rfl rfl (.inl rfl) rfl
  | dqBuf k i => exact .modify fun _ => .inr rfl
  | streamOn k => exact .setPhase (.node k) (by decide)
  | give k i =>
    cases k with
    | inject => exact absurd rfl (hgives i)
    | capture => exact recedes_bufQueue_capture
  | startStreaming k =>
    refine Device.Recedes.resetArm ?_
    cases k with
    | inject =>
      -- vb2 has given the driver all that was queued
      simp only [Device.enabled, Bool.and_eq_true, List.all_eq_true, decide_eq_true_eq] at ha
      exact .setNode rfl (fun _ => .inr (not_queued_of_all ha.2)) fun _ _ _ => id
    | capture => exact .of_eq rfl rfl (.inr rfl) rfl
  | streamOff k =>
    simp only [Device.next]
    split
    · exact .setPhase (.node k) (by decide)
    · exact .setNode rfl .inl fun j state hne h => absurd (h.symm.trans (state_dequeueAll j)) hne
  | cancelWork c =>
    exact (Device.Recedes.setPhase c (p := .cancelling) (by decide)).trans (.of_timeless rfl)
  | workCancelled c => exact .setPhase c (by decide)
  | clearClock c =>
    have hafter : c.after ≠ .streaming := by cases c <;> exact fun hs => by cases hs
    exact (Device.Recedes.setPhase c hafter).trans (.of_timeless rfl)
  | returnBuffers k => exact recedes_returnBuffers s k
  | startWork => exact .of_eq rfl rfl (.inl rfl) rfl
  | deliver =>
    simp only [Device.next]
    cases hwork : s.work with
    | none => exact .refl s
    | some run =>
      have hsource : s.frameSource cfg (cfg.modeAt run.mode) = none := by
        simpa [Device.captured, hwork] using hcaptured
      exact (recedes_tryDeliverFrame hsource).trans (.of_eq rfl rfl (.inl rfl) rfl)
  | advance elapsed =>
    exact (recedes_advance elapsed).trans (.of_eq rfl rfl (.inl rfl) rfl)
  | vblank value => exact .of_timeless (timeless_setVblank cfg s value)
  | sStream enable =>
    cases enable with
    | true => exact (Device.Recedes.refl s).resetArm
    | false => exact .setPhase .sensor (by decide)
  | tick elapsed => exact .of_eq rfl rfl (.inl rfl) rfl

/-- What the driver is given goes to the end of the list. -/
theorem Ordered.bufQueue (h : Ordered cfg f) (hi : i < f.dev.inject.buffers.length)
    (hlater : f.Later i)
    (hfirst : ∀ j, j ≠ i → (f.dev.inject.buffer j).state = .queued → f.number i < f.number j) :
    Ordered cfg { f with dev := f.dev.bufQueue cfg .inject i } := by
  have hclock : (f.dev.bufQueue cfg .inject i).timeless =
      (f.dev.setNode .inject (f.dev.inject.addTail i)).timeless := by
    unfold Device.bufQueue
    simp only
    split
    · exact timeless_armClock cfg _
    · rfl
  have hsame := sameButClock hclock
  have hinject : (f.dev.bufQueue cfg .inject i).inject = f.dev.inject.addTail i := hsame.inject
  refine h.hand hlater hfirst (by rw [hinject]; rfl) (by rw [hinject]; rfl) (fun j => ?_) hsame.held
    hsame.delivered hsame.copies
  rw [hinject]
  by_cases hj : j = i
  · refine .inr ?_
    rw [hj]
    simp [Node.addTail, Node.modify, Node.buffer, hi]
  · rcases buffer_modify (n := { f.dev.inject with list := f.dev.inject.list ++ [i] }) (i := i)
      (fun b => { b with state := .active, given := b.given + 1 }) j with hkept | ⟨hji, -⟩
    · exact .inl ⟨congrArg Buffer.state hkept, hj⟩
    · exact absurd hji hj

/-- A buffer that userspace may queue is not with the driver. -/
theorem Sound.notMem_out (hs : Sound cfg s) {state : BufferState}
    (hi : s.hasBuffer .inject i state = true) (hstate : state ≠ .active) :
    i ∉ s.out .inject := fun hmem => by
  obtain ⟨hlength, hbefore⟩ := Sound.hasBuffer hi
  have hactive : (s.inject.buffer i).state = .active :=
    (hs.inject.lent i _ (getElem?_buffer hlength)).mpr hmem
  exact hstate (hbefore.symm.trans hactive)

theorem Ordered.qBuf (h : Ordered cfg f) (hs : Sound cfg f.dev)
    (ha : f.dev.enabled cfg (.qBuf .inject i) = true) :
    Ordered cfg (f.next cfg (.qBuf .inject i)) := by
  simp only [Device.enabled, Bool.and_eq_true] at ha
  have hdequeued := ha.1.2
  obtain ⟨hlength, hbefore⟩ := Sound.hasBuffer hdequeued
  have hout := hs.notMem_out hdequeued fun hs => by cases hs
  have hnumbered := h.renumber hout hbefore
  have hlater := h.later_renumber hout
  have hnone : f.dev.captured cfg (.qBuf .inject i) = none := rfl
  simp only [Film.next, Device.enqueued, hnone, Option.toList_none, List.map_nil, List.append_nil,
    Device.next, Option.toList_some, List.length_singleton]
  split
  · rename_i hstreaming
    -- vb2 keeps nothing while the node streams
    refine hnumbered.bufQueue hlength hlater fun j _ hj => absurd hj ?_
    exact hnumbered.started (of_decide_eq_true hstreaming) j
  · rename_i hidle
    refine hnumbered.enqueue hlater (fun hp => hidle (decide_eq_true hp)) rfl rfl (fun j => ?_) rfl
      rfl rfl
    rcases buffer_modify (n := f.dev.inject) (i := i) (fun b => { b with state := .queued }) j with
      hkept | ⟨hj, hnew⟩
    · exact .inl (congrArg Buffer.state hkept)
    · exact .inr ⟨hj, congrArg Buffer.state hnew⟩

theorem Ordered.give (h : Ordered cfg f) (hok : f.QueuedFirst (.give .inject i))
    (ha : f.dev.enabled cfg (.give .inject i) = true) :
    Ordered cfg (f.next cfg (.give .inject i)) := by
  simp only [Device.enabled, Bool.and_eq_true] at ha
  obtain ⟨hlength, hqueued⟩ := Sound.hasBuffer ha.2
  have hlater := h.queued i hqueued
  have hnone : f.dev.captured cfg (.give .inject i) = none := rfl
  simp only [Film.next, Device.enqueued, hnone, Option.toList_none, List.map_nil, List.append_nil,
    Device.next, List.length_nil, Nat.add_zero]
  refine h.bufQueue hlength hlater fun j hj hjqueued => ?_
  have hlength' : j < f.dev.inject.buffers.length := by
    by_contra hbeyond
    have hdefault : (f.dev.inject.buffer j).state = .dequeued := by
      rw [Node.buffer, List.getD_eq_getElem?_getD, List.getElem?_eq_none (by omega)]
      rfl
    exact absurd (hjqueued.symm.trans hdefault) fun hs => by cases hs
  refine lt_of_le_of_ne (hok i rfl j hlength' hjqueued) fun heq => ?_
  rcases h.distinct i j heq with hij | hzero
  · exact hj hij.symm
  · exact absurd hzero hlater.pos.ne'

/-- The loop drops what is too small, and the frame of the next buffer is captured. -/
theorem Ordered.deliver (h : Ordered cfg f) (hs : Sound cfg f.dev) {run : Run}
    (hwork : f.dev.work = some run)
    (hsource : f.dev.frameSource cfg (cfg.modeAt run.mode) = some i) :
    Ordered cfg
      { f with
        dev := f.dev.next cfg .deliver
        shots := f.shots ++ [{ frame := f.dev.frame, number := f.number i }] } := by
  have hstreaming : f.dev.inject.phase = .streaming := by
    unfold Device.frameSource at hsource
    split at hsource
    · cases hsource
    · rename_i hruns
      simp only [Bool.not_eq_true', Bool.not_eq_false, Device.canRun, Bool.and_eq_true] at hruns
      exact of_decide_eq_true hruns.1
  have hdropped : Sound cfg f.dev.dropped :=
    hs.dropInject f.dev.layout.sizeImage (by rw [hstreaming]; exact fun hs => by cases hs)
  have hactive : i ∈ f.dev.dropped.inject.list →
      (f.dev.dropped.inject.buffer i).state = .active := fun hi => by
    have hout := List.mem_append_right f.dev.dropped.held.toList hi
    exact (hdropped.inject.lent i _ (getElem?_buffer (hdropped.inject.inside i hout))).mpr hout
  have htakes := takes_tryDeliverFrame hsource
  have hordered := (h.recedes (recedes_dropped f.dev)).takes htakes hactive
  simp only [Device.next, hwork]
  exact hordered.recedes (.of_eq rfl rfl (.inl rfl) rfl)

theorem Ordered.next (h : Ordered cfg f) (hs : Sound cfg f.dev) (hok : f.QueuedFirst a)
    (ha : f.dev.enabled cfg a = true) : Ordered cfg (f.next cfg a) := by
  by_cases hqueues : ∃ i, a = .qBuf .inject i
  · obtain ⟨i, rfl⟩ := hqueues
    exact h.qBuf hs ha
  by_cases hgives : ∃ i, a = .give .inject i
  · obtain ⟨i, rfl⟩ := hgives
    exact h.give hok ha
  push Not at hqueues hgives
  have hunnumbered : Device.enqueued a = none := by
    unfold Device.enqueued
    split
    · exact absurd rfl (hqueues _)
    · rfl
  cases hcaptured : f.dev.captured cfg a with
  | none =>
    have hnext := h.recedes (recedes_next ha hqueues hgives hcaptured)
    simpa [Film.next, hunnumbered, hcaptured] using hnext
  | some i =>
    unfold Device.captured at hcaptured
    split at hcaptured
    · obtain ⟨run, hwork, hsource⟩ := Option.bind_eq_some_iff.mp hcaptured
      have hnext := h.deliver hs hwork hsource
      simpa [Film.next, Device.enqueued, Device.captured, hwork, hsource] using hnext
    · cases hcaptured

theorem Ordered.initial (cfg : Config) (now : Nat) : Ordered cfg (Film.initial cfg now) := by
  have hempty : ∀ i, (Node.buffer {} i).state = .dequeued := fun _ => rfl
  have hbare : Ordered cfg
      { dev := { active := 0, layout := updateInjectLayout cfg.firstMode .bgr32,
                 frameInterval := cfg.firstMode.frameIntervalMs * 1000000,
                 vblank := cfg.firstMode.vblank, now := now } } := {
    waiting := .nil
    newer := fun _ hi => (List.not_mem_nil hi).elim
    given := fun _ hi => (List.not_mem_nil hi).elim
    queued := fun i h => by rw [hempty] at h; cases h
    started := fun hstreaming => by cases hstreaming
    below := fun _ => Nat.one_pos
    distinct := fun _ _ _ => .inr rfl
    taken := fun _ hx => (List.not_mem_nil hx).elim
    held := fun _ hi => by cases hi
    single := fun _ => rfl
    order := .nil
    done := fun i h => by rw [hempty] at h; cases h
    error := fun _ i h => by rw [hempty] at h; cases h
    frames := List.suffix_refl _
    copies := rfl }
  exact hbare.recedes (recedes_applyMode cfg _ 0)

end Runs

/-- In every run in which vb2 gives the driver the buffers that it keeps in the order in which they
were queued, frames are captured in the order in which userspace queues them, each once, or several
times in a row while the last frame is repeated.  The frames that wait with the driver are newer than
all of these, and those that wait with vb2 are newer still.  An inject buffer that comes back done
has been captured, and one that comes back with an error has not, unless frames are repeated. -/
theorem frames_in_order {cfg : Config} {now : Nat} {f : Film}
    (htable : ∀ mode ∈ cfg.modes, mode.Regular)
    (hr : Reach (Film.step cfg) Film.QueuedFirst (Film.initial cfg now) f) :
    (f.dev.delivered <:+ f.shots.map Shot.frame ∧ f.dev.copies.length = f.shots.length) ∧
    (f.shots.Pairwise fun x y =>
      x.number < y.number ∨ cfg.repeatLastFrame = true ∧ x.number = y.number) ∧
    (f.dev.inject.list.map f.number).Pairwise (· < ·) ∧
    (∀ i ∈ f.dev.inject.list, ∀ x ∈ f.shots, x.number < f.number i) ∧
    (∀ i, (f.dev.inject.buffer i).state = .queued →
      (∀ j ∈ f.dev.inject.list, f.number j < f.number i) ∧
        ∀ x ∈ f.shots, x.number < f.number i) ∧
    (∀ i, (f.dev.inject.buffer i).state = .done → ∃ x ∈ f.shots, x.number = f.number i) ∧
    (cfg.repeatLastFrame = false → ∀ i, (f.dev.inject.buffer i).state = .error →
      ∀ x ∈ f.shots, x.number ≠ f.number i) := by
  have h : Ordered cfg f := by
    refine hr.invariant_of_reach (Ordered.initial cfg now) fun f a g hr hf hok hstep => ?_
    obtain ⟨ha, rfl⟩ := film_step_eq_some.mp hstep
    exact hf.next (Sound.reach htable (reach_dev hr)) hok ha
  exact ⟨⟨h.frames, h.copies⟩, h.order, h.waiting, h.newer,
    fun i hi => ⟨(h.queued i hi).list, (h.queued i hi).shots⟩, h.done, h.error⟩

/-- Two buffers are queued before the stream starts, the second one first. -/
def queuedBefore : List Act :=
  [.reqBufs .inject 2, .prepareBuf .inject 0 32 true, .prepareBuf .inject 1 32 true,
    .qBuf .inject 1, .qBuf .inject 0, .reqBufs .capture 2, .prepareBuf .capture 0 16 true,
    .qBuf .capture 0, .prepareBuf .capture 1 16 true, .qBuf .capture 1, .streamOn .capture,
    .give .capture 0, .give .capture 1, .startStreaming .capture, .streamOn .inject,
    .give .inject 1, .give .inject 0, .startStreaming .inject]

/-- The frame of the second buffer is captured and held, and comes back when the next one is
captured. -/
theorem frames_in_order_two : ∃ f : Film,
    f.shots.map Shot.number = [1, 2] ∧ (f.dev.inject.buffer 1).state = .done ∧
    f.number 1 = 1 ∧ ∃ x ∈ f.shots, x.number = f.number 1 := by
  have hrun : (exec (guarded (Film.step .twoModes) Film.QueuedFirst) (Film.initial .twoModes 1)
      (queuedBefore ++ working ++ [.tick 40000000] ++ working)).map
      (fun f => (f.shots.map Shot.number, (f.dev.inject.buffer 1).state, f.number 1)) =
      some ([1, 2], .done, 1) := by
    decide +kernel
  obtain ⟨f, hf, hview⟩ := Option.map_eq_some_iff.mp hrun
  simp only [Prod.mk.injEq] at hview
  obtain ⟨hnumbers, hdone, hnumber⟩ := hview
  have hall := frames_in_order (by decide) (reach_of_exec hf)
  exact ⟨f, hnumbers, hdone, hnumber, hall.2.2.2.2.2.1 1 hdone⟩

end Sensorium.Camera

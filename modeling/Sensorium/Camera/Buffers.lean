import Sensorium.Camera.Conversion
import Sensorium.Camera.ReadMode
import Sensorium.Lib.Ledger

/-!
# The buffers of a camera

vb2 lends its buffers to the driver, which keeps them in the list of their node, or holds one
inject buffer to repeat its frame.  Every function of the driver keeps the books of both nodes,
and the held buffer is as long as the layout asks for, since a change of the layout gives the held
buffer back.
-/

namespace Sensorium.Camera

open Lib

/-- The books of a node, with the buffers that the driver has. -/
abbrev Books (buffers : List Buffer) (out : List Nat) : Prop :=
  Ledger Buffer.given Buffer.returned (fun b => b.state = .active) buffers out

/-- The buffers of a node that the driver has. -/
def Device.out (s : Device) : NodeId → List Nat
  | .inject => s.held.toList ++ s.inject.list
  | .capture => s.capture.list

/-! ## Nodes -/

section Nodes

variable {n : Node} {held : List Nat} {i : Nat} {state : BufferState}

theorem getElem?_buffer (h : i < n.buffers.length) : n.buffers[i]? = some (n.buffer i) := by
  rw [Node.buffer, List.getD_eq_getElem?_getD, List.getElem?_eq_getElem h]
  rfl

theorem planeSize_modify {f : Buffer → Buffer} (hf : ∀ b, (f b).planeSize = b.planeSize) (j : Nat) :
    ((n.modify i f).buffer j).planeSize = (n.buffer j).planeSize := by
  simp only [Node.buffer, Node.modify, List.getD_eq_getElem?_getD, List.getElem?_modify]
  cases n.buffers[j]? with
  | none => rfl
  | some b =>
    show (if i = j then f b else b).planeSize = b.planeSize
    split
    · exact hf b
    · rfl

theorem planeSize_completeBuffer (j : Nat) :
    ((n.completeBuffer i state).buffer j).planeSize = (n.buffer j).planeSize := by
  refine planeSize_modify (n := { n with list := n.list.erase i }) ?_ j
  exact fun _ => rfl

theorem planeSize_bufferDone (j : Nat) :
    ((n.bufferDone i state).buffer j).planeSize = (n.buffer j).planeSize := by
  refine planeSize_modify ?_ j
  exact fun _ => rfl

theorem planeSize_addTail (j : Nat) :
    ((n.addTail i).buffer j).planeSize = (n.buffer j).planeSize := by
  refine planeSize_modify (n := { n with list := n.list ++ [i] }) ?_ j
  exact fun _ => rfl

theorem books_bufferDone {out : List Nat} (h : Books n.buffers out) (hi : i ∈ out)
    (hstate : state ≠ .active) : Books (n.bufferDone i state).buffers (out.erase i) :=
  h.takeBack hi fun _ => ⟨hstate, rfl, rfl⟩

theorem books_completeBuffer (held : List Nat) (h : Books n.buffers (held ++ n.list))
    (hi : i ∈ n.list)
    (hstate : state ≠ .active) :
    Books (n.completeBuffer i state).buffers (held ++ (n.completeBuffer i state).list) := by
  have hheld : i ∉ held := fun hmem => (List.nodup_append.mp h.nodup).2.2 i hmem i hi rfl
  have hdone := books_bufferDone h (List.mem_append_right _ hi) hstate
  rw [List.erase_append_right _ hheld] at hdone
  exact hdone

theorem books_addTail (held : List Nat) (h : Books n.buffers (held ++ n.list))
    (hi : i < n.buffers.length)
    (hstate : (n.buffer i).state ≠ .active) :
    Books (n.addTail i).buffers (held ++ (n.addTail i).list) := by
  have hout : i ∉ held ++ n.list := fun hmem =>
    hstate ((h.lent i _ (getElem?_buffer hi)).mpr hmem)
  have hgiven : Books (n.addTail i).buffers (held ++ n.list ++ [i]) :=
    h.give hi hout fun _ => ⟨rfl, rfl, rfl⟩
  rw [List.append_assoc] at hgiven
  exact hgiven

/-- `list_for_each_entry_safe` over the list, which goes through it from its head. -/
theorem books_foldl_completeBuffer (hstate : state ≠ .active) (l : List Nat) (hl : n.list = l)
    (h : Books n.buffers n.list) :
    Books (l.foldl (fun n i => n.completeBuffer i state) n).buffers [] ∧
      (l.foldl (fun n i => n.completeBuffer i state) n).list = [] := by
  induction l generalizing n with
  | nil =>
    rw [hl] at h
    exact ⟨h, hl⟩
  | cons i l ih =>
    have hlist : (n.completeBuffer i state).list = l := by
      show n.list.erase i = l
      rw [hl, List.erase_cons_head]
    refine ih hlist ?_
    exact books_completeBuffer [] h (hl ▸ List.mem_cons_self) hstate

theorem books_returnAll (hstate : state ≠ .active) (h : Books n.buffers n.list) :
    Books (n.returnAll state).buffers [] ∧ (n.returnAll state).list = [] :=
  books_foldl_completeBuffer hstate n.list rfl h

theorem books_dropUndersized (size : Nat) (l : List Nat) (hl : n.list = l)
    (h : Books n.buffers (held ++ n.list)) :
    Books (n.dropUndersized size l).buffers (held ++ (n.dropUndersized size l).list) := by
  induction l generalizing n with
  | nil => exact h
  | cons i l ih =>
    rw [Node.dropUndersized]
    split
    · have hlist : (n.completeBuffer i .error).list = l := by
        show n.list.erase i = l
        rw [hl, List.erase_cons_head]
      refine ih hlist ?_
      exact books_completeBuffer held h (hl ▸ List.mem_cons_self) fun hs => by cases hs
    · exact h

theorem planeSize_dropUndersized (size : Nat) (l : List Nat) (j : Nat) :
    ((n.dropUndersized size l).buffer j).planeSize = (n.buffer j).planeSize := by
  induction l generalizing n with
  | nil => rfl
  | cons i l ih =>
    rw [Node.dropUndersized]
    split
    · exact ih.trans (planeSize_completeBuffer j)
    · rfl

/-- What the loop leaves at the head of the list is large enough. -/
theorem head_dropUndersized (size : Nat) (l : List Nat) (hl : n.list = l)
    (hi : (n.dropUndersized size l).list.head? = some i) :
    size ≤ ((n.dropUndersized size l).buffer i).planeSize := by
  induction l generalizing n with
  | nil =>
    rw [Node.dropUndersized, hl] at hi
    cases hi
  | cons j l ih =>
    rw [Node.dropUndersized] at hi ⊢
    split at hi
    · rename_i hsmall
      rw [if_pos hsmall]
      refine ih ?_ hi
      show n.list.erase j = l
      rw [hl, List.erase_cons_head]
    · rename_i hlarge
      rw [if_neg hlarge]
      rw [hl] at hi
      cases hi
      simp only [Node.undersized, Bool.or_eq_true, decide_eq_true_eq, not_or, Nat.not_lt] at hlarge
      exact hlarge.1

end Nodes

theorem modeAt_mem (cfg : Config) (i : Nat) : cfg.modeAt i ∈ cfg.modes := by
  rw [Config.modeAt, List.getD_eq_getElem?_getD]
  cases hi : cfg.modes[i]? with
  | none => exact List.mem_cons_self
  | some mode => exact List.mem_of_getElem? hi

/-! ## The invariant -/

/-- The books are in balance, an idle node has none of its buffers with the driver, the layout is
that of the active mode, the held buffer fits it, and what was copied and delivered so far is in
order. -/
structure Sound (cfg : Config) (s : Device) : Prop where
  inject : Books s.inject.buffers (s.held.toList ++ s.inject.list)
  capture : Books s.capture.buffers s.capture.list
  injectIdle : s.inject.phase = .idle → s.held.toList ++ s.inject.list = []
  captureIdle : s.capture.phase = .idle → s.capture.list = []
  layout : s.layout = updateInjectLayout (s.mode cfg) s.layout.pixelformat
  held : ∀ i ∈ s.held, s.layout.sizeImage ≤ (s.inject.buffer i).planeSize
  copies : ∀ c ∈ s.copies, c.InBounds
  frames : s.delivered.map Frame.sequence = (List.range s.delivered.length).map (· % 2 ^ 32)
  sequence : s.sequence = s.delivered.length % 2 ^ 32

namespace Sound

variable {cfg : Config} {s t : Device} {k : NodeId} {n : Node} {i : Nat}

theorem books (h : Sound cfg s) : Books (s.node k).buffers (s.out k) := by
  cases k with
  | inject => exact h.inject
  | capture => exact h.capture

theorem idle (h : Sound cfg s) (hphase : (s.node k).phase = .idle) : s.out k = [] := by
  cases k with
  | inject => exact h.injectIdle hphase
  | capture => exact h.captureIdle hphase

theorem of_timeless (h : Sound cfg s) (ht : t.timeless = s.timeless) : Sound cfg t := by
  have hs := sameButClock ht
  have hmode : t.mode cfg = s.mode cfg := congrArg cfg.modeAt hs.active
  constructor
  · rw [hs.inject, hs.held]
    exact h.inject
  · rw [hs.capture]
    exact h.capture
  · rw [hs.inject, hs.held]
    exact h.injectIdle
  · rw [hs.capture]
    exact h.captureIdle
  · rw [hs.layout, hmode]
    exact h.layout
  · rw [hs.held, hs.layout, hs.inject]
    exact h.held
  · rw [hs.copies]
    exact h.copies
  · rw [hs.delivered]
    exact h.frames
  · rw [hs.sequence, hs.delivered]
    exact h.sequence

/-- A change of a node that leaves its list, and the planes of the buffers that the driver has. -/
theorem setNode (h : Sound cfg s) (hlist : n.list = (s.node k).list)
    (hbooks : Books n.buffers (s.out k)) (hidle : n.phase = .idle → s.out k = [])
    (hplane : ∀ i ∈ s.out k, (n.buffer i).planeSize = ((s.node k).buffer i).planeSize) :
    Sound cfg (s.setNode k n) := by
  cases k with
  | inject =>
    have hlist : n.list = s.inject.list := hlist
    exact { h with
      inject := by
        show Books n.buffers (s.held.toList ++ n.list)
        rw [hlist]
        exact hbooks
      injectIdle := by
        show _ → s.held.toList ++ n.list = []
        rw [hlist]
        exact hidle
      held := fun i hi => by
        show s.layout.sizeImage ≤ (n.buffer i).planeSize
        rw [hplane i (List.mem_append_left _ (Option.mem_toList.mpr hi))]
        exact h.held i hi }
  | capture =>
    have hlist : n.list = s.capture.list := hlist
    exact { h with
      capture := by
        show Books n.buffers n.list
        rw [hlist]
        exact hbooks
      captureIdle := by
        show _ → n.list = []
        rw [hlist]
        exact hidle }

theorem setPhase (h : Sound cfg s) (c : Caller) {p : Phase} (hp : p ≠ .idle ∨ c = .sensor) :
    Sound cfg (s.setPhase c p) := by
  cases c with
  | node k =>
    have hp : p ≠ .idle := hp.elim id fun heq => by cases heq
    exact h.setNode rfl h.books (fun hidle => absurd hidle hp) fun _ _ => rfl
  | sensor => exact { h with }

/-! ## Functions of the driver -/

theorem bufQueue (h : Sound cfg s) (hphase : (s.node k).phase ≠ .idle)
    (hi : i < (s.node k).buffers.length) (hstate : ((s.node k).buffer i).state ≠ .active) :
    Sound cfg (s.bufQueue cfg k i) := by
  have hgiven : Sound cfg (s.setNode k ((s.node k).addTail i)) := by
    cases k with
    | inject =>
      exact { h with
        inject := books_addTail _ h.inject hi hstate
        injectIdle := fun hidle => absurd hidle hphase
        held := fun j hj => by
          show _ ≤ ((s.inject.addTail i).buffer j).planeSize
          rw [planeSize_addTail]
          exact h.held j hj }
    | capture =>
      exact { h with
        capture := books_addTail [] h.capture hi hstate
        captureIdle := fun hidle => absurd hidle hphase }
  unfold Device.bufQueue
  simp only
  split
  · exact hgiven.of_timeless (timeless_armClock cfg _)
  · exact hgiven

theorem startStreaming (h : Sound cfg s) : Sound cfg (s.startStreaming cfg k) := by
  have hphase : Sound cfg (s.setPhase (.node k) .streaming) :=
    h.setPhase _ (.inl fun hp => by cases hp)
  unfold Device.startStreaming
  refine Sound.of_timeless ?_ ((timeless_armClock cfg _).trans (timeless_resetClock cfg _))
  cases k with
  | inject => exact hphase
  | capture => exact { hphase with frames := rfl, sequence := rfl }

theorem releaseHeld (h : Sound cfg s) (state : BufferState) (hstate : state ≠ .active) :
    Sound cfg (s.releaseHeld state) := by
  unfold Device.releaseHeld
  split
  · exact h
  · rename_i i hi
    have hbooks := h.inject
    rw [hi] at hbooks
    exact { h with
      inject := by
        have hdone := books_bufferDone hbooks List.mem_cons_self hstate
        rw [show (some i).toList ++ s.inject.list = i :: s.inject.list from rfl,
          List.erase_cons_head] at hdone
        exact hdone
      injectIdle := fun hidle => by
        have hout := h.injectIdle hidle
        rw [hi] at hout
        cases hout
      held := fun _ hj => by cases hj }

theorem held_releaseHeld (s : Device) (state : BufferState) : (s.releaseHeld state).held = none := by
  unfold Device.releaseHeld
  split
  · assumption
  · rfl

theorem layout_releaseHeld (s : Device) (state : BufferState) :
    (s.releaseHeld state).layout = s.layout := by
  unfold Device.releaseHeld
  split <;> rfl

theorem releaseHeld_withMode (s : Device) (mode : Nat) (state : BufferState) :
    Device.releaseHeld { s with active := mode } state =
      { s.releaseHeld state with active := mode } := by
  unfold Device.releaseHeld
  simp only
  split <;> rfl

/-- Another layout, of any mode, while no buffer is held. -/
theorem relayout (h : Sound cfg s) (hheld : s.held = none) (mode : Nat) (pixelformat : PixelFormat) :
    Sound cfg { s with
      active := mode, layout := updateInjectLayout (cfg.modeAt mode) pixelformat } :=
  { h with
    layout := (updateInjectLayout_idem _ _ _).symm
    held := fun i hi => by
      rw [show s.held = some i from hi] at hheld
      cases hheld }

theorem setInjectFormat (h : Sound cfg s) (hheld : s.held = none) (pixelformat : PixelFormat) :
    Sound cfg (s.setInjectFormat cfg pixelformat).2 := by
  unfold Device.setInjectFormat
  split
  · exact h
  · exact h.relayout hheld s.active pixelformat

/-- The pixel format of a layout is one that the table has. -/
theorem ingressFormat (h : Sound cfg s) : findIngressFormat s.layout.pixelformat ≠ none := by
  rw [h.layout]
  cases s.layout.pixelformat <;> exact fun hf => by cases hf

theorem changeMode (h : Sound cfg s) (mode : Nat) : Sound cfg (s.changeMode cfg mode) := by
  have hreleased := (h.releaseHeld .error fun hs => by cases hs).relayout
    (held_releaseHeld s .error) mode s.layout.pixelformat
  unfold Device.changeMode Device.setInjectFormat
  rw [releaseHeld_withMode]
  simp only [layout_releaseHeld]
  split
  · rename_i hnone
    exact absurd hnone h.ingressFormat
  · exact hreleased

theorem applyMode (h : Sound cfg s) (mode : Nat) : Sound cfg (s.applyMode cfg mode) :=
  (h.changeMode mode).of_timeless (timeless_applyMode cfg s mode)

theorem held_applyMode (s : Device) (mode : Nat) : (s.applyMode cfg mode).held = none := by
  rw [(sameButClock (timeless_applyMode cfg s mode)).held]
  unfold Device.changeMode Device.setInjectFormat
  simp only
  split
  · exact held_releaseHeld _ _
  · exact held_releaseHeld _ _

theorem injectSFmt (h : Sound cfg s) (hphase : s.inject.phase.unlocked = true)
    (width height : Nat) (pixelformat : PixelFormat) :
    Sound cfg (s.injectSFmt cfg width height pixelformat).2 := by
  unfold Device.injectSFmt
  simp only
  split
  · exact h
  · rename_i hpass
    split
    · exact (h.applyMode _).setInjectFormat (held_applyMode s _) _
    · rename_i hmode
      cases hstreaming : s.inject.streaming with
      | true =>
        -- the node streams, so the request names the format that it has
        have hsame : pixelformat.supported = s.layout.pixelformat := by
          simp only [hstreaming, Bool.true_or, Bool.true_and, Bool.or_eq_true, decide_eq_true_eq,
            not_or, not_not] at hpass
          exact hpass.2
        have hlayout := h.layout
        rw [hsame]
        unfold Device.setInjectFormat
        split
        · exact h
        · rw [← hlayout]
          exact h
      | false =>
        have hidle : s.inject.phase = .idle := by
          simp only [Phase.unlocked, Bool.or_eq_true, decide_eq_true_eq] at hphase
          exact hphase.resolve_right (of_decide_eq_false hstreaming)
        have hheld : s.held = none := by
          have hout := h.injectIdle hidle
          rw [List.append_eq_nil_iff, Option.toList_eq_nil_iff] at hout
          exact hout.1
        exact h.setInjectFormat hheld _

theorem captureSFmt (h : Sound cfg s) (width height : Nat) :
    Sound cfg (s.captureSFmt cfg width height).2 := by
  unfold Device.captureSFmt
  simp only
  split
  · exact h
  · split
    · exact h.applyMode _
    · exact h

theorem setFmt (h : Sound cfg s) (pad : Nat) (tried : Bool) (width height : Nat) :
    Sound cfg (s.setFmt cfg pad tried width height).2 := by
  unfold Device.setFmt
  split
  · exact h
  · split
    · exact h
    · simp only
      split
      · exact h
      · split
        · exact h
        · split
          · exact h.applyMode _
          · exact h

/-- The buffers of a node are all back when its `STREAMOFF` ends. -/
theorem returnBuffers (h : Sound cfg s) (k : NodeId) : Sound cfg (s.returnBuffers k) := by
  have herror : BufferState.error ≠ .active := fun hs => by cases hs
  have hdequeue : ∀ b : Buffer, ¬({ b with state := .dequeued, prepared := false } : Buffer).state =
      .active ∧ b.given = b.given ∧ b.returned = b.returned :=
    fun _ => ⟨fun hs => (by cases hs), rfl, rfl⟩
  cases k with
  | inject =>
    have hreleased := h.releaseHeld .error herror
    have hheld := held_releaseHeld s .error
    have hbooks := hreleased.inject
    rw [hheld] at hbooks
    obtain ⟨hall, hempty⟩ := books_returnAll herror hbooks
    have hout : ∀ l : List Nat, l = [] → (s.releaseHeld .error).held.toList ++ l = [] := fun l hl => by
      rw [hheld, hl]
      rfl
    exact { hreleased with
      inject := by
        show Books (((s.releaseHeld .error).inject.returnAll .error).dequeueAll).buffers
          ((s.releaseHeld .error).held.toList ++ ((s.releaseHeld .error).inject.returnAll .error).list)
        rw [hout _ hempty]
        exact hall.map_of_nil hdequeue
      injectIdle := fun _ => hout _ hempty
      held := fun i hi => by
        rw [show (s.releaseHeld .error).held = some i from hi] at hheld
        cases hheld }
  | capture =>
    obtain ⟨hall, hempty⟩ := books_returnAll herror h.capture
    exact { h with
      capture := by
        show Books ((s.capture.returnAll .error).dequeueAll).buffers (s.capture.returnAll .error).list
        rw [show (s.capture.returnAll .error).list = [] from hempty]
        exact hall.map_of_nil hdequeue
      captureIdle := fun _ => hempty }

/-! ## Delivery -/

/-- A copy from a buffer that fits the layout into one that fits the mode. -/
theorem copy_inBounds (h : Sound cfg s) (hmode : (s.mode cfg).Regular) {c : Nat}
    (hsource : s.layout.sizeImage ≤ (s.inject.buffer i).planeSize)
    (htarget : (s.mode cfg).frameSize ≤ (s.capture.buffer c).planeSize) :
    (s.copy cfg (s.mode cfg) i c).InBounds := by
  unfold Device.copy
  simp only
  split
  · rename_i hraw
    rw [h.layout] at hraw
    rw [h.layout, sizeImage_raw _ hraw] at hsource
    exact ⟨hsource, htarget⟩
  · rename_i hpacked
    refine convert_inBounds hmode ?_ hsource htarget
    rw [h.layout] at hpacked ⊢
    exact packed_of_ne_raw _ hpacked

theorem addCopy (h : Sound cfg s) {copy : Copy} (hcopy : copy.InBounds) :
    Sound cfg { s with copies := s.copies ++ [copy] } :=
  { h with
    copies := fun c hc => by
      rcases List.mem_append.mp hc with hc | hc
      · exact h.copies c hc
      · rw [List.mem_singleton.mp hc]
        exact hcopy }

/-- A capture buffer goes back. -/
theorem completeCapture (h : Sound cfg s) {c : Nat} (hc : c ∈ s.capture.list)
    (state : BufferState) (hstate : state ≠ .active) (hphase : s.capture.phase ≠ .idle) :
    Sound cfg { s with capture := s.capture.completeBuffer c state } :=
  { h with
    capture := books_completeBuffer [] h.capture hc hstate
    captureIdle := fun hidle => absurd hidle hphase }

/-- The frame is stamped and numbered, and its buffer goes back. -/
theorem finishFrame (h : Sound cfg s) (mode : Mode) {c : Nat} (hc : c ∈ s.capture.list)
    (hphase : s.capture.phase ≠ .idle) : Sound cfg (s.finishFrame mode c) := by
  have hpayload : Sound cfg { s with
      capture := s.capture.modify c fun b => { b with payload := mode.frameSize } } :=
    { h with capture := h.capture.edit fun _ _ => ⟨Iff.rfl, rfl, rfl⟩ }
  have hdone := hpayload.completeCapture hc .done (fun hs => by cases hs) hphase
  exact { hdone with
    frames := by
      show (s.delivered ++ [_]).map Frame.sequence =
        (List.range (s.delivered ++ [_]).length).map (· % 2 ^ 32)
      rw [List.map_append, List.length_append, List.length_singleton, List.range_succ,
        List.map_append, h.frames]
      simp [h.sequence]
    sequence := by
      show (s.sequence + 1) % 2 ^ 32 = (s.delivered ++ [_]).length % 2 ^ 32
      rw [h.sequence, List.length_append, List.length_singleton, Nat.mod_add_mod] }

/-- The buffer at the head of the inject list becomes the held one. -/
theorem holdInject (h : Sound cfg s) (hi : i ∈ s.inject.list) (hphase : s.inject.phase ≠ .idle)
    (hplane : s.layout.sizeImage ≤ (s.inject.buffer i).planeSize) : Sound cfg (s.holdInject i) := by
  have hreleased := h.releaseHeld .done fun hs => by cases hs
  have hheld := held_releaseHeld s .done
  have hlist : (s.releaseHeld .done).inject.list = s.inject.list := by
    unfold Device.releaseHeld
    split <;> rfl
  have hsame : ((s.releaseHeld .done).inject.buffer i).planeSize =
      (s.inject.buffer i).planeSize := by
    unfold Device.releaseHeld
    split
    · rfl
    · exact planeSize_bufferDone i
  have hbooks := hreleased.inject
  rw [hheld] at hbooks
  exact { hreleased with
    inject := hbooks.perm (List.perm_cons_erase (hlist ▸ hi)).symm
    injectIdle := fun hidle => by
      have hsame : s.inject.phase = .idle :=
        (releaseHeld_threads s .done).inject.symm.trans hidle
      exact absurd hsame hphase
    held := fun j hj => by
      cases hj
      show (s.releaseHeld .done).layout.sizeImage ≤ ((s.releaseHeld .done).inject.buffer i).planeSize
      rw [layout_releaseHeld, hsame]
      exact hplane }

theorem dropInject (h : Sound cfg s) (size : Nat) (hphase : s.inject.phase ≠ .idle) :
    Sound cfg { s with inject := s.inject.dropUndersized size s.inject.list } :=
  { h with
    inject := books_dropUndersized size _ rfl h.inject
    injectIdle := fun hidle =>
      absurd ((phase_dropUndersized size _ s.inject).symm.trans hidle) hphase
    held := fun i hi => by
      show _ ≤ ((s.inject.dropUndersized size s.inject.list).buffer i).planeSize
      rw [planeSize_dropUndersized]
      exact h.held i hi }

/-- A delivery from an inject buffer that fits the layout, at the head of the list. -/
theorem deliverFrom (h : Sound cfg s) (hmode : (s.mode cfg).Regular) {c : Nat}
    (hinject : s.inject.phase ≠ .idle) (hcapture : s.capture.phase ≠ .idle)
    (hi : i ∈ s.inject.list) (hc : c ∈ s.capture.list)
    (hsource : s.layout.sizeImage ≤ (s.inject.buffer i).planeSize)
    (htarget : (s.mode cfg).frameSize ≤ (s.capture.buffer c).planeSize) :
    Sound cfg (s.deliverFrom cfg (s.mode cfg) c i) := by
  unfold Device.deliverFrom
  cases cfg.repeatLastFrame with
  | true =>
    have hheld := h.holdInject hi hinject hsource
    have hsame : (s.holdInject i).capture = s.capture ∧ (s.holdInject i).active = s.active := by
      unfold Device.holdInject Device.releaseHeld
      cases s.held <;> exact ⟨rfl, rfl⟩
    have hsmode : (s.holdInject i).mode cfg = s.mode cfg := congrArg cfg.modeAt hsame.2
    simp only [if_true]
    refine finishFrame (hheld.addCopy ?_) _ ?_ ?_
    · rw [← hsmode] at hmode htarget ⊢
      refine hheld.copy_inBounds hmode (hheld.held i rfl) ?_
      rw [hsame.1]
      exact htarget
    · exact hsame.1 ▸ hc
    · exact hsame.1 ▸ hcapture
  | false =>
    have hcopied := h.addCopy (h.copy_inBounds hmode hsource htarget)
    simp only [Bool.false_eq_true, if_false]
    refine finishFrame ?_ _ hc hcapture
    exact { hcopied with
      inject := books_completeBuffer _ h.inject hi fun hs => by cases hs
      injectIdle := fun hidle => absurd hidle hinject
      held := fun j hj => by
        show _ ≤ ((s.inject.completeBuffer i .done).buffer j).planeSize
        rw [planeSize_completeBuffer]
        exact h.held j hj }

theorem repeatFrame (h : Sound cfg s) (hmode : (s.mode cfg).Regular) {c : Nat}
    (hcapture : s.capture.phase ≠ .idle) (hc : c ∈ s.capture.list)
    (htarget : (s.mode cfg).frameSize ≤ (s.capture.buffer c).planeSize) :
    Sound cfg (s.repeatFrame cfg (s.mode cfg) c) := by
  unfold Device.repeatFrame
  split
  · exact h
  · rename_i i hi
    split
    · refine finishFrame (h.addCopy ?_) _ hc hcapture
      exact h.copy_inBounds hmode (h.held i hi) htarget
    · exact h

theorem tryDeliverFrame (h : Sound cfg s) (hmode : (s.mode cfg).Regular)
    (hinject : s.inject.phase ≠ .idle) (hcapture : s.capture.phase ≠ .idle) :
    Sound cfg (s.tryDeliverFrame cfg (s.mode cfg)) := by
  have hdropped := h.dropInject s.layout.sizeImage hinject
  have hphase : (s.inject.dropUndersized s.layout.sizeImage s.inject.list).phase ≠ .idle := by
    rw [phase_dropUndersized]
    exact hinject
  unfold Device.tryDeliverFrame
  split
  · exact h
  · split
    · exact h
    · rename_i c rest hlist
      have hc : c ∈ s.capture.list := by
        rw [hlist]
        exact List.mem_cons_self
      split
      · exact h.completeCapture hc .error (fun hs => by cases hs) hcapture
      · rename_i hlarge
        have htarget : (s.mode cfg).frameSize ≤ (s.capture.buffer c).planeSize := by
          simp only [Bool.or_eq_true, decide_eq_true_eq, not_or, Nat.not_lt] at hlarge
          exact hlarge.1
        simp only
        split
        · rename_i i hhead
          have hi := (Option.mem_filter_iff.mp (Option.mem_def.mpr hhead)).1
          exact hdropped.deliverFrom hmode hphase hcapture (List.mem_of_mem_head? hi) hc
            (head_dropUndersized _ _ rfl hi) htarget
        · split
          · exact hdropped.repeatFrame hmode hcapture hc htarget
          · exact hdropped

/-! ## Every run -/

theorem hasBuffer {state : BufferState} (h : s.hasBuffer k i state = true) :
    i < (s.node k).buffers.length ∧ ((s.node k).buffer i).state = state := by
  simpa [Device.hasBuffer] using h

/-- A change of a buffer that vb2 has, to another state of vb2. -/
theorem modifyBuffer (h : Sound cfg s) {state : BufferState} {f : Buffer → Buffer}
    (hi : s.hasBuffer k i state = true) (hstate : state ≠ .active)
    (hf : ∀ b, b.state ≠ .active → (f b).state ≠ .active ∧ (f b).given = b.given ∧
      (f b).returned = b.returned) :
    Sound cfg (s.setNode k ((s.node k).modify i f)) := by
  obtain ⟨hlength, hs⟩ := hasBuffer hi
  have hget := getElem?_buffer hlength
  have hout : i ∉ s.out k := fun hmem => hstate (hs ▸ (h.books.lent i _ hget).mpr hmem)
  refine h.setNode rfl ?_ h.idle fun j hj => ?_
  · refine h.books.edit fun b hb => ?_
    rw [hget] at hb
    cases hb
    have hnot : ((s.node k).buffer i).state ≠ .active := fun ha => hstate (hs ▸ ha)
    obtain ⟨hstate', hgiven, hreturned⟩ := hf _ hnot
    exact ⟨⟨fun ha => absurd ha hstate', fun ha => absurd ha hnot⟩, hgiven, hreturned⟩
  · have hne : i ≠ j := fun heq => hout (heq ▸ hj)
    simp [Node.buffer, Node.modify, hne]

/-- An idle node has no buffer with the driver, so that its table can be replaced. -/
theorem reqBufs {count : Nat} (h : Sound cfg s) (ha : s.enabled cfg (.reqBufs k count) = true) :
    Sound cfg (s.next cfg (.reqBufs k count)) := by
  have hout := h.idle (of_decide_eq_true ha)
  have hfresh : Books ([] ++ List.replicate count ({} : Buffer)) [] := by
    refine Ledger.nil.append fun b hb => ?_
    rw [List.eq_of_mem_replicate hb]
    exact ⟨fun hs => (by cases hs), rfl⟩
  refine h.setNode rfl (hout ▸ hfresh) (fun _ => hout) fun i hi => ?_
  rw [hout] at hi
  exact (List.not_mem_nil hi).elim

theorem createBufs (h : Sound cfg s) (k : NodeId) (count : Nat) :
    Sound cfg (s.next cfg (.createBufs k count)) := by
  refine h.setNode rfl ?_ h.idle fun i hi => ?_
  · refine h.books.append fun b hb => ?_
    rw [List.eq_of_mem_replicate hb]
    exact ⟨fun hs => (by cases hs), rfl⟩
  · simp only [Node.buffer, List.getD_eq_getElem?_getD]
    rw [List.getElem?_append_left (h.books.inside i hi)]

theorem qBuf (h : Sound cfg s) (ha : s.enabled cfg (.qBuf k i) = true) :
    Sound cfg (s.next cfg (.qBuf k i)) := by
  simp only [Device.enabled, Bool.and_eq_true] at ha
  simp only [Device.next]
  split
  · rename_i hstreaming
    obtain ⟨hlength, hstate⟩ := hasBuffer ha.1.2
    refine h.bufQueue ?_ hlength fun hs => ?_
    · rw [show (s.node k).phase = .streaming from of_decide_eq_true hstreaming]
      exact fun hp => by cases hp
    · rw [hstate] at hs
      cases hs
  · exact h.modifyBuffer ha.1.2 (fun hs => by cases hs) fun b _ =>
      ⟨fun hs => (by cases hs), rfl, rfl⟩

/-- A node that does not stream gives back what was queued before, and none of it is with the
driver. -/
theorem streamOff (h : Sound cfg s) (ha : s.enabled cfg (.streamOff k) = true) :
    Sound cfg (s.next cfg (.streamOff k)) := by
  simp only [Device.next]
  split
  · exact h.setPhase (.node k) (.inl fun hp => by cases hp)
  · rename_i hstreaming
    have hidle : (s.node k).phase = .idle := by
      simp only [Device.enabled, Phase.unlocked, Bool.or_eq_true, decide_eq_true_eq] at ha
      exact ha.resolve_right fun hp => hstreaming (decide_eq_true hp)
    have hout := h.idle hidle
    have hbooks := h.books (k := k)
    rw [hout] at hbooks
    refine h.setNode rfl ?_ (fun _ => hout) fun i hi => ?_
    · rw [hout]
      exact hbooks.map_of_nil fun _ => ⟨fun hs => (by cases hs), rfl, rfl⟩
    · rw [hout] at hi
      exact (List.not_mem_nil hi).elim

theorem deliver (h : Sound cfg s) (hlive : s.Live) (htable : ∀ mode ∈ cfg.modes, mode.Regular) :
    Sound cfg (s.next cfg .deliver) := by
  simp only [Device.next]
  split
  · exact h
  · rename_i run hwork
    cases hrun : s.canRun with
    | false =>
      have hsame : s.tryDeliverFrame cfg (cfg.modeAt run.mode) = s := by
        simp [Device.tryDeliverFrame, hrun]
      rw [hsame]
      exact { h with }
    | true =>
      -- both nodes stream, so the work has read the mode that is active
      rw [hlive.readMode hrun hwork]
      simp only [Device.canRun, Node.streaming, Bool.and_eq_true, decide_eq_true_eq] at hrun
      have htried := h.tryDeliverFrame (htable _ (modeAt_mem cfg s.active))
        (by rw [hrun.1]; exact fun hp => by cases hp)
        (by rw [hrun.2]; exact fun hp => by cases hp)
      exact { htried with }

theorem advance (h : Sound cfg s) (elapsed : Nat) : Sound cfg (s.advance cfg elapsed) := by
  unfold Device.advance
  split
  · exact h
  · simp only
    split
    · exact { h with }
    · refine Sound.of_timeless ?_ (timeless_modDelayedWork cfg _ _)
      exact { h with }

theorem next {a : Act} (h : Sound cfg s) (hlive : s.Live)
    (htable : ∀ mode ∈ cfg.modes, mode.Regular) (ha : s.enabled cfg a = true) :
    Sound cfg (s.next cfg a) := by
  cases a with
  | injectSFmt width height pixelformat => exact h.injectSFmt ha width height pixelformat
  | captureSFmt width height => exact h.captureSFmt width height
  | setFmt pad tried width height => exact h.setFmt pad tried width height
  | reqBufs k count => exact h.reqBufs ha
  | createBufs k count => exact h.createBufs k count
  | prepareBuf k i planeSize mapped =>
    simp only [Device.enabled, Bool.and_eq_true] at ha
    simp only [Device.next, Device.bufPrepare]
    split
    · exact h
    · exact h.modifyBuffer ha.1.2 (fun hs => by cases hs) fun b hb => ⟨hb, rfl, rfl⟩
  | qBuf k i => exact h.qBuf ha
  | dqBuf k i =>
    simp only [Device.enabled, Bool.and_eq_true, Bool.or_eq_true] at ha
    rcases ha.2 with hdone | herror
    · exact h.modifyBuffer hdone (fun hs => by cases hs) fun b _ =>
        ⟨fun hs => (by cases hs), rfl, rfl⟩
    · exact h.modifyBuffer herror (fun hs => by cases hs) fun b _ =>
        ⟨fun hs => (by cases hs), rfl, rfl⟩
  | streamOn k => exact h.setPhase (.node k) (.inl fun hp => by cases hp)
  | give k i =>
    simp only [Device.enabled, Bool.and_eq_true, decide_eq_true_eq] at ha
    obtain ⟨hlength, hstate⟩ := hasBuffer ha.2
    refine h.bufQueue ?_ hlength fun hs => ?_
    · rw [ha.1]
      exact fun hp => by cases hp
    · rw [hstate] at hs
      cases hs
  | startStreaming k => exact h.startStreaming
  | streamOff k => exact h.streamOff ha
  | cancelWork c =>
    have hphase := h.setPhase c (p := .cancelling) (.inl fun hp => by cases hp)
    exact { hphase with }
  | workCancelled c => exact h.setPhase c (.inl fun hp => by cases hp)
  | clearClock c =>
    have hphase : Sound cfg (s.setPhase c c.after) := by
      cases c with
      | node k => exact h.setPhase (.node k) (.inl fun hp => by cases hp)
      | sensor => exact h.setPhase .sensor (.inr rfl)
    exact { hphase with }
  | returnBuffers k => exact h.returnBuffers k
  | startWork => exact { h with }
  | deliver => exact h.deliver hlive htable
  | advance elapsed =>
    have hadvanced := h.advance elapsed
    exact { hadvanced with }
  | vblank value => exact h.of_timeless (timeless_setVblank cfg s value)
  | sStream enable =>
    cases enable with
    | true => exact h.of_timeless ((timeless_armClock cfg _).trans (timeless_resetClock cfg s))
    | false => exact { h with }
  | tick elapsed => exact { h with }

theorem initial (cfg : Config) (now : Nat) : Sound cfg (cfg.initial now) := by
  refine Sound.applyMode ?_ 0
  exact {
    inject := Ledger.nil
    capture := Ledger.nil
    injectIdle := fun _ => rfl
    captureIdle := fun _ => rfl
    layout := rfl
    held := fun _ hi => by cases hi
    copies := fun _ hc => (List.not_mem_nil hc).elim
    frames := rfl
    sequence := rfl }

theorem reach {now : Nat} (htable : ∀ mode ∈ cfg.modes, mode.Regular)
    (hr : Reach (step cfg) anyStep (cfg.initial now) s) : Sound cfg s := by
  refine hr.invariant_of_reach (Sound.initial cfg now) fun s a t hr hs _ hstep => ?_
  obtain ⟨ha, rfl⟩ := step_eq_some.mp hstep
  exact hs.next (live_of_reach hr) htable ha

end Sound

/-- In every run, each node's buffers are lent and returned in balance: the driver has a buffer
once, in the list of the node or as the held one, or has returned it as often as it was given.
The held buffer fits the layout, no copy leaves its planes, and the frames of a session are
numbered in turn. -/
theorem buffers_conserved {cfg : Config} {now : Nat} {s : Device}
    (htable : ∀ mode ∈ cfg.modes, mode.Regular)
    (hr : Reach (step cfg) anyStep (cfg.initial now) s) :
    (∀ k, Books (s.node k).buffers (s.out k)) ∧
    (∀ i ∈ s.held, s.layout.sizeImage ≤ (s.inject.buffer i).planeSize) ∧
    (∀ c ∈ s.copies, c.InBounds) ∧
    s.delivered.map Frame.sequence = (List.range s.delivered.length).map (· % 2 ^ 32) := by
  have h := Sound.reach htable hr
  exact ⟨fun _ => h.books, h.held, h.copies, h.frames⟩

/-- Buffers of both nodes are given and the streams start: one inject buffer of `source` bytes, and
two capture buffers of `target` bytes. -/
def streamingBoth (source target : Nat) : List Act :=
  [.reqBufs .inject 1, .prepareBuf .inject 0 source true, .qBuf .inject 0, .reqBufs .capture 2,
    .prepareBuf .capture 0 target true, .qBuf .capture 0, .prepareBuf .capture 1 target true,
    .qBuf .capture 1, .streamOn .capture, .give .capture 0, .give .capture 1,
    .startStreaming .capture, .streamOn .inject, .give .inject 0, .startStreaming .inject]

/-- One run of the work. -/
def working : List Act := [.startWork, .deliver, .advance 0]

/-- The frame of the inject buffer is delivered, held, and delivered again. -/
theorem buffers_conserved_repeated : ∃ s : Device,
    s.held = some 0 ∧ s.copies.length = 2 ∧ s.delivered.length = 2 ∧
    (∀ k, Books (s.node k).buffers (s.out k)) ∧
    (∀ i ∈ s.held, s.layout.sizeImage ≤ (s.inject.buffer i).planeSize) ∧
    (∀ c ∈ s.copies, c.InBounds) ∧
    s.delivered.map Frame.sequence = (List.range s.delivered.length).map (· % 2 ^ 32) := by
  have hrun : (exec (guarded (step .twoModes) anyStep) (Config.twoModes.initial 1)
      (streamingBoth 32 16 ++ working ++ .tick 40000000 :: working)).map
      (fun s => (s.held, s.copies.length, s.delivered.length)) = some (some 0, 2, 2) := by
    decide +kernel
  obtain ⟨s, hs, hview⟩ := Option.map_eq_some_iff.mp hrun
  simp only [Prod.mk.injEq] at hview
  exact ⟨s, hview.1, hview.2.1, hview.2.2, buffers_conserved (by decide) (reach_of_exec hs)⟩

/-- A mode whose frames of 32 bit pixels have more than `2 ^ 32` bytes. -/
def Config.wideMode : Config where
  firstMode := { width := 32768, height := 32769, bytesPerLine := 65536,
                 frameSize := 2147549184, pixelRate := 360, hblank := 0, vblank := 1,
                 frameIntervalMs := 33 }
  otherModes := []
  repeatLastFrame := true
  jiffy := 4000000

/-- The image size wraps around, and the conversion reads behind the end of an inject buffer that
has that size. -/
theorem copy_out_of_bounds :
    (∀ mode ∈ Config.wideMode.modes, mode.frameSize = 2 * mode.width * mode.height) ∧
    ∃ s : Device, Reach (step .wideMode) anyStep (Config.wideMode.initial 1) s ∧
      ∃ c ∈ s.copies, ¬c.InBounds := by
  have hrun : (exec (guarded (step .wideMode) anyStep) (Config.wideMode.initial 1)
      (streamingBoth 131072 2147549184 ++ working)).map Device.copies =
      some [.rgb 131072 2147549184 Config.wideMode.firstMode
        (updateInjectLayout Config.wideMode.firstMode .bgr32)] := by
    decide +kernel
  obtain ⟨s, hs, hview⟩ := Option.map_eq_some_iff.mp hrun
  refine ⟨by decide, s, reach_of_exec hs, _, hview ▸ List.mem_singleton_self _, fun hbounds => ?_⟩
  -- the first pixel of the second row
  have hmem : (131073, 32768) ∈ convertSamples Config.wideMode.firstMode
      (updateInjectLayout Config.wideMode.firstMode .bgr32) :=
    mem_convertSamples.mpr ⟨1, by decide, 0, by decide, by decide⟩
  exact absurd (hbounds _ hmem).1 (by decide)

end Sensorium.Camera

import Sensorium.Inventory.Agreement

/-!
# What the lock keeps

A rule for facts about the records.  `I` holds of them whenever a step begins, and `L` is what a
worker still needs of them; only the worker inside a section that rebuilds the inventory may rely on
what it has put there.
-/

namespace Sensorium.Inventory

open Lib

/-- `I` and `L` survive every step that meets `ok`. -/
structure Keeps (ok : World → Act → Prop) (I : Daemon → Prop) (L : Daemon → Pc → Prop) : Prop where
  idle : ∀ {d : Daemon} (last : Option Ending), L d (.idle last)
  frame : ∀ {d d' : Daemon} {p : Pc}, p.holds = false → L d p → L d' p
  begins : ∀ {w : World} {t : Nat} {op : Operation} {o : Outside} {d : Daemon} {p : Pc},
    ok w (.call t op o) → I w.daemon → w.daemon.begin w.locked o op = some (d, p) → I d ∧ L d p
  advances : ∀ {w : World} {t : Nat} {o : Outside} {p : Pc} {m : Move}, ok w (.go t o) →
    w.pcs[t]? = some p → I w.daemon → L w.daemon p → advance w.daemon w.kernel o p = some m →
    I m.daemon ∧ L m.daemon m.pc
  changes : ∀ {w : World} {c : Change}, ok w (.change c) → I w.daemon → I (c.on w.daemon)
  loose : ∀ {w : World} {c : Change} {p : Pc}, ok w (.change c) → c.locks = false → I w.daemon →
    L w.daemon p → L (c.on w.daemon) p

theorem begin_holds {d d' : Daemon} {locked : Bool} {o : Outside} {op : Operation} {p : Pc}
    (h : d.begin locked o op = some (d', p)) : p.holds = false := by
  have hw := (begins_of_begin h).calm.2.1
  cases p with
  | adds _ _ _ _ => cases hw
  | idle _ | send _ | sent _ | rollback _ _ | settleFailed | fatal | resyncFailed => rfl

-- A call that does not wait for the lock has not reached the records.
theorem begin_locked {d d' : Daemon} {o : Outside} {op : Operation} {p : Pc}
    (h : d.begin true o op = some (d', p)) : d' = d := by
  cases begins_of_begin h with
  | invalid _ => rfl
  | applyDesynced _ hlocked _ | applyBlank _ hlocked _ _ | applyUnsaved _ hlocked _ _ _
  | applyOver _ hlocked _ _ _ | resetDesynced hlocked _ | reset hlocked _
  | resyncUnsaved hlocked _ | resync hlocked _ => cases hlocked

theorem advance_daemon {d : Daemon} {k : Kernel} {o : Outside} {p : Pc} {m : Move}
    (h : advance d k o p = some m) (hw : p.waits = false) (hh : p.holds = false) :
    m.daemon = d ∧ m.pc.holds = false := by
  cases p with
  | idle _ => cases h
  | send x =>
    rw [advance] at h
    split at h
    · cases h
      cases x <;> exact ⟨rfl, rfl⟩
    · cases h
      exact ⟨rfl, rfl⟩
  | adds _ _ _ _ => cases hh
  | sent _ | rollback _ _ | settleFailed | fatal | resyncFailed => cases hw

namespace World

/-- The invariant, what every worker needs, and at most one worker inside the lock. -/
structure Kept (I : Daemon → Prop) (L : Daemon → Pc → Prop) (w : World) : Prop where
  daemon : I w.daemon
  single : ∀ (t u : Nat) (p q : Pc), w.pcs[t]? = some p → w.pcs[u]? = some q → p.holds = true →
    q.holds = true → t = u
  pcs : ∀ (t : Nat) (p : Pc), w.pcs[t]? = some p → L w.daemon p

variable {ok : World → Act → Prop} {I : Daemon → Prop} {L : Daemon → Pc → Prop} {w w' : World}

theorem not_holds_of_not_locked (h : w.locked = false) {t : Nat} {p : Pc}
    (hp : w.pcs[t]? = some p) : p.holds = false := by
  have hany := List.any_eq_false.mp h p (List.mem_of_getElem? hp)
  simpa using hany

/-- Worker `t` moves on; no other worker is inside the lock, or the records stay as they are. -/
theorem Kept.set (hk : Keeps ok I L) (h : w.Kept I L) {t : Nat} {d : Daemon} {k : Kernel} {q : Pc}
    (hI : I d) (hL : L d q)
    (hothers : d = w.daemon ∧ q.holds = false ∨
      ∀ (u : Nat) (r : Pc), u ≠ t → w.pcs[u]? = some r → r.holds = false) :
    Kept I L ⟨d, k, w.pcs.set t q⟩ := by
  refine ⟨hI, ?_, ?_⟩
  · intro u v r s hr hs hrh hsh
    rcases getElem?_set_cases hr with ⟨hu, rfl⟩ | ⟨hu, hr'⟩
    · rcases getElem?_set_cases hs with ⟨hv, _⟩ | ⟨hv, hs⟩
      · rw [hu, hv]
      · rcases hothers with ⟨_, hq⟩ | hothers
        · rw [hq] at hrh
          cases hrh
        · rw [hothers v s hv hs] at hsh
          cases hsh
    · rcases getElem?_set_cases hs with ⟨hv, rfl⟩ | ⟨hv, hs⟩
      · rcases hothers with ⟨_, hq⟩ | hothers
        · rw [hq] at hsh
          cases hsh
        · rw [hothers u r hu hr'] at hrh
          cases hrh
      · exact h.single u v r s hr' hs hrh hsh
  · intro u r hr
    rcases getElem?_set_cases hr with ⟨_, rfl⟩ | ⟨hu, hr⟩
    · exact hL
    · rcases hothers with ⟨hd, _⟩ | hothers
      · rw [hd]
        exact h.pcs u r hr
      · exact hk.frame (hothers u r hu hr) (h.pcs u r hr)

theorem kept_step (hk : Keeps ok I L) {a : Act} (h : w.Kept I L) (hok : ok w a)
    (hs : step w a = some w') : w'.Kept I L := by
  cases a with
  | call t op o =>
    rw [step] at hs
    split at hs
    · obtain ⟨⟨d, q⟩, hb, hw'⟩ := Option.map_eq_some_iff.mp hs
      subst hw'
      obtain ⟨hI, hL⟩ := hk.begins hok h.daemon hb
      refine h.set hk hI hL ?_
      cases hlocked : w.locked with
      | true =>
        rw [hlocked] at hb
        exact .inl ⟨begin_locked hb, begin_holds hb⟩
      | false => exact .inr fun u r _ hr => not_holds_of_not_locked hlocked hr
    · cases hs
  | go t o =>
    rw [step] at hs
    split at hs
    · rename_i p hp
      split at hs
      · cases hs
      · rename_i hfree
        obtain ⟨m, hm, hw'⟩ := Option.map_eq_some_iff.mp hs
        subst hw'
        obtain ⟨hI, hL⟩ := hk.advances hok hp h.daemon (h.pcs t p hp) hm
        refine h.set hk hI hL ?_
        by_cases hh : p.holds = true
        · refine .inr fun u r hu hr => ?_
          by_contra hrh
          exact hu (h.single u t r p hr hp (by simpa using hrh) hh)
        · have hh : p.holds = false := by simpa using hh
          by_cases hw : p.waits = true
          · have hlocked : w.locked = false := by simpa [hw] using hfree
            exact .inr fun u r _ hr => not_holds_of_not_locked hlocked hr
          · exact .inl (advance_daemon hm (by simpa using hw) hh)
    · cases hs
  | change c =>
    rw [step] at hs
    split at hs
    · cases hs
    · rename_i hfree
      cases hs
      refine ⟨hk.changes hok h.daemon, h.single, fun u r hr => ?_⟩
      by_cases hc : c.locks = true
      · have hlocked : w.locked = false := by simpa [hc] using hfree
        exact hk.frame (not_holds_of_not_locked hlocked hr) (h.pcs u r hr)
      · exact hk.loose hok (by simpa using hc) h.daemon (h.pcs u r hr)

theorem kept_start (hk : Keeps ok I L) {k : Kernel} {generation n : Nat}
    (h0 : I (start k generation n).daemon) : (start k generation n).Kept I L := by
  have hidle (t : Nat) (p : Pc) (hp : (start k generation n).pcs[t]? = some p) :
      p = .idle none :=
    List.eq_of_mem_replicate (List.mem_of_getElem? hp)
  refine ⟨h0, ?_, ?_⟩
  · intro t u p q hp _ hh
    rw [hidle t p hp] at hh
    cases hh
  · intro t p hp
    rw [hidle t p hp]
    exact hk.idle none

theorem kept_of_reach (hk : Keeps ok I L) {k : Kernel} {generation n : Nat}
    (h0 : I (start k generation n).daemon) (hr : Reach step ok (start k generation n) w) :
    w.Kept I L :=
  hr.invariant (kept_start hk h0) fun _ _ _ h hok hs => kept_step hk h hok hs

end World

end Sensorium.Inventory

import Sensorium.Inventory.Steps

/-!
# Daemon and kernel agree on the inventory

`RESET` goes out without the lock, so the kernel may be emptied by one operation and filled by
another before the first clears the daemon; and `_clear_state` may raise over an empty kernel.  Where
an accepted `RESET` meets no other operation between its own `RESET` and the section that rebuilds
after it, and the daemon is cleared where nothing is rebuilt, both sides agree whenever no operation
is in progress and the daemon is not desynchronised.
-/

namespace Sensorium.Inventory

open Lib Model

/-! ## Steps of one operation -/

theorem agree_empty {d : Daemon} (hb : d.buses = []) (hd : d.devices = []) : Agree d .empty :=
  ⟨by rw [hb]; rfl, by rw [hd]; rfl⟩

theorem tidy_empty {d : Daemon} (hb : d.buses = []) (hd : d.devices = []) : d.Tidy where
  busIds := by rw [hb]; exact List.nodup_nil
  deviceIds := by rw [hd]; exact List.nodup_nil
  buses := by rw [hb]; exact fun p hp => nomatch hp
  devices := by rw [hd]; exact fun p hp => nomatch hp

section BusAdded

variable {d : Daemon} {k : Kernel} {bus : Bus} {r : Added} {buses : List Bus}
  {devices : List Device} (h : BusAdded d k bus r)

include h

theorem BusAdded.agree (ha : Agree d k) : Agree r.daemon r.kernel where
  buses := by
    rw [h.buses, h.kernelBuses, List.map_append, List.map_append, ha.buses]
    rfl
  devices := by rw [h.devices, h.kernelDevices, ha.devices]

theorem BusAdded.pending (hp : Pending d (bus :: buses) devices) :
    Pending r.daemon buses devices where
  busIds := by
    have hids := hp.busIds
    rw [List.map_cons] at hids
    rw [h.buses, keys, List.map_append, List.append_assoc]
    exact hids
  deviceIds := by
    rw [h.devices]
    exact hp.deviceIds
  buses := fun b hb => hp.buses b (List.mem_cons_of_mem _ hb)
  devices := hp.devices

theorem BusAdded.tidy (ht : d.Tidy) (hp : Pending d (bus :: buses) devices) : r.daemon.Tidy where
  busIds := (List.nodup_append.mp (h.pending hp).busIds).1
  deviceIds := (List.nodup_append.mp (h.pending hp).deviceIds).1
  buses := by
    rw [h.buses]
    exact forall_mem_append_singleton ht.buses ⟨rfl, hp.buses bus List.mem_cons_self⟩
  devices := by
    rw [h.devices]
    exact ht.devices

end BusAdded

section DeviceAdded

variable {d : Daemon} {k : Kernel} {dev : Device} {r : Added} {buses : List Bus}
  {devices : List Device} (h : DeviceAdded d k dev r)

include h

theorem DeviceAdded.agree (ha : Agree d k) : Agree r.daemon r.kernel where
  buses := by rw [h.buses, h.kernelBuses, ha.buses]
  devices := by
    obtain ⟨_, _, hdevices⟩ := h.devices
    obtain ⟨_, place, hplace, hkernel⟩ := h.kernelDevices
    rw [hdevices, hkernel, List.map_append, List.map_append, ha.devices]
    simp only [List.map_cons, List.map_nil, KernelDevice.entry, DeviceRecord.entry, hplace]

theorem DeviceAdded.pending (hp : Pending d buses (dev :: devices)) :
    Pending r.daemon buses devices where
  busIds := by
    rw [h.buses]
    exact hp.busIds
  deviceIds := by
    obtain ⟨_, _, hdevices⟩ := h.devices
    have hids := hp.deviceIds
    rw [List.map_cons] at hids
    rw [hdevices, keys, List.map_append, List.append_assoc]
    exact hids
  buses := hp.buses
  devices := fun e he => hp.devices e (List.mem_cons_of_mem _ he)

theorem DeviceAdded.tidy (ht : d.Tidy) (hp : Pending d buses (dev :: devices)) :
    r.daemon.Tidy where
  busIds := (List.nodup_append.mp (h.pending hp).busIds).1
  deviceIds := (List.nodup_append.mp (h.pending hp).deviceIds).1
  buses := by
    rw [h.buses]
    exact ht.buses
  devices := by
    obtain ⟨_, _, hdevices⟩ := h.devices
    rw [hdevices]
    exact forall_mem_append_singleton ht.devices ⟨rfl, hp.devices dev List.mem_cons_self⟩

end DeviceAdded

/-- What daemon and kernel hold while an operation is in its window. -/
def Pc.Fits (d : Daemon) (k : Kernel) : Pc → Prop
  | .sent _ => k = .empty
  | .rollback _ _ => k = .empty ∧ d.buses = [] ∧ d.devices = []
  | .adds _ buses devices _ => Agree d k ∧ Pending d buses devices
  | _ => True

theorem Pc.fits_of_window {p : Pc} (h : p.window = false) (d : Daemon) (k : Kernel) :
    p.Fits d k := by
  cases p with
  | sent _ | adds _ _ _ _ | rollback _ _ => cases h
  | idle _ | send _ | settleFailed | fatal | resyncFailed => trivial

theorem Pc.Fits.revises {p : Pc} {d d' : Daemon} {k : Kernel} (h : p.Fits d k)
    (hrev : d.Revises d') : p.Fits d' k := by
  cases p with
  | sent x => exact h
  | rollback c s => exact ⟨h.1, hrev.buses.trans h.2.1, hrev.devices_eq_nil h.2.2⟩
  | adds job buses devices modem => exact ⟨hrev.agree h.1, hrev.pending h.2⟩
  | idle _ | send _ | settleFailed | fatal | resyncFailed => trivial

/-- An operation outside its window that need not be waited for, or that will settle the matter. -/
def Settled (d : Daemon) (k : Kernel) (p : Pc) : Prop :=
  d.runtimeState = .desynced ∨ Agree d k ∨ p.settles

/-- The state after a step of an operation that was in its window. -/
structure Move.Sound (m : Move) : Prop where
  tidy : m.daemon.Tidy
  fits : m.pc.Fits m.daemon m.kernel
  settled : m.pc.window = false → Settled m.daemon m.kernel m.pc

theorem Job.sound_failed (job : Job) {d : Daemon} (ht : d.Tidy) (k : Kernel) :
    Move.Sound ⟨d, k, job.failed⟩ := by
  cases job <;> exact ⟨ht, trivial, fun _ => .inr (.inr rfl)⟩

theorem Job.sound_done (job : Job) {d : Daemon} (ht : d.Tidy) {k : Kernel} (ha : Agree d k) :
    Move.Sound ⟨d, k, job.done⟩ := by
  cases job <;> exact ⟨ht, trivial, fun _ => .inr (.inl ha)⟩

theorem Job.sound_enter (job : Job) {d : Daemon} (hb : d.buses = []) (hd : d.devices = []) :
    (job.enter d .empty).Sound where
  tidy := tidy_empty hb hd
  fits := ⟨agree_empty hb hd, pending_of_empty hb hd⟩
  settled := fun h => nomatch h

theorem Sender.sound_cleared (x : Sender) (d : Daemon) : (x.cleared d.clear .empty).Sound := by
  cases x with
  | reset => exact ⟨tidy_empty rfl rfl, trivial, fun _ => .inr (.inl (agree_empty rfl rfl))⟩
  | apply c => exact Job.sound_enter _ rfl rfl
  | discard c =>
    refine ⟨tidy_empty rfl rfl, ?_, fun _ => .inr (.inl (agree_empty rfl rfl))⟩
    change c.discarded.Fits _ _
    unfold Call.discarded
    split
    · exact ⟨rfl, rfl, rfl⟩
    · trivial
  | resync m attachments => exact Job.sound_enter _ rfl rfl

-- Where the daemon keeps its records over an empty kernel, an apply discards them and a resync ends
-- in `desynced`.
theorem Sender.sound_unstopped (x : Sender) {d : Daemon} (ht : d.Tidy)
    (hx : (Pc.sent x).discards = true → d.runtimeState = .desynced) :
    Move.Sound ⟨d.unnamed, .empty, x.unstopped⟩ := by
  have htidy : d.unnamed.Tidy := ⟨ht.busIds, ht.deviceIds, ht.buses, ht.devices⟩
  cases x with
  | reset | discard _ => exact ⟨htidy, trivial, fun _ => .inl (hx rfl)⟩
  | apply _ | resync _ _ => exact ⟨htidy, trivial, fun _ => .inr (.inr rfl)⟩

theorem Sender.sound_accepted (x : Sender) {d : Daemon} {o : Outside} (ht : d.Tidy)
    (hx : (Pc.sent x).discards = true → d.runtimeState ≠ .desynced → (d.clearState o).2 = true) :
    (x.accepted d .empty o).Sound := by
  rcases x.accepted_cases d .empty o with h | ⟨hraised, h⟩
  · rw [h]
    exact x.sound_cleared d
  · rw [h]
    refine x.sound_unstopped ht fun hdiscards => ?_
    by_contra hsync
    rw [hx hdiscards hsync] at hraised
    cases hraised

theorem Job.AddStep.sound {job : Job} {d : Daemon} {k : Kernel} {buses : List Bus}
    {devices : List Device} {m : Move} (h : job.AddStep d k buses devices m) (ht : d.Tidy)
    (ha : Agree d k) (hp : Pending d buses devices) : m.Sound := by
  cases h with
  | failed hrev _ => exact job.sound_failed (hrev.tidy ht) _
  | modem => exact ⟨ht, ⟨ha, hp⟩, fun h => nomatch h⟩
  | bus hadd => exact ⟨hadd.tidy ht hp, ⟨hadd.agree ha, hadd.pending hp⟩, fun h => nomatch h⟩
  | device hadd => exact ⟨hadd.tidy ht hp, ⟨hadd.agree ha, hadd.pending hp⟩, fun h => nomatch h⟩
  | done hr hd =>
    have hrev := revises_of_done hr hd
    exact job.sound_done (hrev.tidy ht) (hrev.agree ha)

theorem sound_advance {d : Daemon} {k : Kernel} {o : Outside} {p : Pc} {m : Move}
    (hw : p.window = true) (ht : d.Tidy) (hf : p.Fits d k)
    (hx : p.discards = true → d.runtimeState ≠ .desynced → (d.clearState o).2 = true)
    (h : advance d k o p = some m) : m.Sound := by
  cases p with
  | idle _ | send _ | settleFailed | fatal | resyncFailed => cases hw
  | sent x =>
    cases h
    rw [show k = .empty from hf]
    exact x.sound_accepted ht hx
  | adds job buses devices modem =>
    cases h
    exact (job.add_cases k o modem hf.2).sound ht hf.1 hf.2
  | rollback c s =>
    obtain ⟨hk, hb, hd⟩ := hf
    rw [hk] at h
    rw [advance] at h
    split at h
    · cases h
      exact ⟨ht, trivial, fun _ => .inr (.inr rfl)⟩
    · cases h
      rcases c.rolledBack_cases d .empty o _ _ with he | ⟨hstored, _⟩
      · rw [he]
        exact Job.sound_enter _ rfl rfl
      · exact absurd hd hstored

/-- A step of an operation outside its window that sends nothing to the kernel, or in vain. -/
structure Move.Calm (d : Daemon) (k : Kernel) (p : Pc) (m : Move) : Prop where
  kernel : m.kernel = k
  revises : d.Revises m.daemon
  outside : m.pc.window = false
  desynced : d.runtimeState = .desynced → m.daemon.runtimeState = .desynced
  settles : p.settles → m.daemon.runtimeState = .desynced ∨ m.pc.settles

theorem calm_of_settle {d : Daemon} {k : Kernel} {o : Outside} {p q : Pc}
    (hq : q.window = false) : Move.Calm d k p ⟨(d.settle o).1, k, q⟩ where
  kernel := rfl
  revises := d.revises_settle o
  outside := hq
  desynced := fun _ => d.settle_desynced o
  settles := fun _ => .inl (d.settle_desynced o)

theorem calm_advance {d : Daemon} {k : Kernel} {o : Outside} {p : Pc} {m : Move}
    (hw : p.window = false) (h : advance d k o p = some m) :
    (∃ x, p = .send x ∧ o.refused = false ∧ m = ⟨d, .empty, .sent x⟩) ∨ m.Calm d k p := by
  cases p with
  | idle _ => cases h
  | sent _ | adds _ _ _ _ | rollback _ _ => cases hw
  | send x =>
    rw [advance] at h
    split at h
    · cases h
      refine .inr ⟨rfl, .refl d, ?_, id, ?_⟩
      · cases x <;> rfl
      · cases x <;> simp [Pc.settles, Sender.refused]
    · rename_i k' hk
      cases h
      rw [Kernel.writeFrame_reset hk]
      refine .inl ⟨x, rfl, ?_, rfl⟩
      unfold Kernel.writeFrame at hk
      split at hk
      · cases hk
      · rename_i hr
        simpa using hr
  | settleFailed =>
    cases h
    refine .inr (calm_of_settle ?_)
    split <;> rfl
  | fatal | resyncFailed =>
    cases h
    exact .inr (calm_of_settle rfl)

theorem Daemon.Begins.calm {d d' : Daemon} {locked : Bool} {o : Outside} {op : Operation} {p : Pc}
    (h : d.Begins locked o op d' p) :
    d.Revises d' ∧ p.window = false ∧
      (d.runtimeState = .desynced → d'.runtimeState = .desynced) := by
  have hrefresh := d.revises_refreshBridgeMetrics o
  cases h with
  | invalid _ | applyDesynced _ _ _ | resetDesynced _ _ | reset _ _ => exact ⟨.refl d, rfl, id⟩
  | applyBlank _ _ hd _ => exact ⟨d.revises_setState _, rfl, fun hs => absurd hs hd⟩
  | applyUnsaved _ _ hd _ _ => exact ⟨hrefresh, rfl, fun hs => absurd hs hd⟩
  | applyOver _ _ hd _ _ =>
    exact ⟨hrefresh.trans (Daemon.revises_setState _ _), rfl, fun hs => absurd hs hd⟩
  | resyncUnsaved _ _ | resync _ _ =>
    exact ⟨hrefresh, rfl, fun hs => Daemon.refreshBridgeMetrics_desynced hs o⟩

/-! ## Runs of the system -/

namespace World

/-- At most one operation is in its window, and then it accounts for both sides; with none, either
both sides agree, or the daemon is desynchronised, or some operation will still settle it. -/
structure Sound (w : World) : Prop where
  tidy : w.daemon.Tidy
  single : ∀ (t u : Nat) (p q : Pc), w.pcs[t]? = some p → w.pcs[u]? = some q → p.window = true →
    q.window = true → t = u
  fits : ∀ (t : Nat) (p : Pc), w.pcs[t]? = some p → p.Fits w.daemon w.kernel
  settled : (∀ (t : Nat) (p : Pc), w.pcs[t]? = some p → p.window = false) →
    w.daemon.runtimeState = .desynced ∨ Agree w.daemon w.kernel ∨
      ∃ (t : Nat) (p : Pc), w.pcs[t]? = some p ∧ p.settles = true

variable {w : World} {t : Nat} {p : Pc}

theorem sound_start (generation n : Nat) : (start .empty generation n).Sound := by
  have hidle (t : Nat) (p : Pc) (hp : (start .empty generation n).pcs[t]? = some p) :
      p = .idle none := by
    exact List.eq_of_mem_replicate (List.mem_of_getElem? hp)
  refine ⟨tidy_empty rfl rfl, ?_, ?_, fun _ => .inr (.inl (agree_empty rfl rfl))⟩
  · intro t u p q hp _ hw
    rw [hidle t p hp] at hw
    cases hw
  · intro t p hp
    rw [hidle t p hp]
    trivial

-- The other operations are outside their windows, so nothing is asked of them.
theorem Sound.window {m : Move} (h : w.Sound) (hp : w.pcs[t]? = some p) (hw : p.window = true)
    (hm : m.Sound) : Sound ⟨m.daemon, m.kernel, w.pcs.set t m.pc⟩ := by
  have hothers (u : Nat) (q : Pc) (hut : u ≠ t) (hq : w.pcs[u]? = some q) : q.window = false := by
    by_contra hqw
    exact hut (h.single u t q p hq hp (by simpa using hqw) hw)
  have ht := getElem?_set_of_eq hp m.pc
  refine ⟨hm.tidy, ?_, ?_, ?_⟩
  · intro u v q r hq hr hqw hrw
    rcases getElem?_set_cases hq with ⟨hu, _⟩ | ⟨hu, hq⟩
    · rcases getElem?_set_cases hr with ⟨hv, _⟩ | ⟨hv, hr⟩
      · rw [hu, hv]
      · rw [hothers v r hv hr] at hrw
        cases hrw
    · rw [hothers u q hu hq] at hqw
      cases hqw
  · intro u q hq
    rcases getElem?_set_cases hq with ⟨_, rfl⟩ | ⟨hu, hq⟩
    · exact hm.fits
    · exact Pc.fits_of_window (hothers u q hu hq) _ _
  · intro hnone
    rcases hm.settled (hnone t _ ht) with hd | ha | hs
    · exact .inl hd
    · exact .inr (.inl ha)
    · exact .inr (.inr ⟨t, m.pc, ht, hs⟩)

theorem Sound.calm {m : Move} (h : w.Sound) (hp : w.pcs[t]? = some p) (hw : p.window = false)
    (hm : m.Calm w.daemon w.kernel p) : Sound ⟨m.daemon, m.kernel, w.pcs.set t m.pc⟩ := by
  have ht := getElem?_set_of_eq hp m.pc
  rw [hm.kernel]
  refine ⟨hm.revises.tidy h.tidy, ?_, ?_, ?_⟩
  · intro u v q r hq hr hqw hrw
    rcases getElem?_set_cases hq with ⟨_, rfl⟩ | ⟨_, hq⟩
    · rw [hm.outside] at hqw
      cases hqw
    · rcases getElem?_set_cases hr with ⟨_, rfl⟩ | ⟨_, hr⟩
      · rw [hm.outside] at hrw
        cases hrw
      · exact h.single u v q r hq hr hqw hrw
  · intro u q hq
    rcases getElem?_set_cases hq with ⟨_, rfl⟩ | ⟨_, hq⟩
    · exact Pc.fits_of_window hm.outside _ _
    · exact (h.fits u q hq).revises hm.revises
  · intro hnone
    have hbefore (u : Nat) (q : Pc) (hq : w.pcs[u]? = some q) : q.window = false := by
      by_cases hut : u = t
      · subst hut
        rw [hp] at hq
        cases hq
        exact hw
      · exact hnone u q (getElem?_set_of_ne hut hq _)
    rcases h.settled hbefore with hd | ha | ⟨u, q, hq, hs⟩
    · exact .inl (hm.desynced hd)
    · exact .inr (.inl (hm.revises.agree ha))
    · by_cases hut : u = t
      · subst hut
        rw [hp] at hq
        cases hq
        exact (hm.settles hs).imp_right fun hs => .inr ⟨u, m.pc, ht, hs⟩
      · exact .inr (.inr ⟨u, q, getElem?_set_of_ne hut hq _, hs⟩)

theorem Sound.accepted {x : Sender} (h : w.Sound) (hp : w.pcs[t]? = some (.send x))
    (hnone : ∀ p ∈ w.pcs, p.window = false) :
    Sound ⟨w.daemon, .empty, w.pcs.set t (.sent x)⟩ := by
  have hothers (u : Nat) (q : Pc) (hq : w.pcs[u]? = some q) : q.window = false :=
    hnone q (List.mem_of_getElem? hq)
  refine ⟨h.tidy, ?_, ?_, ?_⟩
  · intro u v q r hq hr hqw hrw
    rcases getElem?_set_cases hq with ⟨hu, _⟩ | ⟨_, hq⟩
    · rcases getElem?_set_cases hr with ⟨hv, _⟩ | ⟨_, hr⟩
      · rw [hu, hv]
      · rw [hothers v r hr] at hrw
        cases hrw
    · rw [hothers u q hq] at hqw
      cases hqw
  · intro u q hq
    rcases getElem?_set_cases hq with ⟨_, rfl⟩ | ⟨_, hq⟩
    · rfl
    · exact Pc.fits_of_window (hothers u q hq) _ _
  · intro hout
    have := hout t _ (getElem?_set_of_eq hp _)
    cases this

theorem Sound.change (h : w.Sound) (c : Change) :
    Sound { w with daemon := c.on w.daemon } := by
  have hrev := c.revises h.tidy
  refine ⟨hrev.tidy h.tidy, h.single, fun u q hq => (h.fits u q hq).revises hrev, ?_⟩
  intro hnone
  rcases h.settled hnone with hd | ha | hs
  · exact .inl (c.desynced hd)
  · exact .inr (.inl (hrev.agree ha))
  · exact .inr (.inr hs)

theorem sound_step {w' : World} {a : Act} (h : w.Sound) (hok : exclusive w a)
    (hs : step w a = some w') : w'.Sound := by
  cases a with
  | call t op o =>
    rw [step] at hs
    split at hs
    · rename_i last hp
      obtain ⟨⟨d, q⟩, hb, hw'⟩ := Option.map_eq_some_iff.mp hs
      subst hw'
      obtain ⟨hrev, hout, hdesync⟩ := (begins_of_begin hb).calm
      exact h.calm hp rfl (m := ⟨d, w.kernel, q⟩) ⟨rfl, hrev, hout, hdesync, fun hs => nomatch hs⟩
    · cases hs
  | go t o =>
    rw [step] at hs
    split at hs
    · rename_i p hp
      split at hs
      · cases hs
      · obtain ⟨m, hm, hw'⟩ := Option.map_eq_some_iff.mp hs
        subst hw'
        by_cases hw : p.window = true
        · have hclears := hok.2
          rw [clears, hp] at hclears
          exact h.window hp hw (sound_advance hw h.tidy (h.fits t p hp) hclears hm)
        · have hw : p.window = false := by simpa using hw
          rcases calm_advance hw hm with ⟨x, rfl, hr, rfl⟩ | hcalm
          · exact h.accepted hp (hok.1 (by rw [hp]; rfl) hr)
          · exact h.calm hp hw hcalm
    · cases hs
  | change c =>
    rw [step] at hs
    split at hs
    · cases hs
    · cases hs
      exact h.change c

theorem sound_of_reach {generation n : Nat} (hr : Reach step exclusive (start .empty generation n) w) :
    w.Sound :=
  hr.invariant (sound_start generation n) fun _ _ _ h hok hs => sound_step h hok hs

theorem Quiet.idle (h : w.Quiet) (hp : w.pcs[t]? = some p) : ∃ last, p = .idle last := by
  have hidle := h p (List.mem_of_getElem? hp)
  cases p with
  | idle last => exact ⟨last, rfl⟩
  | send _ | sent _ | adds _ _ _ _ | rollback _ _ | settleFailed | fatal | resyncFailed =>
    cases hidle

theorem Sound.agree (h : w.Sound) (hquiet : w.Quiet) (hsync : w.daemon.runtimeState ≠ .desynced) :
    Agree w.daemon w.kernel := by
  have hnone (t : Nat) (p : Pc) (hp : w.pcs[t]? = some p) : p.window = false := by
    obtain ⟨last, rfl⟩ := hquiet.idle hp
    rfl
  rcases h.settled hnone with hd | ha | ⟨t, p, hp, hs⟩
  · exact absurd hd hsync
  · exact ha
  · obtain ⟨last, rfl⟩ := hquiet.idle hp
    cases hs

end World

/-- Whenever no operation is in progress and the daemon is not desynchronised, the kernel holds the
daemon's inventory, in every run that starts on an empty kernel, in which an accepted `RESET` meets
no other operation in its window and a reset or a discarded apply clears the daemon. -/
theorem inventories_agree {generation n : Nat} {w : World}
    (hr : Reach step exclusive (start .empty generation n) w) (hquiet : w.Quiet)
    (hsync : w.daemon.runtimeState ≠ .desynced) : w.kernel.entries = w.daemon.entries :=
  ((World.sound_of_reach hr).agree hquiet hsync).entries

/-! ## Two workers -/

/-- A bridge that accepts everything and reports nothing. -/
def calm : Outside := ⟨false, false, false, false⟩

/-- The process of a managed worker outlives being killed. -/
def unkillable : Outside := ⟨false, false, false, true⟩

def benchOf (backend : Entries) : Value :=
  exportedModel (text "bench")
    [.dict [(.lit "id", .lit "b0"), (.lit "transport", .lit "i2c"), (.lit "name", .lit "i2c-7")]]
    [.dict [(.lit "id", .lit "t0"), (.lit "bus", .lit "b0"), (.lit "transport", .lit "i2c"),
      (.lit "address", .int 72), (.lit "backend", .dict backend)]]

/-- An I2C bus with one device that an external backend serves. -/
def bench : Value := benchOf [(.lit "kind", .lit "controller")]

/-- An I2C bus with one device that a managed worker serves. -/
def managedBench : Value :=
  benchOf [(.lit "kind", .lit "controller"),
    (.lit "worker", .dict [(.lit "command", .list [.lit "python3"])])]

/-- `apply_model` from the call to its return: `RESET`, the lock, one bus, one device, the end. -/
def applyOf (raw : Value) (t : Nat) : List Act :=
  [.call t (.apply raw) calm, .go t calm, .go t calm, .go t calm, .go t calm, .go t calm]

def applyBench : Nat → List Act := applyOf bench

def benchEntries : List Entry :=
  [⟨1, .i2c, none, text "i2c-7"⟩, ⟨1024, .i2c, some 72, text "t0"⟩]

theorem inventories_agree_bench :
    ∃ w : World, w.daemon.entries = benchEntries ∧ w.kernel.entries = w.daemon.entries := by
  have hrun : (exec (guarded step exclusive) (start .empty 0 2) (applyBench 0)).map
      (fun w => (decide w.Quiet, w.daemon.runtimeState, w.daemon.entries)) =
      some (true, .ready, benchEntries) := by decide +kernel
  obtain ⟨w, hexec, hview⟩ := Option.map_eq_some_iff.mp hrun
  simp only [Prod.mk.injEq, decide_eq_true_eq] at hview
  obtain ⟨hquiet, hstate, hentries⟩ := hview
  exact ⟨w, hentries, inventories_agree (reach_of_exec hexec) hquiet (by rw [hstate]; decide)⟩

-- The first worker's `RESET` is accepted; the second applies a model from start to end; the first
-- then clears the daemon.
def resetAroundApply : List Act :=
  [.call 0 .reset calm, .go 0 calm] ++ applyBench 1 ++ [.go 0 calm]

/-- The daemon is empty and the kernel holds the bus and the device. -/
theorem inventories_differ_after_overlap :
    ¬ ∀ w, Reach step anyStep (start .empty 0 2) w → w.Quiet →
      w.daemon.runtimeState ≠ .desynced → w.kernel.entries = w.daemon.entries := by
  intro h
  have hrun : (exec (guarded step anyStep) (start .empty 0 2) resetAroundApply).map
      (fun w => (decide w.Quiet, w.daemon.runtimeState, w.daemon.entries, w.kernel.entries)) =
      some (true, .empty, [], benchEntries) := by decide +kernel
  obtain ⟨w, hexec, hview⟩ := Option.map_eq_some_iff.mp hrun
  simp only [Prod.mk.injEq, decide_eq_true_eq] at hview
  obtain ⟨hquiet, hstate, hdaemon, hkernel⟩ := hview
  have heq := h w (reach_of_exec hexec) hquiet (by rw [hstate]; decide)
  rw [hdaemon, hkernel] at heq
  exact absurd heq (by decide)

end Sensorium.Inventory

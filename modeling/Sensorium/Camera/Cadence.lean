import Sensorium.Camera.Timestamps
import Sensorium.Lib.Grid

/-!
# The cadence

The second lock section of `sensorium_frame_work` adds the frame interval to the scheduled time until
it lies past the clock.  The interval is never zero, so that the loop ends, and it ends on the first
time of the grid that the scheduled time and the interval span, however long the work was held up.
-/

namespace Sensorium.Camera

open Lib

/-- The time from which the loop starts: the clock where nothing is scheduled. -/
def Device.scheduled (s : Device) : Nat := if s.nextFrame = 0 then s.now else s.nextFrame

/-- The loop ends with the next point of the grid, if that has 64 bits and the fuel lasts. -/
theorem catchUp_eq {interval now k fuel next : Nat} (hk : NextOnGrid next interval now k)
    (hfits : next + k * interval < 2 ^ 64) (hfuel : k ≤ fuel) :
    Device.catchUp interval now fuel next = some (next + k * interval) := by
  -- a pass moves the start of the grid by one interval, and the point is one less away
  induction fuel generalizing next k with
  | zero =>
    have hpos := hk.pos
    omega
  | succ fuel ih =>
    have hfirst : interval ≤ k * interval := Nat.le_mul_of_pos_left interval hk.pos
    have hsum : (next + interval) % 2 ^ 64 = next + interval := Nat.mod_eq_of_lt (by omega)
    rw [Device.catchUp]
    simp only [hsum]
    by_cases hbehind : next + interval ≤ now
    · rw [if_pos hbehind]
      obtain ⟨i, rfl⟩ : ∃ i, k = i + 1 := ⟨k - 1, by have := hk.pos; omega⟩
      have hadd : next + (i + 1) * interval = next + interval + i * interval := by
        rw [Nat.succ_mul]
        omega
      rw [hadd] at hfits ⊢
      exact ih (hk.behind hbehind) hfits (Nat.le_of_succ_le_succ hfuel)
    · have hone : k = 1 := hk.unique (.one (Nat.lt_of_not_le hbehind))
      rw [if_neg hbehind, hone, Nat.one_mul]

variable {cfg : Config} {s : Device}

theorem schedule_eq {k : Nat} (hk : NextOnGrid s.scheduled (s.interval cfg) s.now k)
    (hfits : s.scheduled + k * s.interval cfg < 2 ^ 64) :
    s.schedule cfg = some (s.scheduled + k * s.interval cfg) := by
  have hle : k ≤ k * s.interval cfg := Nat.le_mul_of_pos_right k (interval_pos cfg s)
  exact catchUp_eq hk hfits (by omega)

theorem nextFrame_advance (hrun : s.canRun = true) (elapsed : Nat) :
    (s.advance cfg elapsed).nextFrame = (s.schedule cfg).getD 0 := by
  unfold Device.advance
  rw [hrun]
  simp only [Bool.not_true, Bool.false_eq_true, if_false]
  split
  · rfl
  · exact nextFrame_modDelayedWork cfg _ _

/-- For every mode and blanking, and however far the clock is ahead: the interval is positive, the
loop ends, and what it leaves is the first time of the grid that is past the clock. -/
theorem cadence_catches_up (cfg : Config) (s : Device)
    (hfits : ∀ k, NextOnGrid s.scheduled (s.interval cfg) s.now k →
      s.scheduled + k * s.interval cfg < 2 ^ 64) :
    0 < s.frameNs cfg ∧ 0 < s.interval cfg ∧
    ∃ k, NextOnGrid s.scheduled (s.interval cfg) s.now k ∧
      s.schedule cfg = some (s.scheduled + k * s.interval cfg) ∧
      ∀ elapsed, s.canRun = true →
        (s.advance cfg elapsed).nextFrame = s.scheduled + k * s.interval cfg ∧
        s.now < (s.advance cfg elapsed).nextFrame := by
  have hpos := interval_pos cfg s
  have hk := NextOnGrid.of_pos hpos s.scheduled s.now
  have hschedule := schedule_eq hk (hfits _ hk)
  refine ⟨frameNs_pos cfg s, hpos, _, hk, hschedule, fun elapsed hrun => ?_⟩
  have hnext : (s.advance cfg elapsed).nextFrame = _ := nextFrame_advance hrun elapsed
  rw [hschedule] at hnext
  exact ⟨hnext, hnext ▸ hk.past⟩

/-- Both nodes stream, and the work comes 30 intervals late. -/
def heldUp : Device where
  active := 0
  layout := rawLayout Config.twoModes.firstMode
  inject := { phase := .streaming }
  capture := { phase := .streaming }
  frameInterval := 30
  nextFrame := 100
  now := 1000

theorem cadence_catches_up_heldUp : heldUp.schedule .twoModes = some 1030 ∧
    ∀ elapsed, (heldUp.advance .twoModes elapsed).nextFrame = 1030 := by
  have hcount {k : Nat} (hk : NextOnGrid 100 30 1000 k) : k = 31 := hk.eq_div (by decide)
  have hfits : ∀ k, NextOnGrid heldUp.scheduled (heldUp.interval .twoModes) heldUp.now k →
      heldUp.scheduled + k * heldUp.interval .twoModes < 2 ^ 64 := by
    intro k hk
    rw [hcount hk]
    decide
  obtain ⟨-, -, k, hk, hschedule, hnext⟩ := cadence_catches_up .twoModes heldUp hfits
  rw [hcount hk] at hschedule hnext
  exact ⟨hschedule, fun elapsed => (hnext elapsed rfl).1⟩

/-- Where nothing is scheduled, the grid starts at the clock and not at zero. -/
theorem unscheduled_starts_at_clock : ¬ ∀ (cfg : Config) (s : Device) (k elapsed : Nat),
    NextOnGrid s.nextFrame (s.interval cfg) s.now k →
    s.nextFrame + k * s.interval cfg < 2 ^ 64 → s.canRun = true →
    (s.advance cfg elapsed).nextFrame = s.nextFrame + k * s.interval cfg := by
  intro hall
  let s : Device := { heldUp with nextFrame := 0, now := 45 }
  have hzero : NextOnGrid 0 30 45 2 := .of_pos (by decide) 0 45
  have hclock : NextOnGrid 45 30 45 1 := .of_pos (by decide) 45 45
  have hschedule : s.schedule .twoModes = some (45 + 1 * 30) := schedule_eq hclock (by decide)
  have hclaimed := hall .twoModes s 2 0 hzero (by decide) rfl
  have hnext : (s.advance .twoModes 0).nextFrame = _ := nextFrame_advance rfl 0
  rw [hschedule, hclaimed] at hnext
  -- 2 * 30 from zero on, and 45 + 30 from the clock on
  exact absurd hnext (by decide)

end Sensorium.Camera

import Mathlib.Algebra.Order.AbsoluteValue
import Mathlib.Order.Monotone.Basic

/-! # The control law of the drive loop

Each iteration of `t_minipro`'s loop negates the two stick values, zeroes each inside a dead zone
of 8000, shifts the rest toward zero by the threshold keeping its sign, and divides the steering
by 10 through a `double`. The loop spells this out inline with its own `sign`, which answers -1
at 0; the spec states the dead zone with the usual sign. Both agree, since the code's `sign` is
only read outside the dead zone.
-/

namespace MiniPro.App

/-- `sign` of `t_minipro.cpp`: 1 for a positive argument and -1 otherwise, 0 included. -/
def sign (a : Int) : Int := if a > 0 then 1 else -1

/-- `zero_threshold_x`, the dead zone the loop applies to the throttle. -/
def zeroThresholdX : Int := 8000

/-- `zero_threshold_y`, the dead zone the loop applies to the steering. -/
def zeroThresholdY : Int := 8000

/-- The throttle the loop sends for its variable `throttle` (the negated stick value). -/
def throttleCommand (throttle : Int) : Int :=
  if |throttle| < zeroThresholdX then 0 else (|throttle| - zeroThresholdX) * sign throttle

/-- The steering the loop sends for its variable `steering`. Outside the dead zone it also runs
`steering /= 10.0`: the int goes to a `double`, is divided by 10 and truncated back toward zero,
which is `Int.tdiv` for every value a `double` holds exactly, as all of these do. -/
def steeringCommand (steering : Int) : Int :=
  if |steering| < zeroThresholdY then 0
  else ((|steering| - zeroThresholdY) * sign steering).tdiv 10

/-- The dead-zone transform of the spec: 0 below the threshold, `sign(v) * (|v| - T)` from it on. -/
def deadzone (threshold v : Int) : Int :=
  if |v| < threshold then 0 else v.sign * (|v| - threshold)

/-- Outside a positive dead zone the value moves toward zero by the threshold. -/
private theorem deadzone_eq_cases {threshold : Int} (positive : 0 < threshold) (v : Int) :
    deadzone threshold v =
      if threshold ≤ v then v - threshold else if v ≤ -threshold then v + threshold else 0 := by
  unfold deadzone
  rcases lt_trichotomy v 0 with negative | rfl | positive'
  · rw [abs_of_neg negative, Int.sign_eq_neg_one_of_neg negative]
    split_ifs <;> omega
  · simp [positive, not_le.mpr positive]
  · rw [abs_of_pos positive', Int.sign_eq_one_of_pos positive']
    split_ifs <;> omega

/-- The loop's inline throttle is the spec's dead zone. -/
theorem throttleCommand_eq_deadzone (throttle : Int) :
    throttleCommand throttle = deadzone zeroThresholdX throttle := by
  unfold throttleCommand deadzone sign
  rcases lt_trichotomy throttle 0 with negative | rfl | positive
  · rw [Int.sign_eq_neg_one_of_neg negative, if_neg (not_lt.mpr negative.le)]
    split_ifs <;> omega
  · simp [zeroThresholdX]
  · rw [Int.sign_eq_one_of_pos positive, if_pos positive]
    split_ifs <;> omega

/-- The loop's inline steering is the spec's dead zone divided by 10, toward zero. -/
theorem steeringCommand_eq_deadzone (steering : Int) :
    steeringCommand steering = (deadzone zeroThresholdY steering).tdiv 10 := by
  have same := throttleCommand_eq_deadzone steering
  unfold throttleCommand steeringCommand at *
  rw [show zeroThresholdY = zeroThresholdX from rfl, ← same]
  split_ifs <;> rfl

/-- `Int.tdiv` by 10, spelled with the Euclidean division `omega` understands. -/
private theorem tdiv_ten (a : Int) : a.tdiv 10 = if 0 ≤ a then a / 10 else -((-a) / 10) := by
  split_ifs with nonneg
  · exact Int.tdiv_eq_ediv nonneg (by decide)
  · rw [← Int.tdiv_eq_ediv (by omega) (by decide), Int.neg_tdiv, neg_neg]

theorem tdiv_ten_monotone : Monotone fun a : Int => a.tdiv 10 := by
  intro a b below
  simp only [tdiv_ten]
  split_ifs <;> omega

/-- Both components of the command, as functions of the raw stick value, never increase. -/
theorem deadzone_neg_antitone {threshold : Int} (positive : 0 < threshold) :
    Antitone fun v => deadzone threshold (-v) := by
  intro a b below
  simp only [deadzone_eq_cases positive]
  split_ifs <;> omega

theorem deadzone_of_abs_lt {threshold v : Int} (inside : |v| < threshold) : deadzone threshold v = 0 :=
  if_pos inside

theorem deadzone_of_abs_eq {threshold v : Int} (edge : |v| = threshold) : deadzone threshold v = 0 := by
  simp [deadzone, edge]

end MiniPro.App

import MiniPro.App.Main

/-! # The drive command of one loop iteration

While main holds the controller, the controller is the object of the records its input thread has
processed so far: the input thread is its only writer, and no record is processed before the
controller exists. An iteration reads the throttle from the stick's y coordinate and, in a
separate call, the steering from its x coordinate; the input thread may run between the two reads.
Each read therefore sees the last axis record of its own number processed before it, and the
command the iteration sends is the control law applied to those two values.
-/

namespace MiniPro.App

open MiniPro.Util

variable {κ : Type} (device : Device) (memory : Nat → AxisState)

/-- The value of the last record of type `JS_EVENT_AXIS` with number `number`, 0 when there is
none. -/
def lastAxisValue (records : List JsEvent) (number : UInt8) : BitVec 16 :=
  ((records.reverse.find? fun event => event.type = JS_EVENT_AXIS ∧ event.number = number).map
    JsEvent.value).getD 0

/-- The left stick's slot 0 takes x from axis number 0 and y from axis number 1, and nothing else. -/
private theorem axisRoute_stick {n : Nat} (coord : Coord) :
    axisRoute n = some (0, coord) ↔ n = if coord = .x then 0 else 1 := by
  refine ⟨fun routed => ?_, fun stick => by cases coord <;> simp only [stick] <;> rfl⟩
  rcases n with _ | _ | _ | _ | _ | _ | _ | _ | n <;> cases coord <;> first | rfl | cases routed

/-- Slot 0 is fed by axis numbers 0 (x) and 1 (y) alone. -/
private theorem lastRouted_stick (records : List JsEvent) :
    (lastRouted records 0 .x).getD 0 = lastAxisValue records 0 ∧
      (lastRouted records 0 .y).getD 0 = lastAxisValue records 1 := by
  have number (event : JsEvent) (n : UInt8) (small : n.toNat < 8) :
      event.number.toNat = n.toNat ↔ event.number = n :=
    ⟨UInt8.toNat.inj, fun same => same ▸ rfl⟩
  simp only [lastRouted, lastAxisValue, JsEvent.RoutesTo, axisRoute_stick, if_true,
    reduceCtorEq, if_false, ← number _ 0 (by decide), ← number _ 1 (by decide)]
  exact ⟨rfl, rfl⟩

/-- The controller, while it exists, is the object of the records its thread processed; it exists
wherever main is between the loop and the end of the `try` block; and before main got past its
construction no record has been processed. -/
def Consistent (system : System κ) : Prop :=
  (∀ joystick, system.joystick = some joystick → ∃ axes buttons, device.axes = some axes ∧
    device.buttons = some buttons ∧
    joystick = Joystick.ofHistory axes buttons memory (records system.trace) []) ∧
  (system.pc.holdsController → system.joystick.isSome) ∧
  (system.pc.pastConstruction = false → records system.trace = [] ∧ system.joystick = none)

theorem consistent_init : Consistent device memory (System.init κ) :=
  ⟨fun _ present => (nomatch present), fun holds => (nomatch holds), fun _ => ⟨rfl, rfl⟩⟩

theorem records_inputStep_of_some {system : System κ} {joystick : Joystick κ}
    (present : system.joystick = some joystick) (result : Option JsEvent) :
    records (inputStep result system).trace = records system.trace ++ result.toList := by
  simp only [inputStep, present]
  cases result <;> cases (Joystick.poll _ _).2 <;> simp [records, Observation.record?]

theorem consistent_mainStep {system : System κ} (throws : Bool)
    (consistent : Consistent device memory system) :
    Consistent device memory (mainStep device memory throws system) := by
  obtain ⟨mirrors, holds, early⟩ := consistent
  refine ⟨fun joystick present => ?_, fun holding => ?_, fun before => ?_⟩
  · rw [records_mainStep]
    rcases mainStep_joystick device memory present with kept | ⟨opening, opened, -⟩
    · exact mirrors joystick kept
    · obtain ⟨axes, buttons, reported, reported', rfl⟩ := new_eq_ok opened
      have none_yet := (early (by rw [opening]; rfl)).1
      exact ⟨axes, buttons, reported, reported', by rw [none_yet, opened_eq_ofHistory]⟩
  · rcases mainStep_holdsController device memory holding with ⟨held, same⟩ | ⟨-, present⟩
    · rw [same]; exact holds held
    · exact present
  · have earlier : system.pc.pastConstruction = false := by
      by_contra past
      have still : (mainStep device memory throws system).pc.pastConstruction :=
        mainStep_pastConstruction device memory (Bool.eq_true_of_not_eq_false past)
      exact absurd still (by rw [before]; decide)
    obtain ⟨none_yet, absent⟩ := early earlier
    refine ⟨by rw [records_mainStep, none_yet], ?_⟩
    cases present : (mainStep device memory throws system).joystick with
    | none => rfl
    | some joystick =>
      rcases mainStep_joystick device memory present with kept | ⟨-, -, atCheck⟩
      · rw [absent] at kept; cases kept
      · rw [atCheck] at before; cases before

theorem consistent_step {system : System κ} (action : Action)
    (consistent : Consistent device memory system) :
    Consistent device memory (step device memory system action) := by
  obtain ⟨mirrors, holds, early⟩ := consistent
  cases action with
  | main throws => exact consistent_mainStep device memory throws ⟨mirrors, holds, early⟩
  | read result =>
    cases present : system.joystick with
    | none => simpa [step, inputStep_of_gone result present] using ⟨mirrors, holds, early⟩
    | some joystick =>
      obtain ⟨axes, buttons, reported, reported', rfl⟩ := mirrors _ present
      refine ⟨fun next stored => ⟨axes, buttons, reported, reported', ?_⟩, fun _ => ?_, fun before => ?_⟩
      · simp only [step, inputStep, present, Option.some.injEq] at stored
        rw [← stored, show step device memory system (.read result) = inputStep result system from rfl,
          records_inputStep_of_some present, poll_ofHistory]
      · simp [step, inputStep, present]
      · rw [step, inputStep_pc] at before
        rw [(early before).2] at present
        cases present
  | sigint =>
    by_cases started : system.pc = .start
    · simp only [step, sigint, started]
      exact ⟨mirrors, fun holding => by simp [Pc.holdsController] at holding,
        fun _ => early (by rw [started]; rfl)⟩
    · rw [step, sigint_eq started]
      exact ⟨mirrors, holds, early⟩

theorem consistent_run (actions : List Action) :
    ∀ {system : System κ}, Consistent device memory system →
      Consistent device memory (run device memory system actions) := by
  induction actions with
  | nil => exact id
  | cons action rest ih => exact fun consistent => ih (consistent_step device memory action consistent)

/-- The controller main holds mirrors the records its input thread processed. -/
theorem controller_mirrors_records (actions : List Action) :
    Consistent device memory (run device memory (System.init κ) actions) :=
  consistent_run device memory actions (consistent_init device memory)

/-- Where main reads the stick, `get_axis_state` returns the last value of each stick number. -/
private theorem readAxis_consistent {system : System κ} {axes : UInt8} (next : AxisState → Pc)
    (consistent : Consistent device memory system) (holding : system.pc.holdsController)
    (reported : device.axes = some axes) (stick : 0 < axes) :
    system.readAxis next = { system with pc := next ⟨lastAxisValue (records system.trace) 0,
      lastAxisValue (records system.trace) 1⟩ } := by
  obtain ⟨mirrors, holds, -⟩ := consistent
  obtain ⟨joystick, present⟩ := Option.isSome_iff_exists.mp (holds holding)
  obtain ⟨axes', buttons, reported', -, rfl⟩ := mirrors _ present
  obtain rfl : axes = axes' := Option.some.inj (reported.symm.trans reported')
  have read : (Joystick.ofHistory axes buttons memory (records system.trace) [] : Joystick κ).getAxisState
      axisLeftThumbstick = .ok ⟨lastAxisValue (records system.trace) 0,
        lastAxisValue (records system.trace) 1⟩ := by
    rw [getAxisState_ofHistory, if_pos (show axisLeftThumbstick < axes from stick),
      show axisLeftThumbstick.toNat = 0 from rfl, (lastRouted_stick _).1, (lastRouted_stick _).2]
  exact System.readAxis_of_ok _ next present read

/-- The control law at raw stick values: the command is (0, 0) strictly inside the dead zone, each
component is 0 at its edge, and each never increases in its raw value. -/
private theorem control_law_shape :
    (∀ x y : Int, |x| < 8000 → |y| < 8000 → deadzone 8000 (-y) = 0 ∧ (deadzone 8000 (-x)).tdiv 10 = 0) ∧
    (∀ v : Int, |v| = 8000 → deadzone 8000 (-v) = 0 ∧ (deadzone 8000 (-v)).tdiv 10 = 0) ∧
    Antitone (fun v : Int => deadzone 8000 (-v)) ∧
    Antitone (fun v : Int => (deadzone 8000 (-v)).tdiv 10) := by
  refine ⟨fun x y insideX insideY => ?_, fun v edge => ?_, deadzone_neg_antitone (by decide),
    tdiv_ten_monotone.comp_antitone (deadzone_neg_antitone (by decide))⟩
  · rw [deadzone_of_abs_lt (by rwa [abs_neg]), deadzone_of_abs_lt (by rwa [abs_neg])]
    exact ⟨rfl, rfl⟩
  · rw [deadzone_of_abs_eq (by rwa [abs_neg])]
    exact ⟨rfl, rfl⟩

section Iteration

variable {axes : UInt8} (reported : device.axes = some axes) (stick : 0 < axes)
include reported stick

theorem mainStep_readThrottle {system : System κ} (throws : Bool)
    (consistent : Consistent device memory system) (atRead : system.pc = .readThrottle) :
    mainStep device memory throws system =
      { system with pc := .readSteering (-(lastAxisValue (records system.trace) 1).toInt) } := by
  simp only [mainStep, atRead]
  exact readAxis_consistent device memory _ consistent (by rw [atRead]; rfl) reported stick

theorem mainStep_readSteering {system : System κ} (throws : Bool) {throttle : Int}
    (consistent : Consistent device memory system) (atRead : system.pc = .readSteering throttle) :
    mainStep device memory throws system =
      { system with pc := .drive throttle (-(lastAxisValue (records system.trace) 0).toInt) } := by
  simp only [mainStep, atRead]
  exact readAxis_consistent device memory _ consistent (by rw [atRead]; rfl) reported stick

end Iteration

private theorem commands_mainStep_drive {system : System κ} (throws : Bool) {throttle steering : Int}
    (atDrive : system.pc = .drive throttle steering) :
    commands (mainStep device memory throws system).trace =
      commands system.trace ++ [.drive (throttleCommand throttle) (steeringCommand steering)] := by
  simp [mainStep, atDrive]

/-- The drive command of one loop iteration is the control law of its two reads. -/
theorem loop_drive_command {axes : UInt8} (reported : device.axes = some axes) (stick : 0 < axes)
    (actions between after : List Action) (throttleThrows steeringThrows driveThrows : Bool)
    (atRead : (run device memory (System.init κ) actions).pc = .readThrottle)
    (quietBetween : ∀ action ∈ between, action.isMain = false)
    (quietAfter : ∀ action ∈ after, action.isMain = false) :
    (commands (run device memory (System.init κ) (actions ++ .main throttleThrows :: between ++
        .main steeringThrows :: after ++ [.main driveThrows])).trace).getLast? =
      some (.drive
        (deadzone 8000 (-(lastAxisValue (records (run device memory (System.init κ) actions).trace) 1).toInt))
        ((deadzone 8000 (-(lastAxisValue (records (run device memory (System.init κ)
          (actions ++ .main throttleThrows :: between)).trace) 0).toInt)).tdiv 10)) ∧
    (∀ x y : Int, |x| < 8000 → |y| < 8000 → deadzone 8000 (-y) = 0 ∧ (deadzone 8000 (-x)).tdiv 10 = 0) ∧
    (∀ v : Int, |v| = 8000 → deadzone 8000 (-v) = 0 ∧ (deadzone 8000 (-v)).tdiv 10 = 0) ∧
    Antitone (fun v : Int => deadzone 8000 (-v)) ∧
    Antitone (fun v : Int => (deadzone 8000 (-v)).tdiv 10) := by
  refine ⟨?_, control_law_shape⟩
  have consistent (actions : List Action) :
      Consistent device memory (run device memory (System.init κ) actions) :=
    consistent_run device memory actions (consistent_init device memory)
  have readSteering : (run device memory (System.init κ)
      (actions ++ .main throttleThrows :: between)).pc = .readSteering
        (-(lastAxisValue (records (run device memory (System.init κ) actions).trace) 1).toInt) := by
    rw [run_append, run_cons, step, mainStep_readThrottle device memory reported stick _
      (consistent actions) atRead]
    exact (run_quiet device memory _ between quietBetween (by simp)).1
  have steered := mainStep_readSteering device memory reported stick steeringThrows
    (consistent _) readSteering
  have driving := (run_quiet device memory _ after quietAfter (by rw [steered]; simp)).1.trans
    (congrArg System.pc steered)
  rw [run_append, run_append, run_cons, run_nil, step, run_cons, step,
    commands_mainStep_drive device memory _ driving, List.getLast?_append, List.getLast?_singleton,
    throttleCommand_eq_deadzone, steeringCommand_eq_deadzone]
  rfl

/-- A throttle record (axis 1 at -20000) processed before the throttle read and a steering record
(axis 0 at -12000) processed between the two reads give `drive(12000, 400)`. -/
theorem loop_drive_command_between_reads :
    (run ⟨true, some 8, some 11⟩ (fun _ => ⟨0, 0⟩) (System.init Unit)
        [.main false, .main false, .main false, .main false, .main false,
          .read (some ⟨-20000, JS_EVENT_AXIS, 1⟩), .main false]).pc = .readThrottle ∧
    (commands (run ⟨true, some 8, some 11⟩ (fun _ => ⟨0, 0⟩) (System.init Unit)
        [.main false, .main false, .main false, .main false, .main false,
          .read (some ⟨-20000, JS_EVENT_AXIS, 1⟩), .main false, .main false,
          .read (some ⟨-12000, JS_EVENT_AXIS, 0⟩), .main false, .sigint, .main false]).trace).getLast? =
      some (.drive 12000 400) := by
  have atRead : (run ⟨true, some 8, some 11⟩ (fun _ => ⟨0, 0⟩) (System.init Unit)
      [.main false, .main false, .main false, .main false, .main false,
        .read (some ⟨-20000, JS_EVENT_AXIS, 1⟩), .main false]).pc = .readThrottle := rfl
  exact ⟨atRead, (loop_drive_command _ _ rfl (by decide) _ [.read (some ⟨-12000, JS_EVENT_AXIS, 0⟩)]
    [.sigint] false false false atRead (by decide) (by decide)).1.trans rfl⟩

end MiniPro.App

import MiniPro.Util.JoystickHistory
import MiniPro.App.ControlLaw

/-! # `main` of `t_minipro.cpp`, its joystick thread and its signal handler

The program runs two threads over shared state. The main thread connects to the MiniPro, enters
remote-control mode, constructs the controller and runs the drive loop until it sees
`should_exit`; the controller's input thread routes records into the axis map; SIGINT runs
`signal_handler`. `Pc` names each statement of `main` that can throw or that the other parties can
interleave with, and a step of the system is one atomic step of one party. The outside world
decides which calls on the MiniPro, the loop rate and the rest of the controller throw; the
device's answers to `open` and to the ioctls are fixed for a run. The trace is what an observer
sees: the records the input thread processed, the callbacks it invoked and the calls main made on
the MiniPro.
-/

namespace MiniPro.App

open MiniPro.Util

/-- Modelled from the spec: `XBox360Controller::Axis_LeftThumbstick`, the left stick, is logical
axis 0 (`xbox360_controller.hpp` is not among the sources; `joystick.cpp`'s comments agree). -/
def axisLeftThumbstick : UInt8 := 0

/-- A call `main` makes on the `MiniPro`. -/
inductive Command
  | enableNotifications
  | enterRemoteControlMode
  | drive (throttle steering : Int)
  | exitRemoteControlMode
  | disableNotifications
deriving DecidableEq, Repr

/-- What an observer of the running program sees. -/
inductive Observation (κ : Type)
  | record (event : JsEvent)
  | callback (callback : κ) (pressed : Bool)
  | command (command : Command)

/-- The statement the main thread runs next. -/
inductive Pc
  /-- `signal(SIGINT, signal_handler)` -/
  | start
  /-- `MiniPro minipro(bt_addr)` -/
  | connect
  | enableNotifications
  | enterRemoteControlMode
  /-- `XBox360Controller joystick; LoopRate loop_rate(30_Hz)` -/
  | openJoystick
  /-- `while (!should_exit)` -/
  | check
  | readThrottle
  | readSteering (throttle : Int)
  /-- the dead zones, then `minipro.drive(throttle, steering)` -/
  | drive (throttle steering : Int)
  /-- `loop_rate.sleep()` -/
  | sleep
  /-- `minipro.drive(0, 0)` after the loop -/
  | stop
  | exitRemoteControlMode
  | disableNotifications
  | returned (code : Int)
  /-- SIGINT arrived before the handler was installed, and its default action ended the process. -/
  | killed
deriving DecidableEq, Repr

/-- The shared state: main's position, `should_exit`, the controller once constructed, the trace. -/
structure System (κ : Type) where
  pc : Pc
  shouldExit : Bool
  joystick : Option (Joystick κ)
  trace : List (Observation κ)

/-- One atomic step of one party. -/
inductive Action
  /-- The main thread runs its next statement; `throws` says whether the call made there throws. -/
  | main (throws : Bool)
  /-- The input thread runs one iteration; `read` returned a full record, or did not. -/
  | read (result : Option JsEvent)
  | sigint
deriving DecidableEq, Repr

/-- Whether main got past constructing the controller; having returned counts. -/
def Pc.pastConstruction : Pc → Bool
  | .start | .connect | .enableNotifications | .enterRemoteControlMode | .openJoystick | .killed => false
  | _ => true

/-- Whether main is where the controller exists: from the loop to the end of the `try` block. -/
def Pc.holdsController : Pc → Bool
  | .check | .readThrottle | .readSteering _ | .drive _ _ | .sleep | .stop | .exitRemoteControlMode
  | .disableNotifications => true
  | _ => false

/-- The control flow of `main` inside the `try` block: the statement it goes on to when the one it
ran neither threw nor left the block. Constructing the controller is the one move that also
changes the shared state, and is not among these. -/
inductive Pc.Moves : Pc → Pc → Prop
  | connect : Pc.Moves .start .connect
  | enableNotifications : Pc.Moves .connect .enableNotifications
  | enterRemoteControlMode : Pc.Moves .enableNotifications .enterRemoteControlMode
  | openJoystick : Pc.Moves .enterRemoteControlMode .openJoystick
  | stop : Pc.Moves .check .stop
  | readThrottle : Pc.Moves .check .readThrottle
  | readSteering (throttle : Int) : Pc.Moves .readThrottle (.readSteering throttle)
  | drive (throttle steering : Int) : Pc.Moves (.readSteering throttle) (.drive throttle steering)
  | sleep (throttle steering : Int) : Pc.Moves (.drive throttle steering) .sleep
  | check : Pc.Moves .sleep .check
  | exitRemoteControlMode : Pc.Moves .stop .exitRemoteControlMode
  | disableNotifications : Pc.Moves .exitRemoteControlMode .disableNotifications

/-- Whether an action is the main thread's. -/
def Action.isMain : Action → Bool
  | .main _ => true
  | _ => false

variable {κ : Type}

/-- The call on the MiniPro an observation records, if it is one. -/
def Observation.command? : Observation κ → Option Command
  | .command sent => some sent
  | _ => none

/-- The record an observation shows the input thread processed, if it is one. -/
def Observation.record? : Observation κ → Option JsEvent
  | .record event => some event
  | _ => none

/-- The calls main made on the MiniPro, in order. -/
def commands (trace : List (Observation κ)) : List Command := trace.filterMap Observation.command?

/-- The records the input thread processed, in order. -/
def records (trace : List (Observation κ)) : List JsEvent := trace.filterMap Observation.record?

namespace System

/-- Before `main` starts. -/
def init (κ : Type) : System κ := ⟨.start, false, none, []⟩

/-- Main calls the MiniPro. -/
def send (system : System κ) (command : Command) : System κ :=
  { system with trace := system.trace ++ [.command command] }

/-- Leaving the `try` block: the controller's destructor stops and joins the input thread, and
main returns `code`. -/
def leave (system : System κ) (code : Int) : System κ :=
  { system with pc := .returned code, joystick := none }

/-- Go on to `next`, or to the `catch` when the call just made threw. -/
def proceed (system : System κ) (throws : Bool) (next : Pc) : System κ :=
  if throws then system.leave (-1) else { system with pc := next }

/-- `joystick.get_axis_state(XBox360Controller::Axis_LeftThumbstick)`: go on with the state it
returns, or to the `catch` when it throws. -/
def readAxis (system : System κ) (next : AxisState → Pc) : System κ :=
  match system.joystick with
  | none => system
  | some joystick =>
    match joystick.getAxisState axisLeftThumbstick with
    | .ok state => { system with pc := next state }
    | .error _ => system.leave (-1)

end System

section Semantics

variable (device : Device) (memory : Nat → AxisState)

open System in
/-- The main thread's next statement. -/
def mainStep (throws : Bool) (system : System κ) : System κ :=
  match system.pc with
  | .start => { system with pc := .connect }
  | .connect => system.proceed throws .enableNotifications
  | .enableNotifications => (system.send .enableNotifications).proceed throws .enterRemoteControlMode
  | .enterRemoteControlMode => (system.send .enterRemoteControlMode).proceed throws .openJoystick
  | .openJoystick =>
    match Joystick.new device memory with
    | .ok joystick =>
      if throws then system.leave (-1) else { system with pc := .check, joystick := some joystick }
    | .error _ => system.leave (-1)
  | .check => { system with pc := if system.shouldExit then .stop else .readThrottle }
  | .readThrottle => system.readAxis fun state => .readSteering (-state.y.toInt)
  | .readSteering throttle => system.readAxis fun state => .drive throttle (-state.x.toInt)
  | .drive throttle steering =>
    (system.send (.drive (throttleCommand throttle) (steeringCommand steering))).proceed throws .sleep
  | .sleep => system.proceed throws .check
  | .stop => (system.send (.drive 0 0)).proceed throws .exitRemoteControlMode
  | .exitRemoteControlMode =>
    (system.send .exitRemoteControlMode).proceed throws .disableNotifications
  | .disableNotifications => (system.send .disableNotifications).leave (if throws then -1 else 0)
  | .returned _ => system
  | .killed => system

/-- One iteration of the input thread, while the controller exists. -/
def inputStep (result : Option JsEvent) (system : System κ) : System κ :=
  match system.joystick with
  | none => system
  | some joystick =>
    { system with
      joystick := some (joystick.poll result).1
      trace := system.trace ++ (result.map .record).toList ++
        ((joystick.poll result).2.map fun invoked => .callback invoked.1 invoked.2).toList }

/-- SIGINT: before `signal` installed the handler, its default action ends the process; afterwards
`signal_handler` sets `should_exit`. -/
def sigint (system : System κ) : System κ :=
  match system.pc with
  | .start => { system with pc := .killed }
  | _ => { system with shouldExit := true }

/-- One step of the system. -/
def step (system : System κ) : Action → System κ
  | .main throws => mainStep device memory throws system
  | .read result => inputStep result system
  | .sigint => sigint system

/-- Any interleaving of steps. -/
def run (system : System κ) (actions : List Action) : System κ :=
  actions.foldl (step device memory) system

end Semantics

/-! ### Small lemmas beside the definitions -/

@[simp] theorem commands_append (trace more : List (Observation κ)) :
    commands (trace ++ more) = commands trace ++ commands more := List.filterMap_append ..

@[simp] theorem records_append (trace more : List (Observation κ)) :
    records (trace ++ more) = records trace ++ records more := List.filterMap_append ..

@[simp] theorem commands_command (command : Command) :
    commands [(.command command : Observation κ)] = [command] := rfl

@[simp] theorem records_command (command : Command) :
    records [(.command command : Observation κ)] = [] := rfl

namespace System

variable (system : System κ)

@[simp] theorem send_pc (command : Command) : (system.send command).pc = system.pc := rfl

@[simp] theorem send_joystick (command : Command) :
    (system.send command).joystick = system.joystick := rfl

@[simp] theorem send_trace (command : Command) :
    (system.send command).trace = system.trace ++ [.command command] := rfl

@[simp] theorem send_shouldExit (command : Command) :
    (system.send command).shouldExit = system.shouldExit := rfl

@[simp] theorem leave_shouldExit (code : Int) : (system.leave code).shouldExit = system.shouldExit := rfl

@[simp] theorem leave_pc (code : Int) : (system.leave code).pc = .returned code := rfl

@[simp] theorem leave_joystick (code : Int) : (system.leave code).joystick = none := rfl

@[simp] theorem leave_trace (code : Int) : (system.leave code).trace = system.trace := rfl

@[simp] theorem proceed_pc (throws : Bool) (next : Pc) :
    (system.proceed throws next).pc = if throws then .returned (-1) else next := by
  cases throws <;> rfl

@[simp] theorem proceed_joystick (throws : Bool) (next : Pc) :
    (system.proceed throws next).joystick = if throws then none else system.joystick := by
  cases throws <;> rfl

@[simp] theorem proceed_shouldExit (throws : Bool) (next : Pc) :
    (system.proceed throws next).shouldExit = system.shouldExit := by
  cases throws <;> rfl

@[simp] theorem proceed_trace (throws : Bool) (next : Pc) :
    (system.proceed throws next).trace = system.trace := by
  cases throws <;> rfl

@[simp] theorem readAxis_trace (next : AxisState → Pc) : (system.readAxis next).trace = system.trace := by
  unfold readAxis
  split
  · rfl
  · split <;> rfl

/-- Reading the stick goes on with the state `get_axis_state` returns, goes to the `catch`, or,
with no controller, does nothing. -/
theorem readAxis_cases (next : AxisState → Pc) :
    system.readAxis next = system ∨ (∃ state, system.readAxis next = { system with pc := next state }) ∨
      system.readAxis next = system.leave (-1) := by
  unfold readAxis
  split
  · exact .inl rfl
  · split
    · exact .inr (.inl ⟨_, rfl⟩)
    · exact .inr (.inr rfl)

/-- On a controller, reading the stick goes on with the state `get_axis_state` returns. -/
theorem readAxis_of_ok {joystick : Joystick κ} {state : AxisState} (next : AxisState → Pc)
    (present : system.joystick = some joystick)
    (read : joystick.getAxisState axisLeftThumbstick = .ok state) :
    system.readAxis next = { system with pc := next state } := by
  simp only [readAxis, present, read]

end System

section Frame

variable (device : Device) (memory : Nat → AxisState)

@[simp] theorem run_nil (system : System κ) : run device memory system [] = system := rfl

theorem run_append (system : System κ) (first second : List Action) :
    run device memory system (first ++ second) =
      run device memory (run device memory system first) second :=
  List.foldl_append ..

@[simp] theorem run_cons (system : System κ) (action : Action) (rest : List Action) :
    run device memory system (action :: rest) =
      run device memory (step device memory system action) rest := rfl

@[simp] theorem inputStep_pc (result : Option JsEvent) (system : System κ) :
    (inputStep result system).pc = system.pc := by
  unfold inputStep
  split <;> rfl

@[simp] theorem inputStep_shouldExit (result : Option JsEvent) (system : System κ) :
    (inputStep result system).shouldExit = system.shouldExit := by
  unfold inputStep
  split <;> rfl

/-- The input thread never calls the MiniPro. -/
@[simp] theorem commands_inputStep (result : Option JsEvent) (system : System κ) :
    commands (inputStep result system).trace = commands system.trace := by
  unfold inputStep
  split
  · rfl
  · cases result <;> cases (Joystick.poll _ _).2 <;> simp [commands, Observation.command?]

theorem inputStep_of_gone (result : Option JsEvent) {system : System κ}
    (gone : system.joystick = none) : inputStep result system = system := by
  simp only [inputStep, gone]

theorem sigint_eq {system : System κ} (started : system.pc ≠ .start) :
    sigint system = { system with shouldExit := true } := by
  unfold sigint
  split
  · contradiction
  · rfl

/-- What the main thread does to the trace: nothing, or one call on the MiniPro. -/
private theorem mainStep_trace (throws : Bool) (system : System κ) :
    (mainStep device memory throws system).trace = system.trace ∨
      ∃ command, (mainStep device memory throws system).trace = system.trace ++ [.command command] := by
  cases atPc : system.pc <;> simp only [mainStep, atPc, System.send_trace, System.proceed_trace,
    System.leave_trace, System.readAxis_trace, true_or]
  case openJoystick => split <;> (try split) <;> exact .inl rfl
  all_goals exact .inr ⟨_, rfl⟩

/-- The main thread never processes a record. -/
@[simp] theorem records_mainStep (throws : Bool) (system : System κ) :
    records (mainStep device memory throws system).trace = records system.trace := by
  rcases mainStep_trace device memory throws system with same | ⟨command, sent⟩
  · rw [same]
  · simp [sent]

theorem Pc.Moves.pastConstruction {pc next : Pc} (moves : pc.Moves next)
    (past : pc.pastConstruction) : next.pastConstruction := by
  cases moves <;> simp_all [Pc.pastConstruction]

theorem Pc.Moves.holdsController {pc next : Pc} (moves : pc.Moves next)
    (holds : next.holdsController) : pc.holdsController := by
  cases moves <;> simp_all [Pc.holdsController]

/-- What a statement of main can do to where it stands and to the controller: nothing, a move along
its control flow, the controller's construction, or leaving the `try` block, which destroys the
controller. -/
def Advances (before after : System κ) : Prop :=
  (after.pc = before.pc ∧ after.joystick = before.joystick) ∨
  (before.pc.Moves after.pc ∧ after.joystick = before.joystick) ∨
  (before.pc = .openJoystick ∧ after.pc = .check ∧
    ∃ joystick, Joystick.new device memory = .ok joystick ∧ after.joystick = some joystick) ∨
  (∃ code, after.pc = .returned code ∧ after.joystick = none)

private theorem advances_leave {before : System κ} (system : System κ) (code : Int) :
    Advances device memory before (system.leave code) :=
  .inr (.inr (.inr ⟨code, rfl, rfl⟩))

private theorem advances_proceed {before system : System κ} (throws : Bool) {next : Pc}
    (moves : before.pc.Moves next) (kept : system.joystick = before.joystick) :
    Advances device memory before (system.proceed throws next) := by
  cases throws
  · exact .inr (.inl ⟨moves, kept⟩)
  · exact advances_leave device memory system (-1)

/-- Every statement of main advances it along its control flow. -/
private theorem mainStep_advances (throws : Bool) (system : System κ) :
    Advances device memory system (mainStep device memory throws system) := by
  cases atPc : system.pc <;> simp only [mainStep, atPc]
  case start => exact .inr (.inl ⟨atPc ▸ .connect, rfl⟩)
  case connect => exact advances_proceed device memory throws (atPc ▸ .enableNotifications) rfl
  case enableNotifications =>
    exact advances_proceed device memory throws (atPc ▸ .enterRemoteControlMode) rfl
  case enterRemoteControlMode => exact advances_proceed device memory throws (atPc ▸ .openJoystick) rfl
  case openJoystick =>
    split
    · rename_i joystick opened
      cases throws
      · exact .inr (.inr (.inl ⟨atPc, rfl, joystick, opened, rfl⟩))
      · exact advances_leave device memory system (-1)
    · exact advances_leave device memory system (-1)
  case check => exact .inr (.inl ⟨by rw [atPc]; split <;> constructor, rfl⟩)
  case readThrottle | readSteering =>
    rcases system.readAxis_cases _ with same | ⟨state, moved⟩ | caught
    · exact .inl (by rw [same]; exact ⟨rfl, rfl⟩)
    · exact .inr (.inl (by rw [moved, atPc]; exact ⟨by constructor, rfl⟩))
    · exact caught ▸ advances_leave device memory system (-1)
  case drive => exact advances_proceed device memory throws (atPc ▸ .sleep _ _) rfl
  case sleep => exact advances_proceed device memory throws (atPc ▸ .check) rfl
  case stop => exact advances_proceed device memory throws (atPc ▸ .exitRemoteControlMode) rfl
  case exitRemoteControlMode =>
    exact advances_proceed device memory throws (atPc ▸ .disableNotifications) rfl
  case disableNotifications => exact advances_leave device memory _ _
  case returned | killed => exact .inl ⟨rfl, rfl⟩

/-- Once past the controller's construction, main stays past it. -/
theorem mainStep_pastConstruction {throws : Bool} {system : System κ}
    (past : system.pc.pastConstruction) : (mainStep device memory throws system).pc.pastConstruction := by
  rcases mainStep_advances device memory throws system with ⟨same, -⟩ | ⟨moves, -⟩ |
    ⟨-, atCheck, -⟩ | ⟨_, returned, -⟩
  · exact same ▸ past
  · exact moves.pastConstruction past
  · rw [atCheck]; rfl
  · rw [returned]; rfl

/-- The main thread keeps the controller it has, or constructs one from the device. -/
theorem mainStep_joystick {throws : Bool} {system : System κ} {joystick : Joystick κ}
    (present : (mainStep device memory throws system).joystick = some joystick) :
    system.joystick = some joystick ∨
      (system.pc = .openJoystick ∧ Joystick.new device memory = .ok joystick ∧
        (mainStep device memory throws system).pc = .check) := by
  rcases mainStep_advances device memory throws system with ⟨-, same⟩ | ⟨-, same⟩ |
    ⟨opening, atCheck, made, opened, constructed⟩ | ⟨-, -, gone⟩
  · exact .inl (same ▸ present)
  · exact .inl (same ▸ present)
  · obtain rfl : made = joystick := Option.some.inj (constructed.symm.trans present)
    exact .inr ⟨opening, opened, atCheck⟩
  · rw [gone] at present; cases present

/-- Where the controller exists after a step of main, it existed before or was just constructed. -/
theorem mainStep_holdsController {throws : Bool} {system : System κ}
    (holds : (mainStep device memory throws system).pc.holdsController) :
    (system.pc.holdsController ∧ (mainStep device memory throws system).joystick = system.joystick) ∨
      (system.pc = .openJoystick ∧ (mainStep device memory throws system).joystick.isSome) := by
  rcases mainStep_advances device memory throws system with ⟨same, kept⟩ | ⟨moves, kept⟩ |
    ⟨opening, -, _, -, constructed⟩ | ⟨_, returned, -⟩
  · exact .inl ⟨same ▸ holds, kept⟩
  · exact .inl ⟨moves.holdsController holds, kept⟩
  · exact .inr ⟨opening, by rw [constructed]; rfl⟩
  · rw [returned] at holds; cases holds

/-- Steps of the other parties leave main where it stands and send nothing, once `signal` ran. -/
theorem run_quiet (system : System κ) (actions : List Action)
    (quiet : ∀ action ∈ actions, action.isMain = false) (started : system.pc ≠ .start) :
    (run device memory system actions).pc = system.pc ∧
      commands (run device memory system actions).trace = commands system.trace := by
  induction actions generalizing system with
  | nil => exact ⟨rfl, rfl⟩
  | cons action rest ih =>
    have next : (step device memory system action).pc = system.pc ∧
        commands (step device memory system action).trace = commands system.trace := by
      cases action with
      | main => simp [Action.isMain] at quiet
      | read result => exact ⟨inputStep_pc result system, commands_inputStep result system⟩
      | sigint => simp [step, sigint_eq started]
    obtain ⟨pc, sent⟩ := ih _ (fun action member => quiet action (List.mem_cons_of_mem _ member))
      (next.1 ▸ started)
    exact ⟨pc.trans next.1, sent.trans next.2⟩

end Frame

end MiniPro.App

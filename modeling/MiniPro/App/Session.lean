import MiniPro.App.Shutdown
import MiniPro.App.DriveCommand

/-! # The session with the MiniPro

Whatever the interleaving and whichever calls throw, main talks to the MiniPro in one order:
`enable_notifications()`, `enter_remote_control_mode()`, drive commands only, then
`exit_remote_control_mode()` and `disable_notifications()`. Every run's calls are a prefix of that
order, and main returns 0 only after all of it, with `drive(0, 0)` as its last drive command.

Once `signal_handler` has run while main holds the controller, main gets there within eight of its
own steps when none of its calls throws, whatever the input thread and further signals do in
between: the loop finishes its iteration, sees `should_exit` and runs the three calls after it.
-/

namespace MiniPro.App

open MiniPro.Util

variable {κ : Type} (device : Device) (memory : Nat → AxisState)

/-- Whether a call is a drive command. -/
def Command.isDrive : Command → Bool
  | .drive _ _ => true
  | _ => false

/-- What main sends before the drive loop. -/
def openingCommands : List Command := [.enableNotifications, .enterRemoteControlMode]

/-- What main sends after its last drive command. -/
def closingCommands : List Command := [.exitRemoteControlMode, .disableNotifications]

/-- A prefix of the session's order: the opening calls, drive commands, the closing calls. -/
def InOrder (sent : List Command) : Prop :=
  ∃ drives : List Command, (∀ command ∈ drives, command.isDrive) ∧
    sent <+: openingCommands ++ drives ++ closingCommands

/-- The opening calls followed by drive commands only. -/
def Driven (sent : List Command) : Prop :=
  ∃ drives : List Command, (∀ command ∈ drives, command.isDrive) ∧ sent = openingCommands ++ drives

/-- What main has sent, by the statement it stands at. -/
def SentBy (sent : List Command) : Pc → Prop
  | .start | .connect | .enableNotifications | .killed => sent = []
  | .enterRemoteControlMode => sent = [.enableNotifications]
  | .exitRemoteControlMode => ∃ before, Driven before ∧ sent = before ++ [.drive 0 0]
  | .disableNotifications =>
    ∃ before, Driven before ∧ sent = before ++ [.drive 0 0, .exitRemoteControlMode]
  | .returned code => InOrder sent ∧ (code = 0 → ∃ before, Driven before ∧ sent = before ++ shutdownCommands)
  | _ => Driven sent

private theorem Driven.opening : Driven openingCommands := ⟨[], by simp, rfl⟩

private theorem Driven.drive {sent : List Command} (driven : Driven sent) (throttle steering : Int) :
    Driven (sent ++ [.drive throttle steering]) := by
  obtain ⟨drives, only, rfl⟩ := driven
  refine ⟨drives ++ [.drive throttle steering], fun command member => ?_, by simp⟩
  rcases List.mem_append.mp member with old | new
  · exact only command old
  · rw [List.mem_singleton.mp new]; rfl

private theorem Driven.inOrder {sent : List Command} (driven : Driven sent) : InOrder sent := by
  obtain ⟨drives, only, rfl⟩ := driven
  exact ⟨drives, only, List.prefix_append _ _⟩

private theorem Driven.inOrder_exit {before : List Command} (driven : Driven before) :
    InOrder (before ++ [.drive 0 0, .exitRemoteControlMode]) := by
  obtain ⟨drives, only, stopped⟩ := driven.drive 0 0
  refine ⟨drives, only, ⟨[.disableNotifications], ?_⟩⟩
  rw [← List.singleton_append, ← List.append_assoc, stopped]
  simp [closingCommands]

private theorem Driven.inOrder_shutdown {before : List Command} (driven : Driven before) :
    InOrder (before ++ shutdownCommands) := by
  obtain ⟨drives, only, stopped⟩ := driven.drive 0 0
  refine ⟨drives, only, ⟨[], ?_⟩⟩
  rw [shutdownCommands, ← List.singleton_append, ← List.append_assoc, stopped]
  simp [closingCommands]

/-- Wherever main stands, what it sent is in the session's order. -/
private theorem sentBy_inOrder {sent : List Command} {pc : Pc} (holds : SentBy sent pc) : InOrder sent := by
  have empty : InOrder [] := ⟨[], by simp, List.nil_prefix⟩
  cases pc <;> simp only [SentBy] at holds
  case start | connect | enableNotifications | killed => exact holds ▸ empty
  case enterRemoteControlMode => exact holds ▸ ⟨[], by simp, ⟨_, rfl⟩⟩
  case exitRemoteControlMode =>
    obtain ⟨before, driven, rfl⟩ := holds
    exact (driven.drive 0 0).inOrder
  case disableNotifications =>
    obtain ⟨before, driven, rfl⟩ := holds
    exact driven.inOrder_exit
  case returned => exact holds.1
  all_goals exact holds.inOrder

/-- Going to the `catch`. -/
private theorem sentBy_caught {sent : List Command} {pc : Pc} (holds : SentBy sent pc) :
    SentBy sent (.returned (-1)) :=
  ⟨sentBy_inOrder holds, fun zero => absurd zero (by decide)⟩

/-- Going on, or to the `catch` when the call just made threw. -/
private theorem sentBy_proceed {sent : List Command} {next : Pc} (throws : Bool) (moved : SentBy sent next) :
    SentBy sent (if throws then .returned (-1) else next) := by
  cases throws
  · exact moved
  · exact sentBy_caught moved

private theorem sentBy_readAxis {system : System κ} (next : AxisState → Pc)
    (holds : SentBy (commands system.trace) system.pc)
    (moved : ∀ state, SentBy (commands system.trace) (next state)) :
    SentBy (commands (system.readAxis next).trace) (system.readAxis next).pc := by
  rcases system.readAxis_cases next with same | ⟨state, moved'⟩ | caught
  · rw [same]; exact holds
  · rw [moved']; exact moved state
  · rw [caught]; exact sentBy_caught holds

/-- Every statement of main keeps what it sent in the session's order. -/
private theorem sentBy_mainStep {system : System κ} (throws : Bool)
    (holds : SentBy (commands system.trace) system.pc) :
    SentBy (commands (mainStep device memory throws system).trace)
      (mainStep device memory throws system).pc := by
  have original := holds
  cases atPc : system.pc <;> rw [atPc] at holds <;>
    simp only [mainStep, atPc, System.send_trace, System.proceed_trace, System.proceed_pc,
      System.leave_trace, System.leave_pc, commands_append, commands_command]
  case start | sleep | returned | killed => first | exact holds | exact sentBy_proceed throws holds
  case connect => exact sentBy_proceed throws holds
  case enableNotifications =>
    exact sentBy_proceed throws (by rw [show commands system.trace = [] from holds]; rfl)
  case enterRemoteControlMode =>
    exact sentBy_proceed throws
      (by rw [show commands system.trace = [.enableNotifications] from holds]; exact Driven.opening)
  case openJoystick =>
    split
    · split
      · exact sentBy_caught holds
      · exact holds
    · exact sentBy_caught holds
  case check => split <;> exact holds
  case readThrottle | readSteering => exact sentBy_readAxis _ original fun _ => holds
  case drive => exact sentBy_proceed throws (Driven.drive holds _ _)
  case stop => exact sentBy_proceed throws ⟨_, holds, rfl⟩
  case exitRemoteControlMode =>
    obtain ⟨before, driven, sent⟩ := holds
    exact sentBy_proceed throws ⟨before, driven, by simp [sent]⟩
  case disableNotifications =>
    obtain ⟨before, driven, sent⟩ := holds
    have whole : commands system.trace ++ [.disableNotifications] = before ++ shutdownCommands := by
      simp [sent, shutdownCommands]
    rw [whole]
    exact ⟨driven.inOrder_shutdown, fun _ => ⟨before, driven, rfl⟩⟩

private theorem sentBy_step {system : System κ} (action : Action)
    (holds : SentBy (commands system.trace) system.pc) :
    SentBy (commands (step device memory system action).trace) (step device memory system action).pc := by
  cases action with
  | main throws => exact sentBy_mainStep device memory throws holds
  | read result => simpa [step] using holds
  | sigint =>
    by_cases started : system.pc = .start
    · rw [started] at holds
      simpa [step, sigint, started, SentBy] using holds
    · rw [step, sigint_eq started]
      exact holds

private theorem sentBy_run (actions : List Action) :
    ∀ {system : System κ}, SentBy (commands system.trace) system.pc →
      SentBy (commands (run device memory system actions).trace) (run device memory system actions).pc := by
  induction actions with
  | nil => exact id
  | cons action rest ih => exact fun holds => ih (sentBy_step device memory action holds)

/-- Main's calls on the MiniPro follow the session order over every interleaving. -/
theorem commands_follow_session (actions : List Action) :
    InOrder (commands (run device memory (System.init κ) actions).trace) ∧
      ((run device memory (System.init κ) actions).pc = .returned 0 →
        ∃ before, Driven before ∧
          commands (run device memory (System.init κ) actions).trace = before ++ shutdownCommands) := by
  have holds := sentBy_run device memory actions (show SentBy (commands (System.init κ).trace) .start from rfl)
  refine ⟨sentBy_inOrder holds, fun returned => ?_⟩
  rw [returned] at holds
  exact holds.2 rfl

/-- How many steps of main separate a statement from `return 0` once `should_exit` is set. -/
def Pc.stepsToReturn : Pc → Nat
  | .readThrottle => 8
  | .readSteering _ => 7
  | .drive _ _ => 6
  | .sleep => 5
  | .check => 4
  | .stop => 3
  | .exitRemoteControlMode => 2
  | .disableNotifications => 1
  | _ => 0

private theorem Pc.stepsToReturn_pos {pc : Pc} (holding : pc.holdsController) : 0 < pc.stepsToReturn := by
  cases pc <;> simp_all [Pc.holdsController, Pc.stepsToReturn]

/-- Main on its way to `return 0`: the controller mirrors its records, `should_exit` is set, and main
holds the controller or has returned 0. -/
def Draining (system : System κ) : Prop :=
  Consistent device memory system ∧ system.shouldExit = true ∧
    (system.pc.holdsController ∨ system.pc = .returned 0)

section Draining

variable {axes : UInt8} (reported : device.axes = some axes) (stick : 0 < axes)
include reported stick

/-- A step of main that does not throw brings it one statement closer to `return 0`. -/
private theorem draining_mainStep {system : System κ} (draining : Draining device memory system) :
    Draining device memory (mainStep device memory false system) ∧
      (mainStep device memory false system).pc.stepsToReturn = system.pc.stepsToReturn - 1 := by
  obtain ⟨consistent, flagged, place⟩ := draining
  suffices moved : (mainStep device memory false system).shouldExit = true ∧
      ((mainStep device memory false system).pc.holdsController ∨
        (mainStep device memory false system).pc = .returned 0) ∧
      (mainStep device memory false system).pc.stepsToReturn = system.pc.stepsToReturn - 1 from
    ⟨⟨consistent_mainStep device memory false consistent, moved.1, moved.2.1⟩, moved.2.2⟩
  rcases place with holding | returned
  · cases atPc : system.pc <;> simp only [atPc, Pc.holdsController, Bool.false_eq_true] at holding
    case readThrottle =>
      simp [mainStep_readThrottle device memory reported stick false consistent atPc, flagged,
        atPc, Pc.holdsController, Pc.stepsToReturn]
    case readSteering =>
      simp [mainStep_readSteering device memory reported stick false consistent atPc, flagged,
        atPc, Pc.holdsController, Pc.stepsToReturn]
    all_goals simp [mainStep, atPc, flagged, Pc.holdsController, Pc.stepsToReturn]
  · simp [mainStep, returned, flagged, Pc.stepsToReturn]

/-- Every step that is not a throwing step of main keeps main on its way, and main's own steps
each bring it one statement closer. -/
private theorem draining_step {system : System κ} {action : Action} (calm : action ≠ .main true)
    (draining : Draining device memory system) :
    Draining device memory (step device memory system action) ∧
      (step device memory system action).pc.stepsToReturn =
        system.pc.stepsToReturn - if action.isMain then 1 else 0 := by
  obtain ⟨consistent, flagged, place⟩ := draining
  have started : system.pc ≠ .start := by rintro atStart; simp [atStart, Pc.holdsController] at place
  cases action with
  | main throws =>
    obtain rfl : throws = false := by simpa using calm
    exact draining_mainStep device memory reported stick ⟨consistent, flagged, place⟩
  | read result =>
    exact ⟨⟨consistent_step device memory _ consistent, by simpa [step] using flagged,
      by simpa [step] using place⟩, by simp [step, Action.isMain]⟩
  | sigint =>
    have consistent' := consistent_step device memory .sigint consistent
    rw [step, sigint_eq started] at consistent' ⊢
    exact ⟨⟨consistent', rfl, place⟩, by simp [Action.isMain]⟩

private theorem draining_run (later : List Action) (calm : ∀ action ∈ later, action ≠ .main true) :
    ∀ {system : System κ}, Draining device memory system →
      Draining device memory (run device memory system later) ∧
        (run device memory system later).pc.stepsToReturn ≤
          system.pc.stepsToReturn - later.countP Action.isMain := by
  induction later with
  | nil => exact fun draining => ⟨draining, le_refl _⟩
  | cons action rest ih =>
    intro system draining
    obtain ⟨draining', closer⟩ := draining_step device memory reported stick
      (calm action (List.mem_cons_self _ _)) draining
    obtain ⟨drained, fewer⟩ := ih (fun other member => calm other (List.mem_cons_of_mem _ member))
      draining'
    refine ⟨drained, ?_⟩
    rw [run_cons, List.countP_cons]
    by_cases main : action.isMain <;> simp only [main, if_true, if_false, Bool.false_eq_true] at closer ⊢ <;>
      omega

end Draining

/-- After `signal_handler`, main returns 0 within eight of its own steps that do not throw. -/
theorem shutdown_returns {axes : UInt8} (reported : device.axes = some axes) (stick : 0 < axes)
    (actions later : List Action)
    (holding : (run device memory (System.init κ) actions).pc.holdsController)
    (flagged : (run device memory (System.init κ) actions).shouldExit = true)
    (calm : ∀ action ∈ later, action ≠ .main true) (enough : 8 ≤ later.countP Action.isMain) :
    (run device memory (System.init κ) (actions ++ later)).pc = .returned 0 := by
  have draining : Draining device memory (run device memory (System.init κ) actions) :=
    ⟨consistent_run device memory actions (consistent_init device memory), flagged, .inl holding⟩
  obtain ⟨⟨-, -, place⟩, fewer⟩ := draining_run device memory reported stick later calm draining
  have bounded : (run device memory (System.init κ) actions).pc.stepsToReturn ≤ 8 := by
    cases (run device memory (System.init κ) actions).pc <;> simp [Pc.stepsToReturn]
  rw [run_append]
  refine place.resolve_left fun held => ?_
  have := Pc.stepsToReturn_pos held
  omega

/-- SIGINT while main stands at the loop's check: with a record processed in between, main
returns 0 within its next eight steps. -/
theorem shutdown_returns_after_sigint :
    (run ⟨true, some 8, some 11⟩ (fun _ => ⟨0, 0⟩) (System.init Unit)
        [.main false, .main false, .main false, .main false, .main false, .sigint]).pc.holdsController ∧
    (run ⟨true, some 8, some 11⟩ (fun _ => ⟨0, 0⟩) (System.init Unit)
        [.main false, .main false, .main false, .main false, .main false, .sigint]).shouldExit ∧
    (run ⟨true, some 8, some 11⟩ (fun _ => ⟨0, 0⟩) (System.init Unit)
        ([.main false, .main false, .main false, .main false, .main false, .sigint] ++
          .read (some ⟨-20000, JS_EVENT_AXIS, 1⟩) :: List.replicate 8 (.main false))).pc = .returned 0 :=
  ⟨rfl, rfl, shutdown_returns _ _ rfl (by decide) _ _ rfl rfl (by decide) (by decide)⟩

end MiniPro.App

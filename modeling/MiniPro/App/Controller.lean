import MiniPro.App.DriveCommand
import MiniPro.Util.JoystickLife

/-! # Main's controller and the joystick's life

`Main.lean` runs one iteration of the controller's input thread as one step, `inputStep`, and its
destructor inside the step of main that leaves the `try` block, `System.leave`. `JoystickLife.lean`
models the same thread statement by statement, interleaved with `~Joystick`. The atomic steps
simulate it: in every interleaving of the input thread and `~Joystick`, the loop's check and sleep
change nothing main can see, each read that takes effect is one `inputStep` with the same object
and the same records, and once `~Joystick` returned nothing more takes effect, as nothing does
after `leave`. `main` never calls `set_button_callback`, so the owner's calls are not among these
interleavings.
-/

namespace MiniPro.App

open MiniPro.Util

variable {κ : Type} (device : Device) (memory : Nat → AxisState)

/-- Each step of the input thread or of `~Joystick` is, on the controller main holds, no step or one
`inputStep`, with the same object and records. -/
private theorem inputStep_simulates_step {life : Life κ} {system : System κ}
    (held : system.joystick = some life.joystick) (action : LifeAction κ)
    (notCall : ∀ button callback, action ≠ .call button callback) :
    ∃ results : List (Option JsEvent), (life.step action).2.toList = results.map Step.read ∧
      (run device memory system (results.map Action.read)).joystick =
        some (life.step action).1.joystick ∧
      records (run device memory system (results.map Action.read)).trace =
        records system.trace ++ recordsOf (life.step action).2.toList ∧
      (run device memory system (results.map Action.read)).pc = system.pc := by
  cases action with
  | thread result =>
    simp only [Life.step, Life.threadStep]
    split
    next => exact ⟨[], rfl, held, by simp [recordsOf], rfl⟩
    next =>
      refine ⟨[result], rfl, ?_, ?_, inputStep_pc result system⟩
      · simp [step, inputStep, held]
      · rw [List.map_singleton, run_cons, run_nil, step, records_inputStep_of_some held]
        cases result <;> rfl
    all_goals exact ⟨[], rfl, held, by simp [recordsOf], rfl⟩
  | call button callback => exact absurd rfl (notCall button callback)
  | destroy =>
    obtain ⟨joystick, -⟩ := Life.destroy_frame life
    exact ⟨[], rfl, by simpa [Life.step] using held.trans (congrArg some joystick.symm),
      by simp [Life.step, recordsOf], rfl⟩

private theorem inputStep_simulates_run (actions : List (LifeAction κ))
    (noCalls : ∀ button callback, LifeAction.call button callback ∉ actions) :
    ∀ (life : Life κ) (system : System κ), system.joystick = some life.joystick →
      ∃ results : List (Option JsEvent), (life.run actions).2 = results.map Step.read ∧
        (run device memory system (results.map Action.read)).joystick =
          some (life.run actions).1.joystick ∧
        records (run device memory system (results.map Action.read)).trace =
          records system.trace ++ recordsOf (life.run actions).2 ∧
        (run device memory system (results.map Action.read)).pc = system.pc := by
  induction actions with
  | nil => exact fun _ _ held => ⟨[], rfl, held, by simp [recordsOf], rfl⟩
  | cons action rest ih =>
    intro life system held
    obtain ⟨first, steps, present, recorded, pc⟩ := inputStep_simulates_step device memory held action
      fun button callback same => noCalls button callback (same ▸ List.mem_cons_self _ _)
    obtain ⟨second, steps', present', recorded', pc'⟩ :=
      ih (fun button callback member => noCalls button callback (List.mem_cons_of_mem _ member)) _ _
        present
    refine ⟨first ++ second, ?_, ?_, ?_, ?_⟩
    · rw [Life.run_cons, steps, steps', List.map_append]
    · rw [List.map_append, run_append, present']
      rfl
    · rw [List.map_append, run_append, recorded', recorded, Life.run_cons]
      simp [recordsOf]
    · rw [List.map_append, run_append, pc', pc]

/-- Main's atomic input steps simulate the life of its controller over every interleaving of the
input thread and `~Joystick`. -/
theorem inputStep_simulates_life (joystick : Joystick κ) (system : System κ)
    (held : system.joystick = some joystick) (actions : List (LifeAction κ))
    (noCalls : ∀ button callback, LifeAction.call button callback ∉ actions) :
    let made := (Life.start joystick).run actions
    ∃ results : List (Option JsEvent), made.2 = results.map Step.read ∧
      (run device memory system (results.map Action.read)).joystick = some made.1.joystick ∧
      records (run device memory system (results.map Action.read)).trace =
        records system.trace ++ recordsOf made.2 ∧
      (run device memory system (results.map Action.read)).pc = system.pc ∧
      (made.1.owner = .destroyed → ∀ later, (made.1.run later).2 = []) := by
  obtain ⟨results, steps, present, recorded, pc⟩ :=
    inputStep_simulates_run device memory actions noCalls (Life.start joystick) system held
  exact ⟨results, steps, present, recorded, pc, fun destroyed later => by
    rw [Life.run_of_destroyed (Life.safe_run actions (Life.safe_start joystick)) destroyed later]⟩

end MiniPro.App

import MiniPro.Util.JoystickHistory

/-! # The life of a `Joystick`: its input thread, its owner and its destructor

The constructor ends by starting `input_thread_func` on a thread of its own. From then on the
owner's calls and the input thread interleave, until the owner runs `~Joystick`: it sets the
atomic `should_exit_`, joins the input thread and closes the device. The input thread checks
`should_exit_` once per iteration, reads at most one record from the device (which the
constructor made non-blocking), handles it, and sleeps.

Over every interleaving, the device is open whenever the input thread can still read it, and the
destructor gets past `join` only once the input thread has returned, so nothing happens to the
object after the destructor returned. Once `should_exit_` is set the input thread handles at most
one more record and returns within three of its own steps, so the destructor returns. Throughout,
the object and the callbacks it invoked are those of the sequential poller run over the steps that
took effect, hence the object of the history of those steps.

An owner's `set_button_callback` and the input thread's read, with the call of the callback it
loads, are each one atomic step here; `joystick.cpp` does not synchronise the store into
`button_map_` with that load, and a race between the two is not represented.
-/

namespace MiniPro.Util

variable {κ : Type}

/-- Where the input thread stands in `input_thread_func`. -/
inductive ThreadPc
  /-- `while (!should_exit_)` -/
  | check
  /-- `read(fd_, &event, sizeof(event))` and the `switch` on the record it read -/
  | read
  /-- `loop_rate.sleep()` -/
  | sleep
  /-- The function returned. -/
  | exited
deriving DecidableEq, Repr

/-- The input thread's next place: its check leaves the loop once `should_exit_` is set. -/
def ThreadPc.next (shouldExit : Bool) : ThreadPc → ThreadPc
  | .check => if shouldExit then .exited else .read
  | .read => .sleep
  | .sleep => .check
  | .exited => .exited

/-- The input thread returns from its check once `should_exit_` is set, and stays returned. -/
private theorem ThreadPc.next_eq_exited (shouldExit : Bool) (pc : ThreadPc) :
    pc.next shouldExit = .exited ↔ pc = .check ∧ shouldExit = true ∨ pc = .exited := by
  cases pc <;> cases shouldExit <;> simp [next]

/-- The input thread's own steps left before it returns, once `should_exit_` is set. -/
def ThreadPc.stepsToExit : ThreadPc → Nat
  | .check => 1
  | .sleep => 2
  | .read => 3
  | .exited => 0

private theorem ThreadPc.stepsToExit_eq_zero {pc : ThreadPc} : pc.stepsToExit = 0 ↔ pc = .exited := by
  cases pc <;> simp [stepsToExit]

/-- Where the owning thread stands with respect to `~Joystick`. -/
inductive OwnerPc
  /-- The object is in use; the destructor has not started. -/
  | inUse
  /-- `input_thread_->join()` -/
  | join
  /-- `close(fd_)` -/
  | close
  /-- The destructor returned. -/
  | destroyed
deriving DecidableEq, Repr

/-- Whether the owner got past `join`. -/
def OwnerPc.joined : OwnerPc → Bool
  | .close | .destroyed => true
  | _ => false

/-- The object and the two threads that share it, with the callbacks invoked so far. -/
structure Life (κ : Type) where
  joystick : Joystick κ
  /-- `should_exit_` -/
  shouldExit : Bool
  /-- `fd_` has not been closed. -/
  fdOpen : Bool
  thread : ThreadPc
  owner : OwnerPc
  invoked : List (κ × Bool)

/-- A step of one of the two threads. -/
inductive LifeAction (κ : Type)
  /-- The input thread's next statement; `result` is what `read` returns when that is the read. -/
  | thread (result : Option JsEvent)
  /-- The owner calls `set_button_callback`. -/
  | call (button : UInt8) (callback : Option κ)
  /-- The owner's next statement of `~Joystick`. -/
  | destroy

/-- Whether an action is the input thread's. -/
def LifeAction.isThread : LifeAction κ → Bool
  | .thread _ => true
  | _ => false

namespace Life

/-- One if the input thread is about to read, so that its next step can take a record into effect. -/
def pending (life : Life κ) : Nat := if life.thread = .read then 1 else 0

/-- The object as the constructor leaves it: the device open, `should_exit_` clear and the input
thread started at its loop's check. -/
def start (joystick : Joystick κ) : Life κ := ⟨joystick, false, true, .check, .inUse, []⟩

/-- The input thread's next statement, with what `read` returns when that is the read; and the
step of the sequential poller it amounts to, if any. -/
def threadStep (life : Life κ) (result : Option JsEvent) : Life κ × Option (Step κ) :=
  match life.thread with
  | .check => ({ life with thread := if life.shouldExit then .exited else .read }, none)
  | .read =>
    ({ life with
        joystick := (life.joystick.poll result).1
        thread := .sleep
        invoked := life.invoked ++ (life.joystick.poll result).2.toList }, some (.read result))
  | .sleep => ({ life with thread := .check }, none)
  | .exited => (life, none)

/-- The owner calls `set_button_callback`, which it can only do before it runs the destructor. -/
def call (life : Life κ) (button : UInt8) (callback : Option κ) : Life κ × Option (Step κ) :=
  match life.owner with
  | .inUse =>
    ({ life with joystick := (life.joystick.step (.setButtonCallback button callback)).1 },
      some (.setButtonCallback button callback))
  | _ => (life, none)

/-- The owner's next statement of `~Joystick`: `should_exit_.store(true)`, then
`input_thread_->join()`, which waits until the input thread returned, then `close(fd_)`. -/
def destroy (life : Life κ) : Life κ :=
  match life.owner with
  | .inUse => { life with shouldExit := true, owner := .join }
  | .join => if life.thread = .exited then { life with owner := .close } else life
  | .close => { life with fdOpen := false, owner := .destroyed }
  | .destroyed => life

/-- One step of the life, and the step of the sequential poller it amounts to, if any. -/
def step (life : Life κ) : LifeAction κ → Life κ × Option (Step κ)
  | .thread result => life.threadStep result
  | .call button callback => life.call button callback
  | .destroy => (life.destroy, none)

/-- Any interleaving: the final state and the poller steps that took effect, in order. -/
def run (life : Life κ) : List (LifeAction κ) → Life κ × List (Step κ)
  | [] => (life, [])
  | action :: rest => (((life.step action).1.run rest).1,
      (life.step action).2.toList ++ ((life.step action).1.run rest).2)

/-! ### What each step does -/

@[simp] theorem run_nil (life : Life κ) : life.run [] = (life, []) := rfl

theorem run_cons (life : Life κ) (action : LifeAction κ) (rest : List (LifeAction κ)) :
    life.run (action :: rest) = (((life.step action).1.run rest).1,
      (life.step action).2.toList ++ ((life.step action).1.run rest).2) := rfl

/-- The input thread moves along its loop and touches neither the owner's place nor the device's
state or the flag. -/
private theorem threadStep_control (life : Life κ) (result : Option JsEvent) :
    (life.threadStep result).1.thread = life.thread.next life.shouldExit ∧
      (life.threadStep result).1.owner = life.owner ∧
      (life.threadStep result).1.shouldExit = life.shouldExit ∧
      (life.threadStep result).1.fdOpen = life.fdOpen := by
  unfold threadStep
  split <;> simp_all [ThreadPc.next]

/-- The destructor touches neither the object's maps, the callbacks nor the input thread, and
never clears `should_exit_`. -/
theorem destroy_frame (life : Life κ) :
    life.destroy.joystick = life.joystick ∧ life.destroy.invoked = life.invoked ∧
      life.destroy.thread = life.thread ∧ (life.shouldExit = true → life.destroy.shouldExit = true) := by
  unfold destroy
  split
  · exact ⟨rfl, rfl, rfl, fun _ => rfl⟩
  · split <;> exact ⟨rfl, rfl, rfl, id⟩
  all_goals exact ⟨rfl, rfl, rfl, id⟩

/-- What holds in every reachable state of the life. -/
structure Safe (life : Life κ) : Prop where
  /-- `should_exit_` is set exactly once the destructor started. -/
  flag : life.shouldExit = true ↔ life.owner ≠ .inUse
  /-- The device is closed exactly once the destructor returned. -/
  fd : life.fdOpen = false ↔ life.owner = .destroyed
  /-- The destructor gets past `join` only once the input thread returned. -/
  joined : life.owner.joined → life.thread = .exited
  /-- The input thread returns only once `should_exit_` is set. -/
  exited : life.thread = .exited → life.shouldExit = true

theorem safe_start (joystick : Joystick κ) : (start joystick).Safe :=
  ⟨by simp [start], by simp [start], fun joined => (nomatch joined), fun exited => (nomatch exited)⟩

/-- The device is open wherever the input thread can still read it. -/
theorem Safe.fdOpen {life : Life κ} (safe : life.Safe) (running : life.thread ≠ .exited) :
    life.fdOpen = true := by
  cases open_ : life.fdOpen
  · exact absurd (safe.joined (by rw [safe.fd.mp open_]; rfl)) running
  · rfl

private theorem safe_threadStep {life : Life κ} (safe : life.Safe) (result : Option JsEvent) :
    (life.threadStep result).1.Safe := by
  obtain ⟨thread, owner, flag, fd⟩ := threadStep_control life result
  refine ⟨by rw [owner, flag]; exact safe.flag, by rw [owner, fd]; exact safe.fd,
    fun joined => ?_, fun exited => ?_⟩
  · rw [thread, safe.joined (owner ▸ joined)]; rfl
  · rw [thread, ThreadPc.next_eq_exited] at exited
    rw [flag]
    exact exited.elim And.right safe.exited

theorem safe_step {life : Life κ} (safe : life.Safe) (action : LifeAction κ) :
    (life.step action).1.Safe := by
  cases action with
  | thread result => exact safe_threadStep safe result
  | call button callback =>
    simp only [step, call]
    split
    · exact ⟨safe.flag, safe.fd, safe.joined, safe.exited⟩
    · exact safe
  | destroy =>
    simp only [step, destroy]
    split
    next atStart =>
      exact ⟨by simp, by simpa [atStart] using safe.fd, fun joined => (nomatch joined), fun _ => rfl⟩
    next atJoin =>
      split
      next exited =>
        exact ⟨by simpa [atJoin] using safe.flag, by simpa [atJoin] using safe.fd, fun _ => exited,
          safe.exited⟩
      next => exact safe
    next atClose =>
      exact ⟨by simpa [atClose] using safe.flag, by simp,
        fun _ => safe.joined (by rw [atClose]; rfl), safe.exited⟩
    next => exact safe

theorem safe_run (actions : List (LifeAction κ)) :
    ∀ {life : Life κ}, life.Safe → (life.run actions).1.Safe := by
  induction actions with
  | nil => exact id
  | cons action rest ih => exact fun safe => ih (safe_step safe action)

/-- Once the destructor returned, no step of either thread changes anything. -/
theorem run_of_destroyed {life : Life κ} (safe : life.Safe) (destroyed : life.owner = .destroyed)
    (later : List (LifeAction κ)) : life.run later = (life, []) := by
  have exited := safe.joined (by rw [destroyed]; rfl)
  have still : ∀ action, life.step action = (life, none) := by
    intro action
    cases action with
    | thread result => simp [step, threadStep, exited]
    | call button callback => simp [step, call, destroyed]
    | destroy => simp [step, destroy, destroyed]
  induction later with
  | nil => rfl
  | cons action rest ih => rw [run_cons, still, ih]; rfl

/-! ### Teardown -/

section Teardown

variable {life : Life κ}

/-- Once `should_exit_` is set, each step of the input thread brings its return one step closer. -/
private theorem step_draining (safe : life.Safe) (set : life.shouldExit = true) (action : LifeAction κ) :
    (life.step action).1.shouldExit = true ∧
      (life.step action).1.thread.stepsToExit ≤
        life.thread.stepsToExit - (if action.isThread then 1 else 0) ∧
      (life.step action).2.toList.length + (life.step action).1.pending ≤ life.pending := by
  cases action with
  | thread result =>
    simp only [step, threadStep]
    split <;> simp [*, ThreadPc.stepsToExit, pending, LifeAction.isThread]
  | call button callback =>
    simp only [step, call]
    split
    · exact absurd ‹_› (safe.flag.mp set)
    · simp [set, LifeAction.isThread]
  | destroy =>
    obtain ⟨-, -, thread, flag⟩ := destroy_frame life
    simp [step, pending, thread, flag set, LifeAction.isThread]

private theorem run_draining (later : List (LifeAction κ)) : ∀ {life : Life κ}, life.Safe →
    life.shouldExit = true → (life.run later).1.shouldExit = true ∧
      (life.run later).1.thread.stepsToExit ≤
        life.thread.stepsToExit - later.countP LifeAction.isThread ∧
      (life.run later).2.length + (life.run later).1.pending ≤ life.pending := by
  induction later with
  | nil => exact fun _ set => ⟨set, by simp, by simp⟩
  | cons action rest ih =>
    intro life safe set
    obtain ⟨set', closer, taken⟩ := step_draining safe set action
    obtain ⟨still, closer', taken'⟩ := ih (safe_step safe action) set'
    rw [run_cons, List.countP_cons, List.length_append]
    dsimp only
    exact ⟨still, by omega, by omega⟩

/-- With the input thread returned, the two statements left of the destructor, from wherever it
stands, finish it. -/
private theorem destroy_twice (started : life.owner ≠ .inUse) (exited : life.thread = .exited) :
    (life.run [.destroy, .destroy]).1.owner = .destroyed := by
  cases atPc : life.owner
  · exact absurd atPc started
  all_goals simp [run_cons, step, destroy, atPc, exited]

end Teardown

end Life

/-- `~Joystick` is safe and returns, over every interleaving of its owner and input thread. -/
theorem joystick_teardown (joystick : Joystick κ) (actions later : List (LifeAction κ)) :
    let life := ((Life.start joystick).run actions).1
    (life.thread ≠ .exited → life.fdOpen = true) ∧
      (life.owner = .destroyed → life.run later = (life, [])) ∧
      (life.shouldExit = true → (life.run later).2.length ≤ 1 ∧
        (3 ≤ later.countP LifeAction.isThread →
          ((life.run later).1.run [.destroy, .destroy]).1.owner = .destroyed)) := by
  intro life
  have safe : life.Safe := Life.safe_run actions (Life.safe_start joystick)
  refine ⟨safe.fdOpen, fun destroyed => Life.run_of_destroyed safe destroyed later, fun set => ?_⟩
  obtain ⟨still, closer, taken⟩ := Life.run_draining later safe set
  have atMostOne : life.pending ≤ 1 := by unfold Life.pending; split <;> omega
  have atMostThree : life.thread.stepsToExit ≤ 3 := by cases life.thread <;> decide
  refine ⟨by omega, fun enough => Life.destroy_twice ?_ ?_⟩
  · exact (Life.safe_run later safe).flag.mp still
  · exact ThreadPc.stepsToExit_eq_zero.mp (by omega)

/-- `~Joystick` stores `should_exit_` while the input thread is about to read: that read still takes
effect, and after three more thread steps two destructor steps finish. -/
theorem joystick_teardown_at_run :
    let life := ((Life.start (Joystick.opened 8 11 fun _ => ⟨0, 0⟩ : Joystick Unit)).run
      [.thread none, .destroy]).1
    let later : List (LifeAction Unit) := [.thread (some ⟨-20000, JS_EVENT_AXIS, 1⟩), .thread none,
      .thread none]
    life.thread ≠ .exited ∧ life.fdOpen = true ∧ life.shouldExit = true ∧
      (life.run later).2.length ≤ 1 ∧ 3 ≤ later.countP LifeAction.isThread ∧
      ((life.run later).1.run [.destroy, .destroy]).1.owner = .destroyed := by
  intro life later
  obtain ⟨fdOpen, -, draining⟩ :=
    joystick_teardown (Joystick.opened 8 11 fun _ => ⟨0, 0⟩ : Joystick Unit) [.thread none, .destroy] later
  have running : life.thread ≠ .exited := by decide
  exact ⟨running, fdOpen running, rfl, (draining rfl).1, by decide, (draining rfl).2 (by decide)⟩

end MiniPro.Util

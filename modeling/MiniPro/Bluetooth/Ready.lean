import MiniPro.Bluetooth.Procedures

/-! # The readiness handshake of `LEClient::LEClient`

Once the constructor has started the input thread, it locks `mutex_` and waits on `cv_` for up to
five seconds until `ready_` holds. The stack calls `ready_cb` on the input thread when the GATT
discovery ends: on success it sets `ready_` under `mutex_`, calls `cv_.notify_all()`, and then sets
`ready_` a second time without the mutex. `cv_.wait_for` with a predicate checks the predicate under
the mutex, and blocks, releasing the mutex, only while it is false; each wakeup, notified, spurious
or timed out, reacquires the mutex, and after a timeout the wait returns what the predicate says
then.

Over every interleaving of the two threads, whichever wakeups and timeouts occur: the two never
hold `mutex_` together; the constructor is never left blocked after `ready_cb` notified; the
unlocked second write finds `ready_` already set; the wait gives up only while `ready_cb` has not
taken the mutex; and once `ready_cb` has notified, the constructor returns a ready client within
three of its own steps. The five seconds are not modelled: a timeout may end any blocked wait.
-/

namespace MiniPro.Bluetooth

/-- Who holds `mutex_`. -/
inductive Holder
  | free
  | constructor
  | readyCb
deriving DecidableEq, Repr

/-- Where the constructor stands, from `std::unique_lock<std::mutex> lk(mutex_)` on. -/
inductive WaiterPc
  /-- The `unique_lock` locks `mutex_`. -/
  | lock
  /-- Holding `mutex_`, the wait evaluates `ready_`; `final` after a wakeup that timed out. -/
  | check (final : Bool)
  /-- Blocked on `cv_`, with `mutex_` released. -/
  | blocked
  /-- Woken, reacquiring `mutex_`; `timedOut` when the five seconds are up. -/
  | relock (timedOut : Bool)
  /-- `cv_.wait_for` returned `result`, with `mutex_` held. -/
  | returned (result : Bool)
  /-- The constructor ended as `waitOutcome` says, releasing `mutex_`. -/
  | ended (outcome : Outcome)
deriving DecidableEq, Repr

/-- Where `ready_cb` stands on the input thread. -/
inductive NotifierPc
  /-- The stack has not called it yet. -/
  | idle
  /-- `std::lock_guard<std::mutex> lk(This->mutex_)` -/
  | lock
  /-- Holding `mutex_`: `This->ready_ = true`, then the guard releases the mutex. -/
  | set
  /-- `This->cv_.notify_all()` -/
  | notify
  /-- `This->ready_ = true`, without the mutex. -/
  | setAgain
  /-- It returned after a successful discovery. -/
  | done
  /-- It was called with `success` false, printed the error code and returned. -/
  | failed
deriving DecidableEq, Repr

/-- Whether the constructor holds `mutex_` at this place. -/
def WaiterPc.holdsMutex : WaiterPc → Bool
  | .check _ | .returned _ => true
  | _ => false

/-- Whether the constructor has ended. -/
def WaiterPc.isEnded : WaiterPc → Bool
  | .ended _ => true
  | _ => false

/-- The constructor's own steps left before it ends, once `ready_cb` has notified. -/
def WaiterPc.stepsToEnd : WaiterPc → Nat
  | .lock | .blocked | .relock _ => 3
  | .check _ => 2
  | .returned _ => 1
  | .ended _ => 0

private theorem WaiterPc.stepsToEnd_le (pc : WaiterPc) : pc.stepsToEnd ≤ 3 := by
  cases pc <;> simp [stepsToEnd]

private theorem WaiterPc.stepsToEnd_pos {pc : WaiterPc} (waiting : pc.isEnded = false) : 0 < pc.stepsToEnd := by
  cases pc <;> simp_all [stepsToEnd, isEnded]

/-- Whether `ready_cb` has done its locked write of `ready_`. -/
def NotifierPc.hasSet : NotifierPc → Bool
  | .notify | .setAgain | .done => true
  | _ => false

/-- Whether `ready_cb` has notified `cv_`. -/
def NotifierPc.hasNotified : NotifierPc → Bool
  | .setAgain | .done => true
  | _ => false

/-- The shared state of the two threads. -/
structure Handshake where
  /-- `ready_`, false when the constructor starts the input thread. -/
  ready : Bool
  mutex : Holder
  waiter : WaiterPc
  notifier : NotifierPc
deriving DecidableEq, Repr

/-- A step of one of the two threads, or a wakeup of the blocked wait that no notify caused. -/
inductive HandshakeAction
  /-- The constructor's next statement. -/
  | constructor
  /-- The blocked wait wakes up spuriously or, with `timedOut`, because the five seconds are up. -/
  | wake (timedOut : Bool)
  /-- `ready_cb`'s next statement; `success` is what the stack passes it when it calls it. -/
  | readyCb (success : Bool)
deriving DecidableEq, Repr

def HandshakeAction.isConstructor : HandshakeAction → Bool
  | .constructor => true
  | _ => false

namespace Handshake

/-- The state when the constructor has started the input thread. -/
def start : Handshake := ⟨false, .free, .lock, .idle⟩

/-- The constructor's next statement. Taking `mutex_` waits while the other thread holds it. -/
def constructorStep (s : Handshake) : Handshake :=
  match s.waiter with
  | .lock => if s.mutex = .free then { s with mutex := .constructor, waiter := .check false } else s
  | .check final =>
    if s.ready then { s with waiter := .returned true }
    else if final then { s with waiter := .returned false }
    else { s with mutex := .free, waiter := .blocked }
  | .blocked => s
  | .relock timedOut =>
    if s.mutex = .free then { s with mutex := .constructor, waiter := .check timedOut } else s
  | .returned result => { s with mutex := .free, waiter := .ended (waitOutcome result) }
  | .ended _ => s

/-- A wakeup of the blocked wait. -/
def wake (s : Handshake) (timedOut : Bool) : Handshake :=
  match s.waiter with
  | .blocked => { s with waiter := .relock timedOut }
  | _ => s

/-- `ready_cb`'s next statement. `notify_all` wakes the blocked wait without a timeout. -/
def readyCbStep (s : Handshake) (success : Bool) : Handshake :=
  match s.notifier with
  | .idle => { s with notifier := if success then .lock else .failed }
  | .lock => if s.mutex = .free then { s with mutex := .readyCb, notifier := .set } else s
  | .set => { s with ready := true, mutex := .free, notifier := .notify }
  | .notify =>
    { s with waiter := if s.waiter = .blocked then .relock false else s.waiter, notifier := .setAgain }
  | .setAgain => { s with ready := true, notifier := .done }
  | .done | .failed => s

def step (s : Handshake) : HandshakeAction → Handshake
  | .constructor => s.constructorStep
  | .wake timedOut => s.wake timedOut
  | .readyCb success => s.readyCbStep success

/-- Any interleaving of the two threads and the wakeups. -/
def run (s : Handshake) (actions : List HandshakeAction) : Handshake := actions.foldl step s

@[simp] theorem run_nil (s : Handshake) : s.run [] = s := rfl

@[simp] theorem run_cons (s : Handshake) (action : HandshakeAction) (rest : List HandshakeAction) :
    s.run (action :: rest) = (s.step action).run rest := rfl

/-! ### The invariant -/

/-- What holds in every reachable state of the handshake. -/
structure Inv (s : Handshake) : Prop where
  /-- `ready_` is set exactly once `ready_cb` did its locked write. -/
  ready : s.ready = s.notifier.hasSet
  /-- The constructor holds `mutex_` exactly while it evaluates `ready_` or has returned from the
  wait. -/
  constructorHolds : s.mutex = .constructor ↔ s.waiter.holdsMutex
  /-- `ready_cb` holds `mutex_` exactly at its locked write. -/
  readyCbHolds : s.mutex = .readyCb ↔ s.notifier = .set
  /-- No lost wakeup: the wait is not blocked once `ready_cb` notified. -/
  awake : s.waiter = .blocked → s.notifier.hasNotified = false
  /-- The wait returned what `ready_` still is. -/
  decided : ∀ result, s.waiter = .returned result → s.ready = result
  /-- The constructor returned the ready client only with `ready_` set. -/
  succeeded : s.waiter = .ended (waitOutcome true) → s.ready = true

theorem inv_start : start.Inv :=
  ⟨rfl, by simp [start, WaiterPc.holdsMutex], by simp [start], fun _ => rfl, fun _ => nofun, nofun⟩

/-- `ready_cb` has notified only after its locked write. -/
private theorem NotifierPc.hasSet_of_hasNotified {pc : NotifierPc} (notified : pc.hasNotified) :
    pc.hasSet := by
  cases pc <;> trivial

private theorem waitOutcome_injective {first second : Bool} (same : waitOutcome first = waitOutcome second) :
    first = second := by
  cases first <;> cases second <;> first | rfl | cases same

variable {s : Handshake}

/-- The two threads never hold `mutex_` together. -/
theorem Inv.exclusive (inv : s.Inv) (holds : s.waiter.holdsMutex) : s.notifier ≠ .set := by
  intro atSet
  have byConstructor := inv.constructorHolds.mpr holds
  rw [inv.readyCbHolds.mpr atSet] at byConstructor
  cases byConstructor

private theorem Inv.mutex_free (inv : s.Inv) (waiterFree : s.waiter.holdsMutex = false)
    (notifierFree : s.notifier ≠ .set) : s.mutex = .free := by
  cases held : s.mutex
  · rfl
  · simp [inv.constructorHolds.mp held] at waiterFree
  · exact absurd (inv.readyCbHolds.mp held) notifierFree

/-! Each move of the constructor keeps the invariant: taking `mutex_`, the wait's verdict, and
releasing `mutex_` to block or to end. -/

private theorem Inv.acquire (inv : s.Inv) (free : s.mutex = .free) (final : Bool) :
    { s with mutex := .constructor, waiter := .check final }.Inv :=
  ⟨inv.ready, by simp [WaiterPc.holdsMutex], by simpa [free] using inv.readyCbHolds, nofun, nofun,
    nofun⟩

private theorem Inv.returns (inv : s.Inv) {final : Bool} (atCheck : s.waiter = .check final) (result : Bool)
    (verdict : s.ready = result) : { s with waiter := .returned result }.Inv :=
  ⟨inv.ready, by simpa [atCheck, WaiterPc.holdsMutex] using inv.constructorHolds, inv.readyCbHolds,
    nofun, fun _ returned => by cases returned; exact verdict, nofun⟩

private theorem Inv.release (inv : s.Inv) (holds : s.waiter.holdsMutex) {waiter : WaiterPc}
    (released : waiter.holdsMutex = false) (blocked : waiter = .blocked → s.ready = false)
    (ended : waiter = .ended (waitOutcome true) → s.ready = true) :
    { s with mutex := .free, waiter := waiter }.Inv := by
  refine ⟨inv.ready, by simp [released], by simpa using inv.exclusive holds, fun atBlocked => ?_,
    fun _ returned => (by cases (show waiter = _ from returned); cases released), ended⟩
  have unset := inv.ready.symm.trans (blocked atBlocked)
  cases notified : s.notifier.hasNotified
  · rfl
  · simp [NotifierPc.hasSet_of_hasNotified notified] at unset

private theorem inv_constructorStep (inv : s.Inv) : s.constructorStep.Inv := by
  unfold constructorStep
  split
  next =>
    split
    next free => exact inv.acquire free false
    next => exact inv
  next atCheck =>
    split
    next set => exact inv.returns atCheck true set
    next unset =>
      split
      next => exact inv.returns atCheck false (by simpa using unset)
      next => exact inv.release (by rw [atCheck]; rfl) rfl (fun _ => by simpa using unset) nofun
  next => exact inv
  next =>
    split
    next free => exact inv.acquire free _
    next => exact inv
  next result atReturned =>
    refine inv.release (by rw [atReturned]; rfl) rfl nofun fun ended => ?_
    cases waitOutcome_injective (WaiterPc.ended.inj ended)
    exact inv.decided true atReturned
  next => exact inv

private theorem inv_wake (inv : s.Inv) (timedOut : Bool) : (s.wake timedOut).Inv := by
  unfold wake
  split
  next atBlocked =>
    exact ⟨inv.ready, by simpa [atBlocked, WaiterPc.holdsMutex] using inv.constructorHolds,
      inv.readyCbHolds, nofun, nofun, nofun⟩
  next => exact inv

private theorem inv_readyCbStep (inv : s.Inv) (success : Bool) : (s.readyCbStep success).Inv := by
  obtain ⟨ready, constructorHolds, readyCbHolds, awake, decided, succeeded⟩ := inv
  have notHeld {pc : NotifierPc} (atPc : s.notifier = pc) (other : pc ≠ .set) : s.mutex ≠ .readyCb :=
    fun held => other (atPc ▸ readyCbHolds.mp held)
  unfold readyCbStep
  split
  next atIdle =>
    have unset : s.ready = false := by rw [ready, atIdle]; rfl
    cases success <;>
      exact ⟨unset, constructorHolds, by simpa using notHeld atIdle nofun, fun _ => rfl, decided,
        succeeded⟩
  next atLock =>
    split
    next free =>
      exact ⟨by rw [ready, atLock]; rfl, by simpa [free] using constructorHolds, by simp,
        fun _ => rfl, decided, succeeded⟩
    next => exact ⟨ready, constructorHolds, readyCbHolds, awake, decided, succeeded⟩
  next atSet =>
    have waiterFree : s.waiter.holdsMutex = false := by
      simpa [readyCbHolds.mpr atSet] using constructorHolds.symm
    refine ⟨rfl, by simp [waiterFree], by simp, fun _ => rfl, fun result returned => ?_, fun _ => rfl⟩
    simp [show s.waiter = .returned result from returned, WaiterPc.holdsMutex] at waiterFree
  next atNotify =>
    have set : s.ready = true := by rw [ready, atNotify]; rfl
    split
    next atBlocked =>
      exact ⟨set, by simpa [atBlocked, WaiterPc.holdsMutex] using constructorHolds,
        by simpa using notHeld atNotify nofun, nofun, nofun, nofun⟩
    next notBlocked =>
      exact ⟨set, constructorHolds, by simpa using notHeld atNotify nofun,
        fun blocked => absurd blocked notBlocked, decided, succeeded⟩
  next atSetAgain =>
    have set : s.ready = true := by rw [ready, atSetAgain]; rfl
    exact ⟨rfl, constructorHolds, by simpa using notHeld atSetAgain nofun,
      fun blocked => by simpa [atSetAgain] using awake blocked,
      fun result returned => set.symm.trans (decided result returned), fun _ => rfl⟩
  all_goals exact ⟨ready, constructorHolds, readyCbHolds, awake, decided, succeeded⟩

theorem inv_step (inv : s.Inv) : ∀ action, (s.step action).Inv
  | .constructor => inv_constructorStep inv
  | .wake timedOut => inv_wake inv timedOut
  | .readyCb success => inv_readyCbStep inv success

theorem inv_run (actions : List HandshakeAction) : ∀ {s : Handshake}, s.Inv → (s.run actions).Inv := by
  induction actions with
  | nil => exact id
  | cons action rest ih => exact fun inv => ih (inv_step inv action)

/-! ### Once `ready_cb` has notified -/

private theorem step_of_ended {outcome : Outcome} (ended : s.waiter = .ended outcome)
    (action : HandshakeAction) : (s.step action).waiter = .ended outcome := by
  cases action with
  | constructor => simp [step, constructorStep, ended]
  | wake timedOut => simp [step, wake, ended]
  | readyCb success =>
    simp only [step, readyCbStep]
    split <;> (try split) <;> simp_all

private theorem run_of_ended {outcome : Outcome} (later : List HandshakeAction) :
    ∀ {s : Handshake}, s.waiter = .ended outcome → (s.run later).waiter = .ended outcome := by
  induction later with
  | nil => exact id
  | cons action rest ih => exact fun ended => ih (step_of_ended ended action)

/-- Once `ready_cb` has notified, each of the constructor's steps brings its end one step closer. -/
private theorem step_notified (inv : s.Inv) (notified : s.notifier.hasNotified)
    (waiting : s.waiter.isEnded = false) (action : HandshakeAction) :
    (s.step action).notifier.hasNotified ∧
      ((s.step action).waiter = .ended (waitOutcome true) ∨
        (s.step action).waiter.isEnded = false ∧
          (s.step action).waiter.stepsToEnd + (if action.isConstructor then 1 else 0) ≤
            s.waiter.stepsToEnd) := by
  have set : s.ready = true := inv.ready.trans (NotifierPc.hasSet_of_hasNotified notified)
  have notBlocked : s.waiter ≠ .blocked := fun blocked => by
    simp [inv.awake blocked] at notified
  have free : s.waiter.holdsMutex = false → s.mutex = .free := fun waiterFree =>
    inv.mutex_free waiterFree fun atSet => by simp [atSet, NotifierPc.hasNotified] at notified
  cases action with
  | constructor =>
    cases atPc : s.waiter with
    | lock =>
      simp [step, constructorStep, atPc, free (by rw [atPc]; rfl), notified, WaiterPc.isEnded,
        WaiterPc.stepsToEnd, HandshakeAction.isConstructor]
    | check final =>
      simp [step, constructorStep, atPc, set, notified, WaiterPc.isEnded, WaiterPc.stepsToEnd,
        HandshakeAction.isConstructor]
    | blocked => exact absurd atPc notBlocked
    | relock timedOut =>
      simp [step, constructorStep, atPc, free (by rw [atPc]; rfl), notified, WaiterPc.isEnded,
        WaiterPc.stepsToEnd, HandshakeAction.isConstructor]
    | returned result =>
      cases set.symm.trans (inv.decided result atPc)
      simp [step, constructorStep, atPc, notified]
    | ended outcome => simp [atPc, WaiterPc.isEnded] at waiting
  | wake timedOut =>
    have unchanged : s.wake timedOut = s := by
      unfold wake
      split
      · exact absurd ‹_› notBlocked
      · rfl
    simp only [step, unchanged]
    exact ⟨notified, .inr ⟨waiting, by simp [HandshakeAction.isConstructor]⟩⟩
  | readyCb success =>
    simp only [step, readyCbStep]
    split <;> simp_all [NotifierPc.hasNotified, HandshakeAction.isConstructor]

private theorem run_notified (later : List HandshakeAction) : ∀ {s : Handshake}, s.Inv →
    s.notifier.hasNotified → s.waiter.isEnded = false →
    (s.run later).waiter = .ended (waitOutcome true) ∨
      (s.run later).waiter.isEnded = false ∧
        (s.run later).waiter.stepsToEnd + later.countP HandshakeAction.isConstructor ≤
          s.waiter.stepsToEnd := by
  induction later with
  | nil => exact fun _ _ waiting => .inr ⟨waiting, by simp⟩
  | cons action rest ih =>
    intro s inv notified waiting
    obtain ⟨notified', ended | ⟨waiting', closer⟩⟩ := step_notified inv notified waiting action
    · exact .inl (run_of_ended rest ended)
    · rcases ih (inv_step inv action) notified' waiting' with ended | ⟨still, closer'⟩
      · exact .inl ended
      · refine .inr ⟨still, ?_⟩
        rw [List.countP_cons, run_cons]
        omega

end Handshake

/-- Mutual exclusion, no lost wakeup and the constructor's outcome, over every interleaving. -/
theorem ready_handshake (actions later : List HandshakeAction) :
    let s := Handshake.start.run actions
    (s.waiter.holdsMutex → s.notifier ≠ .set) ∧
      (s.waiter = .blocked → s.notifier ≠ .setAgain ∧ s.notifier ≠ .done) ∧
      (s.notifier = .setAgain → s.ready = true) ∧
      (s.waiter = .returned false → s.notifier = .idle ∨ s.notifier = .lock ∨ s.notifier = .failed) ∧
      (s.waiter = .ended (waitOutcome true) → s.notifier.hasSet) ∧
      (s.notifier.hasNotified → s.waiter.isEnded = false →
        3 ≤ later.countP HandshakeAction.isConstructor →
          (s.run later).waiter = .ended (waitOutcome true)) := by
  intro s
  have inv : s.Inv := Handshake.inv_run actions Handshake.inv_start
  refine ⟨inv.exclusive, fun blocked => ?_, fun atSetAgain => ?_, fun gaveUp => ?_,
    fun ended => inv.ready ▸ inv.succeeded ended, fun notified waiting enough => ?_⟩
  · have awake := inv.awake blocked
    constructor <;> intro atPc <;> simp [atPc, NotifierPc.hasNotified] at awake
  · simpa [atSetAgain, NotifierPc.hasSet] using inv.ready
  · have unset := inv.ready.symm.trans (inv.decided false gaveUp)
    have notSet := inv.exclusive (by rw [gaveUp]; rfl)
    cases atPc : s.notifier <;> simp_all [NotifierPc.hasSet]
  · rcases Handshake.run_notified later inv notified waiting with ended | ⟨still, closer⟩
    · exact ended
    · have := WaiterPc.stepsToEnd_pos still
      have := s.waiter.stepsToEnd_le
      omega

/-- The wait blocks, `ready_cb` sets `ready_` and notifies: the woken constructor returns the ready
client within three of its steps. -/
theorem ready_handshake_after_notify :
    let s := Handshake.start.run [.constructor, .constructor, .readyCb true, .readyCb true,
      .readyCb true, .readyCb true]
    s.notifier = .setAgain ∧ s.ready = true ∧ s.notifier.hasNotified ∧ s.waiter.isEnded = false ∧
      (s.run [.constructor, .constructor, .constructor]).waiter = .ended (waitOutcome true) := by
  intro s
  obtain ⟨-, -, setAgain, -, -, returns⟩ := ready_handshake [.constructor, .constructor,
    .readyCb true, .readyCb true, .readyCb true, .readyCb true] [.constructor, .constructor, .constructor]
  exact ⟨rfl, setAgain rfl, rfl, rfl, returns rfl rfl (by decide)⟩

end MiniPro.Bluetooth

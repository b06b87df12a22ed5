import Mathlib.Logic.Basic

/-! # The reliable-write session of `LEClient`

`LEClient` keeps `reliable_session_id_`, the id of the reliable-write session it believes open
(0 for none), and the Bluetooth stack keeps its own. `write_prepare` refuses an id other than the
client's and otherwise stores whatever the stack's prepare write returns; `write_execute` commits
(blocking on the completion) or cancels the id its caller names, and then clears the client's id
whatever happened. The stack follows the session discipline of the spec: a prepare write is
refused unless it names the open session, and committing or cancelling the open session closes it.

The client's id is always the stack's session or 0, but it is not always the stack's session:
a failed prepare write that continued an open session, and a cancel that names another id, both
clear the client's id while the stack's session stays open.
-/

namespace MiniPro.Bluetooth

/-- What the stack does with a prepare write that names its open session: it fails, or it
succeeds, continuing the session under the same id or opening one under a fresh nonzero id. -/
inductive PrepareOutcome
  | fail
  | succeed (fresh : UInt32) (nonzero : fresh ≠ 0)

/-- The stack's side of the session: the open session's id, 0 for none. -/
structure Stack where
  session : UInt32
deriving DecidableEq, Repr

/-- The field of `LEClient` that the two calls read and write. -/
structure LEClient where
  reliableSessionId : UInt32
deriving DecidableEq, Repr

/-- `bt_gatt_client_prepare_write` under the session discipline: its return value and the stack
after it. -/
def Stack.prepareWrite (stack : Stack) (id : UInt32) (outcome : PrepareOutcome) : UInt32 × Stack :=
  if id ≠ stack.session then (0, stack) else
  match outcome with
  | .fail => (0, stack)
  | .succeed fresh _ =>
    let opened := if id = 0 then fresh else id
    (opened, ⟨opened⟩)

/-- `bt_gatt_client_write_execute` with its completion: it is dispatched only for the open
session, when the stack manages to send it, and the completion closes the session whatever its
status. The first component says whether it was dispatched. -/
def Stack.writeExecute (stack : Stack) (id : UInt32) (sent : Bool) : Bool × Stack :=
  if id = stack.session ∧ sent then (true, ⟨0⟩) else (false, stack)

/-- `bt_gatt_client_cancel`: closes the open session when it is the one named. -/
def Stack.cancel (stack : Stack) (id : UInt32) : Stack :=
  if id = stack.session then ⟨0⟩ else stack

/-- The client and the stack together. -/
structure Session where
  client : LEClient
  stack : Stack
deriving DecidableEq, Repr

namespace Session

/-- Both sides start with no session open. -/
def init : Session := ⟨⟨0⟩, ⟨0⟩⟩

/-- `LEClient::write_prepare`. The handle, offset and value only travel to the stack. -/
def writePrepare (session : Session) (id : UInt32) (outcome : PrepareOutcome) : Session :=
  if session.client.reliableSessionId ≠ id then session else
  let (returned, stack) := session.stack.prepareWrite id outcome
  ⟨⟨returned⟩, stack⟩

/-- `LEClient::write_execute`; `none` when it never returns: when the stack did not dispatch the
write execute, `future.get()` waits on a promise that nobody fulfils. -/
def writeExecute (session : Session) (sessionId : UInt32) (execute sent : Bool) : Option Session :=
  if execute then
    let (dispatched, stack) := session.stack.writeExecute sessionId sent
    if dispatched then some ⟨⟨0⟩, stack⟩ else none
  else some ⟨⟨0⟩, session.stack.cancel sessionId⟩

end Session

/-- A call of the caller, with the stack's choices for it. -/
inductive Call
  | writePrepare (id : UInt32) (outcome : PrepareOutcome)
  | writeExecute (sessionId : UInt32) (execute sent : Bool)

namespace Session

/-- One call; `none` when it never returns. -/
def call (session : Session) : Call → Option Session
  | .writePrepare id outcome => some (session.writePrepare id outcome)
  | .writeExecute sessionId execute sent => session.writeExecute sessionId execute sent

/-- A sequence of calls from one caller; `none` once a call never returns. -/
def run (session : Session) : List Call → Option Session
  | [] => some session
  | call :: rest => (session.call call).bind (·.run rest)

/-- The client's id is the stack's open session. -/
def Agrees (session : Session) : Prop :=
  session.client.reliableSessionId = session.stack.session

instance (session : Session) : Decidable session.Agrees :=
  inferInstanceAs (Decidable (_ = _))

/-- The client holds no id, or the stack's open session. -/
def ClearedOrAgrees (session : Session) : Prop :=
  session.client.reliableSessionId = 0 ∨ session.Agrees

end Session

/-- A call that returns with the client's id cleared while the stack keeps its session open: a
failed prepare write made with a session open, or a cancel naming an id that is not open. -/
def Call.Strands (session : Session) : Call → Prop
  | .writePrepare id .fail => id = session.client.reliableSessionId ∧ session.stack.session ≠ 0
  | .writeExecute sessionId false _ => sessionId ≠ session.stack.session ∧ session.stack.session ≠ 0
  | _ => False

namespace Session

@[simp] theorem run_nil (session : Session) : session.run [] = some session := rfl

@[simp] theorem run_cons (session : Session) (call : Call) (rest : List Call) :
    session.run (call :: rest) = (session.call call).bind (·.run rest) := rfl

/-- What a call that returns can do: leave both sides as they were, store the stack's answer to a
prepare write, or clear the client's id while the stack closes its session or keeps it. -/
private theorem call_cases {session next : Session} {call : Call} (returned : session.call call = some next) :
    next = session ∨
    (∃ id outcome, call = .writePrepare id outcome ∧ id = session.client.reliableSessionId ∧
      next = ⟨⟨(session.stack.prepareWrite id outcome).1⟩, (session.stack.prepareWrite id outcome).2⟩) ∨
    (∃ sessionId sent, call = .writeExecute sessionId true sent ∧ sessionId = session.stack.session ∧
      next = ⟨⟨0⟩, ⟨0⟩⟩) ∨
    (∃ sessionId sent, call = .writeExecute sessionId false sent ∧
      next = ⟨⟨0⟩, session.stack.cancel sessionId⟩) := by
  cases call with
  | writePrepare id outcome =>
    simp only [Session.call, writePrepare, Option.some.injEq] at returned
    subst returned
    by_cases same : session.client.reliableSessionId = id
    · exact .inr (.inl ⟨id, outcome, rfl, same.symm, by simp [same]⟩)
    · exact .inl (by simp [same])
  | writeExecute sessionId execute sent =>
    cases execute with
    | true =>
      simp only [Session.call, writeExecute, Stack.writeExecute, if_true] at returned
      by_cases dispatched : sessionId = session.stack.session ∧ sent = true
      · simp only [dispatched, and_self, if_true, Option.some.injEq] at returned
        exact .inr (.inr (.inl ⟨sessionId, sent, rfl, dispatched.1, returned.symm⟩))
      · simp [dispatched] at returned
    | false =>
      simp only [Session.call, writeExecute, Bool.false_eq_true, if_false, Option.some.injEq] at returned
      exact .inr (.inr (.inr ⟨sessionId, sent, rfl, returned.symm⟩))

private theorem prepareWrite_of_agrees {stack : Stack} {id : UInt32} (outcome : PrepareOutcome)
    (same : id = stack.session) :
    (stack.prepareWrite id outcome).1 = (stack.prepareWrite id outcome).2.session ∨
      ((stack.prepareWrite id outcome).1 = 0 ∧ outcome = .fail) := by
  cases outcome <;> simp [Stack.prepareWrite, same]

/-- Every call that returns keeps the client's id 0 or the stack's session. -/
private theorem call_clearedOrAgrees {session next : Session} {call : Call}
    (returned : session.call call = some next) (holds : session.ClearedOrAgrees) :
    next.ClearedOrAgrees := by
  unfold ClearedOrAgrees Agrees at *
  rcases call_cases returned with rfl | ⟨id, outcome, -, passed, rfl⟩ | ⟨_, _, -, -, rfl⟩ |
    ⟨_, _, -, rfl⟩
  · exact holds
  · by_cases open_ : id = session.stack.session
    · rcases prepareWrite_of_agrees outcome open_ with agree | ⟨cleared, -⟩
      · exact .inr agree
      · exact .inl cleared
    · exact .inl (by simp [Stack.prepareWrite, open_])
  · exact .inr rfl
  · exact .inl rfl

/-- A call that returns from a state where both sides agree keeps them agreeing unless it strands
the stack's session. -/
private theorem call_agrees {session next : Session} {call : Call}
    (returned : session.call call = some next) (holds : session.Agrees)
    (kept : ¬ call.Strands session) : next.Agrees := by
  unfold Agrees at *
  rcases call_cases returned with rfl | ⟨id, outcome, rfl, passed, rfl⟩ | ⟨_, _, -, -, rfl⟩ |
    ⟨sessionId, sent, rfl, rfl⟩
  · exact holds
  · rcases prepareWrite_of_agrees outcome (passed.trans holds) with agree | ⟨cleared, rfl⟩
    · exact agree
    · simp only [Call.Strands, not_and, not_not] at kept
      simp [Stack.prepareWrite, cleared, kept passed]
  · rfl
  · simp only [Call.Strands, not_and, not_not] at kept
    by_cases named : sessionId = session.stack.session
    · simp [Stack.cancel, named]
    · rw [Stack.cancel, if_neg named]
      exact (kept named).symm

private theorem run_clearedOrAgrees (calls : List Call) :
    ∀ {session final : Session}, session.run calls = some final → session.ClearedOrAgrees →
      final.ClearedOrAgrees := by
  induction calls with
  | nil => intro session final returned holds; cases returned; exact holds
  | cons call rest ih =>
    intro session final returned holds
    obtain ⟨next, step, later⟩ := Option.bind_eq_some.mp returned
    exact ih later (call_clearedOrAgrees step holds)

private theorem run_agrees (calls : List Call) :
    ∀ {session final : Session}, session.run calls = some final → session.Agrees →
      (∀ before call after middle, calls = before ++ call :: after →
        session.run before = some middle → ¬ call.Strands middle) → final.Agrees := by
  induction calls with
  | nil => intro session final returned holds _; cases returned; exact holds
  | cons call rest ih =>
    intro session final returned holds kept
    obtain ⟨next, step, later⟩ := Option.bind_eq_some.mp returned
    refine ih later (call_agrees step holds (kept [] call rest session rfl rfl)) ?_
    intro before other after middle split reached
    exact kept (call :: before) other after middle (by rw [split]; rfl) (by simp [step, reached])

end Session

/-- A cancel of another id, or a failed prepare write, leaves the client at 0 with session 5 open. -/
theorem reliable_session_mirror_fails :
    (∃ final, Session.init.run [.writePrepare 0 (.succeed 5 (by decide)), .writeExecute 7 false false]
      = some final ∧ ¬ final.Agrees) ∧
    (∃ final, Session.init.run [.writePrepare 0 (.succeed 5 (by decide)), .writePrepare 5 .fail]
      = some final ∧ ¬ final.Agrees) :=
  ⟨⟨⟨⟨0⟩, ⟨5⟩⟩, rfl, by decide⟩, ⟨⟨⟨0⟩, ⟨5⟩⟩, rfl, by decide⟩⟩

/-- The client's session id is cleared or the stack's, and the stack's unless a call stranded it. -/
theorem reliable_session_cleared_or_agrees :
    (∀ calls final, Session.init.run calls = some final → final.ClearedOrAgrees) ∧
    (∀ calls final, Session.init.run calls = some final →
      (∀ before call after middle, calls = before ++ call :: after →
        Session.init.run before = some middle → ¬ call.Strands middle) → final.Agrees) :=
  ⟨fun calls _ returned => Session.run_clearedOrAgrees calls returned (.inr rfl),
    fun calls _ returned kept => Session.run_agrees calls returned rfl kept⟩

/-- A prepare write opening session 5 and one continuing it strand nothing, and the client ends on
the stack's session 5. -/
theorem reliable_session_agrees_after_prepares :
    let calls : List Call :=
      [.writePrepare 0 (.succeed 5 (by decide)), .writePrepare 5 (.succeed 9 (by decide))]
    ∃ final, Session.init.run calls = some final ∧
      final.client.reliableSessionId = 5 ∧ final.ClearedOrAgrees ∧ final.Agrees := by
  intro calls
  refine ⟨_, rfl, rfl, reliable_session_cleared_or_agrees.1 calls _ rfl,
    reliable_session_cleared_or_agrees.2 calls _ rfl fun before call after middle split _ => ?_⟩
  have member : call ∈ calls := split ▸ List.mem_append_right before (List.mem_cons_self call after)
  simp only [calls, List.mem_cons, List.mem_singleton, List.not_mem_nil, or_false] at member
  rcases member with rfl | rfl <;> exact nofun

end MiniPro.Bluetooth

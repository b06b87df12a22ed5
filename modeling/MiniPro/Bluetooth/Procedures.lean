import Mathlib.Data.List.Range
import MiniPro.Bluetooth.LEClient

/-! # Construction, synchronous writes and signing in `LEClient`

The constructor connects an L2CAP socket, sets up the ATT transport and the GATT client, starts
the input thread and waits up to five seconds for the client to be ready. It throws when the socket
does not connect. When one of the five ATT and GATT set-up calls fails it prints which one and
returns normally, with no input thread and a client that never becomes ready; destroying such a
client joins through the null `input_thread_`. When the client is not ready in time it throws with
the input thread running, so that unwinding destroys a joinable `std::thread` and the process ends
in `std::terminate` instead of the caller seeing the exception. `Ready.lean` models the wait itself.

`write_value` and `write_long_value` hand a promise to the stack's completion callback and wait on
its future, so a callback that sets nothing leaves the caller waiting forever: `write_value` waits
forever when the stack does not initiate the write, and `write_long_value` also when the stack
reports that a reliable write could not be verified, since `write_long_cb` then only prints.

`local_counter`, the sign counter of signed writes, hands out a static `uint32_t` and increments it:
successive signed writes get successive counters modulo 2^32.
-/

namespace MiniPro.Bluetooth

/-! ### Construction -/

/-- What the calls of `LEClient::LEClient` return, in the order it makes them. -/
structure Setup where
  /-- `l2_cap_socket_->get_handle()` -/
  fd : Int
  /-- `bt_att_new` returned a transport. -/
  att : Bool
  /-- `bt_att_set_close_on_unref` -/
  closeOnUnref : Bool
  /-- `bt_att_register_disconnect` -/
  disconnectHandler : Bool
  /-- `gatt_db_new` returned a database. -/
  db : Bool
  /-- `bt_gatt_client_new` returned a client. -/
  gatt : Bool
  /-- `cv_.wait_for` returned true: `ready_cb` reported success and set `ready_` before the wait's
  last check. -/
  readyInTime : Bool
deriving DecidableEq, Repr

/-- A client whose constructor returned: whether it started the input thread that runs the main
loop, whether it is ready, and the line it printed when it returned early. -/
structure Constructed where
  inputThread : Bool
  ready : Bool
  printed : Option String
deriving DecidableEq, Repr

/-- How `LEClient::LEClient` ends. -/
inductive Outcome
  /-- It threw before starting the input thread; the caller sees the exception. -/
  | threw (message : String)
  /-- It threw with the input thread running. Unwinding destroys the `std::thread` while it is still
  joinable, and its destructor calls `std::terminate`: no caller sees the exception. -/
  | terminated (message : String)
  /-- It returned. -/
  | returned (client : Constructed)
deriving DecidableEq, Repr

/-- A set-up call of the constructor: when it fails, the constructor prints `message` and returns
early; otherwise it goes on with `rest`. -/
def setupStep (succeeded : Bool) (message : String) (rest : Outcome) : Outcome :=
  if succeeded then rest else .returned ⟨false, false, some message⟩

/-- The constructor's last statement, on what `cv_.wait_for` returned: it prints
`LEClient: Ready` and returns a ready client, or throws. -/
def waitOutcome (ready : Bool) : Outcome :=
  if ready then .returned ⟨true, true, none⟩ else .terminated "LEClient: Did NOT initialize OK"

/-- `LEClient::LEClient`. The messages of its early returns are the lines it prints. -/
def LEClient.new (setup : Setup) : Outcome :=
  if setup.fd < 0 then .threw "LEClient: Failed to connect to Bluetooth device" else
  setupStep setup.att "Failed to initialize ATT transport layer" <|
  setupStep setup.closeOnUnref "Failed to set up ATT transport layer" <|
  setupStep setup.disconnectHandler "Failed to set ATT disconnect handler" <|
  setupStep setup.db "Failed to create GATT database" <|
  setupStep setup.gatt "Failed to create GATT client" <|
  waitOutcome setup.readyInTime

/-- `LEClient::~LEClient` on a client whose constructor returned, up to `input_thread_->join()`:
`none` where that dereferences the null `input_thread_` of a client that returned early. -/
def LEClient.destroy (client : Constructed) : Option Unit :=
  if client.inputThread then some () else none

/-- Whether all five ATT and GATT set-up calls succeeded. -/
def Setup.complete (setup : Setup) : Bool :=
  setup.att && setup.closeOnUnref && setup.disconnectHandler && setup.db && setup.gatt

/-- On a connected socket with every set-up call successful, the constructor ends as the wait
decides. -/
private theorem new_of_complete {setup : Setup} (connected : 0 ≤ setup.fd) (complete : setup.complete) :
    LEClient.new setup = waitOutcome setup.readyInTime := by
  obtain ⟨fd, att, closeOnUnref, disconnectHandler, db, gatt, readyInTime⟩ := setup
  simp only [Setup.complete, Bool.and_eq_true] at complete
  obtain ⟨⟨⟨⟨rfl, rfl⟩, rfl⟩, rfl⟩, rfl⟩ := complete
  simp [LEClient.new, setupStep, Int.not_lt.mpr connected]

/-- On a connected socket with a failed set-up call, the constructor returns a client with no input
thread that is not ready, having printed the line of the first call that failed. -/
private theorem new_of_incomplete {setup : Setup} (connected : 0 ≤ setup.fd) (failed : setup.complete = false) :
    ∃ line, LEClient.new setup = .returned ⟨false, false, some line⟩ := by
  obtain ⟨fd, att, closeOnUnref, disconnectHandler, db, gatt, readyInTime⟩ := setup
  unfold LEClient.new
  rw [if_neg (Int.not_lt.mpr connected)]
  cases att; · exact ⟨_, rfl⟩
  cases closeOnUnref; · exact ⟨_, rfl⟩
  cases disconnectHandler; · exact ⟨_, rfl⟩
  cases db; · exact ⟨_, rfl⟩
  cases gatt; · exact ⟨_, rfl⟩
  cases failed

/-- Only a failed connection reaches the caller as an exception; a timeout ends in `std::terminate`. -/
theorem new_outcome (setup : Setup) :
    (LEClient.new setup = .threw "LEClient: Failed to connect to Bluetooth device" ↔ setup.fd < 0) ∧
      (∀ message, LEClient.new setup = .terminated message →
        setup.complete ∧ setup.readyInTime = false ∧ message = "LEClient: Did NOT initialize OK") ∧
      (∀ client, LEClient.new setup = .returned client →
        client.inputThread = setup.complete ∧ client.ready = setup.complete ∧
          ((LEClient.destroy client).isSome ↔ setup.complete)) := by
  by_cases connected : setup.fd < 0
  · simp [LEClient.new, connected]
  have connected := Int.not_lt.mp connected
  cases complete : setup.complete
  · obtain ⟨line, returned⟩ := new_of_incomplete connected complete
    simp [returned, LEClient.destroy, Int.not_lt.mpr connected]
  · rw [new_of_complete connected complete]
    cases setup.readyInTime <;> simp [waitOutcome, LEClient.destroy, Int.not_lt.mpr connected]

/-! ### Synchronous writes -/

/-- What the stack passes to a write's completion callback. `reliable_error` only reaches the
callback of long writes. -/
structure Completion where
  success : Bool
  reliableError : Bool
  attEcode : UInt8
deriving DecidableEq, Repr

/-- `LEClient::write_cb`: the value it sets on the caller's promise. -/
def writeCb (completion : Completion) : Option Int :=
  some (if completion.success then 0 else completion.attEcode.toNat)

/-- `LEClient::write_long_cb`: a reliable write that could not be verified only prints. -/
def writeLongCb (completion : Completion) : Option Int :=
  if completion.success then some 0
  else if completion.reliableError then none
  else some completion.attEcode.toNat

/-- A promise handed to `callback`, then `future.get()`: when the stack initiates the procedure,
its completion runs the callback once; otherwise nothing sets the promise. `none` is a `get` that
never returns; otherwise the value is the `rc` the caller prints when it is not 0. -/
def awaitCompletion (callback : Completion → Option Int) (initiated : Bool) (completion : Completion) :
    Option Int :=
  if initiated then callback completion else none

/-- `LEClient::write_value`: `none` when it never returns, otherwise the `rc` it waited for; a write
without response does not wait, and its `rc` is 0. -/
def writeValue (withoutResponse initiated : Bool) (completion : Completion) : Option Int :=
  if withoutResponse then some 0 else awaitCompletion writeCb initiated completion

/-- `LEClient::write_long_value`: `none` when it never returns, otherwise the `rc` it waited for. -/
def writeLongValue (initiated : Bool) (completion : Completion) : Option Int :=
  awaitCompletion writeLongCb initiated completion

/-- A synchronous procedure returns exactly when the stack initiated it and its callback set the
promise. -/
private theorem awaitCompletion_isSome (callback : Completion → Option Int) (initiated : Bool)
    (completion : Completion) :
    (awaitCompletion callback initiated completion).isSome = (initiated && (callback completion).isSome) := by
  cases initiated <;> rfl

/-- When `write_value` and `write_long_value` return, and when they wait forever. -/
theorem synchronous_writes_return (withoutResponse initiated : Bool) (completion : Completion) :
    (writeValue withoutResponse initiated completion).isSome = (withoutResponse || initiated) ∧
    (writeLongValue initiated completion).isSome =
      (initiated && (completion.success || !completion.reliableError)) := by
  refine ⟨by cases withoutResponse <;> simp [writeValue, awaitCompletion_isSome, writeCb], ?_⟩
  rw [writeLongValue, awaitCompletion_isSome]
  obtain ⟨success, reliableError, attEcode⟩ := completion
  cases success <;> cases reliableError <;> simp [writeLongCb]

/-! ### Security level -/

/-- `LEClient::set_security`: whether it asks the stack for `level`; levels outside 1 to 3 are
refused with a printed line. -/
def setSecurity (level : Int) : Bool := !(level < 1 || level > 3)

theorem setSecurity_iff (level : Int) : setSecurity level = true ↔ 1 ≤ level ∧ level ≤ 3 := by
  simp [setSecurity, Int.not_lt]

/-! ### Sign counter -/

/-- `LEClient::local_counter`: hands out the static counter and increments it, modulo
`UInt32.size` = 2^32. -/
def localCounter (count : UInt32) : UInt32 × UInt32 := (count, count + 1)

/-- The counters `local_counter` hands to `n` successive signed writes, from a static counter at
`count`. -/
def localCounters : Nat → UInt32 → List UInt32
  | 0, _ => []
  | n + 1, count => (localCounter count).1 :: localCounters n (localCounter count).2

theorem localCounters_toNat (n : Nat) (count : UInt32) :
    (localCounters n count).map UInt32.toNat =
      (List.range n).map fun k => (count.toNat + k) % UInt32.size := by
  induction n generalizing count with
  | zero => rfl
  | succ n ih =>
    rw [List.range_succ_eq_map, List.map_cons, List.map_map, localCounters, List.map_cons, ih]
    have next : (count + 1).toNat = (count.toNat + 1) % UInt32.size := by
      show (count.toBitVec + (1 : UInt32).toBitVec).toNat = _
      rw [BitVec.toNat_add]; rfl
    refine congrArg₂ List.cons (Nat.mod_eq_of_lt count.toNat_lt_size).symm
      (List.map_congr_left fun k _ => ?_)
    simp only [localCounter, Function.comp_apply, next, UInt32.size]
    omega

end MiniPro.Bluetooth

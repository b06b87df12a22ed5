import Mathlib.Logic.Function.Basic

/-! # The joystick poller of `joystick.cpp`

A `Joystick` keeps, for each logical axis slot, the last x and y values its input thread stored,
and for each button an optional callback. One iteration of the input thread reads at most one
`js_event` record: a button record invokes the button's callback, an axis record goes through a
fixed switch onto one coordinate of one slot, and every other record is ignored. Callbacks are
opaque values of a type `κ`; an empty `std::function` is `none`.

`set_button_callback`'s store into `button_map_` and the input thread's load and call of the same
entry are each one atomic step here. In `joystick.cpp` neither takes a lock, so a store that races
with the call of the same entry is a data race this model does not represent.
-/

namespace MiniPro.Util

/-- `JS_EVENT_BUTTON` of `linux/joystick.h`. -/
def JS_EVENT_BUTTON : UInt8 := 0x01

/-- `JS_EVENT_AXIS` of `linux/joystick.h`. -/
def JS_EVENT_AXIS : UInt8 := 0x02

/-- A `struct js_event` record. Its timestamp is never read and is left out. -/
structure JsEvent where
  value : BitVec 16
  type : UInt8
  number : UInt8
deriving DecidableEq, Repr

/-- The two stored values of one logical axis slot. -/
structure AxisState where
  x : BitVec 16
  y : BitVec 16
deriving DecidableEq, Repr

/-- A coordinate of an axis slot. -/
inductive Coord
  | x
  | y
deriving DecidableEq, Repr

namespace AxisState

/-- Read one coordinate. -/
def get (state : AxisState) : Coord → BitVec 16
  | .x => state.x
  | .y => state.y

/-- Write one coordinate, as `axis_map_[slot].x = event.value` does. -/
def set (state : AxisState) (coord : Coord) (value : BitVec 16) : AxisState :=
  match coord with
  | .x => { state with x := value }
  | .y => { state with y := value }

@[simp] theorem get_x (state : AxisState) : state.get .x = state.x := rfl

@[simp] theorem get_y (state : AxisState) : state.get .y = state.y := rfl

@[simp] theorem get_set (state : AxisState) (coord other : Coord) (value : BitVec 16) :
    (state.set coord value).get other = if other = coord then value else state.get other := by
  cases coord <;> cases other <;> rfl

theorem ext_get {first second : AxisState} (same : ∀ coord, first.get coord = second.get coord) :
    first = second := by
  cases first
  cases second
  simp only [mk.injEq]
  exact ⟨same .x, same .y⟩

end AxisState

/-- The fields of `Joystick` that the modelled code reads: the counts the two ioctls reported,
`axis_map_` and `button_map_`. The two arrays are total maps here, which they are under the
in-range assumption `Capacity.Covers`. -/
@[ext] structure Joystick (κ : Type) where
  numAxes : UInt8
  numButtons : UInt8
  axisMap : Nat → AxisState
  buttonMap : Nat → Option κ

/-- The lengths `joystick.hpp` declares for `axis_map_` and `button_map_`; that header is not among
the sources. -/
structure Capacity where
  axes : Nat
  buttons : Nat

/-- The in-range assumption under which the total maps of a `Joystick` with these counts are its two
arrays. `joystick.cpp` indexes them without a check: the constructor's loops below the counts, the
input thread's switch at slots 0 to 3, and `button_map_[event.number]` at any `uint8_t`. -/
def Capacity.Covers (capacity : Capacity) (axes : UInt8) : Prop :=
  axes.toNat ≤ capacity.axes ∧ 4 ≤ capacity.axes ∧ UInt8.size ≤ capacity.buttons

/-- What `open` and the two ioctls give the constructor; `none` where an ioctl returns -1. -/
structure Device where
  opens : Bool
  axes : Option UInt8
  buttons : Option UInt8

variable {κ : Type}

/-- The constructor's loop over `axis_map_`: slots below `num_axes_` are cleared, the others keep
what `memory` held before the constructor ran. -/
def clearedAxes (axes : UInt8) (memory : Nat → AxisState) (slot : Nat) : AxisState :=
  if slot < axes.toNat then ⟨0, 0⟩ else memory slot

/-- The object the constructor builds once the ioctls reported `axes` and `buttons`. Every button
starts empty: those below `num_buttons_` are set to `nullptr`, the others are default-constructed. -/
def Joystick.opened (axes buttons : UInt8) (memory : Nat → AxisState) : Joystick κ where
  numAxes := axes
  numButtons := buttons
  axisMap := clearedAxes axes memory
  buttonMap _ := none

/-- `Joystick::Joystick(device_name)`, up to launching the input thread. -/
def Joystick.new (device : Device) (memory : Nat → AxisState) : Except String (Joystick κ) :=
  if !device.opens then .error "Joystick: Couldn't open joystick device" else
  match device.axes, device.buttons with
  | none, _ => .error "Joystick: ioctl (JSIOCGAXES) failed"
  | some _, none => .error "Joystick: ioctl (JSIOCGBUTTONS) failed"
  | some axes, some buttons => .ok (Joystick.opened axes buttons memory)

/-- The range check shared by `get_axis_state` and `set_button_callback`: an index at or above the
count the ioctl reported throws with the caller's message. -/
def checkIndex (index count : UInt8) (message : String) : Except String Unit :=
  if index ≥ count then .error message else .ok ()

/-- `Joystick::get_axis_state`. -/
def Joystick.getAxisState (joystick : Joystick κ) (axis : UInt8) : Except String AxisState := do
  checkIndex axis joystick.numAxes "Joystick: get_axis_state: axis value out of range"
  return joystick.axisMap axis.toNat

/-- `Joystick::set_button_callback`. -/
def Joystick.setButtonCallback (joystick : Joystick κ) (button : UInt8) (callback : Option κ) :
    Except String (Joystick κ) := do
  checkIndex button joystick.numButtons "Joystick: set_button_callback: button value out of range"
  return { joystick with buttonMap := Function.update joystick.buttonMap button.toNat callback }

/-- Store one coordinate of one slot. -/
def Joystick.setCoord (joystick : Joystick κ) (slot : Nat) (coord : Coord) (value : BitVec 16) :
    Joystick κ :=
  { joystick with axisMap := Function.update joystick.axisMap slot ((joystick.axisMap slot).set coord value) }

/-- The `switch (event.number)` that an axis record goes through. -/
def Joystick.setAxis (joystick : Joystick κ) (number : UInt8) (value : BitVec 16) : Joystick κ :=
  match number.toNat with
  | 0 => joystick.setCoord 0 .x value
  | 1 => joystick.setCoord 0 .y value
  | 2 => joystick.setCoord 2 .x value
  | 3 => joystick.setCoord 1 .x value
  | 4 => joystick.setCoord 1 .y value
  | 5 => joystick.setCoord 2 .y value
  | 6 => joystick.setCoord 3 .x value
  | 7 => joystick.setCoord 3 .y value
  | _ => joystick

/-- The `switch (event.type)` of `input_thread_func` on one full record: the object after it, and
the callback it invokes with its argument, if any. -/
def Joystick.handleEvent (joystick : Joystick κ) (event : JsEvent) : Joystick κ × Option (κ × Bool) :=
  if event.type = JS_EVENT_BUTTON then
    (joystick, (joystick.buttonMap event.number.toNat).map (·, event.value != 0))
  else if event.type = JS_EVENT_AXIS then (joystick.setAxis event.number event.value, none)
  else (joystick, none)

/-- One iteration of `input_thread_func`'s loop: `read` returned a full record, or did not. -/
def Joystick.poll (joystick : Joystick κ) : Option JsEvent → Joystick κ × Option (κ × Bool)
  | some event => joystick.handleEvent event
  | none => (joystick, none)

/-- What can happen to an open joystick: its input thread runs one iteration, or a client calls
`set_button_callback`. -/
inductive Step (κ : Type)
  | read (result : Option JsEvent)
  | setButtonCallback (button : UInt8) (callback : Option κ)

/-- One step. A `set_button_callback` that throws leaves the object as it was. -/
def Joystick.step (joystick : Joystick κ) : Step κ → Joystick κ × Option (κ × Bool)
  | .read result => joystick.poll result
  | .setButtonCallback button callback =>
    match joystick.setButtonCallback button callback with
    | .ok next => (next, none)
    | .error _ => (joystick, none)

/-- A run of steps: the final object and every callback invocation, in order. -/
def Joystick.run (joystick : Joystick κ) : List (Step κ) → Joystick κ × List (κ × Bool)
  | [] => (joystick, [])
  | step :: rest =>
    let (next, invoked) := joystick.step step
    let (final, later) := next.run rest
    (final, invoked.toList ++ later)

/-! ### Small lemmas beside the definitions -/

/-- The shared range check returns exactly below the count and otherwise throws its message. -/
theorem checkIndex_eq (index count : UInt8) (message : String) :
    checkIndex index count message = if index < count then .ok () else .error message := by
  by_cases below : index < count <;> simp [checkIndex, below]

theorem getAxisState_eq (joystick : Joystick κ) (axis : UInt8) :
    joystick.getAxisState axis = if axis < joystick.numAxes then .ok (joystick.axisMap axis.toNat)
      else .error "Joystick: get_axis_state: axis value out of range" := by
  simp only [Joystick.getAxisState, checkIndex_eq]
  split <;> rfl

theorem setButtonCallback_eq (joystick : Joystick κ) (button : UInt8) (callback : Option κ) :
    joystick.setButtonCallback button callback = if button < joystick.numButtons then
      .ok { joystick with buttonMap := Function.update joystick.buttonMap button.toNat callback }
      else .error "Joystick: set_button_callback: button value out of range" := by
  simp only [Joystick.setButtonCallback, checkIndex_eq]
  split <;> rfl

/-- The constructor returns only the object of the counts the two ioctls reported. -/
theorem new_eq_ok {device : Device} {memory : Nat → AxisState} {joystick : Joystick κ}
    (opened : Joystick.new device memory = .ok joystick) :
    ∃ axes buttons, device.axes = some axes ∧ device.buttons = some buttons ∧
      joystick = Joystick.opened axes buttons memory := by
  unfold Joystick.new at opened
  split at opened
  · cases opened
  · split at opened
    · cases opened
    · cases opened
    · cases opened
      exact ⟨_, _, ‹_›, ‹_›, rfl⟩

/-- `set_button_callback` invokes no callback, whether it throws or not. -/
@[simp] theorem step_setButtonCallback_snd (joystick : Joystick κ) (button : UInt8)
    (callback : Option κ) : (joystick.step (.setButtonCallback button callback)).2 = none := by
  simp only [Joystick.step]
  split <;> rfl

@[simp] theorem run_nil (joystick : Joystick κ) : joystick.run [] = (joystick, []) := rfl

theorem run_cons (joystick : Joystick κ) (step : Step κ) (rest : List (Step κ)) :
    joystick.run (step :: rest) =
      ((joystick.step step).1.run rest).map id ((joystick.step step).2.toList ++ ·) := rfl

theorem Joystick.run_append (joystick : Joystick κ) (first second : List (Step κ)) :
    joystick.run (first ++ second) =
      ((joystick.run first).1.run second).map id ((joystick.run first).2 ++ ·) := by
  induction first generalizing joystick with
  | nil => simp [Prod.map]
  | cons step rest ih => simp [run_cons, ih, Prod.map]

end MiniPro.Util

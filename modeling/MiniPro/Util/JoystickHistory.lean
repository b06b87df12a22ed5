import MiniPro.Util.Joystick

/-! # The poller as a function of its history

What an open joystick holds is fixed by what happened to it: each coordinate of each slot holds
the value of the last axis record routed to it, and each button the callback of the last
`set_button_callback` that returned. `Joystick.ofHistory` is that object. Every step of the
poller maps the object of a history to the object of the history one step longer, which gives
the poller's contract over every run and every interleaving with callback registration.
-/

namespace MiniPro.Util

variable {κ : Type}

/-- The routing table of the spec: raw axis number to the slot and coordinate it writes. -/
def axisRoute : Nat → Option (Nat × Coord)
  | 0 => some (0, .x)
  | 1 => some (0, .y)
  | 2 => some (2, .x)
  | 3 => some (1, .x)
  | 4 => some (1, .y)
  | 5 => some (2, .y)
  | 6 => some (3, .x)
  | 7 => some (3, .y)
  | _ => none

/-- The input thread's switch writes exactly the coordinate the routing table names. -/
theorem setAxis_eq_route (joystick : Joystick κ) (number : UInt8) (value : BitVec 16) :
    joystick.setAxis number value = match axisRoute number.toNat with
      | some (slot, coord) => joystick.setCoord slot coord value
      | none => joystick := by
  unfold Joystick.setAxis axisRoute
  generalize number.toNat = n
  rcases n with _ | _ | _ | _ | _ | _ | _ | _ | n <;> rfl

private theorem axisRoute_eq_none {n : Nat} (large : 8 ≤ n) : axisRoute n = none := by
  rcases n with _ | _ | _ | _ | _ | _ | _ | _ | n
  all_goals first | omega | rfl

/-- Under the in-range assumption every index the modelled code uses is inside the arrays: the
axis slots below the reported count or named by the routing table, and every button number. -/
theorem Capacity.Covers.indices {capacity : Capacity} {axes : UInt8} (covers : capacity.Covers axes) :
    (∀ slot, slot < axes.toNat → slot < capacity.axes) ∧
      (∀ n slot coord, axisRoute n = some (slot, coord) → slot < capacity.axes) ∧
      ∀ number : UInt8, number.toNat < capacity.buttons := by
  obtain ⟨counted, switched, buttons⟩ := covers
  refine ⟨fun slot below => by omega, fun n slot coord routed => ?_,
    fun number => Nat.lt_of_lt_of_le number.toNat_lt_size buttons⟩
  unfold axisRoute at routed
  split at routed <;> cases routed <;> omega

/-- A record of type exactly `JS_EVENT_AXIS` whose number routes to `slot`'s `coord`. -/
def JsEvent.RoutesTo (event : JsEvent) (slot : Nat) (coord : Coord) : Prop :=
  event.type = JS_EVENT_AXIS ∧ axisRoute event.number.toNat = some (slot, coord)

instance (event : JsEvent) (slot : Nat) (coord : Coord) : Decidable (event.RoutesTo slot coord) :=
  inferInstanceAs (Decidable (_ ∧ _))

/-- The value of the last record routed to `slot`'s `coord`, if there is one. -/
def lastRouted (records : List JsEvent) (slot : Nat) (coord : Coord) : Option (BitVec 16) :=
  (records.reverse.find? fun event => event.RoutesTo slot coord).map JsEvent.value

/-- The record a step processed, if it read one. -/
def Step.record? : Step κ → Option JsEvent
  | .read result => result
  | .setButtonCallback .. => none

/-- The records a run of steps processed, in order. -/
def recordsOf (steps : List (Step κ)) : List JsEvent :=
  steps.filterMap Step.record?

/-- What a `set_button_callback` that returned stored: its button and callback. -/
def Step.stored? (buttons : UInt8) : Step κ → Option (Nat × Option κ)
  | .setButtonCallback button callback =>
    if button < buttons then some (button.toNat, callback) else none
  | .read _ => none

/-- Everything the calls to `set_button_callback` of a run stored, in order. -/
def storesOf (buttons : UInt8) (steps : List (Step κ)) : List (Nat × Option κ) :=
  steps.filterMap (Step.stored? buttons)

/-- The callback most recently stored for `button`; `none` when nothing was stored for it or the
last store was an empty function. -/
def storedCallback (stores : List (Nat × Option κ)) (button : Nat) : Option κ :=
  (stores.reverse.find? fun store => store.1 = button).bind Prod.snd

/-- The joystick an open configuration reaches once it processed `records` and kept `stores`. -/
def Joystick.ofHistory (axes buttons : UInt8) (memory : Nat → AxisState) (records : List JsEvent)
    (stores : List (Nat × Option κ)) : Joystick κ where
  numAxes := axes
  numButtons := buttons
  axisMap slot := ⟨(lastRouted records slot .x).getD (clearedAxes axes memory slot).x,
    (lastRouted records slot .y).getD (clearedAxes axes memory slot).y⟩
  buttonMap := storedCallback stores

/-- The callback a step must invoke after the steps `before`: a button record invokes, with
argument `value != 0`, the callback stored for its number; no other step invokes anything. -/
def invokedBy (buttons : UInt8) (before : List (Step κ)) : Step κ → Option (κ × Bool)
  | .read (some event) =>
    if event.type = JS_EVENT_BUTTON then
      (storedCallback (storesOf buttons before) event.number.toNat).map (·, event.value != 0)
    else none
  | _ => none

/-- Every invocation a run must make, in order, after the steps `before`. -/
def expectedInvocations (buttons : UInt8) (before : List (Step κ)) :
    List (Step κ) → List (κ × Bool)
  | [] => []
  | step :: rest =>
    (invokedBy buttons before step).toList ++ expectedInvocations buttons (before ++ [step]) rest

/-! ### The history functions, one step at a time -/

@[simp] theorem lastRouted_nil (slot : Nat) (coord : Coord) : lastRouted [] slot coord = none := rfl

theorem lastRouted_append (records : List JsEvent) (event : JsEvent) (slot : Nat) (coord : Coord) :
    lastRouted (records ++ [event]) slot coord =
      if event.RoutesTo slot coord then some event.value else lastRouted records slot coord := by
  by_cases routes : event.RoutesTo slot coord <;> simp [lastRouted, routes]

private theorem lastRouted_append_of_type {records : List JsEvent} {event : JsEvent}
    (other : event.type ≠ JS_EVENT_AXIS) (slot : Nat) (coord : Coord) :
    lastRouted (records ++ [event]) slot coord = lastRouted records slot coord := by
  simp [lastRouted_append, JsEvent.RoutesTo, other]

private theorem storedCallback_append (stores : List (Nat × Option κ)) (store : Nat × Option κ)
    (button : Nat) : storedCallback (stores ++ [store]) button =
      if store.1 = button then store.2 else storedCallback stores button := by
  by_cases same : store.1 = button <;> simp [storedCallback, same]

@[simp] theorem recordsOf_append (steps : List (Step κ)) (step : Step κ) :
    recordsOf (steps ++ [step]) = recordsOf steps ++ step.record?.toList := by
  cases hstep : step.record? <;> simp [recordsOf, hstep]

@[simp] theorem storesOf_append (buttons : UInt8) (steps : List (Step κ)) (step : Step κ) :
    storesOf buttons (steps ++ [step]) = storesOf buttons steps ++ (step.stored? buttons).toList := by
  cases hstep : step.stored? buttons <;> simp [storesOf, hstep]

@[simp] theorem ofHistory_numAxes (axes buttons : UInt8) (memory : Nat → AxisState)
    (records : List JsEvent) (stores : List (Nat × Option κ)) :
    (Joystick.ofHistory axes buttons memory records stores).numAxes = axes := rfl

@[simp] theorem ofHistory_numButtons (axes buttons : UInt8) (memory : Nat → AxisState)
    (records : List JsEvent) (stores : List (Nat × Option κ)) :
    (Joystick.ofHistory axes buttons memory records stores).numButtons = buttons := rfl

private theorem ofHistory_axisMap_get (axes buttons : UInt8) (memory : Nat → AxisState)
    (records : List JsEvent) (stores : List (Nat × Option κ)) (slot : Nat) (coord : Coord) :
    ((Joystick.ofHistory axes buttons memory records stores).axisMap slot).get coord =
      (lastRouted records slot coord).getD ((clearedAxes axes memory slot).get coord) := by
  cases coord <;> rfl

/-- The freshly constructed object is the object of the empty history. -/
theorem opened_eq_ofHistory (axes buttons : UInt8) (memory : Nat → AxisState) :
    (Joystick.opened axes buttons memory : Joystick κ) = Joystick.ofHistory axes buttons memory [] [] := by
  ext : 1 <;> rfl

section Simulation

variable (axes buttons : UInt8) (memory : Nat → AxisState) (records : List JsEvent)
  (stores : List (Nat × Option κ))

/-- A record that no coordinate is routed from leaves the object of the history as it was. -/
private theorem ofHistory_append_of_type {event : JsEvent} (other : event.type ≠ JS_EVENT_AXIS) :
    Joystick.ofHistory axes buttons memory (records ++ [event]) stores =
      Joystick.ofHistory axes buttons memory records stores := by
  simp only [Joystick.ofHistory, lastRouted_append_of_type other]

private theorem setCoord_ofHistory {event : JsEvent} {slot : Nat} {coord : Coord}
    (routed : event.type = JS_EVENT_AXIS) (route : axisRoute event.number.toNat = some (slot, coord)) :
    (Joystick.ofHistory axes buttons memory records stores).setCoord slot coord event.value =
      Joystick.ofHistory axes buttons memory (records ++ [event]) stores := by
  ext : 1
  · rfl
  · rfl
  · funext index
    apply AxisState.ext_get
    intro which
    by_cases same : index = slot
    · subst same
      simp only [Joystick.setCoord, Function.update_same, AxisState.get_set, ofHistory_axisMap_get,
        lastRouted_append, JsEvent.RoutesTo, routed, route, Option.some.injEq, Prod.mk.injEq, true_and]
      by_cases here : coord = which <;> simp [here, Ne.symm]
    · simp only [Joystick.setCoord, Function.update_noteq same, ofHistory_axisMap_get,
        lastRouted_append, JsEvent.RoutesTo, route, Option.some.injEq, Prod.mk.injEq]
      simp [Ne.symm same]
  · rfl

/-- One record through the input thread's switch, on the object of a history. -/
private theorem handleEvent_ofHistory (event : JsEvent) :
    (Joystick.ofHistory axes buttons memory records stores).handleEvent event =
      (Joystick.ofHistory axes buttons memory (records ++ [event]) stores,
        if event.type = JS_EVENT_BUTTON then
          (storedCallback stores event.number.toNat).map (·, event.value != 0) else none) := by
  unfold Joystick.handleEvent
  by_cases button : event.type = JS_EVENT_BUTTON
  · have other : event.type ≠ JS_EVENT_AXIS := by rw [button]; decide
    simp only [button, if_true, ofHistory_append_of_type _ _ _ _ _ other]
    rfl
  · by_cases axis : event.type = JS_EVENT_AXIS
    · simp only [if_neg button, if_pos axis, setAxis_eq_route]
      cases route : axisRoute event.number.toNat with
      | none =>
        have unrouted : ∀ slot coord, lastRouted (records ++ [event]) slot coord =
            lastRouted records slot coord := by
          intro slot coord
          simp [lastRouted_append, JsEvent.RoutesTo, route]
        simp only [Joystick.ofHistory, unrouted]
      | some target =>
        obtain ⟨slot, coord⟩ := target
        rw [← setCoord_ofHistory _ _ _ _ _ axis route]
    · simp only [button, axis, if_false, ofHistory_append_of_type _ _ _ _ _ axis]

/-- One iteration of the input thread on the object of a history. -/
theorem poll_ofHistory (result : Option JsEvent) :
    ((Joystick.ofHistory axes buttons memory records stores).poll result).1 =
      Joystick.ofHistory axes buttons memory (records ++ result.toList) stores := by
  cases result with
  | none => simp [Joystick.poll]
  | some event => simp [Joystick.poll, handleEvent_ofHistory]

/-- `get_axis_state` on the object of a history: below the count, the last value routed to each
coordinate, 0 when there is none. -/
theorem getAxisState_ofHistory (axis : UInt8) :
    (Joystick.ofHistory axes buttons memory records stores).getAxisState axis =
      if axis < axes then
        .ok ⟨(lastRouted records axis.toNat .x).getD 0, (lastRouted records axis.toNat .y).getD 0⟩
      else .error "Joystick: get_axis_state: axis value out of range" := by
  rw [getAxisState_eq, ofHistory_numAxes]
  by_cases below : axis < axes
  · simp only [Joystick.ofHistory, below, if_true, clearedAxes, show axis.toNat < axes.toNat from below]
  · simp only [below, if_false]

private theorem setButtonCallback_ofHistory (button : UInt8) (callback : Option κ) :
    (Joystick.ofHistory axes buttons memory records stores).setButtonCallback button callback =
      if button < buttons then
        .ok (Joystick.ofHistory axes buttons memory records (stores ++ [(button.toNat, callback)]))
      else .error "Joystick: set_button_callback: button value out of range" := by
  by_cases below : button < buttons
  · rw [setButtonCallback_eq, ofHistory_numButtons, if_pos below, if_pos below]
    congr 1
    ext : 1 <;> try rfl
    funext other
    simp only [Joystick.ofHistory, Function.update_apply, storedCallback_append]
    by_cases same : other = button.toNat <;> simp [same, Ne.symm]
  · rw [setButtonCallback_eq, ofHistory_numButtons, if_neg below, if_neg below]

/-- Every step of the poller maps the object of a history to the object of that history one
step longer, and invokes what the history says it must. -/
private theorem step_ofHistory (before : List (Step κ)) (step : Step κ) :
    (Joystick.ofHistory axes buttons memory (recordsOf before) (storesOf buttons before)).step step =
      (Joystick.ofHistory axes buttons memory (recordsOf (before ++ [step]))
        (storesOf buttons (before ++ [step])), invokedBy buttons before step) := by
  cases step with
  | read result =>
    cases result with
    | none => simp [Joystick.step, Joystick.poll, Step.record?, Step.stored?, invokedBy]
    | some event =>
      simp only [Joystick.step, Joystick.poll, handleEvent_ofHistory, recordsOf_append,
        storesOf_append, Step.record?, Step.stored?, invokedBy]
      simp
  | setButtonCallback button callback =>
    by_cases below : button < buttons <;>
      simp [Joystick.step, setButtonCallback_ofHistory, Step.record?, Step.stored?, invokedBy, below]

theorem run_ofHistory (before rest : List (Step κ)) :
    (Joystick.ofHistory axes buttons memory (recordsOf before) (storesOf buttons before)).run rest =
      (Joystick.ofHistory axes buttons memory (recordsOf (before ++ rest))
        (storesOf buttons (before ++ rest)), expectedInvocations buttons before rest) := by
  induction rest generalizing before with
  | nil => simp [expectedInvocations]
  | cons step rest ih =>
    rw [run_cons, step_ofHistory, ih]
    simp [expectedInvocations]

end Simulation

/-- `get_axis_state`, the callbacks invoked and ignored records after every run of an open poller. -/
theorem opened_run_contract (axes buttons : UInt8) (memory : Nat → AxisState)
    (steps : List (Step κ)) :
    (∀ axis : UInt8, ((Joystick.opened axes buttons memory).run steps).1.getAxisState axis =
      if axis < axes then
        .ok ⟨(lastRouted (recordsOf steps) axis.toNat .x).getD 0,
          (lastRouted (recordsOf steps) axis.toNat .y).getD 0⟩
      else .error "Joystick: get_axis_state: axis value out of range") ∧
    ((Joystick.opened axes buttons memory).run steps).2 = expectedInvocations buttons [] steps ∧
    ∀ (joystick : Joystick κ) (event : JsEvent), event.type ≠ JS_EVENT_BUTTON →
      ¬ (event.type = JS_EVENT_AXIS ∧ event.number < 8) → joystick.handleEvent event = (joystick, none) := by
  have whole := run_ofHistory axes buttons memory ([] : List (Step κ)) steps
  simp only [recordsOf, storesOf, List.filterMap_nil, List.nil_append] at whole
  rw [opened_eq_ofHistory]
  refine ⟨fun axis => ?_, by rw [whole], fun joystick event button ignored => ?_⟩
  · rw [whole, getAxisState_ofHistory]
    rfl
  · unfold Joystick.handleEvent
    by_cases axis : event.type = JS_EVENT_AXIS
    · have large : 8 ≤ event.number.toNat := Nat.le_of_not_lt fun small => ignored ⟨axis, small⟩
      simp only [if_neg button, if_pos axis, setAxis_eq_route, axisRoute_eq_none large]
    · simp only [if_neg button, if_neg axis]

end MiniPro.Util

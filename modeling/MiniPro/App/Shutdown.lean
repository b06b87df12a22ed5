import Mathlib.Data.List.Infix
import MiniPro.App.Main

/-! # How main leaves the drive loop

The loop is left in two ways. When a check sees `should_exit`, main sends `drive(0, 0)`, then
`exit_remote_control_mode()` and `disable_notifications()`, each only if the call before it
returned, and returns 0 once all three did. When a call of the loop throws (`get_axis_state`,
`drive`, `loop_rate.sleep`, or the controller's construction before the loop), the exception goes
straight to the `catch`: main returns -1 and sends nothing more, so its last drive command is the
loop's last one, which need not be neutral.
-/

namespace MiniPro.App

open MiniPro.Util

variable {κ : Type} (device : Device) (memory : Nat → AxisState)

/-- What main sends after the loop saw `should_exit`. -/
def shutdownCommands : List Command := [.drive 0 0, .exitRemoteControlMode, .disableNotifications]

end MiniPro.App

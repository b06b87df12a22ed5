import MiniPro.Util.Joystick
import MiniPro.Util.JoystickHistory
import MiniPro.Util.JoystickLife
import MiniPro.Bluetooth.LEClient
import MiniPro.Bluetooth.Procedures
import MiniPro.Bluetooth.Ready
import MiniPro.App.ControlLaw
import MiniPro.App.Main
import MiniPro.App.Shutdown
import MiniPro.App.DriveCommand
import MiniPro.App.Session
import MiniPro.App.Controller

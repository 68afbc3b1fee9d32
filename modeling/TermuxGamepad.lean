import TermuxGamepad.Bridge.Following
import TermuxGamepad.Pipeline
import TermuxGamepad.Shim.PassThrough
import TermuxGamepad.Client.Handle
import TermuxGamepad.Client.Refresh
import TermuxGamepad.Client.Consistency
import TermuxGamepad.Bridge.Controls
import TermuxGamepad.Bridge.Decoder
import TermuxGamepad.Bridge.Tracking
import TermuxGamepad.Bridge.Queueing
import TermuxGamepad.Advertisement
import TermuxGamepad.Identity
import TermuxGamepad.Shim.Cuts
import TermuxGamepad.Client.Line
import TermuxGamepad.Framing
import TermuxGamepad.Shim.Effects
import TermuxGamepad.Playback
import TermuxGamepad.Joystick
import TermuxGamepad.Bridge.Replica
import TermuxGamepad.Shim.Registry
import TermuxGamepad.Shim.Requests
import TermuxGamepad.Shim.Hooks
import TermuxGamepad.Shim.Writes
import TermuxGamepad.Shim.Waiting
import TermuxGamepad.Udev.Enumeration
import TermuxGamepad.Udev.Monitor
import TermuxGamepad.Bridge.Extension
import TermuxGamepad.Client.Reports
import TermuxGamepad.World
import TermuxGamepad.Bridge.Isolation
import TermuxGamepad.UdevWorld
import TermuxGamepad.Bridge.Process
import TermuxGamepad.Bridge.Requests
import TermuxGamepad.Client.Lifetime
import TermuxGamepad.Joyboard
import TermuxGamepad.Bridge.Moments
import TermuxGamepad.Feedback
import TermuxGamepad.Bridge.Delivery
import TermuxGamepad.Discovery
import TermuxGamepad.Client.Ending
import TermuxGamepad.Client.Attachment

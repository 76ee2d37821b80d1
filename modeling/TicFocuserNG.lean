import TicFocuserNG.Lib.Run
import TicFocuserNG.Lib.Binary64
import TicFocuserNG.Focuser
import TicFocuserNG.System
import TicFocuserNG.Agreement
import TicFocuserNG.RelTracking
import TicFocuserNG.Backlash
import TicFocuserNG.Drift
import TicFocuserNG.Descriptor
import TicFocuserNG.TicBase
import TicFocuserNG.TiclibInterface
import TicFocuserNG.Frames
import TicFocuserNG.Lib.Retry
import TicFocuserNG.LostErrors
import TicFocuserNG.Lib.Framing
import TicFocuserNG.Device
import TicFocuserNG.Link
import TicFocuserNG.Transports
import TicFocuserNG.Replies
import TicFocuserNG.OutOfRange
import TicFocuserNG.Refusals
import TicFocuserNG.Settling
import TicFocuserNG.Parking
import TicFocuserNG.BtReads
import TicFocuserNG.ReadLoopsEnd
import TicFocuserNG.AllOrError
import TicFocuserNG.SerialReads
import TicFocuserNG.UsbConnect
import TicFocuserNG.UsbLives
import TicFocuserNG.UsbSelection
import TicFocuserNG.CurrentLimit
import TicFocuserNG.CurrentLimitSetting
import TicFocuserNG.SavedSettings
import TicFocuserNG.DisplayedDevice
import TicFocuserNG.Sessions
import TicFocuserNG.Deployment
import TicFocuserNG.Lib.Simulation
import TicFocuserNG.Motion
import TicFocuserNG.Board
import TicFocuserNG.Requests
import TicFocuserNG.Rest
import TicFocuserNG.Energizing
import TicFocuserNG.Completion
import TicFocuserNG.Confinement
import TicFocuserNG.LossyLine
import TicFocuserNG.SharedLine
import TicFocuserNG.Lib.Decimal
import TicFocuserNG.InfoTab
import TicFocuserNG.Logging
import TicFocuserNG.SystemRuns
import TicFocuserNG.PololuUsbInterface
import TicFocuserNG.Lib.RegisterMap
import TicFocuserNG.Getters
import TicFocuserNG.TicMethods

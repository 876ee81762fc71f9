import Fw100.Library.Segments
import Fw100.Library.Overwrite
import Fw100.Library.Framing
import Fw100.Library.Ledger
import Fw100.Text.CString
import Fw100.Text.Tokenizer
import Fw100.Text.FieldList
import Fw100.Channel.LineBuffer
import Fw100.Channel.LineBufferSpec
import Fw100.Channel.Readline
import Fw100.Channel.Handshake
import Fw100.Channel.Reader
import Fw100.Channel.Reopen
import Fw100.Channel.Prompt
import Fw100.Session.Unsolicited
import Fw100.Session.SyncModem
import Fw100.Session.PseudoTerminal
import Fw100.Request.Dispatch
import Fw100.Request.CallList
import Fw100.Request.Carrier
import Fw100.Request.DataSession
import Fw100.Request.RadioThreads
import Fw100.Request.Timer
import Fw100.Request.Activation
import Fw100.Request.Provisioning
import Fw100.Request.ActivationSound
import Fw100.Request.SessionStrings
import Fw100.Request.EntryPoint
import Fw100.Request.Release
import Fw100.Request.Accounting
import Fw100.Request.Commands
import Fw100.Request.SmsMode
import Fw100.Request.SmsBody
import Fw100.Request.Polling
import Fw100.Request.Settings
import Fw100.Request.NetworkFields
import Fw100.Request.Buffers
import Fw100.Request.Registration
import Fw100.Request.Preference
import Fw100.Session.Launch
import Fw100.Session.DeviceName
import Fw100.Library.Lines
import Fw100.Gps.NmeaReader
import Fw100.Gps.Satellites
import Fw100.Gps.Clock
import Fw100.Telephony.AttachFrame
import Fw100.Telephony.ScanOrder
import Fw100.Library.Calendar
import Fw100.Library.Decimal
import Fw100.Gps.Sentence
import Fw100.Gps.UnixTime
import Fw100.Gps.TimeSentences
import Fw100.Gps.ClockStream
import Fw100.Gps.SatelliteSentences
import Fw100.Session.GpsPipeline
import Fw100.Library.Observer
import Fw100.Gps.Engine
import Fw100.Gps.EngineMoves
import Fw100.Gps.EngineRuns
import Fw100.Gps.TimerThreads
import Fw100.Gps.EngineLife
import Fw100.Gps.DeviceCommands
import Fw100.Library.Within
import Fw100.Telephony.Polled
import Fw100.Telephony.SetupMoves
import Fw100.Telephony.PollMoves
import Fw100.Telephony.PollRuns
import Fw100.Telephony.Watchdog
import Fw100.Telephony.Handlers
import Fw100.Telephony.TrackerRuns
import Fw100.Telephony.TrackerSafety
import Fw100.Telephony.SettledRuns
import Fw100.Telephony.ConnectRuns
import Fw100.Session.MainLoop
import Fw100.Session.SessionTurns
import Fw100.Session.Reopening
import Fw100.Telephony.SetupRefinement

import OpenvpnMgmt.Lib.Text
import OpenvpnMgmt.Lib.Utf8
import OpenvpnMgmt.Lib.Lines
import OpenvpnMgmt.Lib.Base64
import OpenvpnMgmt.Lib.Results
import OpenvpnMgmt.Lib.Rows
import OpenvpnMgmt.Lib.Gregorian
import OpenvpnMgmt.Lib.Numerals
import OpenvpnMgmt.Lib.KeyValues
import OpenvpnMgmt.Lib.Roster
import OpenvpnMgmt.Encoder
import OpenvpnMgmt.Values
import OpenvpnMgmt.Timestamp
import OpenvpnMgmt.TimestampTexts
import OpenvpnMgmt.Command
import OpenvpnMgmt.Message
import OpenvpnMgmt.Wire
import OpenvpnMgmt.Frame
import OpenvpnMgmt.Notifications
import OpenvpnMgmt.Codec
import OpenvpnMgmt.Draining
import OpenvpnMgmt.Progress
import OpenvpnMgmt.ServerStream
import OpenvpnMgmt.Matching
import OpenvpnMgmt.Pipelining
import OpenvpnMgmt.Silence
import OpenvpnMgmt.Blocks
import OpenvpnMgmt.Calls
import OpenvpnMgmt.ClientBlocks
import OpenvpnMgmt.BlockOwners
import OpenvpnMgmt.EnvLimit
import OpenvpnMgmt.AccumulationFlag
import OpenvpnMgmt.Limits
import OpenvpnMgmt.Accounting
import OpenvpnMgmt.Transparency
import OpenvpnMgmt.EncodeSafety
import OpenvpnMgmt.Actor
import OpenvpnMgmt.Connections
import OpenvpnMgmt.CommandRoundTrip
import OpenvpnMgmt.Tokens
import OpenvpnMgmt.ParsedFields
import OpenvpnMgmt.TypedLines
import OpenvpnMgmt.NotificationRoundTrip
import OpenvpnMgmt.Challenge
import OpenvpnMgmt.EventStream
import OpenvpnMgmt.Delivery
import OpenvpnMgmt.Polling
import OpenvpnMgmt.Session
import OpenvpnMgmt.PasswordPrompt
import OpenvpnMgmt.Status
import OpenvpnMgmt.StatusTables
import OpenvpnMgmt.StatusRoundTrip
import OpenvpnMgmt.StatusSections
import OpenvpnMgmt.ParsedResponse
import OpenvpnMgmt.Statistics
import OpenvpnMgmt.Methods
import OpenvpnMgmt.App
import OpenvpnMgmt.Cli
import OpenvpnMgmt.Previews
import OpenvpnMgmt.Console
import OpenvpnMgmt.Updates
import OpenvpnMgmt.Desktop
import OpenvpnMgmt.Dashboard
import OpenvpnMgmt.EncoderModes
import OpenvpnMgmt.KillTargets
import OpenvpnMgmt.ClientIds
import OpenvpnMgmt.NormalForms
import OpenvpnMgmt.Relaying
import OpenvpnMgmt.Serving
import OpenvpnMgmt.EventLoops
import OpenvpnMgmt.ClientTable
import OpenvpnMgmt.Panics

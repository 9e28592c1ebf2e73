import RemoteDebugger.Handshake.Peer
import RemoteDebugger.Main
import RemoteDebugger.Rehearsal.Console
import RemoteDebugger.Rehearsal.Scene
import RemoteDebugger.Wire.Pipe
import RemoteDebugger.Proofs.Wire.Frame
import RemoteDebugger.Proofs.Json.Number
import RemoteDebugger.Proofs.Wire.Delivery
import RemoteDebugger.Proofs.Wire.Reception
import RemoteDebugger.Proofs.Json.Token
import RemoteDebugger.Proofs.Json.Parser
import RemoteDebugger.Proofs.Json.RoundTrip
import RemoteDebugger.Proofs.Record.Decoding
import RemoteDebugger.Proofs.Record.RoundTrip
import RemoteDebugger.Proofs.Session.Bookkeeping
import RemoteDebugger.Proofs.Session.Operation
import RemoteDebugger.Proofs.Session.Invariant
import RemoteDebugger.Proofs.Session.Waiting
import RemoteDebugger.Proofs.Session.Run
import RemoteDebugger.Proofs.Session.Correlation
import RemoteDebugger.Proofs.Session.Acts
import RemoteDebugger.Proofs.Session.Letters
import RemoteDebugger.Proofs.Session.Timely
import RemoteDebugger.Proofs.Session.Heard
import RemoteDebugger.Proofs.Session.Outlook
import RemoteDebugger.Proofs.Session.InputState
import RemoteDebugger.Proofs.Session.Answering
import RemoteDebugger.Proofs.Session.Retaining
import RemoteDebugger.Proofs.Session.Writing
import RemoteDebugger.Proofs.Session.Ending
import RemoteDebugger.Proofs.Session.Occurrences
import RemoteDebugger.Proofs.Session.Chronicle
import RemoteDebugger.Proofs.Session.Watching
import RemoteDebugger.Proofs.Breakpoint.FileName
import RemoteDebugger.Proofs.Breakpoint.Edits
import RemoteDebugger.Proofs.Text.Scanning
import RemoteDebugger.Proofs.Command.NormalForm
import RemoteDebugger.Proofs.Command.Breaking
import RemoteDebugger.Proofs.Breakpoint.Registry
import RemoteDebugger.Proofs.Session.Breakpoints
import RemoteDebugger.Proofs.Session.Malformed
import RemoteDebugger.Proofs.Session.Hiding
import RemoteDebugger.Proofs.Session.Startup
import RemoteDebugger.Proofs.Session.Stops
import RemoteDebugger.Proofs.Session.Streaming
import RemoteDebugger.Proofs.Session.Past
import RemoteDebugger.Proofs.Time.Backoff
import RemoteDebugger.Proofs.Session.Repetition
import RemoteDebugger.Proofs.Session.Remains
import RemoteDebugger.Proofs.Session.Reattachment
import RemoteDebugger.Proofs.Handshake.Exchange
import RemoteDebugger.Proofs.Handshake.Agreement
import RemoteDebugger.Proofs.Handshake.Acceptance
import RemoteDebugger.Proofs.Handshake.Response
import RemoteDebugger.Proofs.Session.Fatality
import RemoteDebugger.Proofs.Session.Performing
import RemoteDebugger.Proofs.Console.Failures
import RemoteDebugger.Proofs.Text.Utf8
import RemoteDebugger.Proofs.Command.Spelling
import RemoteDebugger.Proofs.Console.Offline
import RemoteDebugger.Proofs.Session.Patience
import RemoteDebugger.Proofs.Session.Pursuing
import RemoteDebugger.Proofs.Session.Quitting
import RemoteDebugger.Proofs.Session.Scenes
import RemoteDebugger.Proofs.Session.Forcing
import RemoteDebugger.Proofs.Session.Journal
import RemoteDebugger.Proofs.Session.Flags
import RemoteDebugger.Proofs.Session.FirstStop
import RemoteDebugger.Proofs.Session.LateAnswers
import RemoteDebugger.Proofs.Session.Suppression
import RemoteDebugger.Proofs.Session.Rejections
import RemoteDebugger.Proofs.Command.Synonyms
import RemoteDebugger.Proofs.Time.Doubling
import RemoteDebugger.Proofs.Session.Tries
import RemoteDebugger.Proofs.Session.Giving
import RemoteDebugger.Proofs.Console.Turns
import RemoteDebugger.Proofs.Console.Lines
import RemoteDebugger.Proofs.Rehearsal.Stage

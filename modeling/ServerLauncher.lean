import ServerLauncher.Acquirer
import ServerLauncher.Command.Basic
import ServerLauncher.Command.Options
import ServerLauncher.Command.Standard
import ServerLauncher.Config.Basic
import ServerLauncher.Config.Field
import ServerLauncher.Config.Load
import ServerLauncher.Download.Attempt
import ServerLauncher.Download.Basic
import ServerLauncher.ErrorNumber
import ServerLauncher.Fault
import ServerLauncher.Machine.Basic
import ServerLauncher.Machine.FileActions
import ServerLauncher.Machine.Files
import ServerLauncher.Machine.Network
import ServerLauncher.Machine.NetworkActions
import ServerLauncher.Machine.ServerActions
import ServerLauncher.Machine.Servers
import ServerLauncher.Machine.Time
import ServerLauncher.Main
import ServerLauncher.Number.Arithmetic
import ServerLauncher.Number.Double
import ServerLauncher.Number.Integer
import ServerLauncher.Number.Reading
import ServerLauncher.Number.Shortest
import ServerLauncher.Number.Text
import ServerLauncher.Path
import ServerLauncher.Platform
import ServerLauncher.Policy
import ServerLauncher.Problem
import ServerLauncher.Proofs.Acquisition
import ServerLauncher.Proofs.Alike
import ServerLauncher.Proofs.Answers
import ServerLauncher.Proofs.Artifact
import ServerLauncher.Proofs.Body
import ServerLauncher.Proofs.Breaks
import ServerLauncher.Proofs.Cleanup
import ServerLauncher.Proofs.Clock
import ServerLauncher.Proofs.Closing
import ServerLauncher.Proofs.CommandLines
import ServerLauncher.Proofs.Deadline
import ServerLauncher.Proofs.Decisions
import ServerLauncher.Proofs.Delivery
import ServerLauncher.Proofs.Detection
import ServerLauncher.Proofs.Escapes
import ServerLauncher.Proofs.FailureKinds
import ServerLauncher.Proofs.Failures
import ServerLauncher.Proofs.Faults
import ServerLauncher.Proofs.FileTree
import ServerLauncher.Proofs.Frames
import ServerLauncher.Proofs.Histories
import ServerLauncher.Proofs.Ignoring
import ServerLauncher.Proofs.Integrity
import ServerLauncher.Proofs.Launching
import ServerLauncher.Proofs.Layouts
import ServerLauncher.Proofs.Loading
import ServerLauncher.Proofs.Moments
import ServerLauncher.Proofs.Opening
import ServerLauncher.Proofs.Outcome
import ServerLauncher.Proofs.Overtime
import ServerLauncher.Proofs.Parallel
import ServerLauncher.Proofs.Path
import ServerLauncher.Proofs.Patience
import ServerLauncher.Proofs.Pipes
import ServerLauncher.Proofs.PlainMappings
import ServerLauncher.Proofs.PlainValues
import ServerLauncher.Proofs.Programs
import ServerLauncher.Proofs.Progress
import ServerLauncher.Proofs.Punctuality
import ServerLauncher.Proofs.References
import ServerLauncher.Proofs.Regularity
import ServerLauncher.Proofs.Requests
import ServerLauncher.Proofs.Resolving
import ServerLauncher.Proofs.Results
import ServerLauncher.Proofs.Reuse
import ServerLauncher.Proofs.RoundTrip
import ServerLauncher.Proofs.Searching
import ServerLauncher.Proofs.Sessions
import ServerLauncher.Proofs.Setbacks
import ServerLauncher.Proofs.Slots
import ServerLauncher.Proofs.Sorting
import ServerLauncher.Proofs.Stages
import ServerLauncher.Proofs.Starting
import ServerLauncher.Proofs.Steps
import ServerLauncher.Proofs.Stopping
import ServerLauncher.Proofs.Surroundings
import ServerLauncher.Proofs.Times
import ServerLauncher.Proofs.Turns
import ServerLauncher.Proofs.Uses
import ServerLauncher.Proofs.Verification
import ServerLauncher.Proofs.Walking
import ServerLauncher.Record
import ServerLauncher.Release
import ServerLauncher.Session.Basic
import ServerLauncher.Session.Stop
import ServerLauncher.Template
import ServerLauncher.Text.Base64
import ServerLauncher.Text.Cased
import ServerLauncher.Text.Classes
import ServerLauncher.Text.Json
import ServerLauncher.Text.Letters
import ServerLauncher.Text.Printable
import ServerLauncher.Text.Quoted
import ServerLauncher.Text.Split
import ServerLauncher.Text.Stream
import ServerLauncher.Text.Terminal
import ServerLauncher.Text.Utf8
import ServerLauncher.Url
import ServerLauncher.Value.Basic
import ServerLauncher.Value.Calendar
import ServerLauncher.Value.Order
import ServerLauncher.Value.Slots
import ServerLauncher.Yaml.Assembly
import ServerLauncher.Yaml.Cursor
import ServerLauncher.Yaml.Document
import ServerLauncher.Yaml.Merging
import ServerLauncher.Yaml.Name
import ServerLauncher.Yaml.Node
import ServerLauncher.Yaml.Part
import ServerLauncher.Yaml.Scalar.Block
import ServerLauncher.Yaml.Scalar.Plain
import ServerLauncher.Yaml.Scalar.Quoted
import ServerLauncher.Yaml.Scalar.Value
import ServerLauncher.Yaml.Tag
import ServerLauncher.Yaml.Token
import ServerLauncher.Yaml.Tokens

import LaunchStub.Bytes
import LaunchStub.Text.Utf8
import LaunchStub.Text.Decimal
import LaunchStub.Text.CharRanges
import LaunchStub.Text.Alphanumeric
import LaunchStub.Text.Alphabetic
import LaunchStub.Text.Blank
import LaunchStub.Text.Printable
import LaunchStub.Text.Quoted
import LaunchStub.IoError.Errno
import LaunchStub.IoError
import LaunchStub.Invocation
import LaunchStub.Environment
import LaunchStub.Directive
import LaunchStub.LoaderPath
import LaunchStub.Termination
import LaunchStub.WaitStatus
import LaunchStub.Message
import LaunchStub.StubExit
import LaunchStub.Executable
import LaunchStub.Command
import LaunchStub.Journal
import LaunchStub.Journal.Filter
import LaunchStub.Journal.Pattern.Nesting
import LaunchStub.Journal.Pattern.Options
import LaunchStub.Journal.Pattern.Atom
import LaunchStub.Journal.Pattern.Opening
import LaunchStub.Journal.Pattern.CharSet
import LaunchStub.Journal.Pattern
import LaunchStub.Journal.Wording
import LaunchStub.Host
import LaunchStub.Trace
import LaunchStub.Supervisor
import LaunchStub.Transcript
import LaunchStub.Scripted
import LaunchStub.Notification.Element
import LaunchStub.Rehearsal
import LaunchStub.Files.Path
import LaunchStub.Files.FileSystem
import LaunchStub.Notification.Pipe
import LaunchStub.Notification.Queue
import LaunchStub.Pause
import LaunchStub.Machine.Start
import LaunchStub.Machine.Shell
import LaunchStub.Machine
import LaunchStub.Machine.Socket
import LaunchStub.Settings
import LaunchStub.Journal.LogFile
import LaunchStub.CommandLine
import LaunchStub.Machine.Program
import LaunchStub.Main
import LaunchStub.Proofs.Supervisor.Performance
import LaunchStub.Proofs.Supervisor.Course
import LaunchStub.Proofs.Supervisor.Reports
import LaunchStub.Proofs.Supervisor.LimitedChannel
import LaunchStub.Proofs.Supervisor.ScriptedRuns
import LaunchStub.Proofs.Bytes
import LaunchStub.Proofs.Environment
import LaunchStub.Proofs.Directives
import LaunchStub.Proofs.LoaderPath.Entries
import LaunchStub.Proofs.LoaderPath.LaunchBlock
import LaunchStub.Proofs.Files.NewNames
import LaunchStub.Proofs.Notification.Elements
import LaunchStub.Proofs.Notification.Queues
import LaunchStub.Proofs.Files.Programs
import LaunchStub.Proofs.Supervisor.StartedFile
import LaunchStub.Proofs.Session.Threads
import LaunchStub.Proofs.Session.Custody
import LaunchStub.Proofs.Session.Schedules
import LaunchStub.Proofs.Session.Notification
import LaunchStub.Proofs.Supervisor.CallOrder
import LaunchStub.Proofs.Supervisor.Agreement
import LaunchStub.Proofs.Supervisor.Diagnostics
import LaunchStub.Proofs.Rehearsal.Course
import LaunchStub.Proofs.Rehearsal.Endings
import LaunchStub.Proofs.Rehearsal.FirstFault
import LaunchStub.Proofs.StatusStream.Lines
import LaunchStub.Proofs.StatusStream.Delivery
import LaunchStub.Proofs.LoaderPath.History
import LaunchStub.Proofs.LoaderPath.Interleaving
import LaunchStub.Proofs.Pause
import LaunchStub.Proofs.Pause.InTurn
import LaunchStub.Proofs.CommandLine
import LaunchStub.Proofs.Files.Leaves
import LaunchStub.Proofs.Notification.Creation
import LaunchStub.Proofs.Notification.Table
import LaunchStub.Proofs.Notification.LifeCycle
import LaunchStub.Proofs.Supervisor.PathAnswers
import LaunchStub.Proofs.Rehearsal.Nesting
import LaunchStub.Proofs.Rehearsal.Refusals
import LaunchStub.Proofs.Directives.FirstOccurrences
import LaunchStub.Proofs.Executable
import LaunchStub.Proofs.Command
import LaunchStub.Proofs.Invocation
import LaunchStub.Proofs.Notification.Names
import LaunchStub.Proofs.Notification.Stores

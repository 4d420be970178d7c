/-!
# The journal

What the stub does is noted as it happens: an event has a severity, a source and a message, and
carries named details. The console belongs to the target, so the journal goes to a file of its own,
if it goes anywhere.
-/

namespace LaunchStub

/-- How serious an event is. -/
inductive Severity where
  /-- Something could not be done. -/
  | error
  /-- Something is not as it should be. -/
  | warn
  /-- A step that matters to a reader of the journal. -/
  | info
  /-- A step that matters in a search for a fault. -/
  | debug
  /-- Everything else. -/
  | trace
  deriving DecidableEq, Repr

namespace Severity

/-- The word for a severity. -/
def name : Severity → String
  | .error => "ERROR"
  | .warn => "WARN"
  | .info => "INFO"
  | .debug => "DEBUG"
  | .trace => "TRACE"

/-- How much is let through where this severity is the least one: the more, the higher. -/
def verbosity : Severity → Nat
  | .error => 1
  | .warn => 2
  | .info => 3
  | .debug => 4
  | .trace => 5

end Severity

/-- One thing that happened. -/
inductive LogEvent where
  /-- The stub begins. -/
  | stubStarting
  /-- The controller cannot be reached. -/
  | controllerUnreachable
  /-- The stub has done its part. -/
  | stubHalting
  /-- The final pause ended with an error. -/
  | pauseInterrupted
  /-- The connection to the controller stands. -/
  | controllerConnected
  /-- A message has gone out. -/
  | messageSent
  /-- The working directory cannot be entered. -/
  | workdirRefused
  /-- The target is no known kind of program. -/
  | unknownType
  /-- A directive has been applied. -/
  | directiveApplied
  /-- A directive could not be applied and is passed over. -/
  | directiveIgnored
  /-- The child's variables are settled. -/
  | environmentPrepared
  /-- The target is about to be launched. -/
  | launching
  /-- The target could not be started. -/
  | launchFailed
  /-- What the launch needs could not be set up. -/
  | launchSetupFailed
  /-- The target runs. -/
  | targetStarted
  /-- The target's end could not be awaited. -/
  | waitFailed
  /-- The target's end has been put into the controller's terms. -/
  | terminationClassified
  /-- A message could not be sent. -/
  | channelWriteFailed
  /-- The controller knows how the target ended. -/
  | targetFinished
  /-- A child that the stub awaited itself has ended. -/
  | childEnded
  /-- A notification queue stands. -/
  | queueCreated
  /-- A notification queue could not be removed. -/
  | queueNotRemoved
  deriving DecidableEq, Repr

namespace LogEvent

/-- The part of the stub that an event comes from. -/
def source : LogEvent → String
  | .stubStarting | .controllerUnreachable | .stubHalting | .pauseInterrupted => "pstub"
  | .controllerConnected | .messageSent => "pstub_adapters::channel::unix"
  | .childEnded => "pstub_adapters::host::direct"
  | .queueCreated | .queueNotRemoved => "pstub_adapters::host::queue"
  | .workdirRefused | .unknownType | .directiveApplied | .directiveIgnored | .environmentPrepared
  | .launching | .launchFailed | .launchSetupFailed | .targetStarted | .waitFailed
  | .terminationClassified | .channelWriteFailed | .targetFinished => "pstub::supervisor"

/-- How serious an event is. -/
def severity : LogEvent → Severity
  | .controllerUnreachable | .unknownType | .launchFailed | .launchSetupFailed | .waitFailed
  | .channelWriteFailed => .error
  | .workdirRefused | .queueNotRemoved => .warn
  | .stubStarting | .stubHalting | .messageSent | .launching | .targetStarted
  | .targetFinished => .info
  | .pauseInterrupted | .controllerConnected | .directiveApplied | .directiveIgnored
  | .environmentPrepared | .terminationClassified | .childEnded | .queueCreated => .debug

/-- The words for an event. -/
def message : LogEvent → String
  | .stubStarting => "stub starting"
  | .controllerUnreachable => "controller unreachable"
  | .stubHalting => "stub halting"
  | .pauseInterrupted => "pause interrupted"
  | .controllerConnected => "connected to controller"
  | .messageSent => "sent to controller"
  | .workdirRefused => "cannot enter working directory"
  | .unknownType => "unknown application type"
  | .directiveApplied => "library path extended"
  | .directiveIgnored => "library path directive ignored"
  | .environmentPrepared => "child environment prepared"
  | .launching => "launching"
  | .launchFailed => "launch failed"
  | .launchSetupFailed => "launch setup failed"
  | .targetStarted => "target started"
  | .waitFailed => "wait failed"
  | .terminationClassified => "termination classified"
  | .channelWriteFailed => "channel write failed"
  | .targetFinished => "target finished"
  | .childEnded => "child ended"
  | .queueCreated => "created notification queue"
  | .queueNotRemoved => "failed to remove notification queue"

/-- The names of what an event carries. Its message is one of them. -/
def details : LogEvent → List String
  | .stubStarting => ["message", "pid", "action", "exe"]
  | .controllerUnreachable | .pauseInterrupted | .launchFailed | .launchSetupFailed =>
    ["message", "error"]
  | .stubHalting => ["message", "code"]
  | .controllerConnected => ["message", "path"]
  | .messageSent => ["message", "line"]
  | .workdirRefused => ["message", "dir", "error"]
  | .unknownType => ["message", "exe", "error"]
  | .directiveApplied => ["message", "directive", "value"]
  | .directiveIgnored => ["message", "directive", "error"]
  | .environmentPrepared => ["message", "vars"]
  | .launching => ["message", "action", "app_type", "strategy", "exe"]
  | .targetStarted => ["message", "pid"]
  | .waitFailed => ["message", "pid", "error"]
  | .terminationClassified => ["message", "raw", "outcome"]
  | .channelWriteFailed => ["message", "error", "line"]
  | .targetFinished => ["message", "outcome"]
  | .childEnded => ["message", "pid", "status"]
  | .queueCreated => ["message", "queue"]
  | .queueNotRemoved => ["message", "queue", "error"]

/-- An event as a line of the journal. -/
def text (event : LogEvent) : String :=
  event.severity.name ++ " " ++ event.source ++ ": " ++ event.message

end LogEvent

end LaunchStub

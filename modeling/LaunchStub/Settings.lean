import LaunchStub.Environment

/-!
# Settings

What the stub itself takes from its variables: where its journal goes, and where its notification
queues stand. An empty value of the stub's own variables is as good as none.
-/

namespace LaunchStub.Settings

/-- The variable for the journal's file. -/
def logFileVariable : Bytes := Bytes.ofText "PSTUB_LOG_FILE"

/-- The variable for the directory of the queues. -/
def queueDirVariable : Bytes := Bytes.ofText "PSTUB_QUEUE_DIR"

/-- The variable for what the journal keeps. -/
def logFilterVariable : Bytes := Bytes.ofText "RUST_LOG"

/-- The variable for the system's directory of temporary files. -/
def tempDirVariable : Bytes := Bytes.ofText "TMPDIR"

/-- The value of a variable, unless it is empty. -/
def nonEmpty? (env : Environment) (name : Bytes) : Option Bytes := (env.get? name).filter (· ≠ [])

/-- The file that the journal goes to. Without one there is no journal. -/
def logFile (env : Environment) : Option Bytes := nonEmpty? env logFileVariable

/-- The system's directory of temporary files, taken as it is given. -/
def tempDir (env : Environment) : Bytes := (env.get? tempDirVariable).getD (Bytes.ofText "/tmp")

/-- The directory for the notification queues: the one given, or the one for temporary files. -/
def queueDir (env : Environment) : Bytes := (nonEmpty? env queueDirVariable).getD (tempDir env)

end LaunchStub.Settings

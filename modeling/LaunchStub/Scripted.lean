import LaunchStub.Host

/-!
# Scripted hosts

A host that does what a script tells it: every call has a fixed answer, except that launches use up
a list of what is to become of them, and its environment never changes.
-/

namespace LaunchStub

/-- A child of a scripted launch. -/
structure ScriptedChild where
  /-- Its process id. -/
  id : UInt32
  /-- What awaiting its end gives. -/
  ending : Except IoError RawTermination

/-- What becomes of a scripted launch. -/
inductive ScriptedLaunch where
  /-- The target starts. -/
  | child (child : ScriptedChild)
  /-- The notification queue cannot be created. -/
  | queueFailure (errno : Int)
  /-- The target cannot be started. -/
  | startFailure (errno : Int)

/-- A script, as far as it is not used up. -/
structure Script where
  /-- The variables. -/
  env : Environment := []
  /-- What kind of program every target is, or the error number of asking. -/
  type : Except Int AppType := .ok .console
  /-- The error number of entering a directory, if that fails. -/
  chdirErrno : Option Int := none
  /-- The error number of applying a directive, if that fails. -/
  pathErrno : Option Int := none
  /-- What becomes of the launches to come. -/
  launches : List ScriptedLaunch := []

namespace Script

/-- The queue that a scripted launch fails to create. -/
def queueName : Bytes := Bytes.ofText "/fake/pstub-term.0"

/-- The success that an absent error number means. -/
def succeedUnless : Option Int → Except IoError Unit
  | none => .ok ()
  | some errno => .error (.os errno)

/-- What becomes of the next launch, and the script without it. A launch beyond the script fails.
-/
def nextLaunch (script : Script) : Except LaunchError ScriptedChild × Script :=
  match script.launches with
  | [] => (.error (.start (.described .other "no launch scripted")), script)
  | next :: rest =>
    let result : Except LaunchError ScriptedChild := match next with
      | .child child => .ok child
      | .queueFailure errno => .error (.queueCreate queueName (.os errno))
      | .startFailure errno => .error (.start (.os errno))
    (result, { script with launches := rest })

/-- The script as a host. -/
def host : Host Script ScriptedChild where
  changeDir _ script := ⟨succeedUnless script.chdirErrno, script, []⟩
  queryType _ script :=
    ⟨match script.type with
      | .ok type => .ok type
      | .error errno => .error (.os errno), script, []⟩
  environment script := ⟨script.env, script, []⟩
  extendPath _ _ script := ⟨succeedUnless script.pathErrno, script, []⟩
  launch _ _ script := ⟨script.nextLaunch.1, script.nextLaunch.2, []⟩
  childId := ScriptedChild.id
  wait child script := ⟨child.ending, script, []⟩
  release _ script := ⟨(), script, []⟩

end Script

end LaunchStub

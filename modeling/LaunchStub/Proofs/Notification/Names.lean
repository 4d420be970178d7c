import LaunchStub.Proofs.Notification.Creation

/-!
# Names of queues

The path of a queue is that of a directory, a slash if the directory needs one, and a name with the
process id in decimal. No slash is in the name, so whatever the directory looks like the name can be
read off the path, and the id off the name. What is left is the directory with its slash.

## What is proved

* `Path.join_eq` — a name comes behind the directory with its slash (`Path.withSlash`).
* `QueueStore.ownName_injective`, `QueueStore.fileName?_nameFor` — the name tells the process, and
  the path ends in it.
* `QueueStore.nameFor_eq_iff` — when two queues have the same path, and that the queues of two
  processes are never at one place among the files.
-/

namespace LaunchStub

namespace Path

/-- A directory with a slash behind it, unless it is empty or has one. -/
def withSlash (dir : Bytes) : Bytes :=
  if dir ≠ [] ∧ dir.getLast? ≠ some Bytes.slash then dir ++ [Bytes.slash] else dir

/-- A path below a directory is the directory with its slash, and the name. -/
theorem join_eq (dir name : Bytes) : join dir name = withSlash dir ++ name := by
  rw [join, withSlash]
  by_cases hempty : dir = []
  · simp [hempty]
  · by_cases hslash : dir.getLast? = some Bytes.slash
    · simp [endsInSlash, hslash]
    · simp [endsInSlash, hempty, hslash]

end Path

namespace QueueStore

variable {dir dir' : Bytes} {owner owner' : UInt32} {place : Place}

/-- The name of a queue tells the process. -/
theorem ownName_injective : Function.Injective ownName := by
  intro owner owner' h
  have hnumber : Decimal.nat owner.toNat = Decimal.nat owner'.toNat :=
    (String.append_right_inj "pstub-term.").mp (Bytes.ofText_injective h)
  exact UInt32.toNat_inj.mp (Decimal.nat_injective hnumber)

/-- The path of a queue ends in its name. -/
theorem fileName?_nameFor (dir : Bytes) (owner : UInt32) :
    Path.fileName? (nameFor dir owner) = some (ownName owner) := by
  obtain ⟨rest, hrest⟩ := ownName_eq_cons owner
  have hdot : ownName owner ≠ Path.dot := by simp [hrest, Path.dot]
  have hdotDot : ownName owner ≠ Path.dotDot := by simp [hrest, Path.dotDot]
  simp [Path.fileName?, Path.properNames, names_nameFor, List.filter_append, hdot, hdotDot]

/-- Where the path of a queue is free, its place is below a directory and has its name. -/
theorem getLast?_freePlace_nameFor {fs : FileSystem}
    (h : fs.freePlace (nameFor dir owner) = .ok place) :
    place.getLast? = some (ownName owner) := by
  obtain ⟨above, -, -, rfl⟩ := leads_of_freePlace_nameFor h
  exact List.getLast?_concat

theorem owner_eq_of_nameFor_eq (h : nameFor dir owner = nameFor dir' owner') : owner = owner' := by
  have hname := congrArg Path.fileName? h
  rw [fileName?_nameFor, fileName?_nameFor, Option.some.injEq] at hname
  exact ownName_injective hname

/-- **When two queues have the same path**: exactly if they are of the same process, and their
directories are the same once each has its slash. The queues of two processes differ in the last
names of their paths, and are never made at one place among the files, whatever the directories are
and whatever is done to the files in between. -/
theorem nameFor_eq_iff (dir dir' : Bytes) (owner owner' : UInt32) :
    (nameFor dir owner = nameFor dir' owner' ↔
      owner = owner' ∧ Path.withSlash dir = Path.withSlash dir') ∧
    (owner ≠ owner' →
      Path.fileName? (nameFor dir owner) ≠ Path.fileName? (nameFor dir' owner') ∧
      ∀ (fs fs' : FileSystem) (place : Place), fs.freePlace (nameFor dir owner) = .ok place →
        fs'.freePlace (nameFor dir' owner') ≠ .ok place) := by
  refine ⟨⟨fun h => ?_, fun ⟨howner, hdir⟩ => ?_⟩, fun howner => ?_⟩
  · obtain rfl := owner_eq_of_nameFor_eq h
    rw [nameFor, nameFor, Path.join_eq, Path.join_eq] at h
    exact ⟨rfl, List.append_cancel_right h⟩
  · rw [nameFor, nameFor, Path.join_eq, Path.join_eq, howner, hdir]
  · have hname : some (ownName owner) ≠ some (ownName owner') :=
      fun h => howner (ownName_injective (Option.some.inj h))
    refine ⟨by rwa [fileName?_nameFor, fileName?_nameFor], fun fs fs' place h h' => hname ?_⟩
    rw [← getLast?_freePlace_nameFor h, getLast?_freePlace_nameFor h']

/-- One slash behind a directory makes no difference, a second one does; and in one directory the
processes 1 and 11 do not get in each other's way. -/
theorem nameFor_eq_iff_slashes :
    nameFor (Bytes.ofText "/q") 1 = nameFor (Bytes.ofText "/q/") 1 ∧
      nameFor (Bytes.ofText "/q/") 1 ≠ nameFor (Bytes.ofText "/q//") 1 ∧
      ∃ place, (FileSystem.mk [([Bytes.ofText "q"], .directory)] []).freePlace
          (nameFor (Bytes.ofText "/q/") 1) = .ok place ∧
        ∀ fs : FileSystem, fs.freePlace (nameFor (Bytes.ofText "/q//") 11) ≠ .ok place := by
  have hfree : (FileSystem.mk [([Bytes.ofText "q"], .directory)] []).freePlace
      (nameFor (Bytes.ofText "/q/") 1) = .ok [Bytes.ofText "q", ownName 1] := by decide
  obtain ⟨hsame, -⟩ := nameFor_eq_iff (Bytes.ofText "/q") (Bytes.ofText "/q/") 1 1
  obtain ⟨hsame', -⟩ := nameFor_eq_iff (Bytes.ofText "/q/") (Bytes.ofText "/q//") 1 1
  obtain ⟨-, hother⟩ := nameFor_eq_iff (Bytes.ofText "/q/") (Bytes.ofText "/q//") 1 11
  refine ⟨hsame.mpr ⟨rfl, by decide⟩, fun h => ?_, _, hfree, fun fs => ?_⟩
  · exact absurd (hsame'.mp h).2 (by decide)
  · exact (hother (by decide)).2 _ fs _ hfree

end QueueStore

end LaunchStub

import LaunchStub.Proofs.Files.Leaves
import LaunchStub.Proofs.Notification.Queues

/-!
# Where queues can be created

A queue is created in a directory that is given as a path, under a name of its own. So a path can be
refused for the directory, which may not be there, for the name, which may be taken, and for itself,
which may be too long even if that of the directory is not.

## What is proved

* `isThere_nameFor_iff`, `leads_of_freePlace_nameFor` — where the path of a queue leads.
* `create_of_ok` — what a queue that is created adds to the files.
* `create_of_isThere`, `create_of_missing` — a name that is taken and a directory that is not there
  are told apart, and a path that is too long is told from both.
-/

namespace LaunchStub

namespace QueueStore

open FileSystem

variable {store : QueueStore} {dir : Bytes} {owner : UInt32} {fs : FileSystem}

/-! ### Paths of queues -/

/-- The path of a queue leads to something exactly if its last name is in the directory. -/
theorem isThere_nameFor_iff : fs.isThere (nameFor dir owner) ↔
    ∃ above, fs.Leads (nameFor dir owner) above (ownName owner) ∧
      ∃ node, fs.nodeAt? (above ++ [ownName owner]) = some node := by
  have hslash := endsInSlash_nameFor dir owner
  rw [isThere]
  constructor
  · intro h
    split at h
    · rename_i place hresolve
      obtain ⟨rest, hrest⟩ := ownName_eq_cons owner
      have hnames : Path.names (nameFor dir owner) =
          (Path.names (nameFor dir owner)).dropLast ++ [ownName owner] := by
        simp [names_nameFor]
      obtain ⟨above, hleads⟩ := leads_of_resolve hresolve hslash hnames
        (by simp [hrest, Path.dot]) (by simp [hrest, Path.dotDot])
      rw [resolve_of_leads hleads hslash] at hresolve
      split at hresolve
      · contradiction
      · rename_i node hnode
        exact ⟨above, hleads, node, hnode⟩
    · contradiction
  · rintro ⟨above, hleads, node, hnode⟩
    rw [resolve_of_leads hleads hslash, hnode]

/-- A free path of a queue leads to its last name. -/
theorem leads_of_freePlace_nameFor {place : Place}
    (h : fs.freePlace (nameFor dir owner) = .ok place) :
    ∃ above, fs.Leads (nameFor dir owner) above (ownName owner) ∧ fs.nodeAt? place = none ∧
      place = above ++ [ownName owner] := by
  obtain ⟨above, name, hleads, hnone, hplace⟩ := leads_of_freePlace h
  have hnames := hleads.names
  rw [names_nameFor, List.dropLast_concat] at hnames
  obtain rfl := List.singleton_inj.mp (List.append_cancel_left hnames)
  exact ⟨above, hleads, hnone, hplace⟩

/-! ### Creating -/

theorem nul_not_mem_of_refusal {path : Bytes} (h : refusal? path = none) : Bytes.nul ∉ path := by
  rw [refusal?] at h
  split at h
  · contradiction
  · rename_i hnul
    simpa using hnul

theorem nul_not_mem_nameFor (h : Bytes.nul ∉ dir) (owner : UInt32) :
    Bytes.nul ∉ nameFor dir owner := by
  have hname : Bytes.nul ∉ ownName owner := by
    rw [ownName, Bytes.ofText_append, List.mem_append, not_or]
    refine ⟨by decide, fun h => ?_⟩
    obtain ⟨hlow, -⟩ := Bytes.isDigit_of_mem_ofText_nat h
    exact absurd hlow (by decide)
  have hslash : Bytes.nul ≠ Bytes.slash := by decide
  rw [nameFor, ← ownName, Path.join]
  split <;> simp [h, hname, hslash]

/-- Where the files have no place for the pipe, that is what the queue is refused for. -/
theorem create_of_refused {e : IoError} (hnul : Bytes.nul ∉ nameFor dir owner)
    (h : store.files.freePlace (nameFor dir owner) = .error e) (opening : Except IoError Unit) :
    store.create dir owner opening = (.error e, store) := by
  have hfiles : store.files.create (nameFor dir owner) .pipe = .error e := by
    rw [FileSystem.create, h]
  rw [create, if_neg (by simpa using hnul), hfiles]

/-- Where a queue is created its path was free, and a new pipe stands there. -/
theorem create_of_ok {path : Bytes} {store' : QueueStore} {opening : Except IoError Unit}
    (hheld : store.holdsQueue (nameFor dir owner) = false)
    (h : store.create dir owner opening = (.ok path, store')) :
    path = nameFor dir owner ∧ store'.pipeOf path = {} ∧
      ∃ place, store.files.freePlace path = .ok place ∧
        store'.files = store.files.adding place .pipe := by
  have hcreating := store.creating dir owner opening
  rw [h] at hcreating
  cases hcreating with
  | @created files hfiles =>
    rw [FileSystem.create] at hfiles
    split at hfiles
    · contradiction
    · rename_i place hplace
      obtain rfl := Except.ok.inj hfiles
      refine ⟨rfl, pipeOf_setPipe _ _ _, place, hplace, ?_⟩
      have hheld' : ({ store with files := store.files.adding place .pipe } : QueueStore).holdsQueue
          (nameFor dir owner) = false := hheld
      exact congrArg QueueStore.files (dropQueue_of_not_held hheld')

/-- A path that leads to something is taken. -/
theorem create_of_isThere (h : store.files.isThere (nameFor dir owner))
    (opening : Except IoError Unit) :
    store.create dir owner opening = (.error (.os Errno.exists_), store) := by
  obtain ⟨above, hleads, node, hnode⟩ := isThere_nameFor_iff.mp h
  refine create_of_refused (nul_not_mem_of_refusal hleads.refusal) ?_ opening
  rw [freePlace_of_leads hleads, hnode]

/-- A path that leads nowhere for want of an entry is a path, and its names lead nowhere. -/
theorem walk_of_missing (h : fs.resolve dir = .error (.os Errno.noEntry)) (hne : dir ≠ []) :
    refusal? dir = none ∧ fs.walk (fs.start dir) (Path.names dir) = .error (.os Errno.noEntry) := by
  rw [resolve] at h
  split at h
  · rename_i e hrefusal
    obtain rfl := Except.error.inj h
    rw [refusal?] at hrefusal
    split at hrefusal
    · cases hrefusal
    · split at hrefusal
      · exact absurd hrefusal (by decide)
      · contradiction
  · rename_i hrefusal
    refine ⟨hrefusal, ?_⟩
    rw [steps, walk_append] at h
    cases hwalk : fs.walk (fs.start dir) (Path.names dir) with
    | error e =>
      rw [hwalk] at h
      exact h
    | ok place =>
      -- Where the names lead to something the slash at the end can only ask for a directory.
      simp only [hwalk, Except.bind] at h
      split at h
      · simp only [walk, if_true] at h
        split at h
        · exact absurd h (by decide)
        · contradiction
      · contradiction

/-- Below a directory that is not there no queue can be created, and where its path is too long that
is said first. -/
theorem create_of_missing (h : store.files.resolve dir = .error (.os Errno.noEntry))
    (hne : dir ≠ []) (opening : Except IoError Unit) :
    store.create dir owner opening = (.error (.os (if maxPath < (nameFor dir owner).length
      then Errno.nameTooLong else Errno.noEntry)), store) := by
  obtain ⟨hrefusal, hwalk⟩ := walk_of_missing h hne
  have hnul := nul_not_mem_nameFor (nul_not_mem_of_refusal hrefusal) owner
  have hpath : nameFor dir owner ≠ [] := by
    intro hnil
    simpa [hnil, Path.names, Bytes.splitAt] using names_nameFor dir owner
  have hstart : store.files.start (nameFor dir owner) = store.files.start dir := by
    obtain ⟨b, rest, rfl⟩ := List.exists_cons_of_ne_nil hne
    rw [start, start, nameFor, Path.join]
    split <;> rfl
  refine create_of_refused hnul ?_ opening
  by_cases hlength : maxPath < (nameFor dir owner).length
  · simp [freePlace, refusal?, hnul, hpath, hlength]
  · simp [freePlace, refusal?, hnul, hpath, hlength, names_nameFor, hstart, hwalk]

end QueueStore

end LaunchStub

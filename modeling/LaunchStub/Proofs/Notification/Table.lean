import LaunchStub.Proofs.Notification.Creation

/-!
# A table of queues

A store knows a queue by its path, so of two queues that had the same path one after the other it
knows the last. To say what becomes of each queue that was ever created, and of its poster, all of
them are kept in a table here, and each is known by its number.

## The model

What a `QueueTable` does with a queue is what a store does that holds this queue and no other.

## What is proved

* `QueueTable.post_eq`, `read_of_pending`, `read_of_ended`, `dropQueue_of_reader` — what one
  operation does with the queue that it is on.
* `QueueTable.perform_of_ne`, `run_of_used` — what operations on other queues leave alone, and what
  any operations do.
-/

namespace LaunchStub

@[simp] theorem QueueStore.pipeOf_singleton (files : FileSystem) (path : Bytes) (pipe : Pipe) :
    pipeOf ⟨files, [(path, pipe)]⟩ path = pipe := by
  simp [pipeOf]

/-! ### The table -/

/-- The files, and all queues that were ever created on them, each with its path and its pipe. -/
structure QueueTable where
  /-- The files. -/
  files : FileSystem
  /-- The queues, in the order in which they were created. -/
  made : List (Bytes × Pipe) := []

/-- An operation on queues. The queues that there are already are known by their number. -/
inductive QueueOp where
  /-- Creates the queue of a process in a directory, with its poster; opening the ends of its pipe
  comes to this. -/
  | create (dir : Bytes) (owner : UInt32) (opening : Except IoError Unit)
  /-- Posts an element. -/
  | post (i : Nat) (element : UInt32)
  /-- Drops a poster. -/
  | dropPoster (i : Nat)
  /-- Reads an element. -/
  | read (i : Nat)
  /-- Drops a queue. -/
  | dropQueue (i : Nat)
  deriving Repr

/-- The queue that an operation is on. -/
def QueueOp.target? : QueueOp → Option Nat
  | .create _ _ _ => none
  | .post i _ | .dropPoster i | .read i | .dropQueue i => some i

namespace QueueTable

/-- Creates the queue of a process in a directory, with its poster, and gives its path. -/
def create (dir : Bytes) (owner : UInt32) (t : QueueTable)
    (opening : Except IoError Unit := .ok ()) : Except IoError Bytes × QueueTable :=
  match QueueStore.create ⟨t.files, []⟩ dir owner opening with
  | (.error e, store) => (.error e, { t with files := store.files })
  | (.ok path, store) => (.ok path, ⟨store.files, t.made ++ [(path, store.pipeOf path)]⟩)

/-- Does something with one queue, as with the only one there is. -/
def on {α : Type} (i : Nat) (absent : α) (operation : QueueStore → Bytes → α × QueueStore)
    (t : QueueTable) : α × QueueTable :=
  match t.made[i]? with
  | none => (absent, t)
  | some (path, pipe) =>
    let (answer, store) := operation ⟨t.files, [(path, pipe)]⟩ path
    (answer, ⟨store.files, t.made.set i (path, store.pipeOf path)⟩)

/-- Posts an element to a queue. -/
def post (i : Nat) (element : UInt32) (t : QueueTable) : QueuePost × QueueTable :=
  t.on i .noPoster fun store path => store.post path element

/-- Drops the poster of a queue. -/
def dropPoster (i : Nat) (t : QueueTable) : QueueTable :=
  (t.on i () fun store path => ((), store.dropPoster path)).2

/-- Reads from a queue. -/
def read (i : Nat) (t : QueueTable) : QueueRead × QueueTable := t.on i .noQueue QueueStore.read

/-- Drops a queue. -/
def dropQueue (i : Nat) (t : QueueTable) : QueueTable :=
  (t.on i () fun store path => ((), store.dropQueue path)).2

/-- The table after an operation. -/
def perform (t : QueueTable) : QueueOp → QueueTable
  | .create dir owner opening => (t.create dir owner opening).2
  | .post i element => (t.post i element).2
  | .dropPoster i => t.dropPoster i
  | .read i => (t.read i).2
  | .dropQueue i => t.dropQueue i

/-- The table after some operations. -/
def run (t : QueueTable) (ops : List QueueOp) : QueueTable := ops.foldl perform t

/-- Is this queue held? -/
def holdsQueue (t : QueueTable) (i : Nat) : Bool := t.made[i]?.any (·.2.reader)

/-- Is the poster of this queue held? -/
def holdsPoster (t : QueueTable) (i : Nat) : Bool := t.made[i]?.any (·.2.writer)

variable {t : QueueTable} {i j : Nat} {path : Bytes} {pipe : Pipe} {fs : FileSystem}

/-- One entry of a list, and the list with another in its place. -/
theorem exists_set_eq {α : Type} {xs : List α} {x : α} (h : xs[i]? = some x) :
    ∃ l r, xs = l ++ x :: r ∧ ∀ y, xs.set i y = l ++ y :: r := by
  obtain ⟨hi, rfl⟩ := List.getElem?_eq_some_iff.mp h
  refine ⟨xs.take i, xs.drop (i + 1), ?_, fun y => List.set_eq_take_append_cons_drop.trans ?_⟩
  · rw [List.getElem_cons_drop, List.take_append_drop]
  · rw [if_pos hi]

/-! ### One operation -/

theorem on_of_getElem {α : Type} (h : t.made[i]? = some (path, pipe)) (absent : α)
    (operation : QueueStore → Bytes → α × QueueStore) :
    t.on i absent operation =
      ((operation ⟨t.files, [(path, pipe)]⟩ path).1,
        ⟨(operation ⟨t.files, [(path, pipe)]⟩ path).2.files,
          t.made.set i (path, (operation ⟨t.files, [(path, pipe)]⟩ path).2.pipeOf path)⟩) := by
  rw [on, h]

/-- Nothing is done with a queue that was never created. -/
theorem perform_of_absent {op : QueueOp} (hop : op.target? = some i) (h : t.made[i]? = none) :
    t.perform op = t := by
  cases op with
  | create dir owner opening => contradiction
  | _ =>
    obtain rfl := Option.some.inj hop
    simp only [perform, post, dropPoster, read, dropQueue, on, h]

/-- The table with another pipe behind a queue. -/
def setPipe (t : QueueTable) (i : Nat) (path : Bytes) (pipe : Pipe) : QueueTable :=
  { t with made := t.made.set i (path, pipe) }

/-- A pipe that is put where it was changes nothing. -/
theorem setPipe_self (h : t.made[i]? = some (path, pipe)) : t.setPipe i path pipe = t := by
  obtain ⟨hi, hget⟩ := List.getElem?_eq_some_iff.mp h
  rw [setPipe, ← hget, List.set_getElem_self]

theorem made_setPipe (h : t.made[i]? = some (path, pipe)) (pipe' : Pipe) :
    (t.setPipe i path pipe').made[i]? = some (path, pipe') :=
  List.getElem?_set_self (List.getElem?_eq_some_iff.mp h).1

theorem dropPoster_eq (h : t.made[i]? = some (path, pipe)) :
    t.dropPoster i = t.setPipe i path pipe.closeWriter := by
  rw [dropPoster, on_of_getElem h]
  simp [setPipe]

/-- What posting does, by who is there. -/
theorem post_eq (h : t.made[i]? = some (path, pipe)) (element : UInt32) :
    t.post i element =
      if pipe.writer then
        if pipe.reader then
          (.posted, t.setPipe i path ⟨pipe.pending ++ Bytes.ofWord element, true, false⟩)
        else (.failed (.os Errno.brokenPipe), t.setPipe i path pipe.closeWriter)
      else (.noPoster, t) := by
  rw [post, on_of_getElem h]
  cases hwriter : pipe.writer with
  | false =>
    have hpost : QueueStore.post ⟨t.files, [(path, pipe)]⟩ path element =
        (.noPoster, ⟨t.files, [(path, pipe)]⟩) := by
      simp [QueueStore.post, QueueStore.holdsPoster, hwriter]
    rw [hpost, QueueStore.pipeOf_singleton, ← setPipe, setPipe_self h]
    rfl
  | true =>
    rw [QueueStore.post_eq (by simpa using hwriter), QueueStore.pipeOf_singleton]
    cases hreader : pipe.reader <;> simp [Pipe.write, hreader, setPipe, Pipe.closeWriter]

/-- A queue that is read while it holds an element gives it and holds none. -/
theorem read_of_pending {element : UInt32} {writer : Bool}
    (h : t.made[i]? = some (path, ⟨Bytes.ofWord element, true, writer⟩)) :
    t.read i = (.element element, t.setPipe i path ⟨[], true, writer⟩) := by
  rw [read, on_of_getElem h, QueueStore.read_of_pending (QueueStore.pipeOf_singleton _ _ _),
    QueueStore.pipeOf_setPipe]
  rfl

/-- A queue that is read while it may still get an element is left alone. -/
theorem read_of_writer (h : t.made[i]? = some (path, ⟨[], true, true⟩)) :
    t.read i = (.waits, t) := by
  rw [read, on_of_getElem h, QueueStore.read_of_writer (QueueStore.pipeOf_singleton _ _ _),
    QueueStore.pipeOf_singleton, ← setPipe, setPipe_self h]

/-- A queue that is read when no element can come fails and stays as it is. -/
theorem read_of_ended (h : t.made[i]? = some (path, ⟨[], true, false⟩)) :
    t.read i = (.failed .shortRead, t) := by
  rw [read, on_of_getElem h, QueueStore.read_of_ended (QueueStore.pipeOf_singleton _ _ _),
    QueueStore.pipeOf_setPipe]
  exact congrArg (Prod.mk _) (setPipe_self h)

/-- A queue that was dropped cannot be read. -/
theorem read_of_dropped {pending : Bytes} {writer : Bool}
    (h : t.made[i]? = some (path, ⟨pending, false, writer⟩)) : t.read i = (.noQueue, t) := by
  rw [read, on_of_getElem h]
  simp only [QueueStore.read, QueueStore.holdsQueue, QueueStore.pipeOf_singleton,
    Bool.false_eq_true, if_false]
  rw [← setPipe, setPipe_self h]

/-- A queue that is dropped takes its name with it. -/
theorem dropQueue_of_reader (h : t.made[i]? = some (path, pipe)) (hreader : pipe.reader)
    (hremove : t.files.remove path = .ok fs) :
    t.dropQueue i = ⟨fs, t.made.set i (path, pipe.closeReader)⟩ := by
  have hfiles : (QueueStore.dropQueue ⟨t.files, [(path, pipe)]⟩ path).files = fs := by
    rw [QueueStore.files_dropQueue (by simpa using hreader), QueueStore.filesWithout,
      QueueStore.unlink, hremove]
  rw [dropQueue, on_of_getElem h]
  simp only [QueueStore.pipeOf_dropQueue, QueueStore.pipeOf_singleton, hfiles]

/-- A queue that was dropped cannot be dropped again. -/
theorem dropQueue_of_dropped (h : t.made[i]? = some (path, pipe)) (hreader : pipe.reader = false) :
    t.dropQueue i = t := by
  rw [dropQueue, on_of_getElem h]
  simp only [QueueStore.dropQueue, QueueStore.holdsQueue, QueueStore.pipeOf_singleton, hreader,
    Bool.false_eq_true, if_false]
  exact setPipe_self h

/-! ### What a queue is like -/

/-- What the pipe of a queue can hold: nothing, or the one element that was posted. -/
inductive Sound : Pipe → Prop where
  /-- It is empty. -/
  | empty (reader writer : Bool) : Sound ⟨[], reader, writer⟩
  /-- It holds an element, and the poster is used up. -/
  | posted (element : UInt32) (reader : Bool) : Sound ⟨Bytes.ofWord element, reader, false⟩

/-- An operation on a sound queue, dropping it excepted, leaves it sound and in the same hands, and
leaves the files alone. -/
theorem perform_of_target {op : QueueOp} (hop : op.target? = some i) (hdrop : op ≠ .dropQueue i)
    (h : t.made[i]? = some (path, pipe)) (hsound : Sound pipe) :
    ∃ pipe', Sound pipe' ∧ pipe'.reader = pipe.reader ∧ t.perform op = t.setPipe i path pipe' := by
  cases op with
  | create dir owner opening => contradiction
  | post j element =>
    obtain rfl := Option.some.inj hop
    rw [perform, post_eq h]
    cases hsound with
    | empty reader writer =>
      match reader, writer with
      | true, true => exact ⟨_, .posted element true, rfl, rfl⟩
      | false, true => exact ⟨_, .empty false false, rfl, rfl⟩
      | reader, false => exact ⟨_, .empty reader false, rfl, (setPipe_self h).symm⟩
    | posted old reader => exact ⟨_, .posted old reader, rfl, (setPipe_self h).symm⟩
  | dropPoster j =>
    obtain rfl := Option.some.inj hop
    rw [perform, dropPoster_eq h]
    cases hsound with
    | empty reader writer => exact ⟨_, .empty reader false, rfl, rfl⟩
    | posted old reader => exact ⟨_, .posted old reader, rfl, rfl⟩
  | read j =>
    obtain rfl := Option.some.inj hop
    rw [perform]
    cases hsound with
    | empty reader writer =>
      refine ⟨_, .empty reader writer, rfl, ?_⟩
      rw [setPipe_self h]
      match reader, writer with
      | true, true => rw [read_of_writer h]
      | true, false => rw [read_of_ended h]
      | false, writer => rw [read_of_dropped h]
    | posted element reader =>
      cases reader with
      | true =>
        rw [read_of_pending h]
        exact ⟨_, .empty true false, rfl, rfl⟩
      | false =>
        rw [read_of_dropped h]
        exact ⟨_, .posted element false, rfl, (setPipe_self h).symm⟩
  | dropQueue j =>
    obtain rfl := Option.some.inj hop
    contradiction

/-! ### Other queues -/

theorem made_on_of_ne {α : Type} (hij : i ≠ j) (absent : α)
    (operation : QueueStore → Bytes → α × QueueStore) :
    (t.on i absent operation).2.made[j]? = t.made[j]? := by
  rw [on]
  split
  · rfl
  · exact List.getElem?_set_ne hij

/-- An operation leaves every other queue as it is. -/
theorem perform_of_ne {op : QueueOp} {x : Bytes × Pipe} (hop : op.target? ≠ some j)
    (h : t.made[j]? = some x) : (t.perform op).made[j]? = some x := by
  cases htarget : op.target? with
  | none =>
    cases op with
    | create dir owner opening =>
      rw [perform, create]
      rcases QueueStore.create ⟨t.files, []⟩ dir owner opening with ⟨_ | path, store⟩
      · exact h
      · exact (List.getElem?_append_left (List.getElem?_eq_some_iff.mp h).1).trans h
    | _ => contradiction
  | some i =>
    have hij : i ≠ j := fun hij => hop (htarget.trans (congrArg some hij))
    cases op with
    | create dir owner opening => contradiction
    | _ =>
      obtain rfl := Option.some.inj htarget
      exact (made_on_of_ne hij _ _).trans h

/-- A queue whose poster is gone changes only by being dropped, or read while it holds something. -/
theorem perform_of_used {op : QueueOp} {pending : Bytes}
    (h : t.made[i]? = some (path, ⟨pending, true, false⟩)) (hdrop : op ≠ .dropQueue i)
    (hread : op = .read i → pending = []) :
    (t.perform op).made[i]? = some (path, ⟨pending, true, false⟩) := by
  by_cases htarget : op.target? = some i
  · cases op with
    | create dir owner opening => contradiction
    | post j element =>
      obtain rfl := Option.some.inj htarget
      rw [perform, post_eq h]
      exact h
    | dropPoster j =>
      obtain rfl := Option.some.inj htarget
      rw [perform, dropPoster_eq h, Pipe.closeWriter, setPipe_self h]
      exact h
    | read j =>
      obtain rfl := Option.some.inj htarget
      obtain rfl := hread rfl
      rw [perform, read_of_ended h]
      exact h
    | dropQueue j =>
      obtain rfl := Option.some.inj htarget
      contradiction
  · exact perform_of_ne htarget h

theorem run_of_used {ops : List QueueOp} {pending : Bytes}
    (h : t.made[i]? = some (path, ⟨pending, true, false⟩)) (hdrop : .dropQueue i ∉ ops)
    (hread : .read i ∈ ops → pending = []) :
    (t.run ops).made[i]? = some (path, ⟨pending, true, false⟩) := by
  induction ops generalizing t with
  | nil => exact h
  | cons op rest ih =>
    rw [List.mem_cons, not_or] at hdrop
    refine ih (perform_of_used h (Ne.symm hdrop.1) fun hop => hread ?_) hdrop.2 fun hmem => hread ?_
    · exact hop ▸ List.mem_cons_self
    · exact List.mem_cons_of_mem op hmem

end QueueTable

end LaunchStub

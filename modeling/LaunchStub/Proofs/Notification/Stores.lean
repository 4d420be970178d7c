import LaunchStub.Proofs.Notification.LifeCycle

/-!
# The table and the store

A store knows a queue by its path, a table by its number. A path leads to the last queue that was
created under it, and as long as nobody asks for another one a store and a table that begin alike go
alike: they give the same answers, keep the same files, and have the same pipe behind every path. So
what is shown of the life of queues in a table holds of a store.

## The model

What a store does with a queue is local (`QueueStore.Local`): it sees the files and the pipe behind
the path, and changes no other pipe. `QueueTable.Known` says that a store has the files of a table
and behind each path the pipe of the last queue of that path, and `QueueTable.Together` that a store
and a table have gone through the same operations.

## What is proved

* `QueueStore.local_post`, `local_read`, `local_dropPoster`, `local_dropQueue` — all operations of
  a store on its queues are local.
* `QueueTable.Known.on`, `QueueTable.Known.create` — what one operation comes to in a store, it
  comes to in a table.
* `QueueTable.Together.answers` — so the answers are the same after any operations.
-/

namespace LaunchStub

/-! ### Operations are local -/

namespace QueueStore

theorem pipeOf_setPipe_of_ne {store : QueueStore} {path other : Bytes} (h : other ≠ path)
    (pipe : Pipe) : (store.setPipe path pipe).pipeOf other = store.pipeOf other := by
  have hlookup : ∀ pipes : List (Bytes × Pipe),
      (pipes.filter fun entry => entry.1 ≠ path).lookup other = pipes.lookup other := by
    intro pipes
    induction pipes with
    | nil => rfl
    | cons entry rest ih =>
      obtain ⟨key, value⟩ := entry
      by_cases hkey : key = path
      · subst hkey
        rw [List.filter_cons_of_neg (by simp), ih, List.lookup_cons, beq_false_of_ne h]
      · rw [List.filter_cons_of_pos (by simpa using hkey), List.lookup_cons, List.lookup_cons, ih]
  rw [pipeOf, setPipe, List.lookup_cons, beq_false_of_ne h]
  exact congrArg (Option.getD · _) (hlookup store.pipes)

/-- An operation on a queue is local: it does what it does where there is no other queue, and leaves
the pipes behind other paths as they are. -/
structure Local {α : Type} (operation : QueueStore → Bytes → α × QueueStore) : Prop where
  /-- It sees the files and the pipe behind the path. -/
  alone : ∀ (store : QueueStore) (path : Bytes),
    let only := operation ⟨store.files, [(path, store.pipeOf path)]⟩ path
    (operation store path).1 = only.1 ∧ (operation store path).2.files = only.2.files ∧
      (operation store path).2.pipeOf path = only.2.pipeOf path
  /-- It leaves other queues alone. -/
  other : ∀ (store : QueueStore) (path other : Bytes), other ≠ path →
    (operation store path).2.pipeOf other = store.pipeOf other

theorem local_dropPoster : Local fun store path => ((), store.dropPoster path) where
  alone store path := by
    simp
  other store path other h := by
    rw [dropPoster]
    split
    · exact pipeOf_setPipe_of_ne h _
    · rfl

theorem local_post (element : UInt32) : Local fun store path => store.post path element where
  alone store path := by
    cases hwriter : (store.pipeOf path).writer with
    | false => simp [post, holdsPoster, hwriter]
    | true =>
      cases hwrite : (store.pipeOf path).write (Bytes.ofWord element) <;>
        simp [post, holdsPoster, hwriter, hwrite]
  other store path other h := by
    simp only [post]
    split
    · split
      · exact pipeOf_setPipe_of_ne h _
      · exact local_dropPoster.other store path other h
    · rfl

theorem local_read : Local QueueStore.read where
  alone store path := by
    cases hreader : (store.pipeOf path).reader with
    | false => simp [read, holdsQueue, hreader]
    | true =>
      rcases hread : (store.pipeOf path).readExactly Element.size with ⟨bytes | _ | _, pipe⟩
      · cases hword : Bytes.word? bytes <;> simp [read, holdsQueue, hreader, hread, hword]
      · simp [read, holdsQueue, hreader, hread]
      · simp [read, holdsQueue, hreader, hread]
  other store path other h := by
    simp only [read]
    split
    · split
      · split <;> exact pipeOf_setPipe_of_ne h _
      · rfl
      · exact pipeOf_setPipe_of_ne h _
    · rfl

theorem local_dropQueue : Local fun store path => ((), store.dropQueue path) where
  alone store path := by
    cases hreader : (store.pipeOf path).reader with
    | false => simp [dropQueue, holdsQueue, hreader]
    | true =>
      cases hremove : store.files.remove path <;>
        simp [dropQueue, holdsQueue, hreader, unlink, hremove]
  other store path other h := by
    simp only [dropQueue, unlink]
    split
    · split <;> exact pipeOf_setPipe_of_ne h _
    · rfl

end QueueStore

/-! ### The last queue of a path -/

namespace QueueTable

open QueueStore

variable {fs : FileSystem} {t : QueueTable} {store : QueueStore} {i : Nat} {path other : Bytes}
  {pipe : Pipe} {l r : List (Bytes × Pipe)}

/-- The pipe of the last queue of a path, closed at both ends if there never was one. -/
def lastPipe (made : List (Bytes × Pipe)) (path : Bytes) : Pipe :=
  (made.reverse.lookup path).getD ⟨[], false, false⟩

theorem lastPipe_self (hr : ∀ x ∈ r, x.1 ≠ path) :
    lastPipe (l ++ (path, pipe) :: r) path = pipe := by
  have hnone : r.reverse.lookup path = none := by
    rw [List.lookup_eq_none_iff]
    intro x hx
    simpa using Ne.symm (hr x (List.mem_reverse.mp hx))
  simp [lastPipe, List.lookup_append, hnone]

/-- What is behind other paths does not depend on it. -/
theorem lastPipe_of_ne (h : other ≠ path) (pipe : Pipe) :
    lastPipe (l ++ (path, pipe) :: r) other = lastPipe (l ++ r) other := by
  simp [lastPipe, List.lookup_append, List.lookup_cons, beq_false_of_ne h]

/-- A queue that is open at an end is one that was created. -/
theorem mem_of_lastPipe {made : List (Bytes × Pipe)} (h : (lastPipe made path).reader) :
    (path, lastPipe made path) ∈ made := by
  rw [lastPipe] at h ⊢
  cases hlookup : made.reverse.lookup path with
  | none => simp [hlookup] at h
  | some pipe =>
    obtain ⟨before, behind, hmade, -⟩ := List.lookup_eq_some_iff.mp hlookup
    rw [Option.getD_some, ← List.mem_reverse, hmade]
    simp

/-- Is this queue the last one of this path? -/
def IsLast (t : QueueTable) (i : Nat) (path : Bytes) : Prop :=
  ∃ l pipe r, t.made = l ++ (path, pipe) :: r ∧ l.length = i ∧ ∀ x ∈ r, x.1 ≠ path

/-! ### One operation -/

/-- Does the store have the files of the table, and behind each path the pipe of its last queue? -/
structure Known (store : QueueStore) (t : QueueTable) : Prop where
  /-- The files are the same. -/
  files : store.files = t.files
  /-- Behind each path is the pipe of its last queue. -/
  pipes : ∀ path, store.pipeOf path = lastPipe t.made path

namespace Known

/-- A local operation on the last queue of a path comes to the same in the store as in the table. -/
theorem on (h : Known store t) {α : Type} {operation : QueueStore → Bytes → α × QueueStore}
    (hlocal : Local operation) (hlast : t.IsLast i path) (absent : α) :
    (operation store path).1 = (t.on i absent operation).1 ∧
      Known (operation store path).2 (t.on i absent operation).2 := by
  obtain ⟨l, pipe, r, hmade, rfl, hr⟩ := hlast
  have hpipe : store.pipeOf path = pipe := by rw [h.pipes, hmade, lastPipe_self hr]
  have hget : t.made[l.length]? = some (path, pipe) := by simp [hmade]
  obtain ⟨hanswer, hfiles, hafter⟩ := hlocal.alone store path
  rw [h.files, hpipe] at hanswer hfiles hafter
  rw [on_of_getElem hget]
  refine ⟨hanswer, hfiles, fun other => ?_⟩
  by_cases hother : other = path
  · subst hother
    rw [hafter, hmade, List.set_append_right _ _ (Nat.le_refl _), Nat.sub_self, List.set_cons_zero,
      lastPipe_self hr]
  · rw [hlocal.other store path other hother, h.pipes, hmade,
      List.set_append_right _ _ (Nat.le_refl _), Nat.sub_self, List.set_cons_zero,
      lastPipe_of_ne hother, lastPipe_of_ne hother]

/-- Where a path leads nowhere no store holds a queue of it. -/
theorem holdsQueue_eq_false (h : Known store t) (hfits : Fits fs t)
    (hnew : t.files.isThere path = false) : store.holdsQueue path = false := by
  rw [QueueStore.holdsQueue, h.pipes, Bool.eq_false_iff]
  intro hheld
  rw [hfits.isThere_of_reader (mem_of_lastPipe hheld) hheld] at hnew
  contradiction

/-- A queue that is created is the last of its path, and no other path is touched. -/
theorem setPipe_new (h : Known store t) (files : FileSystem) (path : Bytes) (pipe : Pipe) :
    Known ({ store with files := files }.setPipe path pipe) ⟨files, t.made ++ [(path, pipe)]⟩ where
  files := rfl
  pipes other := by
    by_cases hother : other = path
    · subst hother
      rw [pipeOf_setPipe, lastPipe_self (by simp)]
    · rw [pipeOf_setPipe_of_ne hother, lastPipe_of_ne hother, List.append_nil]
      exact h.pipes other

/-- Creating a queue comes to the same: a path that is free has no queue that is still held. -/
theorem create (h : Known store t) (hfits : Fits fs t) (dir : Bytes) (owner : UInt32)
    (opening : Except IoError Unit) :
    (store.create dir owner opening).1 = (t.create dir owner opening).1 ∧
      Known (store.create dir owner opening).2 (t.create dir owner opening).2 := by
  simp only [QueueTable.create, QueueStore.create, h.files]
  split
  · exact ⟨rfl, h⟩
  · cases hfiles : t.files.create (nameFor dir owner) .pipe with
    | error e => exact ⟨rfl, h⟩
    | ok files =>
      have hfiles' : store.files.create (nameFor dir owner) .pipe = .ok files := by
        rw [h.files, hfiles]
      obtain ⟨hnew, hunlink⟩ := @unlink_of_create ⟨t.files, []⟩ dir owner files hfiles
      cases opening with
      | error e =>
        simp only [(unlink_of_create hfiles').2, hunlink]
        exact ⟨trivial, h⟩
      | ok _ =>
        have hheld : ({ store with files := files } : QueueStore).holdsQueue (nameFor dir owner) =
            false := h.holdsQueue_eq_false hfits hnew
        simp only [dropQueue_of_not_held hheld, pipeOf_setPipe]
        exact ⟨trivial, h.setPipe_new files (nameFor dir owner) {}⟩

end Known

/-! ### Any number of operations -/

/-- A store and a table that have gone through the same operations, from files without any queue.
Each queue was asked for under a path whose last queue it was. -/
inductive Together (fs : FileSystem) : QueueStore → QueueTable → Prop
  /-- Nothing has been done. -/
  | start : Together fs ⟨fs, []⟩ ⟨fs, []⟩
  /-- A queue was created, or could not be. -/
  | create {store : QueueStore} {t : QueueTable} (h : Together fs store t) (dir : Bytes)
      (owner : UInt32) (opening : Except IoError Unit) :
      Together fs (store.create dir owner opening).2 (t.create dir owner opening).2
  /-- An element was posted. -/
  | post {store : QueueStore} {t : QueueTable} (h : Together fs store t) {i : Nat} {path : Bytes}
      (hlast : t.IsLast i path) (element : UInt32) :
      Together fs (store.post path element).2 (t.post i element).2
  /-- A poster was dropped. -/
  | dropPoster {store : QueueStore} {t : QueueTable} (h : Together fs store t) {i : Nat}
      {path : Bytes} (hlast : t.IsLast i path) :
      Together fs (store.dropPoster path) (t.dropPoster i)
  /-- A queue was read. -/
  | read {store : QueueStore} {t : QueueTable} (h : Together fs store t) {i : Nat} {path : Bytes}
      (hlast : t.IsLast i path) : Together fs (store.read path).2 (t.read i).2
  /-- A queue was dropped. -/
  | dropQueue {store : QueueStore} {t : QueueTable} (h : Together fs store t) {i : Nat}
      {path : Bytes} (hlast : t.IsLast i path) :
      Together fs (store.dropQueue path) (t.dropQueue i)

namespace Together

/-- The table fits its files, and the store knows all that can be asked of it. -/
theorem known (h : Together fs store t) : Known store t ∧ Fits fs t := by
  induction h with
  | start => exact ⟨⟨rfl, fun _ => rfl⟩, fits_nil fs⟩
  | create _ dir owner opening ih =>
    exact ⟨(ih.1.create ih.2 dir owner opening).2, ih.2.create dir owner opening⟩
  | @post store t _ i path hlast element ih =>
    exact ⟨(ih.1.on (local_post element) hlast .noPoster).2, ih.2.perform (.post i element)⟩
  | @dropPoster store t _ i path hlast ih =>
    exact ⟨(ih.1.on local_dropPoster hlast ()).2, ih.2.perform (.dropPoster i)⟩
  | @read store t _ i path hlast ih =>
    exact ⟨(ih.1.on local_read hlast .noQueue).2, ih.2.perform (.read i)⟩
  | @dropQueue store t _ i path hlast ih =>
    exact ⟨(ih.1.on local_dropQueue hlast ()).2, ih.2.perform (.dropQueue i)⟩

/-- **A store does what the table says**: after the same operations the files are the same, and so
are the answers to whatever is asked next of the queues that a path leads to. -/
theorem answers (h : Together fs store t) : store.files = t.files ∧
    (∀ dir owner opening,
      (store.create dir owner opening).1 = (t.create dir owner opening).1) ∧
    ∀ i path, t.IsLast i path →
      (∀ element, (store.post path element).1 = (t.post i element).1) ∧
      (store.read path).1 = (t.read i).1 ∧
      store.holdsQueue path = t.holdsQueue i ∧ store.holdsPoster path = t.holdsPoster i := by
  obtain ⟨hknown, hfits⟩ := h.known
  refine ⟨hknown.files, fun dir owner opening => (hknown.create hfits dir owner opening).1,
    fun i path hlast => ⟨fun element => (hknown.on (local_post element) hlast .noPoster).1,
      (hknown.on local_read hlast .noQueue).1, ?_⟩⟩
  obtain ⟨l, pipe, r, hmade, rfl, hr⟩ := hlast
  have hpipe : store.pipeOf path = pipe := by rw [hknown.pipes, hmade, lastPipe_self hr]
  simp [QueueStore.holdsQueue, QueueStore.holdsPoster, QueueTable.holdsQueue,
    QueueTable.holdsPoster, hpipe, hmade]

end Together

end QueueTable

end LaunchStub

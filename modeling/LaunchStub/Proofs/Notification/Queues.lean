import LaunchStub.Proofs.Bytes
import LaunchStub.Proofs.Files.NewNames
import LaunchStub.Proofs.Notification.Elements

/-!
# Queues one at a time

What the operations on the queue of one path do to its pipe and to the files. A queue's name comes
and goes with it: creating it takes a name that leads nowhere, and once the name is removed the
files are as they were before, whether or not a queue of the same path was still held.

## What is proved

* `QueueStore.creating` — what creating a queue comes to; `QueueStore.create_eq_ok` — what a queue
  is like that was just created; `QueueStore.create_eq_error` — nothing is left of one that was not.
* `QueueStore.read_of_pending`, `QueueStore.read_of_writer`, `QueueStore.read_of_ended` — a reader
  of a queue gets the element that is there, waits for one that may still come, and is told if none
  can.
* `QueueStore.lossless_passedOn` — what an element tells is not lost on its way through a queue.
-/

namespace LaunchStub

/-! ### Names of queues -/

theorem Bytes.slash_not_mem_decimal (n : Nat) : slash ∉ ofText (Decimal.nat n) := by
  intro h
  obtain ⟨hlow, -⟩ := isDigit_of_mem_ofText_nat h
  exact absurd hlow (by decide)

/-- A path that ends in a name ends in no slash. -/
theorem Path.endsInSlash_append {name : Bytes} (hne : name ≠ []) (hslash : Bytes.slash ∉ name)
    (path : Bytes) : endsInSlash (path ++ name) = false := by
  obtain ⟨b, hb⟩ : ∃ b, name.getLast? = some b := ⟨_, List.getLast?_eq_some_getLast hne⟩
  have hne' : b ≠ Bytes.slash := by
    rintro rfl
    exact hslash (List.mem_of_getLast? hb)
  simp [endsInSlash, List.getLast?_append, hb, hne']

theorem Path.endsInSlash_join {dir name : Bytes} (hne : name ≠ []) (hslash : Bytes.slash ∉ name) :
    endsInSlash (join dir name) = false := by
  rw [join]
  split
  · exact endsInSlash_append hne hslash dir
  · rw [List.append_cons]
    exact endsInSlash_append hne hslash (dir ++ [Bytes.slash])

/-- A name has no parts. -/
theorem Path.names_of_not_mem {name : Bytes} (hne : name ≠ []) (hslash : Bytes.slash ∉ name) :
    names name = [name] := by
  rw [names, Bytes.splitAt_of_not_mem hslash]
  simp [hne]

theorem Path.names_append_slash (dir name : Bytes) :
    names (dir ++ Bytes.slash :: name) = names dir ++ names name := by
  rw [names, Bytes.splitAt_append_cons, List.filter_append]
  rfl

/-- The names of a path below a directory come behind those of the directory. -/
theorem Path.names_join (dir name : Bytes) : names (join dir name) = names dir ++ names name := by
  rw [join]
  split
  · rename_i h
    rcases h with rfl | hend
    · rfl
    · obtain ⟨above, rfl⟩ := List.getLast?_eq_some_iff.mp (by simpa [endsInSlash] using hend)
      rw [List.append_assoc, List.singleton_append, names_append_slash, names_append_slash]
      simp [names, Bytes.splitAt]
  · exact names_append_slash dir name

namespace QueueStore

variable {store store' : QueueStore} {path : Bytes} {pipe : Pipe}

/-- The last name of the path of a queue. -/
def ownName (owner : UInt32) : Bytes := Bytes.ofText ("pstub-term." ++ Decimal.nat owner.toNat)

theorem ownName_eq_cons (owner : UInt32) :
    ∃ rest, ownName owner = 0x70 :: 0x73 :: 0x74 :: rest := by
  rw [ownName, Bytes.ofText_append]
  exact ⟨_, rfl⟩

theorem slash_not_mem_ownName (owner : UInt32) : Bytes.slash ∉ ownName owner := by
  rw [ownName, Bytes.ofText_append, List.mem_append, not_or]
  exact ⟨by decide, Bytes.slash_not_mem_decimal _⟩

theorem endsInSlash_nameFor (dir : Bytes) (owner : UInt32) :
    Path.endsInSlash (nameFor dir owner) = false := by
  refine Path.endsInSlash_join ?_ (slash_not_mem_ownName owner)
  obtain ⟨rest, hrest⟩ := ownName_eq_cons owner
  rw [← ownName, hrest]
  exact List.cons_ne_nil _ _

theorem names_nameFor (dir : Bytes) (owner : UInt32) :
    Path.names (nameFor dir owner) = Path.names dir ++ [ownName owner] := by
  obtain ⟨rest, hrest⟩ := ownName_eq_cons owner
  rw [nameFor, ← ownName, Path.names_join,
    Path.names_of_not_mem (by simp [hrest]) (slash_not_mem_ownName owner)]

/-! ### Pipes and files -/

@[simp] theorem pipeOf_setPipe (store : QueueStore) (path : Bytes) (pipe : Pipe) :
    (store.setPipe path pipe).pipeOf path = pipe := by
  simp [pipeOf, setPipe]

@[simp] theorem files_setPipe (store : QueueStore) (path : Bytes) (pipe : Pipe) :
    (store.setPipe path pipe).files = store.files := rfl

@[simp] theorem setPipe_setPipe (store : QueueStore) (path : Bytes) (first second : Pipe) :
    (store.setPipe path first).setPipe path second = store.setPipe path second := by
  simp [setPipe, List.filter_filter]

/-- The files once the name of a queue is gone. -/
def filesWithout (store : QueueStore) (path : Bytes) : FileSystem := (store.unlink path).2.files

@[simp] theorem filesWithout_setPipe (store : QueueStore) (path : Bytes) (pipe : Pipe) :
    (store.setPipe path pipe).filesWithout path = store.filesWithout path := by
  simp only [filesWithout, unlink, setPipe]
  split <;> rfl

/-- A name that leads nowhere is gone already. -/
theorem filesWithout_of_not_isThere (h : store.files.isThere path = false) :
    store.filesWithout path = store.files := by
  rw [FileSystem.isThere] at h
  cases hresolve : store.files.resolve path with
  | ok place => simp [hresolve] at h
  | error e => simp [filesWithout, unlink, FileSystem.remove, hresolve]

/-- A queue that is not held is not dropped. -/
theorem dropQueue_of_not_held (h : store.holdsQueue path = false) :
    store.dropQueue path = store := by
  rw [dropQueue, h, if_neg Bool.false_ne_true]

/-- A queue that is dropped takes its name with it. -/
theorem files_dropQueue (h : (store.pipeOf path).reader) :
    (store.dropQueue path).files = store.filesWithout path := by
  rw [dropQueue, holdsQueue, if_pos h]
  rfl

@[simp] theorem pipeOf_dropQueue (store : QueueStore) (path : Bytes) :
    (store.dropQueue path).pipeOf path = (store.pipeOf path).closeReader := by
  rw [dropQueue, holdsQueue]
  split
  · exact pipeOf_setPipe _ path _
  · rename_i h
    simp only [Pipe.closeReader, ← Bool.eq_false_iff.mpr h]

@[simp] theorem files_dropPoster (store : QueueStore) (path : Bytes) :
    (store.dropPoster path).files = store.files := by
  rw [dropPoster]
  split <;> rfl

@[simp] theorem filesWithout_dropPoster (store : QueueStore) (path : Bytes) :
    (store.dropPoster path).filesWithout path = store.filesWithout path := by
  rw [dropPoster]
  split
  · exact filesWithout_setPipe store path _
  · rfl

@[simp] theorem pipeOf_dropPoster (store : QueueStore) (path : Bytes) :
    (store.dropPoster path).pipeOf path = (store.pipeOf path).closeWriter := by
  rw [dropPoster, holdsPoster]
  split
  · exact pipeOf_setPipe _ path _
  · rename_i h
    simp only [Pipe.closeWriter, ← Bool.eq_false_iff.mpr h]

/-! ### Creating and reading -/

/-- The name that a new queue puts into the files led nowhere, and removing it gives back the files
as they were. -/
theorem unlink_of_create {dir : Bytes} {owner : UInt32} {files : FileSystem}
    (h : store.files.create (nameFor dir owner) .pipe = .ok files) :
    store.files.isThere (nameFor dir owner) = false ∧
      { store with files := files }.unlink (nameFor dir owner) = (true, store) := by
  obtain ⟨hnew, hremove⟩ :=
    FileSystem.remove_of_create h (endsInSlash_nameFor dir owner) nofun
  refine ⟨hnew, ?_⟩
  simp only [unlink, hremove]

theorem filesWithout_of_create {dir : Bytes} {owner : UInt32} {files : FileSystem}
    (h : store.files.create (nameFor dir owner) .pipe = .ok files) :
    { store with files := files }.filesWithout (nameFor dir owner) = store.files := by
  rw [filesWithout, (unlink_of_create h).2]

/-- What creating a queue comes to: its name is refused, or its ends are not opened and the name
goes again, or it is there. -/
inductive Creating (store : QueueStore) (path : Bytes) :
    Except IoError Unit → Except IoError Bytes × QueueStore → Prop
  /-- The pipe gets no name. -/
  | refused (opening : Except IoError Unit) (e : IoError) :
      Creating store path opening (.error e, store)
  /-- Its ends are not opened. -/
  | unopened {files : FileSystem} (e : IoError)
      (hfiles : store.files.create path .pipe = .ok files) :
      Creating store path (.error e) (.error e, store)
  /-- The queue is there. -/
  | created {files : FileSystem} (hfiles : store.files.create path .pipe = .ok files) :
      Creating store path (.ok ())
        (.ok path, ({ store with files := files }.dropQueue path).setPipe path {})

theorem creating (store : QueueStore) (dir : Bytes) (owner : UInt32)
    (opening : Except IoError Unit) :
    Creating store (nameFor dir owner) opening (store.create dir owner opening) := by
  rw [create]
  split
  · exact .refused opening _
  · cases hfiles : store.files.create (nameFor dir owner) .pipe with
    | error e => exact .refused opening e
    | ok files =>
      cases opening with
      | ok _ => exact .created hfiles
      | error e =>
        simp only [(unlink_of_create hfiles).2]
        exact .unopened e hfiles

/-- A queue that is created: its name led nowhere, goes with the queue, and its pipe is new. -/
theorem create_eq_ok {dir : Bytes} {owner : UInt32} {opening : Except IoError Unit}
    (h : store.create dir owner opening = (.ok path, store')) :
    path = nameFor dir owner ∧ store.files.isThere path = false ∧
      store'.filesWithout path = store.files ∧ store'.pipeOf path = {} := by
  have hcreating := store.creating dir owner opening
  rw [h] at hcreating
  cases hcreating with
  | @created files hfiles =>
    obtain ⟨hnew, -⟩ := unlink_of_create hfiles
    have hgone := filesWithout_of_create hfiles
    refine ⟨rfl, hnew, ?_, pipeOf_setPipe _ _ _⟩
    rw [filesWithout_setPipe]
    -- A queue of this path that is still held takes the new name with it.
    cases hheld : ({ store with files := files }.pipeOf (nameFor dir owner)).reader with
    | true =>
      have hdrop := (files_dropQueue hheld).trans hgone
      rw [filesWithout_of_not_isThere (by rw [hdrop]; exact hnew), hdrop]
    | false => rw [dropQueue_of_not_held hheld, hgone]

/-- Creating a queue adds its name, or nothing where an older queue of this path takes it along. -/
theorem within_create {dir : Bytes} {owner : UInt32} {opening : Except IoError Unit}
    (h : store.create dir owner opening = (.ok path, store')) :
    store.files.Within store'.files ∧ store'.files.current = store.files.current := by
  have hcreating := store.creating dir owner opening
  rw [h] at hcreating
  cases hcreating with
  | @created files hfiles =>
    rw [files_setPipe]
    cases hheld : ({ store with files := files }.pipeOf (nameFor dir owner)).reader with
    | true =>
      rw [files_dropQueue hheld, filesWithout_of_create hfiles]
      exact ⟨fun _ _ hnode => hnode, rfl⟩
    | false =>
      rw [dropQueue_of_not_held hheld]
      obtain ⟨place, rfl⟩ := FileSystem.create_eq_ok hfiles
      exact ⟨FileSystem.within_adding store.files place .pipe, rfl⟩

/-- A queue that is not created leaves everything as it was. -/
theorem create_eq_error {dir : Bytes} {owner : UInt32} {opening : Except IoError Unit}
    {e : IoError} (h : store.create dir owner opening = (.error e, store')) : store' = store := by
  have hcreating := store.creating dir owner opening
  rw [h] at hcreating
  cases hcreating <;> rfl

/-- What creating a queue comes to where its ends are not opened: the same refusal, or that of the
ends. -/
theorem create_of_unopened (store : QueueStore) (dir : Bytes) (owner : UInt32) (e : IoError) :
    store.create dir owner (.error e) =
      (match (store.create dir owner).1 with
        | .ok _ => .error e
        | .error refusal => .error refusal, store) := by
  rw [create, create]
  split
  · rfl
  · cases hfiles : store.files.create (nameFor dir owner) .pipe with
    | error refusal => rfl
    | ok files => simp only [(unlink_of_create hfiles).2]

/-- A reader gets the element that is there. -/
theorem read_of_pending {element : UInt32} {writer : Bool}
    (h : store.pipeOf path = ⟨Bytes.ofWord element, true, writer⟩) :
    store.read path = (.element element, store.setPipe path ⟨[], true, writer⟩) := by
  have hread : Pipe.readExactly ⟨Bytes.ofWord element, true, writer⟩ Element.size =
      (.got (Bytes.ofWord element), ⟨[], true, writer⟩) := rfl
  simp only [read, holdsQueue, h, if_true, hread, Bytes.word?_ofWord]

/-- As long as something may come a reader waits. -/
theorem read_of_writer (h : store.pipeOf path = ⟨[], true, true⟩) :
    store.read path = (.waits, store) := by
  have hread : Pipe.readExactly ⟨[], true, true⟩ Element.size = (.waits, ⟨[], true, true⟩) := rfl
  simp only [read, holdsQueue, h, if_true, hread]

/-- Where nothing is left and nothing can come a reader sees the end. -/
theorem read_of_ended (h : store.pipeOf path = ⟨[], true, false⟩) :
    store.read path = (.failed .shortRead, store.setPipe path ⟨[], true, false⟩) := by
  have hread : Pipe.readExactly ⟨[], true, false⟩ Element.size = (.ended, ⟨[], true, false⟩) := rfl
  simp only [read, holdsQueue, h, if_true, hread]

/-- Posting is writing and then closing the write end. -/
theorem post_eq (h : (store.pipeOf path).writer) (element : UInt32) :
    store.post path element = match (store.pipeOf path).write (Bytes.ofWord element) with
      | .ok pipe => (.posted, (store.setPipe path pipe).dropPoster path)
      | .error e => (.failed e, store.dropPoster path) := by
  rw [post, holdsPoster, if_pos h]
  cases hwrite : (store.pipeOf path).write (Bytes.ofWord element) with
  | error e => rfl
  | ok pipe =>
    have hwriter : pipe.writer = true := by
      rw [Pipe.write] at hwrite
      split at hwrite
      · rw [← Except.ok.inj hwrite]
        exact h
      · contradiction
    simp only [dropPoster, holdsPoster, pipeOf_setPipe, hwriter, if_true, setPipe_setPipe]

/-! ### Passing an element on -/

/-- What a reader of a queue meets once an element was posted to it. -/
def passedOn (store : QueueStore) (path : Bytes) (element : UInt32) : QueueRead :=
  ((store.post path element).2.read path).1

/-- Posting to a new queue leaves the octets of the element in it, and ends its data. -/
theorem post_of_new (h : store.pipeOf path = {}) (element : UInt32) :
    store.post path element =
      (.posted, store.setPipe path ⟨Bytes.ofWord element, true, false⟩) := by
  have hwriter : (store.pipeOf path).writer := by rw [h]
  have hwrite : (store.pipeOf path).write (Bytes.ofWord element) =
      .ok ⟨Bytes.ofWord element, true, true⟩ := by
    rw [h]
    rfl
  rw [post_eq hwriter, hwrite]
  simp [dropPoster, holdsPoster, Pipe.closeWriter]

/-- An element that is posted to a new queue is what a reader meets. -/
theorem passedOn_of_new (h : store.pipeOf path = {}) (element : UInt32) :
    store.passedOn path element = .element element := by
  rw [passedOn, post_of_new h, read_of_pending (pipeOf_setPipe store path _)]

/-- **What an element tells**: its result and the remainder of the session's id, and it is put
together from what it tells. Posted to a new queue it is four octets there, the least significant
one first, and what a reader then meets tells the same. -/
theorem lossless_passedOn (h : store.pipeOf path = {}) :
    Element.Lossless .element ∧
      (∀ element, let posted := store.post path element
        let octets := (posted.2.pipeOf path).pending
        posted.1 = .posted ∧ octets.length = 4 ∧
          Nat.ofDigits 256 (octets.map UInt8.toNat) = element.toNat) ∧
      Element.Lossless (store.passedOn path) := by
  refine ⟨Element.lossless_of_arrives fun _ => rfl, fun element => ?_,
    Element.lossless_of_arrives (passedOn_of_new h)⟩
  simp only [post_of_new h, pipeOf_setPipe]
  exact ⟨trivial, rfl, Bytes.ofDigits_ofWord element⟩

/-- The queue that process 7 creates in the root. -/
def ofSeven : QueueStore := (create ⟨⟨[], []⟩, []⟩ [] 7).2

/-- A result of 300 comes through this queue, and of a session's id of 65541 the remainder 5. -/
theorem lossless_passedOn_ofSeven : ofSeven.pipeOf (nameFor [] 7) = {} ∧
    ∃ element, ofSeven.passedOn (nameFor [] 7) (Element.pack 300 65541) = .element element ∧
      Element.result element = 300 ∧ element.toNat % 65536 = 5 := by
  have hnew : ofSeven.pipeOf (nameFor [] 7) = {} := by decide
  obtain ⟨-, -, hpassed⟩ := lossless_passedOn hnew
  exact ⟨hnew, hpassed.parts 300 65541⟩

end QueueStore

end LaunchStub

import LaunchStub.Files.FileSystem

/-!
# New names

Putting something new under a path and removing it by the same path is as if nothing had happened.
That takes two facts: a new entry hides none of the old ones, so every walk that came to its end
before does so afterwards, at the same place; and the name is free, so the walk of the whole path
fails before and ends at the new entry afterwards.
-/

namespace LaunchStub

namespace FileSystem

variable {fs fs' : FileSystem} {path : Bytes} {place here : Place} {node : Node}

/-- The file system with one more entry. -/
def adding (fs : FileSystem) (place : Place) (node : Node) : FileSystem :=
  { fs with entries := fs.entries ++ [(place, node)] }

theorem isDirectoryAt_iff : fs.isDirectoryAt place ↔ fs.nodeAt? place = some .directory := by
  simp [isDirectoryAt]

/-- Is everything that one file system has at the same place in another? -/
def Within (fs fs' : FileSystem) : Prop :=
  ∀ place node, fs.nodeAt? place = some node → fs'.nodeAt? place = some node

theorem within_adding (fs : FileSystem) (place : Place) (node : Node) :
    fs.Within (fs.adding place node) := by
  intro p n h
  rw [nodeAt?] at h ⊢
  split
  · rename_i hp
    rwa [if_pos hp] at h
  · rename_i hp
    rw [if_neg hp] at h
    rw [adding, List.lookup_append, h]
    rfl

/-- A name that was free names the new entry. -/
theorem nodeAt?_adding (h : fs.nodeAt? place = none) :
    (fs.adding place node).nodeAt? place = some node := by
  rw [nodeAt?] at h ⊢
  split at h
  · contradiction
  · rename_i hplace
    rw [if_neg hplace, adding, List.lookup_append, h]
    simp

/-- A name that is free has no entry. -/
theorem ne_of_nodeAt?_eq_none (h : fs.nodeAt? place = none) :
    ∀ entry ∈ fs.entries, entry.1 ≠ place := by
  intro entry hentry heq
  rw [nodeAt?] at h
  split at h
  · contradiction
  · rw [List.lookup_eq_none_iff] at h
    simpa [heq] using h entry hentry

/-- Removing the entry of a name that was free undoes putting it there. -/
theorem eraseP_adding (h : fs.nodeAt? place = none) :
    (fs.adding place node).entries.eraseP (fun entry => entry.1 = place) = fs.entries := by
  rw [adding, List.eraseP_append_right _ (by simpa using ne_of_nodeAt?_eq_none h)]
  simp

/-- Where one name leads to. -/
def next (fs : FileSystem) (here : Place) (name : Bytes) : Except IoError Place :=
  if !fs.isDirectoryAt here then .error (.os Errno.notDirectory)
  else if name = Path.dot then .ok here
  else if name = Path.dotDot then
    if fs.isDirectoryAt here.dropLast then .ok here.dropLast else .error (.os Errno.notDirectory)
  else if maxName < name.length then .error (.os Errno.nameTooLong)
  else match fs.nodeAt? (here ++ [name]) with
    | none => .error (.os Errno.noEntry)
    | some _ => .ok (here ++ [name])

/-- A walk goes name by name. -/
theorem walk_cons (fs : FileSystem) (here : Place) (name : Bytes) (rest : List Bytes) :
    fs.walk here (name :: rest) = (fs.next here name).bind fun place => fs.walk place rest := by
  rw [walk, next]
  split
  · rfl
  · split
    · rfl
    · split
      · split <;> rfl
      · split
        · rfl
        · cases fs.nodeAt? (here ++ [name]) <;> rfl

theorem walk_append (fs : FileSystem) (here : Place) (names rest : List Bytes) :
    fs.walk here (names ++ rest) = (fs.walk here names).bind fun place => fs.walk place rest := by
  induction names generalizing here with
  | nil => rfl
  | cons name names ih =>
    rw [List.cons_append, walk_cons, walk_cons]
    cases fs.next here name with
    | ok place => exact ih place
    | error e => rfl

/-- Names are looked up in directories only. -/
theorem isDirectoryAt_of_next {name : Bytes} (h : fs.next here name = .ok place) :
    fs.isDirectoryAt here = true := by
  rw [next] at h
  split at h
  · contradiction
  · rename_i hdir
    simpa using hdir

/-- The directory above is there if its name leads anywhere, and then it leads there. -/
theorem next_dotDot_eq_ok (h : fs.next here Path.dotDot = .ok place) :
    place = here.dropLast ∧ fs.isDirectoryAt place := by
  rw [next, if_neg (by simp [isDirectoryAt_of_next h]), if_neg (by decide), if_pos rfl] at h
  split at h
  · rename_i habove
    obtain rfl := Except.ok.inj h
    exact ⟨rfl, habove⟩
  · contradiction

theorem isDirectoryAt_of_within (hwithin : fs.Within fs') (h : fs.isDirectoryAt place) :
    fs'.isDirectoryAt place :=
  isDirectoryAt_iff.mpr (hwithin _ _ (isDirectoryAt_iff.mp h))

theorem next_of_within (hwithin : fs.Within fs') {name : Bytes}
    (h : fs.next here name = .ok place) : fs'.next here name = .ok place := by
  have hdir : fs.isDirectoryAt here = true := isDirectoryAt_of_next h
  have hdir' : fs'.isDirectoryAt here = true := isDirectoryAt_of_within hwithin hdir
  by_cases hdot : name = Path.dot
  · simpa [next, hdir, hdir', hdot] using h
  · by_cases hdots : name = Path.dotDot
    · subst hdots
      obtain ⟨rfl, habove⟩ := next_dotDot_eq_ok h
      have habove' : fs'.isDirectoryAt here.dropLast = true :=
        isDirectoryAt_of_within hwithin habove
      simp [next, hdir', hdot, habove']
    · cases hnode : fs.nodeAt? (here ++ [name]) with
      | none =>
        simp only [next, hdir, hdot, hdots, hnode, Bool.not_true, Bool.false_eq_true, if_false] at h
        split at h <;> contradiction
      | some node =>
        have hnode' := hwithin _ _ hnode
        simpa [next, hdir, hdir', hdot, hdots, hnode, hnode'] using h

/-- A walk that comes to its end does so in every file system that has what the first one has. -/
theorem walk_of_within (hwithin : fs.Within fs') {names : List Bytes}
    (h : fs.walk here names = .ok place) : fs'.walk here names = .ok place := by
  induction names generalizing here with
  | nil => exact h
  | cons name names ih =>
    rw [walk_cons] at h ⊢
    cases hnext : fs.next here name with
    | ok there =>
      rw [hnext] at h
      rw [next_of_within hwithin hnext]
      exact ih h
    | error e =>
      rw [hnext] at h
      contradiction

/-! ### Creating and removing -/

/-- What a free place is: the directory that the path names is there, and in it the last name leads
to nothing. -/
theorem freePlace_eq_ok (h : fs.freePlace path = .ok place) :
    refusal? path = none ∧ ∃ dir name,
      Path.names path = (Path.names path).dropLast ++ [name] ∧
      fs.walk (fs.start path) (Path.names path).dropLast = .ok dir ∧
      fs.isDirectoryAt dir ∧ name ≠ Path.dot ∧ name ≠ Path.dotDot ∧ name.length ≤ maxName ∧
      fs.nodeAt? place = none ∧ place = dir ++ [name] := by
  rw [freePlace] at h
  split at h
  · contradiction
  · rename_i hrefusal
    split at h
    · contradiction
    · rename_i name hlast
      split at h
      · contradiction
      · rename_i dir hwalk
        split at h
        · contradiction
        · rename_i hdir
          split at h
          · contradiction
          · rename_i hdots
            split at h
            · contradiction
            · rename_i hlong
              split at h
              · contradiction
              · rename_i hfree
                obtain rfl := Except.ok.inj h
                rw [not_or] at hdots
                obtain ⟨above, hnames⟩ := List.getLast?_eq_some_iff.mp hlast
                exact ⟨hrefusal, dir, name, by simp [hnames], hwalk, by simpa using hdir,
                  hdots.1, hdots.2, by omega, by simpa using hfree, rfl⟩

/-- What is created is added. -/
theorem create_eq_ok (h : fs.create path node = .ok fs') : ∃ place, fs' = fs.adding place node := by
  rw [create] at h
  split at h
  · contradiction
  · exact ⟨_, (Except.ok.inj h).symm⟩

/-- The walk of a path whose last name is looked up in a directory that is there. -/
theorem resolve_eq {dir : Place} {name : Bytes} (hrefusal : refusal? path = none)
    (hslash : Path.endsInSlash path = false)
    (hnames : Path.names path = (Path.names path).dropLast ++ [name])
    (hwalk : fs.walk (fs.start path) (Path.names path).dropLast = .ok dir) :
    fs.resolve path = (fs.next dir name).bind fun place => .ok place := by
  rw [resolve, hrefusal]
  simp only [steps, hslash, Bool.false_eq_true, if_false, List.append_nil]
  rw [hnames, walk_append, hwalk]
  exact walk_cons fs dir name []

/-- The path of something that is no directory leads nowhere before it is created, and removing what
is created by that path gives back the files as they were. -/
theorem remove_of_create (h : fs.create path node = .ok fs')
    (hslash : Path.endsInSlash path = false) (hnode : node ≠ .directory) :
    fs.isThere path = false ∧ fs'.remove path = .ok fs := by
  rw [create] at h
  cases hplace : fs.freePlace path with
  | error e =>
    rw [hplace] at h
    contradiction
  | ok place =>
    rw [hplace] at h
    obtain rfl : fs.adding place node = fs' := Except.ok.inj h
    obtain ⟨hrefusal, dir, name, hnames, hwalk, hdir, hdot, hdots, hlong, hfree, rfl⟩ :=
      freePlace_eq_ok hplace
    have hwithin := within_adding fs (dir ++ [name]) node
    have hnew : (fs.adding (dir ++ [name]) node).nodeAt? (dir ++ [name]) = some node :=
      nodeAt?_adding hfree
    have hdir' : (fs.adding (dir ++ [name]) node).isDirectoryAt dir :=
      isDirectoryAt_of_within hwithin hdir
    have hbefore : fs.resolve path = .error (.os Errno.noEntry) := by
      rw [resolve_eq hrefusal hslash hnames hwalk]
      simp [next, hdir, hdot, hdots, Nat.not_lt.mpr hlong, hfree, Except.bind]
    have hafter : (fs.adding (dir ++ [name]) node).resolve path = .ok (dir ++ [name]) := by
      rw [resolve_eq hrefusal hslash hnames (walk_of_within hwithin hwalk)]
      simp [next, hdir', hdot, hdots, Nat.not_lt.mpr hlong, hnew, Except.bind]
    constructor
    · rw [isThere, hbefore]
    · have hleaf : (fs.adding (dir ++ [name]) node).isDirectoryAt (dir ++ [name]) = false := by
        simp [isDirectoryAt, hnew, hnode]
      rw [remove, hafter]
      simp only [hleaf, Bool.false_eq_true, if_false]
      rw [eraseP_adding hfree]
      rfl

end FileSystem

end LaunchStub

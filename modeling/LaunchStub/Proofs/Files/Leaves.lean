import LaunchStub.Proofs.Files.NewNames

/-!
# Files with pipes among them

Queues come and go in a file system that is otherwise left alone. Their pipes are leaves: no walk
goes through one, so the directories that paths lead to are those that were there without the
queues, and of what a path leads to only the last name can be a queue's.

## The model

`FileSystem.Leads` says that all names of a path but the last lead to a directory, and
`FileSystem.AddsPipes` that one file system is another one with pipes added to it.

## What is proved

* `freePlace_of_leads`, `resolve_of_leads` — being free and being there, said by the directory that
  a path leads to; `leads_of_freePlace` and `leads_of_resolve` — what is free or there leads to one.
* `AddsPipes.leads_iff` — added pipes make no difference to where paths lead, so what is free with
  them was free without them (`AddsPipes.freePlace_of_freePlace`).
-/

namespace LaunchStub

namespace FileSystem

variable {fs fs' : FileSystem} {path : Bytes} {place here dir : Place} {name : Bytes}

/-- Does a path lead to this name in this directory? -/
structure Leads (fs : FileSystem) (path : Bytes) (dir : Place) (name : Bytes) : Prop where
  /-- The path can be one. -/
  refusal : refusal? path = none
  /-- The name is its last one. -/
  names : Path.names path = (Path.names path).dropLast ++ [name]
  /-- The names before it lead to the directory. -/
  walk : fs.walk (fs.start path) (Path.names path).dropLast = .ok dir
  /-- It is a directory. -/
  directory : fs.isDirectoryAt dir
  /-- The name can be one of a file. -/
  proper : name ≠ Path.dot ∧ name ≠ Path.dotDot ∧ name.length ≤ maxName

/-- A path is free if nothing has its last name in the directory. -/
theorem freePlace_of_leads (h : fs.Leads path dir name) :
    fs.freePlace path = match fs.nodeAt? (dir ++ [name]) with
      | none => .ok (dir ++ [name])
      | some _ => .error (.os Errno.exists_) := by
  obtain ⟨hdot, hdots, hlong⟩ := h.proper
  have hlast : (Path.names path).getLast? = some name := by
    rw [h.names, List.getLast?_concat]
  cases hnode : fs.nodeAt? (dir ++ [name]) <;>
    simp [freePlace, h.refusal, hlast, h.walk, h.directory, hdot, hdots, Nat.not_lt.mpr hlong,
      hnode]

/-- A free path leads to a name that nothing has. -/
theorem leads_of_freePlace (h : fs.freePlace path = .ok place) :
    ∃ dir name, fs.Leads path dir name ∧ fs.nodeAt? place = none ∧ place = dir ++ [name] := by
  obtain ⟨hrefusal, dir, name, hnames, hwalk, hdir, hdot, hdots, hlong, hfree, hplace⟩ :=
    freePlace_eq_ok h
  exact ⟨dir, name, ⟨hrefusal, hnames, hwalk, hdir, hdot, hdots, hlong⟩, hfree, hplace⟩

/-- What a path leads to that does not end in a slash. -/
theorem resolve_of_leads (h : fs.Leads path dir name) (hslash : Path.endsInSlash path = false) :
    fs.resolve path = match fs.nodeAt? (dir ++ [name]) with
      | none => .error (.os Errno.noEntry)
      | some _ => .ok (dir ++ [name]) := by
  obtain ⟨hdot, hdots, hlong⟩ := h.proper
  rw [resolve_eq h.refusal hslash h.names h.walk]
  cases hnode : fs.nodeAt? (dir ++ [name]) <;>
    simp [next, h.directory, hdot, hdots, Nat.not_lt.mpr hlong, hnode, Except.bind]

/-- A path that leads to something leads to its last name in a directory. -/
theorem leads_of_resolve (h : fs.resolve path = .ok place)
    (hslash : Path.endsInSlash path = false)
    (hnames : Path.names path = (Path.names path).dropLast ++ [name]) (hdot : name ≠ Path.dot)
    (hdots : name ≠ Path.dotDot) : ∃ dir, fs.Leads path dir name := by
  have hrefusal : refusal? path = none := by
    rw [resolve] at h
    split at h
    · contradiction
    · assumption
  rw [resolve, hrefusal] at h
  simp only [steps, hslash, Bool.false_eq_true, if_false, List.append_nil] at h
  rw [hnames, walk_append] at h
  cases hwalk : fs.walk (fs.start path) (Path.names path).dropLast with
  | error e => simp [hwalk, Except.bind] at h
  | ok dir =>
    simp only [hwalk, Except.bind, walk, hdot, hdots, if_false] at h
    split at h
    · contradiction
    · rename_i hdir
      split at h
      · contradiction
      · rename_i hlong
        exact ⟨dir, hrefusal, hnames, hwalk, by simpa using hdir, hdot, hdots, by omega⟩

/-- A walk that ends in a directory starts from one. -/
theorem isDirectoryAt_of_walk {names : List Bytes} (hwalk : fs.walk here names = .ok place)
    (hplace : fs.isDirectoryAt place) : fs.isDirectoryAt here := by
  cases names with
  | nil =>
    obtain rfl := Except.ok.inj hwalk
    exact hplace
  | cons name rest =>
    rw [walk] at hwalk
    split at hwalk
    · contradiction
    · rename_i hdir
      simpa using hdir

/-! ### Pipes added -/

/-- One file system is another one with pipes added to it. -/
structure AddsPipes (fs fs' : FileSystem) : Prop where
  /-- Relative paths start from the same place. -/
  current : fs'.current = fs.current
  /-- What was there is there. -/
  within : fs.Within fs'
  /-- What was not there is a pipe. -/
  new : ∀ place node, fs'.nodeAt? place = some node → fs.nodeAt? place = some node ∨ node = .pipe

/-- What is there with pipes at these places: what was there, and else a pipe. -/
theorem nodeAt?_of_entries {places : List Place}
    (h : fs'.entries = fs.entries ++ places.map (·, .pipe)) (place : Place) :
    fs'.nodeAt? place = (fs.nodeAt? place).or (if place ∈ places then some .pipe else none) := by
  have hlookup : (places.map (·, Node.pipe)).lookup place =
      if place ∈ places then some .pipe else none := by
    clear h
    induction places with
    | nil => rfl
    | cons p rest ih =>
      rw [List.map_cons, List.lookup_cons, ih]
      by_cases hp : place = p
      · simp [hp]
      · simp [hp, beq_false_of_ne hp]
  rw [nodeAt?, nodeAt?, h, List.lookup_append, hlookup]
  split <;> rfl

namespace AddsPipes

theorem of_entries {places : List Place} (hcurrent : fs'.current = fs.current)
    (h : fs'.entries = fs.entries ++ places.map (·, .pipe)) : fs.AddsPipes fs' where
  current := hcurrent
  within place node hnode := by
    rw [nodeAt?_of_entries h, hnode]
    rfl
  new place node hnode := by
    rw [nodeAt?_of_entries h] at hnode
    cases hold : fs.nodeAt? place with
    | some old => exact .inl (by simpa [hold] using hnode)
    | none =>
      rw [hold, Option.none_or] at hnode
      split at hnode
      · exact .inr (Option.some.inj hnode).symm
      · contradiction

variable (h : fs.AddsPipes fs')
include h

theorem isDirectoryAt_eq (place : Place) : fs'.isDirectoryAt place = fs.isDirectoryAt place := by
  rw [Bool.eq_iff_iff, isDirectoryAt_iff, isDirectoryAt_iff]
  constructor
  · exact fun hdir => (h.new _ _ hdir).resolve_right nofun
  · exact h.within _ _

theorem start_eq (path : Bytes) : fs'.start path = fs.start path := by
  rw [start, start, h.current]

/-- A name that leads to a directory leads there without the pipes. -/
theorem next_of_directory (hnext : fs'.next here name = .ok place)
    (hplace : fs.isDirectoryAt place) : fs.next here name = .ok place := by
  rw [next, h.isDirectoryAt_eq, h.isDirectoryAt_eq] at hnext
  rw [next]
  split at hnext
  · contradiction
  · rename_i hdir
    rw [if_neg hdir]
    split at hnext
    · rename_i hdot
      rwa [if_pos hdot]
    · rename_i hdot
      rw [if_neg hdot]
      split at hnext
      · rename_i hdots
        rwa [if_pos hdots]
      · rename_i hdots
        rw [if_neg hdots]
        split at hnext
        · contradiction
        · rename_i hlong
          rw [if_neg hlong]
          split at hnext
          · contradiction
          · obtain rfl := Except.ok.inj hnext
            rw [isDirectoryAt_iff.mp hplace]

/-- A walk that ends in a directory passes through directories only, so it ends there without the
pipes. -/
theorem walk_of_directory {names : List Bytes} (hwalk : fs'.walk here names = .ok place)
    (hplace : fs.isDirectoryAt place) : fs.walk here names = .ok place := by
  induction names generalizing here with
  | nil => exact hwalk
  | cons name rest ih =>
    rw [walk_cons] at hwalk ⊢
    cases hnext : fs'.next here name with
    | error e => simp [hnext, Except.bind] at hwalk
    | ok there =>
      rw [hnext] at hwalk
      have hthere : fs.isDirectoryAt there := by
        rw [← h.isDirectoryAt_eq] at hplace ⊢
        exact isDirectoryAt_of_walk hwalk hplace
      rw [h.next_of_directory hnext hthere]
      exact ih hwalk

/-- Added pipes make no difference to where a path leads. -/
theorem leads_iff : fs'.Leads path dir name ↔ fs.Leads path dir name := by
  constructor
  · rintro ⟨hrefusal, hnames, hwalk, hdir, hproper⟩
    rw [h.isDirectoryAt_eq] at hdir
    rw [h.start_eq] at hwalk
    exact ⟨hrefusal, hnames, h.walk_of_directory hwalk hdir, hdir, hproper⟩
  · rintro ⟨hrefusal, hnames, hwalk, hdir, hproper⟩
    refine ⟨hrefusal, hnames, ?_, (h.isDirectoryAt_eq dir).trans hdir, hproper⟩
    rw [h.start_eq]
    exact walk_of_within h.within hwalk

/-- A free place was free without the pipes. -/
theorem freePlace_of_freePlace (hfree : fs'.freePlace path = .ok place) :
    fs.freePlace path = .ok place := by
  obtain ⟨dir, name, hleads, hnone, rfl⟩ := leads_of_freePlace hfree
  have hnone' : fs.nodeAt? (dir ++ [name]) = none := by
    rw [Option.eq_none_iff_forall_ne_some] at hnone ⊢
    exact fun node hnode => hnone node (h.within _ _ hnode)
  rw [freePlace_of_leads (h.leads_iff.mp hleads), hnone']

end AddsPipes

end FileSystem

end LaunchStub

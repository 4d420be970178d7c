import LaunchStub.Proofs.Notification.Table

/-!
# The life of queues

Queues are created in any number of directories, posted to, read and dropped, in any order. Through
all that a name stands in the file system exactly as long as its queue is held, an element that was
posted is read once and by nobody else, and who comes too late or finds a name taken is refused and
changes nothing.

## The model

`QueueTable.Fits` is the invariant: the files are those that there were without any queue, with the
names of the queues that are held among them, each at a place of its own. Where a path leads is
always said by the files that there were (`FileSystem.freePlace`), so that two paths of one name
are recognised.

## What is proved

* `QueueTable.Fits.perform`, `QueueTable.fits_run` — every operation keeps the invariant, so it
  holds after any operations.
* `QueueTable.lifeCycle_run` — what follows from it, in full (`QueueTable.LifeCycle`).
* `QueueTable.create_below_nowhere` — of a directory that is not there a queue can also be told that
  its path is too long.
-/

namespace LaunchStub

namespace QueueTable

variable {t : QueueTable} {i j : Nat} {path : Bytes} {pipe : Pipe} {fs : FileSystem}

/-! ### The files -/

/-- The place at which the queue of a path stands among the files there were. -/
def place (fs : FileSystem) (path : Bytes) : Place :=
  match fs.freePlace path with
  | .ok place => place
  | .error _ => []

/-- The places of the queues that are held. -/
def places (fs : FileSystem) (made : List (Bytes × Pipe)) : List Place :=
  (made.filter (·.2.reader)).map fun x => place fs x.1

theorem mem_places {made : List (Bytes × Pipe)} {here : Place} :
    here ∈ places fs made ↔ ∃ x ∈ made, x.2.reader ∧ place fs x.1 = here := by
  simp only [places, List.mem_map, List.mem_filter, and_assoc]

theorem places_append (l r : List (Bytes × Pipe)) :
    places fs (l ++ r) = places fs l ++ places fs r := by
  rw [places, List.filter_append, List.map_append]
  rfl

theorem places_cons (x : Bytes × Pipe) (r : List (Bytes × Pipe)) :
    places fs (x :: r) = if x.2.reader then place fs x.1 :: places fs r else places fs r := by
  rw [places, List.filter_cons]
  split <;> rfl

/-- A queue that is dropped takes its place, and no other, from those of the queues that are
held. -/
theorem exists_places_eq {x : Bytes × Pipe} (hmade : t.made[i]? = some x) (hreader : x.2.reader) :
    ∃ l r, places fs t.made = l ++ place fs x.1 :: r ∧
      places fs (t.made.set i (x.1, x.2.closeReader)) = l ++ r := by
  obtain ⟨l, r, hlist, hset⟩ := exists_set_eq hmade
  refine ⟨places fs l, places fs r, ?_, ?_⟩
  · rw [hlist, places_append, places_cons, if_pos hreader]
  · rw [hset, places_append, places_cons, if_neg (by simp [Pipe.closeReader])]

/-- The files and the queues fit together: among the files that there were without any queue stand
the names of the queues that are held, each at a place of its own, and nothing else. -/
structure Fits (fs : FileSystem) (t : QueueTable) : Prop where
  /-- Relative paths start from where they did. -/
  current : t.files.current = fs.current
  /-- The names of the queues come behind the entries there were. -/
  entries : t.files.entries = fs.entries ++ (places fs t.made).map (·, .pipe)
  /-- No two queues that are held stand at one place. -/
  nodup : (places fs t.made).Nodup
  /-- The path of a queue is one that a queue can have, and it was free. -/
  paths : ∀ x ∈ t.made, ∃ dir owner, x.1 = QueueStore.nameFor dir owner ∧
    fs.freePlace x.1 = .ok (place fs x.1)
  /-- All pipes are sound. -/
  sound : ∀ x ∈ t.made, Sound x.2

theorem fits_nil (fs : FileSystem) : Fits fs ⟨fs, []⟩ :=
  ⟨rfl, (List.append_nil fs.entries).symm, .nil, nofun, nofun⟩

namespace Fits

variable (h : Fits fs t)
include h

theorem addsPipes : fs.AddsPipes t.files := .of_entries h.current h.entries

theorem nodeAt? (place : Place) : t.files.nodeAt? place =
    (fs.nodeAt? place).or (if place ∈ places fs t.made then some .pipe else none) :=
  FileSystem.nodeAt?_of_entries h.entries place

/-- The path of a queue leads to something exactly if it did without the queues, or one that stands
there is held. -/
theorem isThere_iff (dir : Bytes) (owner : UInt32) :
    t.files.isThere (QueueStore.nameFor dir owner) ↔
      fs.isThere (QueueStore.nameFor dir owner) ∨ ∃ x ∈ t.made, x.2.reader ∧
        fs.freePlace x.1 = fs.freePlace (QueueStore.nameFor dir owner) := by
  rw [QueueStore.isThere_nameFor_iff, QueueStore.isThere_nameFor_iff]
  constructor
  · rintro ⟨above, hleads, node, hnode⟩
    rw [h.addsPipes.leads_iff] at hleads
    rw [h.nodeAt?] at hnode
    cases hold : fs.nodeAt? (above ++ [QueueStore.ownName owner]) with
    | some old => exact .inl ⟨above, hleads, old, hold⟩
    | none =>
      rw [hold, Option.none_or] at hnode
      split at hnode
      · rename_i hmem
        obtain ⟨x, hmade, hreader, hplace⟩ := mem_places.mp hmem
        obtain ⟨-, -, -, hfree⟩ := h.paths x hmade
        refine .inr ⟨x, hmade, hreader, ?_⟩
        rw [hfree, hplace, FileSystem.freePlace_of_leads hleads, hold]
      · contradiction
  · rintro (⟨above, hleads, node, hnode⟩ | ⟨x, hmade, hreader, hplace⟩)
    · exact ⟨above, h.addsPipes.leads_iff.mpr hleads, node, h.addsPipes.within _ _ hnode⟩
    · obtain ⟨-, -, -, hfree⟩ := h.paths x hmade
      obtain ⟨above, hleads, hnone, hat⟩ :=
        QueueStore.leads_of_freePlace_nameFor (hplace.symm.trans hfree)
      refine ⟨above, h.addsPipes.leads_iff.mpr hleads, .pipe, ?_⟩
      rw [h.nodeAt?, ← hat, hnone, Option.none_or, if_pos]
      exact mem_places.mpr ⟨x, hmade, hreader, rfl⟩

/-- Another pipe behind a queue changes no path. -/
theorem paths_set (hmade : t.made[i]? = some (path, pipe)) (pipe' : Pipe) :
    ∀ x ∈ t.made.set i (path, pipe'), ∃ dir owner, x.1 = QueueStore.nameFor dir owner ∧
      fs.freePlace x.1 = .ok (place fs x.1) := by
  intro x hx
  rcases List.mem_or_eq_of_mem_set hx with hx | rfl
  · exact h.paths x hx
  · exact h.paths (path, pipe) (List.mem_of_getElem? hmade)

theorem sound_set {pipe' : Pipe} (hsound : Sound pipe') :
    ∀ x ∈ t.made.set i (path, pipe'), Sound x.2 := by
  intro x hx
  rcases List.mem_or_eq_of_mem_set hx with hx | rfl
  · exact h.sound x hx
  · exact hsound

/-- A pipe in the same hands fits as the old one did. -/
theorem setPipe {pipe' : Pipe} (hmade : t.made[i]? = some (path, pipe)) (hsound : Sound pipe')
    (hreader : pipe'.reader = pipe.reader) : Fits fs (t.setPipe i path pipe') := by
  obtain ⟨l, r, hlist, hset⟩ := exists_set_eq hmade
  have hplaces : places fs (t.setPipe i path pipe').made = places fs t.made := by
    rw [QueueTable.setPipe, hset, hlist, places_append, places_append, places_cons, places_cons,
      hreader]
  exact ⟨h.current, h.entries.trans (by rw [hplaces]), by rw [hplaces]; exact h.nodup,
    h.paths_set hmade pipe', h.sound_set hsound⟩

/-- The name of a queue that is held stands at its place, and removing it takes just that away. -/
theorem remove (hmade : t.made[i]? = some (path, pipe)) (hreader : pipe.reader) :
    t.files.remove path = .ok { t.files with
      entries := fs.entries ++
        (places fs (t.made.set i (path, pipe.closeReader))).map (·, .pipe) } := by
  obtain ⟨dir, owner, hname, hfree⟩ := h.paths (path, pipe) (List.mem_of_getElem? hmade)
  obtain rfl : path = QueueStore.nameFor dir owner := hname
  obtain ⟨above, hleads, hnone, hat⟩ := QueueStore.leads_of_freePlace_nameFor hfree
  obtain ⟨l, r, hplaces, hrest⟩ := @exists_places_eq t i fs (_, pipe) hmade hreader
  have hnode : t.files.nodeAt? (place fs (QueueStore.nameFor dir owner)) = some .pipe := by
    rw [h.nodeAt?, hnone, hplaces]
    simp
  have hresolve : t.files.resolve (QueueStore.nameFor dir owner) =
      .ok (place fs (QueueStore.nameFor dir owner)) := by
    rw [FileSystem.resolve_of_leads (h.addsPipes.leads_iff.mpr hleads)
      (QueueStore.endsInSlash_nameFor dir owner), ← hat, hnode]
  have hnodup := h.nodup
  rw [hplaces, List.nodup_append] at hnodup
  have hleft : ∀ here ∈ l, here ≠ place fs (QueueStore.nameFor dir owner) :=
    fun here hhere => hnodup.2.2 here hhere _ List.mem_cons_self
  rw [FileSystem.remove, hresolve]
  simp only [FileSystem.isDirectoryAt, hnode]
  rw [if_neg (by simp), h.entries, hrest, hplaces,
    List.eraseP_append_right _ (by simpa using FileSystem.ne_of_nodeAt?_eq_none hnone),
    List.map_append, List.eraseP_append_right _ (by simpa using hleft)]
  simp

/-- Dropping a queue that is held leaves what fits. -/
theorem dropQueue (hmade : t.made[i]? = some (path, pipe)) (hreader : pipe.reader) :
    Fits fs (t.dropQueue i) := by
  obtain ⟨l, r, hplaces, hrest⟩ := exists_places_eq hmade hreader
  have hnodup : (places fs (t.made.set i (path, pipe.closeReader))).Nodup := by
    refine h.nodup.sublist ?_
    rw [hplaces, hrest]
    exact (List.sublist_cons_self _ r).append_left l
  have hsound : Sound pipe.closeReader := by
    cases h.sound (path, pipe) (List.mem_of_getElem? hmade) with
    | empty reader writer => exact .empty false writer
    | posted element reader => exact .posted element false
  rw [dropQueue_of_reader hmade hreader (h.remove hmade hreader)]
  exact ⟨h.current, rfl, hnodup, h.paths_set hmade _, h.sound_set hsound⟩

/-- So does creating a queue, whether or not it can be created. -/
theorem create (dir : Bytes) (owner : UInt32) (opening : Except IoError Unit) :
    Fits fs (t.create dir owner opening).2 := by
  rw [QueueTable.create]
  rcases hcreate : QueueStore.create ⟨t.files, []⟩ dir owner opening with ⟨e | path, store⟩
  · rw [QueueStore.create_eq_error hcreate]
    exact h
  · obtain ⟨rfl, hpipe, here, hfree, hfiles⟩ := QueueStore.create_of_ok rfl hcreate
    have hplace := h.addsPipes.freePlace_of_freePlace hfree
    have hhere : place fs (QueueStore.nameFor dir owner) = here := by
      rw [place, hplace]
    obtain ⟨-, -, hnone, -⟩ := QueueStore.leads_of_freePlace_nameFor hfree
    have hnew : here ∉ places fs t.made := by
      intro hmem
      rw [h.nodeAt?, if_pos hmem] at hnone
      simp at hnone
    have hplaces : places fs (t.made ++ [(QueueStore.nameFor dir owner, ({} : Pipe))]) =
        places fs t.made ++ [here] := by
      rw [places_append, places_cons, hhere]
      rfl
    simp only [hpipe, hfiles]
    refine ⟨h.current, ?_, ?_, ?_, ?_⟩
    · rw [hplaces, List.map_append, ← List.append_assoc, ← h.entries]
      rfl
    · rw [hplaces, List.nodup_append]
      refine ⟨h.nodup, List.pairwise_singleton _ here, ?_⟩
      rintro a ha b hb rfl
      exact hnew (List.mem_singleton.mp hb ▸ ha)
    · rw [List.forall_mem_append]
      refine ⟨h.paths, List.forall_mem_singleton.mpr ⟨dir, owner, rfl, ?_⟩⟩
      rw [hplace, hhere]
    · rw [List.forall_mem_append]
      exact ⟨h.sound, List.forall_mem_singleton.mpr (.empty true true)⟩

/-- Every operation leaves what fits. -/
theorem perform (op : QueueOp) : Fits fs (t.perform op) := by
  cases htarget : op.target? with
  | none =>
    cases op with
    | create dir owner opening => exact h.create dir owner opening
    | _ => contradiction
  | some i =>
    cases hmade : t.made[i]? with
    | none =>
      rw [perform_of_absent htarget hmade]
      exact h
    | some x =>
      obtain ⟨path, pipe⟩ := x
      have hsound := h.sound (path, pipe) (List.mem_of_getElem? hmade)
      by_cases hdrop : op = .dropQueue i
      · subst hdrop
        cases hreader : pipe.reader with
        | true => exact h.dropQueue hmade hreader
        | false =>
          rw [QueueTable.perform, dropQueue_of_dropped hmade hreader]
          exact h
      · obtain ⟨pipe', hsound', hreader, hperform⟩ :=
          perform_of_target htarget hdrop hmade hsound
        rw [hperform]
        exact h.setPipe hmade hsound' hreader

end Fits

/-- After any operations the files and the queues fit together. -/
theorem fits_run (fs : FileSystem) (ops : List QueueOp) : Fits fs (run ⟨fs, []⟩ ops) := by
  have hrun : ∀ t, Fits fs t → Fits fs (run t ops) := by
    induction ops with
    | nil => exact fun t h => h
    | cons op rest ih => exact fun t h => ih _ (h.perform op)
  exact hrun _ (fits_nil fs)

/-! ### The life of a queue -/

/-- A queue that is held with its poster is empty. -/
theorem Fits.made_of_holds (h : Fits fs t) (hqueue : t.holdsQueue i) (hposter : t.holdsPoster i) :
    ∃ path, t.made[i]? = some (path, ⟨[], true, true⟩) := by
  cases hmade : t.made[i]? with
  | none => simp [holdsQueue, hmade] at hqueue
  | some x =>
    obtain ⟨path, pipe⟩ := x
    have hreader : pipe.reader = true := by simpa [holdsQueue, hmade] using hqueue
    have hwriter : pipe.writer = true := by simpa [holdsPoster, hmade] using hposter
    cases h.sound (path, pipe) (List.mem_of_getElem? hmade) with
    | empty reader writer =>
      obtain rfl : reader = true := hreader
      obtain rfl : writer = true := hwriter
      exact ⟨path, rfl⟩
    | posted element reader => contradiction

/-- A queue that is empty and whose poster is gone gives nothing any more, whatever is done. -/
theorem read_run_of_ended {ops : List QueueOp} (h : t.made[i]? = some (path, ⟨[], true, false⟩))
    (hdrop : .dropQueue i ∉ ops) : ((t.run ops).read i).1 = .failed .shortRead := by
  rw [read_of_ended (run_of_used h hdrop fun _ => rfl)]

/-- The element that is posted to a queue is read once, whatever is done meanwhile, and after that
there is nothing. -/
theorem Fits.read_of_post (h : Fits fs t) (hqueue : t.holdsQueue i) (hposter : t.holdsPoster i)
    (element : UInt32) :
    (t.post i element).1 = .posted ∧ ∀ later, .read i ∉ later → .dropQueue i ∉ later →
      (((t.post i element).2.run later).read i).1 = .element element ∧
        ∀ rest, .dropQueue i ∉ rest →
          (((((t.post i element).2.run later).read i).2.run rest).read i).1 =
            .failed .shortRead := by
  obtain ⟨path, hmade⟩ := h.made_of_holds hqueue hposter
  have hpost := post_eq hmade element
  simp only [if_true, List.nil_append] at hpost
  rw [hpost]
  refine ⟨rfl, fun later hread hdrop => ?_⟩
  have hlater := run_of_used (made_setPipe hmade ⟨Bytes.ofWord element, true, false⟩) hdrop
    fun hmem => absurd hmem hread
  rw [read_of_pending hlater]
  exact ⟨rfl, fun rest hrest => read_run_of_ended (made_setPipe hlater _) hrest⟩

/-- A queue whose poster is dropped unused gives nothing, whatever is done. -/
theorem Fits.read_of_dropPoster (h : Fits fs t) (hqueue : t.holdsQueue i)
    (hposter : t.holdsPoster i) {rest : List QueueOp} (hrest : .dropQueue i ∉ rest) :
    (((t.dropPoster i).run rest).read i).1 = .failed .shortRead := by
  obtain ⟨path, hmade⟩ := h.made_of_holds hqueue hposter
  rw [dropPoster_eq hmade]
  exact read_run_of_ended (made_setPipe hmade _) hrest

/-- Posting to a queue that was dropped fails, and does no more than dropping the poster. -/
theorem post_of_dropped (hqueue : t.holdsQueue i = false) (hposter : t.holdsPoster i)
    (element : UInt32) :
    t.post i element = (.failed (.os Errno.brokenPipe), t.dropPoster i) := by
  cases hmade : t.made[i]? with
  | none => simp [holdsPoster, hmade] at hposter
  | some x =>
    obtain ⟨path, pipe⟩ := x
    have hreader : pipe.reader = false := by simpa [holdsQueue, hmade] using hqueue
    have hwriter : pipe.writer = true := by simpa [holdsPoster, hmade] using hposter
    rw [post_eq hmade, dropPoster_eq hmade, if_pos hwriter, if_neg (by simp [hreader])]

/-- What is left of a queue when its poster is left aside: its path, what it holds, and whether it
is held. -/
def contents (t : QueueTable) : List (Bytes × Bytes × Bool) :=
  t.made.map fun x => (x.1, x.2.pending, x.2.reader)

/-- Dropping a poster changes neither files nor what any queue holds. -/
theorem dropPoster_frame (t : QueueTable) (i : Nat) :
    (t.dropPoster i).files = t.files ∧ (t.dropPoster i).contents = t.contents := by
  cases hmade : t.made[i]? with
  | none =>
    have habsent : t.dropPoster i = t := by
      have hop : (QueueOp.dropPoster i).target? = some i := rfl
      exact perform_of_absent hop hmade
    rw [habsent]
    exact ⟨rfl, rfl⟩
  | some x =>
    obtain ⟨path, pipe⟩ := x
    obtain ⟨l, r, hlist, hset⟩ := exists_set_eq hmade
    rw [dropPoster_eq hmade]
    refine ⟨rfl, ?_⟩
    rw [contents, contents, setPipe, hset, hlist]
    simp [Pipe.closeWriter]

/-- Two queues that are held stand at different places. -/
theorem Fits.eq_of_place (h : Fits fs t) {x y : Bytes × Pipe} (hi : t.made[i]? = some x)
    (hj : t.made[j]? = some y) (hx : x.2.reader) (hy : y.2.reader)
    (hplace : fs.freePlace x.1 = fs.freePlace y.1) : i = j := by
  refine Classical.byContradiction fun hij => ?_
  obtain ⟨l, r, hplaces, hrest⟩ := exists_places_eq hi hx
  have hnodup := h.nodup
  rw [hplaces, List.nodup_append, List.nodup_cons] at hnodup
  -- The second queue is among those that are left when the first is dropped.
  have hy' : place fs y.1 ∈ places fs (t.made.set i (x.1, x.2.closeReader)) :=
    mem_places.mpr ⟨y, List.mem_of_getElem? ((List.getElem?_set_ne hij).trans hj), hy, rfl⟩
  have hsame : place fs y.1 = place fs x.1 := by rw [place, place, hplace]
  rw [hrest, List.mem_append, hsame] at hy'
  rcases hy' with hl | hr
  · exact hnodup.2.2 _ hl _ List.mem_cons_self rfl
  · exact hnodup.2.1.1 hr

/-! ### Creating -/

variable {dir : Bytes} {owner : UInt32}

/-- What a store that holds nothing else answers, and that nothing is changed. -/
theorem create_of_store {e : IoError} {opening : Except IoError Unit}
    (h : QueueStore.create ⟨t.files, []⟩ dir owner opening = (.error e, ⟨t.files, []⟩)) :
    t.create dir owner opening = (.error e, t) := by
  rw [create, h]

theorem create_of_isThere (h : t.files.isThere (QueueStore.nameFor dir owner))
    (opening : Except IoError Unit) :
    t.create dir owner opening = (.error (.os Errno.exists_), t) :=
  create_of_store (QueueStore.create_of_isThere h opening)

theorem create_of_missing (h : t.files.resolve dir = .error (.os Errno.noEntry)) (hne : dir ≠ [])
    (opening : Except IoError Unit) :
    t.create dir owner opening = (.error (.os (if FileSystem.maxPath <
      (QueueStore.nameFor dir owner).length then Errno.nameTooLong else Errno.noEntry)), t) :=
  create_of_store (QueueStore.create_of_missing h hne opening)

/-- A queue that cannot be created leaves everything as it is. -/
theorem create_of_error {opening : Except IoError Unit} {e : IoError}
    (h : (t.create dir owner opening).1 = .error e) : (t.create dir owner opening).2 = t := by
  rw [create] at h ⊢
  rcases hcreate : QueueStore.create ⟨t.files, []⟩ dir owner opening with ⟨_ | path, store⟩
  · rw [QueueStore.create_eq_error hcreate]
  · rw [hcreate] at h
    contradiction

/-- A queue that could be created is refused if its ends cannot be opened, and its name is gone. -/
theorem create_of_unopened (h : (t.create dir owner).1 = .ok path) (e : IoError) :
    t.create dir owner (.error e) = (.error e, t) := by
  refine create_of_store ?_
  rw [QueueStore.create_of_unopened]
  rw [create] at h
  rcases hcreate : QueueStore.create ⟨t.files, []⟩ dir owner with ⟨_ | path, store⟩
  · rw [hcreate] at h
    contradiction
  · rfl

/-- A queue that is created had a path that led nowhere, and is empty and held with its poster. -/
theorem create_of_ok {opening : Except IoError Unit}
    (h : (t.create dir owner opening).1 = .ok path) :
    path = QueueStore.nameFor dir owner ∧ t.files.isThere path = false ∧
      (t.create dir owner opening).2.made = t.made ++ [(path, ⟨[], true, true⟩)] := by
  rw [create] at h ⊢
  rcases hcreate : QueueStore.create ⟨t.files, []⟩ dir owner opening with ⟨_ | path', store⟩
  · rw [hcreate] at h
    contradiction
  · rw [hcreate] at h
    obtain rfl := Except.ok.inj h
    obtain ⟨rfl, hfree, -, hpipe⟩ := QueueStore.create_eq_ok hcreate
    exact ⟨rfl, hfree, congrArg (fun pipe => t.made ++ [(_, pipe)]) hpipe⟩

/-- What was free before leads nowhere before. -/
theorem Fits.isThere_before (h : Fits fs t) {x : Bytes × Pipe} (hx : x ∈ t.made) :
    fs.isThere x.1 = false := by
  obtain ⟨dir, owner, hname, hfree⟩ := h.paths x hx
  rw [hname] at hfree ⊢
  rw [Bool.eq_false_iff]
  intro hthere
  obtain ⟨above, hleads, node, hnode⟩ := QueueStore.isThere_nameFor_iff.mp hthere
  rw [FileSystem.freePlace_of_leads hleads, hnode] at hfree
  contradiction

/-- The name of a queue that was created is there exactly as long as a queue is held that stands at
its place. -/
theorem Fits.isThere_made_iff (h : Fits fs t) {x : Bytes × Pipe} (hx : x ∈ t.made) :
    t.files.isThere x.1 ↔ ∃ y ∈ t.made, y.2.reader ∧ fs.freePlace y.1 = fs.freePlace x.1 := by
  have hbefore := h.isThere_before hx
  obtain ⟨dir, owner, hname, -⟩ := h.paths x hx
  rw [hname] at hbefore ⊢
  rw [h.isThere_iff dir owner, hbefore]
  exact or_iff_right Bool.false_ne_true

/-- A queue that is held has its name. -/
theorem Fits.isThere_of_reader (h : Fits fs t) {x : Bytes × Pipe} (hx : x ∈ t.made)
    (hreader : x.2.reader) : t.files.isThere x.1 :=
  (h.isThere_made_iff hx).mpr ⟨x, hx, hreader, rfl⟩

/-- What holds of queues and files, whatever was done with queues on the files that there were. -/
structure LifeCycle (fs : FileSystem) (t : QueueTable) : Prop where
  /-- The path of a queue leads to something exactly if it did without any queue, or a queue is held
  that stands at the same place. -/
  isThere_iff : ∀ dir owner, t.files.isThere (QueueStore.nameFor dir owner) ↔
    fs.isThere (QueueStore.nameFor dir owner) ∨ ∃ x ∈ t.made, x.2.reader ∧
      fs.freePlace x.1 = fs.freePlace (QueueStore.nameFor dir owner)
  /-- The path of a queue that was created did not without queues, so it leads to something exactly
  as long as this queue, or another that stands at the same place, is held. -/
  isThere_made_iff : ∀ x ∈ t.made, fs.isThere x.1 = false ∧
    (t.files.isThere x.1 ↔ ∃ y ∈ t.made, y.2.reader ∧ fs.freePlace y.1 = fs.freePlace x.1)
  /-- No two queues that are held stand at the same place. -/
  eq_of_place : ∀ (i j : Nat) (x y : Bytes × Pipe), t.made[i]? = some x → t.made[j]? = some y →
    x.2.reader → y.2.reader → fs.freePlace x.1 = fs.freePlace y.1 → i = j
  /-- What there was without queues there is. -/
  within : fs.Within t.files
  /-- A queue that is created is empty and held with its poster, and its path led nowhere. -/
  create_of_ok : ∀ dir owner opening path, (t.create dir owner opening).1 = .ok path →
    path = QueueStore.nameFor dir owner ∧ t.files.isThere path = false ∧
      (t.create dir owner opening).2.made = t.made ++ [(path, ⟨[], true, true⟩)]
  /-- A path that leads to something is refused, and nothing is changed. -/
  create_of_isThere : ∀ dir owner opening, t.files.isThere (QueueStore.nameFor dir owner) →
    t.create dir owner opening = (.error (.os Errno.exists_), t)
  /-- A directory that is not there is refused, and nothing is changed. A path that is too long is
  refused as such. -/
  create_of_missing : ∀ dir owner opening,
    t.files.resolve dir = .error (.os Errno.noEntry) → dir ≠ [] →
      t.create dir owner opening = (.error (.os (if FileSystem.maxPath <
        (QueueStore.nameFor dir owner).length then Errno.nameTooLong else Errno.noEntry)), t)
  /-- A queue that could be created but for the ends of its pipe, which cannot be opened, is refused
  for that, and nothing is changed: the name that the pipe had is gone. -/
  create_of_unopened : ∀ dir owner path e, (t.create dir owner).1 = .ok path →
    t.create dir owner (.error e) = (.error e, t)
  /-- Whatever a queue is refused for, nothing is changed. -/
  create_of_error : ∀ dir owner opening e, (t.create dir owner opening).1 = .error e →
    (t.create dir owner opening).2 = t
  /-- An element that is posted to a queue that is held is what the first read gives, whatever is
  done before it, and every read after it fails. -/
  read_of_post : ∀ i element, t.holdsQueue i → t.holdsPoster i →
    (t.post i element).1 = .posted ∧ ∀ later, .read i ∉ later → .dropQueue i ∉ later →
      (((t.post i element).2.run later).read i).1 = .element element ∧
        ∀ rest, .dropQueue i ∉ rest →
          (((((t.post i element).2.run later).read i).2.run rest).read i).1 = .failed .shortRead
  /-- Where the poster is dropped unused every read fails. -/
  read_of_dropPoster : ∀ i, t.holdsQueue i → t.holdsPoster i → ∀ rest, .dropQueue i ∉ rest →
    (((t.dropPoster i).run rest).read i).1 = .failed .shortRead
  /-- Posting to a queue that was dropped fails, and changes neither files nor what any queue
  holds. -/
  post_of_dropped : ∀ i element, t.holdsQueue i = false → t.holdsPoster i →
    (t.post i element).1 = .failed (.os Errno.brokenPipe) ∧
      (t.post i element).2.files = t.files ∧ (t.post i element).2.contents = t.contents
  /-- An operation leaves every other queue as it is, and its name if it is held. -/
  perform_of_ne : ∀ (op : QueueOp) (j : Nat) (x : Bytes × Pipe), op.target? ≠ some j →
    t.made[j]? = some x →
      (t.perform op).made[j]? = some x ∧ (x.2.reader → (t.perform op).files.isThere x.1)

/-- **The life of queues**: it goes like this from any files and after any operations. -/
theorem lifeCycle_run (fs : FileSystem) (ops : List QueueOp) :
    LifeCycle fs (run ⟨fs, []⟩ ops) := by
  have h := fits_run fs ops
  generalize run ⟨fs, []⟩ ops = t at h
  exact {
    isThere_iff := h.isThere_iff
    isThere_made_iff := fun x hx => ⟨h.isThere_before hx, h.isThere_made_iff hx⟩
    eq_of_place := fun i j x y hi hj hx hy hplace => h.eq_of_place hi hj hx hy hplace
    within := h.addsPipes.within
    create_of_ok := fun dir owner opening path hok => QueueTable.create_of_ok hok
    create_of_isThere := fun dir owner opening hthere =>
      QueueTable.create_of_isThere hthere opening
    create_of_missing := fun dir owner opening hmissing hne =>
      QueueTable.create_of_missing hmissing hne opening
    create_of_unopened := fun dir owner path e hok => QueueTable.create_of_unopened hok e
    create_of_error := fun dir owner opening e herror => QueueTable.create_of_error herror
    read_of_post := fun i element hqueue hposter => h.read_of_post hqueue hposter element
    read_of_dropPoster := fun i hqueue hposter rest hrest =>
      h.read_of_dropPoster hqueue hposter hrest
    post_of_dropped := fun i element hqueue hposter => by
      rw [QueueTable.post_of_dropped hqueue hposter element]
      exact ⟨rfl, t.dropPoster_frame i⟩
    perform_of_ne := fun op j x hop hj => by
      have hj' := QueueTable.perform_of_ne hop hj
      exact ⟨hj', fun hreader =>
        (h.perform op).isThere_of_reader (List.mem_of_getElem? hj') hreader⟩ }

/-- A directory that is not there, with a path just short enough for a path. -/
def nowhere : Bytes := Bytes.ofText "/nonexistent/" ++ List.replicate 4077 0x64

/-- The directory is not there, but what a queue in it is refused for is its own path. An empty path
is not there either, but as a directory it is the current one. -/
theorem create_below_nowhere :
    FileSystem.resolve ⟨[], []⟩ nowhere = .error (.os Errno.noEntry) ∧
      (create nowhere 1 ⟨⟨[], []⟩, []⟩).1 = .error (.os Errno.nameTooLong) ∧
      FileSystem.resolve ⟨[], []⟩ [] = .error (.os Errno.noEntry) ∧
      (create [] 1 ⟨⟨[], []⟩, []⟩).1 = .ok (Bytes.ofText "pstub-term.1") := by
  decide +kernel

end QueueTable

end LaunchStub

import Schemata.Proofs.Files.Ledger

/-!
# What file operations leave alone

Making directories changes no entry that is there.  Writing and removing a file changes the entry at
one place, and this is no directory.  So a path that leads to a file leads to the same file
afterwards, unless it leads to that place.

A path may lead to nothing before an operation and to a file afterwards: to the file that was
written, or through a directory that was made.

## Main definitions

* `FileStore.place?` : the place that a path leads to.
* `FileStore.Spares` : everything is kept but a file at one place.

## Main results

* `FileStore.Spares.target`, `FileStore.Spares.file` : paths lead to the same files.
* `FileStore.spares_createDirs`, `FileStore.spares_writeWithDirs`, `FileStore.spares_remove` : what
  the operations keep.
* `FileStore.file_writeWithDirs` : a file that was written is there.
-/

namespace Schemata.FileStore

variable {store store' later : FileStore} {path : Path} {written : Option FilePlace}

/-! ### Entries -/

theorem entryAt?_put {place : FilePlace} (inside : place ≠ []) (entry : FileEntry)
    (other : FilePlace) :
    (store.put place entry).entryAt? other
      = if other = place then some entry else store.entryAt? other := by
  unfold entryAt? put
  dsimp only
  rw [OrderedMap.get?_insert]
  by_cases root : other = []
  · simp [root, Ne.symm inside]
  · simp [root]

/-- Everything is kept but a file at one place, and no file appears at another place. -/
structure Spares (written : Option FilePlace) (store store' : FileStore) : Prop where
  workDir : store'.workDir = store.workDir
  entry : ∀ place entry, store.entryAt? place = some entry →
    entry = .directory ∨ written ≠ some place → store'.entryAt? place = some entry
  old : ∀ place file, store'.entryAt? place = some (.file file) → written ≠ some place →
    store.entryAt? place = some (.file file)

theorem Spares.refl (written : Option FilePlace) (store : FileStore) :
    Spares written store store :=
  ⟨rfl, fun _ _ found _ => found, fun _ _ found _ => found⟩

theorem Spares.trans (spares : Spares written store store')
    (spares' : Spares written store' later) : Spares written store later where
  workDir := spares'.workDir.trans spares.workDir
  entry place entry found kept :=
    spares'.entry place entry (spares.entry place entry found kept) kept
  old place file found other := spares.old place file (spares'.old place file found other) other

/-- What keeps everything keeps everything but a file. -/
theorem Spares.mono (spares : Spares none store store') (written : Option FilePlace) :
    Spares written store store' where
  workDir := spares.workDir
  entry place entry found _ := spares.entry place entry found (Or.inr nofun)
  old place file found _ := spares.old place file found nofun

theorem spares_put {place : FilePlace} (inside : place ≠ []) {entry : FileEntry}
    (free : store.entryAt? place ≠ some .directory) :
    Spares (some place) store (store.put place entry) where
  workDir := rfl
  entry other found there kept := by
    rw [entryAt?_put inside]
    split
    · rename_i same
      subst same
      rcases kept with rfl | different
      · exact absurd there free
      · exact absurd rfl different
    · exact there
  old other file there different := by
    rwa [entryAt?_put inside, if_neg fun same => different (congrArg some same.symm)] at there

theorem spares_erase {place : FilePlace} {file : StoredFile}
    (there : store.entryAt? place = some (.file file)) :
    Spares (some place) store { store with entries := store.entries.erase place } := by
  have erased (other : FilePlace) (different : other ≠ place) :
      entryAt? { store with entries := store.entries.erase place } other
        = store.entryAt? other := by
    rw [entryAt?, entryAt?, OrderedMap.get?_erase, if_neg different]
  refine ⟨rfl, fun other entry found kept => ?_, fun other file' found different => ?_⟩
  · rw [erased other ?_]
    · exact found
    · rintro rfl
      cases there.symm.trans found
      rcases kept with isDirectory | different
      · cases isDirectory
      · exact different rfl
  · rwa [erased other fun same => different (congrArg some same.symm)] at found

/-! ### Paths -/

/-- The place that a path leads to, if it ends in a name and the directories on the way are
there. -/
def place? (store : FileStore) (path : Path) : Option FilePlace :=
  match store.target path with
  | .ok target => target.name.map fun name => target.directory ++ [name]
  | .error _ => none

theorem place?_of_target {target : Target} {name : String} (found : store.target path = .ok target)
    (named : target.name = some name) :
    store.place? path = some (target.directory ++ [name]) := by
  rw [place?, found]
  dsimp only
  rw [named, Option.map_some]

theorem Spares.enter (spares : Spares written store store') {place next : FilePlace}
    {segment : String} (entered : store.enter place segment = .ok next) :
    store'.enter place segment = .ok next := by
  unfold FileStore.enter at entered ⊢
  split at entered
  · exact entered
  · exact entered
  · exact entered
  · exact entered
  · obtain ⟨_, checked, entered⟩ := exists_of_bind_eq_ok entered
    dsimp only at entered
    split at entered
    · cases entered
    · cases entered
    · rename_i there
      simp only [checked, bind, Except.bind, spares.entry _ _ there (Or.inl rfl)]
      exact entered

theorem Spares.foldlM_enter (spares : Spares written store store') {segments : List String}
    {place next : FilePlace} (entered : segments.foldlM store.enter place = .ok next) :
    segments.foldlM store'.enter place = .ok next := by
  induction segments generalizing place with
  | nil => exact entered
  | cons segment rest ih =>
    obtain ⟨middle, first, entered⟩ := exists_of_bind_eq_ok entered
    rw [List.foldlM_cons, spares.enter first]
    exact ih entered

/-- A path leads to the same place. -/
theorem Spares.target (spares : Spares written store store') {target : Target}
    (found : store.target path = .ok target) : store'.target path = .ok target := by
  obtain ⟨_, checked, found⟩ := exists_of_bind_eq_ok found
  obtain ⟨place, entered, found⟩ := exists_of_bind_eq_ok found
  have start : store'.start path = store.start path := by
    rw [FileStore.start, FileStore.start, spares.workDir]
  have entered' := spares.foldlM_enter entered
  rw [← start] at entered'
  unfold FileStore.target
  rw [checked]
  show (List.foldlM store'.enter (store'.start path) _ >>= _) = _
  rw [entered']
  exact found

/-- Where a file is found, and by what path. -/
theorem file_eq_ok_iff {file : StoredFile} :
    store.file path = .ok file ↔
      ∃ target name, store.target path = .ok target ∧ target.name = some name ∧
        target.slash = false ∧ checkName name = .ok () ∧
        store.entryAt? (target.directory ++ [name]) = some (.file file) := by
  constructor
  · intro found
    obtain ⟨entry, entered, isFile⟩ := exists_of_bind_eq_ok found
    cases entry with
    | directory => cases isFile
    | file other =>
      cases isFile
      obtain ⟨target, pointed, entered⟩ := exists_of_bind_eq_ok entered
      split at entered
      · cases entered
      · rename_i name named
        obtain ⟨_, checked, entered⟩ := exists_of_bind_eq_ok entered
        split at entered
        · cases entered
        · rename_i there
          split at entered
          · cases entered
          · rename_i noSlash
            cases entered
            exact ⟨target, name, pointed, named, by simpa using noSlash, checked, there⟩
        · cases entered
  · rintro ⟨target, name, pointed, named, noSlash, checked, there⟩
    rw [FileStore.file, FileStore.entry, pointed]
    simp only [bind, Except.bind, named, checked, there, noSlash]
    rfl

/-- A path on which the directories are there leads to no other file than before. -/
theorem Spares.file_iff (spares : Spares written store store') {file : StoredFile}
    (way : (store.target path).isOk) (other : written ≠ store'.place? path) :
    store'.file path = .ok file ↔ store.file path = .ok file := by
  cases pointed : store.target path with
  | error error => simp [pointed, Except.isOk, Except.toBool] at way
  | ok target =>
    have pointed' := spares.target pointed
    constructor
    · intro found
      obtain ⟨_, name, same, named, noSlash, checked, there⟩ := file_eq_ok_iff.mp found
      cases same.symm.trans pointed'
      rw [place?_of_target pointed' named] at other
      exact file_eq_ok_iff.mpr ⟨target, name, pointed, named, noSlash, checked,
        spares.old _ _ there other⟩
    · intro found
      obtain ⟨_, name, same, named, noSlash, checked, there⟩ := file_eq_ok_iff.mp found
      cases same.symm.trans pointed
      rw [place?_of_target pointed' named] at other
      exact file_eq_ok_iff.mpr ⟨target, name, pointed', named, noSlash, checked,
        spares.entry _ _ there (Or.inr other)⟩

/-- A path that leads to a file leads to it afterwards, unless that file was written. -/
theorem Spares.file (spares : Spares written store store') {file : StoredFile}
    (found : store.file path = .ok file) (other : written ≠ store'.place? path) :
    store'.file path = .ok file := by
  obtain ⟨target, _, pointed, -⟩ := file_eq_ok_iff.mp found
  exact (spares.file_iff (by rw [pointed]; rfl) other).mpr found

/-! ### Operations -/

/-- A directory is made where nothing was. -/
theorem spares_makeDir (made : store.makeDir path = .ok store') : Spares none store store' := by
  obtain ⟨target, -, made⟩ := exists_of_bind_eq_ok made
  split at made
  · cases made
  · rename_i name _
    obtain ⟨-, -, made⟩ := exists_of_bind_eq_ok made
    dsimp only at made
    split at made
    · cases made
    · rename_i free
      cases made
      have inside : target.directory ++ [name] ≠ [] := by simp
      refine ⟨rfl, fun place entry there _ => ?_, fun place file there _ => ?_⟩
      · rw [entryAt?_put inside]
        split
        · rename_i same
          rw [same, free] at there
          cases there
        · exact there
      · rw [entryAt?_put inside] at there
        split at there
        · cases there
        · exact there

theorem spares_createInnermost {paths inner : List Path}
    (made : store.createInnermost paths = .ok (inner, store')) : Spares none store store' := by
  induction paths generalizing inner with
  | nil =>
    cases made
    exact .refl ..
  | cons path outer ih =>
    unfold createInnermost at made
    split at made
    · rename_i store'' isMade
      cases made
      exact spares_makeDir isMade
    · cases outside : store.createInnermost outer with
      | error error =>
        rw [outside] at made
        cases made
      | ok result =>
        rw [outside] at made
        cases made
        exact ih outside
    · split at made
      · cases made
        exact .refl ..
      · cases made
    · cases made

theorem spares_createEach (paths : List Path) (store : FileStore) :
    Spares none store (store.createEach paths).2 := by
  induction paths generalizing store with
  | nil => exact .refl ..
  | cons path rest ih =>
    unfold createEach
    split
    · rename_i store' made
      exact (spares_makeDir made).trans (ih store')
    · split
      · exact ih store
      · exact .refl ..
    · exact .refl ..

/-- Directories are made where nothing was, also if one of them is refused in the end. -/
theorem spares_createDirs (store : FileStore) (path : Path) :
    Spares none store (store.createDirs path).2 := by
  unfold createDirs
  split
  · exact .refl ..
  · rename_i inner store' made
    exact (spares_createInnermost made).trans (spares_createEach inner.reverse store')

/-- A file that was written is there, and the entry at its place is the only one that changed. -/
theorem file_writeAt {text : String} {modified : Int}
    (wrote : store.writeAt path text modified = .ok store') :
    store'.file path = .ok ⟨text, modified⟩ ∧ Spares (store'.place? path) store store' := by
  obtain ⟨target, pointed, wrote⟩ := exists_of_bind_eq_ok wrote
  split at wrote
  · cases wrote
  · rename_i name named
    split at wrote
    · cases wrote
    · rename_i noSlash
      obtain ⟨_, checked, wrote⟩ := exists_of_bind_eq_ok wrote
      dsimp only at wrote
      split at wrote
      · cases wrote
      · rename_i free
        cases wrote
        have inside : target.directory ++ [name] ≠ [] := by simp
        have spares : Spares (some (target.directory ++ [name])) store
            (store.put (target.directory ++ [name]) (.file ⟨text, modified⟩)) :=
          spares_put inside free
        have pointed' := spares.target pointed
        rw [place?_of_target pointed' named]
        refine ⟨file_eq_ok_iff.mpr ⟨target, name, pointed', named, by simpa using noSlash, checked,
          ?_⟩, spares⟩
        rw [entryAt?_put inside, if_pos rfl]

/-- A file that was written is there, after the directories around it were made. -/
theorem file_writeWithDirs {text : String} {modified : Int}
    (wrote : store.writeWithDirs path text modified = (.ok (), store')) :
    store'.file path = .ok ⟨text, modified⟩ := by
  unfold writeWithDirs at wrote
  split at wrote
  · cases wrote
  · split at wrote
    · cases wrote
    · rename_i written
      cases wrote
      exact (file_writeAt written).1

/-- The entry at its place is the only one that changed, also if the write was refused. -/
theorem spares_writeWithDirs (store : FileStore) (path : Path) (text : String) (modified : Int) :
    Spares ((store.writeWithDirs path text modified).2.place? path) store
      (store.writeWithDirs path text modified).2 := by
  have dirs := spares_createDirs store (path.parent?.getD ⟨""⟩)
  unfold writeWithDirs
  split
  · rename_i made
    rw [made] at dirs
    exact dirs.mono _
  · rename_i made
    rw [made] at dirs
    split
    · exact dirs.mono _
    · rename_i written
      exact (dirs.mono _).trans (file_writeAt written).2

/-- The entry that was removed is the only one that changed. -/
theorem spares_remove (removed : store.remove path = .ok store') :
    Spares (store'.place? path) store store' := by
  obtain ⟨target, pointed, removed⟩ := exists_of_bind_eq_ok removed
  split at removed
  · cases removed
  · rename_i name named
    obtain ⟨_, -, removed⟩ := exists_of_bind_eq_ok removed
    dsimp only at removed
    split at removed
    · cases removed
    · cases removed
    · rename_i there
      split at removed
      · cases removed
      · cases removed
        have spares := spares_erase there
        rwa [place?_of_target (spares.target pointed) named]

end Schemata.FileStore

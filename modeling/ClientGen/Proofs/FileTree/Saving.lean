import ClientGen.Proofs.FileTree.Location

/-!
# What saving a file changes

Making directories only adds directories where nothing stood: everything that stands in the tree
stays, and the working directory too. Saving a file makes the directories above it in this way and
then puts the file at the location of its path; a save that fails has at most made directories. So
no save removes anything: a directory stays a directory, and a file stays a file.
-/

namespace ClientGen.FileTree

/-- At a location there is what there was, or a directory where there was nothing. -/
def Grows (before after : FileTree) (location : Location) : Prop :=
  after.find? location = before.find? location ∨
    before.find? location = none ∧ after.find? location = some .directory

/-- Growing twice at a location is growing there. -/
theorem Grows.trans {first second third : FileTree} {location : Location}
    (h : Grows first second location) (h' : Grows second third location) :
    Grows first third location := by
  rcases h' with heq | ⟨hnone, hnew⟩
  · rw [Grows, heq]
    exact h
  · rcases h with heq | ⟨_, hdirectory⟩
    · exact .inr ⟨heq ▸ hnone, hnew⟩
    · cases hdirectory.symm.trans hnone

/-- What stands at a location still stands when the tree has grown there. -/
theorem Grows.find?_eq_some {before after : FileTree} {location : Location} {node : Node}
    (h : Grows before after location) (hnode : before.find? location = some node) :
    after.find? location = some node := by
  rcases h with heq | ⟨hnone, _⟩
  · exact heq.trans hnode
  · cases hnone.symm.trans hnode

/-- Where a tree has grown, there is a file exactly when there was one, with the same content. -/
theorem Grows.file_iff {before after : FileTree} {location : Location}
    (h : Grows before after location) (content : ByteArray) :
    after.find? location = some (.file content) ↔ before.find? location = some (.file content) := by
  refine ⟨fun hfile => ?_, h.find?_eq_some⟩
  rcases h with heq | ⟨_, hdirectory⟩
  · exact heq.symm.trans hfile
  · cases hdirectory.symm.trans hfile

/-- A tree has grown into another: at every location there is what there was, or a directory where
there was nothing. -/
structure Grown (before after : FileTree) : Prop where
  workingDirectory : after.workingDirectory = before.workingDirectory
  node : ∀ location, after.find? location = before.find? location ∨
    before.find? location = none ∧ after.find? location = some .directory

/-- A tree that stays as it is has grown by nothing. -/
theorem Grown.refl (tree : FileTree) : Grown tree tree :=
  ⟨rfl, fun _ => .inl rfl⟩

/-- Growing twice is growing. -/
theorem Grown.trans {first second third : FileTree} (h : Grown first second)
    (h' : Grown second third) : Grown first third :=
  ⟨h'.workingDirectory.trans h.workingDirectory,
    fun location => Grows.trans (h.node location) (h'.node location)⟩

/-- Paths start at the same location when the working directory is the same. -/
theorem locationOf_congr {left right : FileTree}
    (h : left.workingDirectory = right.workingDirectory) (path : Path) :
    left.locationOf path = right.locationOf path := by
  rw [locationOf_eq_descend, locationOf_eq_descend, start, start, h]

/-- A directory made where nothing stands makes a tree grow. -/
theorem Grown.of_insert {tree : FileTree} {location : Location}
    (h : tree.find? location = none) : Grown tree (tree.insert location .directory) := by
  refine ⟨rfl, fun other => ?_⟩
  by_cases heq : other = location
  · subst heq
    have hroot : other ≠ [] := by
      rintro rfl
      cases h
    exact .inr ⟨h, find?_insert_self tree .directory hroot⟩
  · exact .inl (find?_insert_of_ne tree .directory heq)

/-- Making a directory makes a tree grow. -/
theorem grown_of_makeDirectory {tree after : FileTree} {path : Path}
    (h : tree.makeDirectory path = .ok after) : Grown tree after := by
  unfold makeDirectory at h
  split at h
  · cases h
  · split at h
    · cases h
    · split at h
      · cases h
      · next hnone =>
        rw [← Except.ok.inj h]
        exact .of_insert hnone

/-- Ensuring that there is a directory makes a tree grow. -/
theorem grown_of_ensureDirectory {tree after : FileTree} {path : Path}
    (h : tree.ensureDirectory path = .ok after) : Grown tree after := by
  unfold ensureDirectory at h
  split at h
  · next hmade =>
    rw [← Except.ok.inj h]
    exact grown_of_makeDirectory hmade
  · split at h
    · rw [← Except.ok.inj h]
      exact .refl tree
    · cases h
  · cases h

/-- Making a directory with those above it makes a tree grow, also when it fails half-way. -/
theorem grown_makeDirectoriesAt (anchor : String) (parts : List String) (tree : FileTree) :
    Grown tree (makeDirectoriesAt anchor parts tree).2 := by
  induction parts generalizing tree with
  | nil =>
    rw [makeDirectoriesAt]
    split
    · next h => exact grown_of_ensureDirectory h
    · exact .refl tree
  | cons part above ih =>
    rw [makeDirectoriesAt]
    split
    · next h => exact grown_of_makeDirectory h
    · -- the directories above are made first, and those that were made stay when one fails
      have habove := ih tree
      split
      · next h => exact h ▸ habove
      · next h =>
        rw [h] at habove
        split
        · next h' => exact habove.trans (grown_of_ensureDirectory h')
        · exact habove
    · split
      · next h => exact grown_of_ensureDirectory h
      · exact .refl tree

/-- A write puts the file at the location of its path, where no directory stands. -/
theorem write_eq_ok {tree after : FileTree} {path : Path} {content : ByteArray}
    (h : tree.write path content = .ok after) :
    hasNul path = false ∧ tree.locate path = .ok (tree.locationOf path) ∧
      tree.find? (tree.locationOf path) ≠ some .directory ∧
      after = tree.insert (tree.locationOf path) (.file content) := by
  unfold write at h
  split at h
  · cases h
  · next hnul =>
    split at h
    · cases h
    · next location hlocation =>
      rw [← locate_eq hlocation]
      split at h
      · cases h
      · next hnode =>
        exact ⟨Bool.eq_false_iff.mpr hnul, hlocation, hnode, (Except.ok.inj h).symm⟩

/-- A save that succeeds puts the file at the location of its path, in a tree that has grown. -/
theorem save_eq_ok {tree after : FileTree} {path : Path} {content : ByteArray}
    (h : tree.save path content = (.ok (), after)) :
    ∃ grown, Grown tree grown ∧ grown.find? (tree.locationOf path) ≠ some .directory ∧
      after = grown.insert (tree.locationOf path) (.file content) := by
  have hgrown := grown_makeDirectoriesAt path.parent.anchor path.parent.parts.reverse tree
  unfold save makeDirectories at h
  split at h
  · cases h
  · next grown hmade =>
    rw [hmade] at hgrown
    split at h
    · next hwrite =>
      obtain ⟨-, -, hnode, heq⟩ := write_eq_ok hwrite
      rw [locationOf_congr hgrown.workingDirectory] at hnode heq
      exact ⟨grown, hgrown, hnode, (Prod.mk.inj h).2 ▸ heq⟩
    · cases h

/-- A save that fails has made directories at most. -/
theorem grown_of_save_eq_error {tree after : FileTree} {path : Path} {content : ByteArray}
    {e : FileError} (h : tree.save path content = (.error e, after)) : Grown tree after := by
  have hgrown := grown_makeDirectoriesAt path.parent.anchor path.parent.parts.reverse tree
  unfold save makeDirectories at h
  split at h
  · next hmade =>
    rw [hmade] at hgrown
    exact (Prod.mk.inj h).2 ▸ hgrown
  · next hmade =>
    rw [hmade] at hgrown
    split at h
    · cases h
    · exact (Prod.mk.inj h).2 ▸ hgrown

/-- After a save that succeeds, the file stands at the location of its path. -/
theorem find?_save_self {tree after : FileTree} {path : Path} {content : ByteArray}
    (h : tree.save path content = (.ok (), after)) :
    after.find? (tree.locationOf path) = some (.file content) := by
  obtain ⟨grown, -, hnode, rfl⟩ := save_eq_ok h
  refine find?_insert_self grown _ fun hroot => hnode ?_
  rw [hroot]
  rfl

/-- A save makes directories at most at other locations than that of its path. -/
theorem grows_save_of_ne {tree : FileTree} {path : Path} (content : ByteArray)
    {location : Location} (hne : location ≠ tree.locationOf path) :
    Grows tree (tree.save path content).2 location := by
  cases hsave : tree.save path content with
  | mk result after =>
    cases result with
    | error e => exact (grown_of_save_eq_error hsave).node location
    | ok done =>
      obtain ⟨grown, hgrown, -, heq⟩ := save_eq_ok hsave
      change Grows tree after location
      rw [Grows, heq, find?_insert_of_ne grown _ hne]
      exact hgrown.node location

/-! ### Nothing is removed -/

/-- Nothing has been removed from a tree: every directory is still one, and every file is still a
file. -/
structure Kept (before after : FileTree) : Prop where
  workingDirectory : after.workingDirectory = before.workingDirectory
  directory : ∀ {location}, before.find? location = some .directory →
    after.find? location = some .directory
  file : ∀ {location content}, before.find? location = some (.file content) →
    ∃ content', after.find? location = some (.file content')

/-- From a tree that stays as it is nothing has been removed. -/
theorem Kept.refl (tree : FileTree) : Kept tree tree :=
  ⟨rfl, id, fun h => ⟨_, h⟩⟩

/-- Removing nothing twice is removing nothing. -/
theorem Kept.trans {first second third : FileTree} (h : Kept first second)
    (h' : Kept second third) : Kept first third where
  workingDirectory := h'.workingDirectory.trans h.workingDirectory
  directory hnode := h'.directory (h.directory hnode)
  file hnode := by
    obtain ⟨content, hfile⟩ := h.file hnode
    exact h'.file hfile

/-- From a tree that has grown nothing has been removed. -/
theorem Grown.kept {before after : FileTree} (h : Grown before after) : Kept before after where
  workingDirectory := h.workingDirectory
  directory hnode := Grows.find?_eq_some (h.node _) hnode
  file hnode := ⟨_, Grows.find?_eq_some (h.node _) hnode⟩

/-- A file that is put where no directory stands removes nothing. -/
theorem kept_insert_file {tree : FileTree} {location : Location} (content : ByteArray)
    (h : tree.find? location ≠ some .directory) :
    Kept tree (tree.insert location (.file content)) where
  workingDirectory := rfl
  directory {other} hnode := by
    have hne : other ≠ location := fun heq => h (heq ▸ hnode)
    rwa [find?_insert_of_ne tree _ hne]
  file {other _} hnode := by
    by_cases heq : other = location
    · have hroot : location ≠ [] := by
        rintro rfl
        exact h rfl
      rw [heq]
      exact ⟨content, find?_insert_self tree _ hroot⟩
    · exact ⟨_, (find?_insert_of_ne tree _ heq).trans hnode⟩

/-- A save removes nothing, whether it succeeds or not. -/
theorem kept_save (tree : FileTree) (path : Path) (content : ByteArray) :
    Kept tree (tree.save path content).2 := by
  cases hsave : tree.save path content with
  | mk result after =>
    cases result with
    | error e => exact (grown_of_save_eq_error hsave).kept
    | ok done =>
      obtain ⟨grown, hgrown, hnode, heq⟩ := save_eq_ok hsave
      change Kept tree after
      rw [heq]
      exact hgrown.kept.trans (kept_insert_file content hnode)

end ClientGen.FileTree

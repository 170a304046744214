import ClientGen.Proofs.FileTree.Reaching
import Mathlib.Data.List.Induction

/-!
# Saving a file again

After the directories of a path have been made, the path is reached; when that failed, it is blocked.
Both stay so as long as nothing is removed. A save that is repeated in such a tree, whatever else has
been saved in the meantime, therefore ends as it did: one that succeeded only replaces the file that
it has put there, and one that was refused is refused again and changes nothing.
-/

namespace ClientGen.FileTree

/-! ### Making the directories of a path -/

/-- The answer of an operation that leaves the tree as it is when it fails. -/
def answer (tree : FileTree) : Except FileError FileTree → Except FileError Unit × FileTree
  | .ok after => (.ok (), after)
  | .error e => (.error e, tree)

/-- An operation that answers with success has succeeded. -/
theorem answer_eq_ok {tree after : FileTree} {result : Except FileError FileTree}
    (h : tree.answer result = (.ok (), after)) : result = .ok after := by
  cases result with
  | ok made => exact congrArg _ (Prod.mk.inj h).2
  | error e => cases h

/-- An operation that answers with an error has failed and left the tree as it was. -/
theorem answer_eq_error {tree after : FileTree} {result : Except FileError FileTree}
    {e : FileError} (h : tree.answer result = (.error e, after)) :
    result = .error e ∧ tree = after := by
  cases result with
  | ok made => cases h
  | error d =>
    obtain ⟨⟨⟩, rfl⟩ := Prod.mk.inj h
    exact ⟨rfl, rfl⟩

/-- A directory that is not made is found, or ensuring it fails as making it does. -/
theorem ensureDirectory_of_error {tree : FileTree} {path : Path} {e : FileError}
    (h : tree.makeDirectory path = .error e) :
    tree.ensureDirectory path = .ok tree ∨ tree.ensureDirectory path = .error e := by
  rw [ensureDirectory, h]
  cases e with
  | nulCharacter => exact .inr rfl
  | refused fault name =>
    by_cases hfound : tree.isDirectory path = true
    · exact .inl (if_pos hfound)
    · exact .inr (if_neg hfound)

/-- Only when a directory above a path is missing are those above it made first. -/
theorem makeDirectories_cases (tree : FileTree) (path : Path) :
    (¬ tree.Missing path ∧ tree.makeDirectories path = tree.answer (tree.ensureDirectory path)) ∨
      (tree.Missing path ∧ tree.makeDirectories path = match tree.makeDirectories path.parent with
        | (.ok (), made) => made.answer (made.ensureDirectory path)
        | (.error e, made) => (.error e, made)) := by
  obtain ⟨anchor, parts⟩ := path
  rcases List.eq_nil_or_concat parts with rfl | ⟨above, last, rfl⟩
  · refine .inl ⟨fun hmissing => hmissing.parts_ne_nil rfl, ?_⟩
    change makeDirectoriesAt anchor [] tree = _
    rw [makeDirectoriesAt]
    cases tree.ensureDirectory ⟨anchor, []⟩ <;> rfl
  · rw [List.concat_eq_append]
    have hparent : Path.parent ⟨anchor, above ++ [last]⟩ = ⟨anchor, above⟩ := by
      rw [Path.parent, List.dropLast_concat]
    have hat : tree.makeDirectories ⟨anchor, above ++ [last]⟩ =
        makeDirectoriesAt anchor (last :: above.reverse) tree := by
      rw [makeDirectories, List.reverse_concat]
    rw [hparent, hat, makeDirectoriesAt, List.reverse_cons, List.reverse_reverse]
    by_cases hmissing : tree.Missing ⟨anchor, above ++ [last]⟩
    · obtain ⟨name, hmake⟩ := makeDirectory_eq_notFound_iff.mpr hmissing
      refine .inr ⟨hmissing, ?_⟩
      rw [hmake, makeDirectories]
      rcases makeDirectoriesAt anchor above.reverse tree with ⟨_ | ⟨⟩, made⟩
      · rfl
      · cases made.ensureDirectory ⟨anchor, above ++ [last]⟩ <;> rfl
    · refine .inl ⟨hmissing, ?_⟩
      split
      · next hmake =>
        rw [ensureDirectory, hmake]
        rfl
      · next hmake => exact absurd (makeDirectory_eq_notFound_iff.mp ⟨_, hmake⟩) hmissing
      · next hmake =>
        rcases ensureDirectory_of_error hmake with hensure | hensure <;> rw [hensure] <;> rfl

/-- The directories of a path that is reached are not made again. -/
theorem makeDirectories_of_reach {tree : FileTree} (home : tree.Stands tree.workingDirectory)
    {path : Path} (hnul : hasNul path = false) {there : Location}
    (h : tree.reach path = .ok there) : tree.makeDirectories path = (.ok (), tree) := by
  obtain ⟨hmake, hensure⟩ := ensureDirectory_of_reach home hnul h
  rcases tree.makeDirectories_cases path with ⟨-, heq⟩ | ⟨hmissing, -⟩
  · rw [heq, hensure]
    rfl
  · obtain ⟨name, hmissing⟩ := makeDirectory_eq_notFound_iff.mpr hmissing
    cases hmake.symm.trans hmissing

/-- Nothing is made on the way to a path that is blocked. -/
theorem makeDirectories_of_blocked {tree : FileTree} (home : tree.Stands tree.workingDirectory)
    {path : Path} (hnul : hasNul path = false) (h : tree.Blocked path) :
    ∃ fault, tree.makeDirectories path = (.error (refuse fault path), tree) := by
  obtain ⟨fault, hmake, hfault, hensure⟩ := ensureDirectory_of_blocked home hnul h
  refine ⟨fault, ?_⟩
  rcases tree.makeDirectories_cases path with ⟨-, heq⟩ | ⟨hmissing, -⟩
  · rw [heq, hensure]
    rfl
  · obtain ⟨name, hmissing⟩ := makeDirectory_eq_notFound_iff.mpr hmissing
    cases hmake.symm.trans hmissing
    exact absurd rfl hfault

/-- Making the directories of a path removes nothing. -/
theorem kept_makeDirectories {tree after : FileTree} {path : Path} {result : Except FileError Unit}
    (h : tree.makeDirectories path = (result, after)) : Kept tree after := by
  have hgrown := grown_makeDirectoriesAt path.anchor path.parts.reverse tree
  rw [← makeDirectories, h] at hgrown
  exact hgrown.kept

/-- When the directories of a path have been made, the path is reached. -/
theorem reach_of_makeDirectories {tree after : FileTree}
    (home : tree.Stands tree.workingDirectory) {path : Path}
    (h : tree.makeDirectories path = (.ok (), after)) :
    hasNul path = false ∧ ∃ there, after.reach path = .ok there := by
  have hensured {made : FileTree} (hmade : made.Stands made.workingDirectory)
      (hanswer : made.answer (made.ensureDirectory path) = (.ok (), after)) :
      hasNul path = false ∧ ∃ there, after.reach path = .ok there := by
    have hensure := answer_eq_ok hanswer
    refine ⟨?_, reach_of_ensureDirectory hmade hensure⟩
    rw [← Bool.not_eq_true]
    intro hnul
    cases hensure.symm.trans (ensureDirectory_of_hasNul hnul)
  rcases tree.makeDirectories_cases path with ⟨-, heq⟩ | ⟨-, heq⟩
  · exact hensured home (heq.symm.trans h)
  · rw [heq] at h
    split at h
    · next made habove => exact hensured ((kept_makeDirectories habove).home home) h
    · cases h

/-- When the directories of a path could not be made, the path is blocked. -/
theorem blocked_of_makeDirectories {tree after : FileTree}
    (home : tree.Stands tree.workingDirectory) {path : Path} {fault : FileFault} {name : String}
    (h : tree.makeDirectories path = (.error (.refused fault name), after)) :
    hasNul path = false ∧ after.Blocked path := by
  obtain ⟨anchor, parts⟩ := path
  induction parts using List.reverseRecOn with
  | nil =>
    rcases tree.makeDirectories_cases ⟨anchor, []⟩ with ⟨hway, heq⟩ | ⟨hmissing, -⟩
    · obtain ⟨hensure, rfl⟩ := answer_eq_error (heq.symm.trans h)
      exact blocked_of_ensureDirectory home hway hensure
    · exact absurd rfl hmissing.parts_ne_nil
  | append_singleton above last ih =>
    rcases tree.makeDirectories_cases ⟨anchor, above ++ [last]⟩ with ⟨hway, heq⟩ | ⟨hmissing, heq⟩
    · obtain ⟨hensure, rfl⟩ := answer_eq_error (heq.symm.trans h)
      exact blocked_of_ensureDirectory home hway hensure
    · have hparent : Path.parent ⟨anchor, above ++ [last]⟩ = ⟨anchor, above⟩ := by
        rw [Path.parent, List.dropLast_concat]
      rw [heq] at h
      split at h
      · next made habove =>
        obtain ⟨hensure, rfl⟩ := answer_eq_error h
        have hmade := (kept_makeDirectories habove).home home
        obtain ⟨-, there, hreach⟩ := reach_of_makeDirectories home habove
        exact blocked_of_ensureDirectory hmade
          (fun hmissing => locate_of_reach_parent hreach hmissing.2) hensure
      · next made habove =>
        obtain ⟨⟨⟩, rfl⟩ := Prod.mk.inj h
        rw [hparent] at habove
        refine ⟨hmissing.1, .of_parent ?_⟩
        rw [hparent]
        exact (ih habove).2

/-- The directories above a file that are there still are when nothing has been removed. -/
theorem makeDirectories_of_kept {before after : FileTree}
    (home : before.Stands before.workingDirectory) (hkept : Kept before after) {path : Path}
    (hnul : hasNul path = false) {there : Location} (h : before.reach path = .ok there) :
    after.makeDirectories path = (.ok (), after) := by
  have hagain := reach_of_kept hkept (ne_error_of_eq_ok h .notFound)
  exact makeDirectories_of_reach (hkept.home home) hnul (hagain.trans h)

/-! ### Saving a file -/

/-- A file that has been written is only replaced when it is written again. -/
theorem write_again_of_ok {tree after later : FileTree} {path : Path} {content : ByteArray}
    (h : tree.write path content = .ok after) (hkept : Kept after later) (content' : ByteArray) :
    later.write path content' = .ok (later.insert (later.locationOf path) (.file content')) := by
  obtain ⟨hnul, hlocate, hnode, rfl⟩ := write_eq_ok h
  have hroot : tree.locationOf path ≠ [] := by
    intro hroot
    rw [hroot] at hnode
    exact hnode rfl
  obtain ⟨old, hfile⟩ := hkept.file (find?_insert_self tree (.file content) hroot)
  have hkept := (kept_insert_file content hnode).trans hkept
  have hagain : later.locate path = .ok (tree.locationOf path) :=
    (locate_of_kept hkept (ne_error_of_eq_ok hlocate .notFound)).trans hlocate
  rw [← locate_eq hagain]
  simp [write, hnul, hagain, hfile]

/-- A file that could not be written although no directory above it is missing cannot be written
later. -/
theorem write_again_of_refused {tree later : FileTree} {path : Path} {content : ByteArray}
    {fault : FileFault} {name : String} (hfound : tree.locate path ≠ .error .notFound)
    (h : tree.write path content = .error (.refused fault name)) (hkept : Kept tree later)
    (content' : ByteArray) :
    ∃ fault' name', later.write path content' = .error (.refused fault' name') := by
  unfold write at h
  split at h
  · cases h
  · next hnul =>
    rw [Bool.not_eq_true] at hnul
    have hagain := locate_of_kept hkept hfound
    split at h
    · next missed hlocate =>
      exact ⟨missed, path.text, by simp [write, hnul, hagain, hlocate, refuse]⟩
    · next location hlocate =>
      split at h
      · next hnode =>
        have hdirectory := hkept.directory hnode
        exact ⟨.isDirectory, path.text, by simp [write, hnul, hagain, hlocate, hdirectory, refuse]⟩
      · cases h

/-- A save that succeeded only replaces its file when it is repeated. -/
theorem save_again_of_ok {tree after later : FileTree} (home : tree.Stands tree.workingDirectory)
    {path : Path} {content : ByteArray} (h : tree.save path content = (.ok (), after))
    (hkept : Kept after later) (content' : ByteArray) :
    later.save path content' =
      (.ok (), later.insert (later.locationOf path) (.file content')) := by
  unfold save at h
  split at h
  · cases h
  · next made hmade =>
    obtain ⟨hnul, there, hreach⟩ := reach_of_makeDirectories home hmade
    have hwrite := answer_eq_ok h
    obtain ⟨-, -, hnode, heq⟩ := write_eq_ok hwrite
    have hsince : Kept made later := (heq ▸ kept_insert_file content hnode).trans hkept
    have hagain := makeDirectories_of_kept ((kept_makeDirectories hmade).home home) hsince hnul hreach
    rw [save, hagain]
    simp only [write_again_of_ok hwrite hkept]

/-- A save that was refused is refused again and changes nothing. -/
theorem save_again_of_refused {tree after later : FileTree}
    (home : tree.Stands tree.workingDirectory) {path : Path} {content : ByteArray}
    {fault : FileFault} {name : String}
    (h : tree.save path content = (.error (.refused fault name), after))
    (hkept : Kept after later) (content' : ByteArray) :
    ∃ fault' name', later.save path content' = (.error (.refused fault' name'), later) := by
  unfold save at h
  split at h
  · next made hmade =>
    obtain ⟨⟨⟩, rfl⟩ := Prod.mk.inj h
    obtain ⟨hnul, hblocked⟩ := blocked_of_makeDirectories home hmade
    have hlater := (hkept.home ((kept_makeDirectories hmade).home home))
    obtain ⟨fault', hagain⟩ := makeDirectories_of_blocked hlater hnul (hblocked.of_kept hkept)
    refine ⟨fault', path.parent.text, ?_⟩
    rw [save, hagain, refuse]
  · next made hmade =>
    obtain ⟨hnul, there, hreach⟩ := reach_of_makeDirectories home hmade
    obtain ⟨hwrite, rfl⟩ := answer_eq_error h
    have hagain := makeDirectories_of_kept ((kept_makeDirectories hmade).home home) hkept hnul hreach
    obtain ⟨fault', name', hrefused⟩ :=
      write_again_of_refused (locate_of_reach_parent hreach) hwrite hkept content'
    refine ⟨fault', name', ?_⟩
    rw [save, hagain]
    simp only [hrefused]

end ClientGen.FileTree

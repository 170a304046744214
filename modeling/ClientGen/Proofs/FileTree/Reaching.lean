import ClientGen.Proofs.FileTree.Saving
import ClientGen.Proofs.Path

/-!
# Where a path leads, and what stays so

Going along a path, every part of which has to be a directory, ends at a location or at a fault. In
a tree whose working directory exists, this tells what making and finding a directory at the path
will do. What is found on the way, except that a part is missing, is found again in every tree from
which nothing has been removed.
-/

namespace ClientGen.FileTree

/-- Go along a path, every part of which has to be a directory. -/
def reach (tree : FileTree) (path : Path) : Except FileFault Location :=
  if path.text.utf8ByteSize ≥ maxPathBytes then .error .nameTooLong
  else tree.follow (tree.start path) path.parts

/-- A path is blocked when some part of it can never be made a directory. -/
def Blocked (tree : FileTree) (path : Path) : Prop :=
  ∃ fault, tree.reach path = .error fault ∧ fault ≠ .notFound

/-- A directory stands at a location and at all locations above it. -/
def Stands (tree : FileTree) (here : Location) : Prop :=
  ∀ above, above <+: here → tree.find? above = some .directory

/-- Following parts is following the earlier ones and then the later ones. -/
theorem follow_append (tree : FileTree) (here : Location) (above parts : List String) :
    tree.follow here (above ++ parts) =
      tree.follow here above >>= fun there => tree.follow there parts := by
  induction above generalizing here with
  | nil => rfl
  | cons part rest ih =>
    rw [List.cons_append, follow, follow]
    cases tree.enter here part with
    | error fault => rfl
    | ok next => exact ih next

/-- Following one part is entering it. -/
theorem follow_singleton (tree : FileTree) (here : Location) (part : String) :
    tree.follow here [part] = tree.enter here part := by
  rw [follow]
  cases tree.enter here part <;> rfl

/-! ### The working directory -/

/-- Where a directory stands with all above it, so it does where a part of it can be entered. -/
theorem Stands.enter {tree : FileTree} {here there : Location} {part : String}
    (h : tree.Stands here) (henter : tree.enter here part = .ok there) : tree.Stands there := by
  unfold FileTree.enter at henter
  split at henter
  · obtain rfl := Except.ok.inj henter
    exact fun above habove => h above (habove.trans (List.dropLast_prefix here))
  · split at henter
    · cases henter
    · split at henter
      · cases henter
      · cases henter
      · next hnode =>
        obtain rfl := Except.ok.inj henter
        intro above habove
        rcases List.prefix_concat_iff.mp habove with rfl | habove
        · exact hnode
        · exact h above habove

/-- Directories that are followed from a directory that stands lead to one that stands. -/
theorem Stands.follow {tree : FileTree} {here there : Location} {parts : List String}
    (h : tree.Stands here) (hfollow : tree.follow here parts = .ok there) : tree.Stands there := by
  induction parts generalizing here with
  | nil => exact Except.ok.inj hfollow ▸ h
  | cons part rest ih =>
    obtain ⟨next, hnext, hrest⟩ := bind_eq_ok_iff.mp hfollow
    exact ih (h.enter hnext) hrest

/-- When the working directory stands, so does the start of every path. -/
theorem Stands.start {tree : FileTree} (h : tree.Stands tree.workingDirectory) (path : Path) :
    tree.Stands (tree.start path) := by
  unfold FileTree.start
  split
  · exact h
  · intro above habove
    rw [List.prefix_nil.mp habove]
    rfl

/-- A directory that stands still stands when nothing has been removed. -/
theorem Stands.of_kept {before after : FileTree} {here : Location} (h : before.Stands here)
    (hkept : Kept before after) : after.Stands here :=
  fun above habove => hkept.directory (h above habove)

/-- The working directory still stands when nothing has been removed. -/
theorem Kept.home {before after : FileTree} (h : Kept before after)
    (home : before.Stands before.workingDirectory) : after.Stands after.workingDirectory := by
  rw [h.workingDirectory]
  exact home.of_kept h

/-! ### Going along a path and locating it -/

/-- Whether a location is a directory. -/
def directoryAt (tree : FileTree) (location : Location) : Except FileFault Location :=
  match tree.find? location with
  | none => .error .notFound
  | some (.file _) => .error .notDirectory
  | some .directory => .ok location

/-- Where a directory stands, it is one. -/
theorem directoryAt_of_find? {tree : FileTree} {location : Location}
    (h : tree.find? location = some .directory) : tree.directoryAt location = .ok location := by
  rw [directoryAt, h]

/-- What is a directory is one that stands there. -/
theorem find?_of_directoryAt {tree : FileTree} {location there : Location}
    (h : tree.directoryAt location = .ok there) : tree.find? location = some .directory := by
  unfold directoryAt at h
  split at h
  · cases h
  · cases h
  · assumption

/-- Going along a path is locating it and finding a directory there. -/
theorem reach_eq {tree : FileTree} (home : tree.Stands tree.workingDirectory) (path : Path) :
    tree.reach path = tree.locate path >>= tree.directoryAt := by
  have hstart := home.start path
  have hstands {here : Location} (h : tree.Stands here) : tree.directoryAt here = .ok here :=
    directoryAt_of_find? (h here (List.prefix_refl here))
  unfold reach locate
  split
  · rfl
  · split
    · next hparts =>
      rw [List.getLast?_eq_none_iff.mp hparts]
      exact (hstands hstart).symm
    · next last hlast =>
      obtain ⟨above, hparts⟩ := List.getLast?_eq_some_iff.mp hlast
      rw [hparts, List.dropLast_concat, follow_append]
      cases hfollow : tree.follow (tree.start path) above with
      | error fault => rfl
      | ok directory =>
        have hhere := hstart.follow hfollow
        change tree.follow directory [last] =
          (if last = ".." then Except.ok (up directory)
            else if last.utf8ByteSize > maxNameBytes then .error .nameTooLong
            else .ok (directory ++ [last])) >>= tree.directoryAt
        rw [follow_singleton]
        by_cases hup : last = ".."
        · have hparent : tree.enter directory last = .ok (up directory) := by
            rw [enter, if_pos hup]
          rw [hparent, if_pos hup]
          exact (hstands (hhere.enter hparent)).symm
        · rw [enter, if_neg hup, if_neg hup]
          split
          · rfl
          · rfl

/-! ### What is found again -/

/-- Whatever entering a part gives, except that it is missing, it gives again. -/
theorem enter_of_kept {before after : FileTree} (h : Kept before after) {here : Location}
    {part : String} (hfound : before.enter here part ≠ .error .notFound) :
    after.enter here part = before.enter here part := by
  unfold enter at hfound ⊢
  split
  · rfl
  · split
    · rfl
    · next hup hlong =>
      rw [if_neg hup, if_neg hlong] at hfound
      cases hnode : before.find? (here ++ [part]) with
      | none =>
        rw [hnode] at hfound
        exact absurd rfl hfound
      | some node =>
        cases node with
        | directory => rw [h.directory hnode]
        | file content =>
          obtain ⟨content', hfile⟩ := h.file hnode
          rw [hfile]

/-- Whatever following parts gives, except that one is missing, it gives again. -/
theorem follow_of_kept {before after : FileTree} (h : Kept before after) {here : Location}
    {parts : List String} (hfound : before.follow here parts ≠ .error .notFound) :
    after.follow here parts = before.follow here parts := by
  induction parts generalizing here with
  | nil => rfl
  | cons part rest ih =>
    rw [follow] at hfound ⊢
    have hpart : before.enter here part ≠ .error .notFound :=
      fun hmissing => hfound (bind_error_of_first hmissing)
    rw [follow, enter_of_kept h hpart]
    cases hnext : before.enter here part with
    | error fault => rfl
    | ok next =>
      rw [hnext] at hfound
      exact ih hfound

/-- Paths start where they did. -/
theorem start_of_kept {before after : FileTree} (h : Kept before after) (path : Path) :
    after.start path = before.start path := by
  rw [start, start, h.workingDirectory]

/-- Whatever going along a path gives, except that a part is missing, it gives again. -/
theorem reach_of_kept {before after : FileTree} (h : Kept before after) {path : Path}
    (hfound : before.reach path ≠ .error .notFound) : after.reach path = before.reach path := by
  unfold reach at hfound ⊢
  split
  · rfl
  · next hshort =>
    rw [if_neg hshort] at hfound
    rw [start_of_kept h, follow_of_kept h hfound]

/-- Whatever locating a path gives, except that a part is missing, it gives again. -/
theorem locate_of_kept {before after : FileTree} (h : Kept before after) {path : Path}
    (hfound : before.locate path ≠ .error .notFound) : after.locate path = before.locate path := by
  unfold locate at hfound ⊢
  split
  · rfl
  · next hshort =>
    rw [if_neg hshort] at hfound
    split
    · next hparts => rw [start_of_kept h]
    · next last hlast =>
      rw [hlast] at hfound
      have habove : before.follow (before.start path) path.parts.dropLast ≠ .error .notFound :=
        fun hmissing => hfound (bind_error_of_first hmissing)
      rw [start_of_kept h, follow_of_kept h habove]

/-- A path that is blocked stays so. -/
theorem Blocked.of_kept {before after : FileTree} {path : Path} (h : before.Blocked path)
    (hkept : Kept before after) : after.Blocked path := by
  obtain ⟨fault, hreach, hfault⟩ := h
  have hfound : before.reach path ≠ .error .notFound := by
    rw [hreach]
    exact fun heq => hfault (Except.error.inj heq)
  exact ⟨fault, (reach_of_kept hkept hfound).trans hreach, hfault⟩

/-! ### From a path to the one below it -/

/-- When the parent of a path is reached, no part on the way to the path is missing. -/
theorem locate_of_reach_parent {tree : FileTree} {path : Path} {above : Location}
    (h : tree.reach path.parent = .ok above) : tree.locate path ≠ .error .notFound := by
  unfold reach at h
  split at h
  · cases h
  · have hfollow : tree.follow (tree.start path) path.parts.dropLast = .ok above := h
    unfold locate
    split
    · exact nofun
    · split
      · exact nofun
      · rw [hfollow]
        change (if _ then _ else if _ then _ else _) ≠ _
        split
        · exact nofun
        · split <;> exact nofun

/-- When the parent of a path is blocked, so is the path. -/
theorem Blocked.of_parent {tree : FileTree} {path : Path} (h : tree.Blocked path.parent) :
    tree.Blocked path := by
  obtain ⟨fault, hreach, hfault⟩ := h
  by_cases hlong : path.text.utf8ByteSize ≥ maxPathBytes
  · exact ⟨.nameTooLong, if_pos hlong, nofun⟩
  · have hshort : ¬ path.parent.text.utf8ByteSize ≥ maxPathBytes :=
      fun h => hlong (Nat.le_trans h path.utf8ByteSize_text_parent_le)
    rw [reach, if_neg hshort] at hreach
    have hfollow : tree.follow (tree.start path) path.parts.dropLast = .error fault := hreach
    refine ⟨fault, ?_, hfault⟩
    rw [reach, if_neg hlong]
    rcases List.eq_nil_or_concat path.parts with hparts | ⟨above, last, hparts⟩
    · rw [hparts] at hfollow
      cases hfollow
    · rw [List.concat_eq_append] at hparts
      rw [hparts, List.dropLast_concat] at hfollow
      rw [hparts, follow_append, hfollow]
      rfl

/-! ### Making and finding a directory -/

/-- There is a directory at a path exactly when its location has one. -/
theorem isDirectory_iff {tree : FileTree} {path : Path} :
    tree.isDirectory path = true ↔ hasNul path = false ∧
      ∃ location, tree.locate path = .ok location ∧ tree.find? location = some .directory := by
  rw [isDirectory, Bool.and_eq_true, Bool.not_eq_true', status]
  refine and_congr_right fun _ => ?_
  cases tree.locate path with
  | error fault => simp [bind, Except.bind]
  | ok location => rcases hnode : tree.find? location with _ | _ | _ <;> simp [bind, Except.bind, hnode]

/-- Where a path reaches a directory, none is made. -/
theorem ensureDirectory_of_reach {tree : FileTree} (home : tree.Stands tree.workingDirectory)
    {path : Path} (hnul : hasNul path = false) {there : Location}
    (h : tree.reach path = .ok there) :
    tree.makeDirectory path = .error (refuse .exists path) ∧
      tree.ensureDirectory path = .ok tree := by
  rw [reach_eq home] at h
  obtain ⟨location, hlocate, hthere⟩ := bind_eq_ok_iff.mp h
  have hnode := find?_of_directoryAt hthere
  have hmake : tree.makeDirectory path = .error (refuse .exists path) := by
    simp [makeDirectory, hnul, hlocate, hnode]
  have hfound : tree.isDirectory path = true := isDirectory_iff.mpr ⟨hnul, location, hlocate, hnode⟩
  refine ⟨hmake, ?_⟩
  rw [ensureDirectory, hmake, refuse]
  exact if_pos hfound

/-- Where a path is blocked, no directory is made or found. -/
theorem ensureDirectory_of_blocked {tree : FileTree} (home : tree.Stands tree.workingDirectory)
    {path : Path} (hnul : hasNul path = false) (h : tree.Blocked path) :
    ∃ fault, tree.makeDirectory path = .error (refuse fault path) ∧ fault ≠ .notFound ∧
      tree.ensureDirectory path = .error (refuse fault path) := by
  obtain ⟨fault, hreach, hfault⟩ := h
  rw [reach_eq home] at hreach
  have hnone : ¬ tree.isDirectory path = true := by
    intro hfound
    obtain ⟨-, location, hlocate, hnode⟩ := isDirectory_iff.mp hfound
    rw [hlocate] at hreach
    cases (directoryAt_of_find? hnode).symm.trans hreach
  have hmissed {f : FileFault} (hmake : tree.makeDirectory path = .error (refuse f path)) :
      tree.ensureDirectory path = .error (refuse f path) := by
    rw [ensureDirectory, hmake, refuse]
    exact if_neg hnone
  rcases bind_eq_error_iff.mp hreach with hlocate | ⟨location, hlocate, hat⟩
  · have hmake : tree.makeDirectory path = .error (refuse fault path) := by
      simp [makeDirectory, hnul, hlocate]
    exact ⟨fault, hmake, hfault, hmissed hmake⟩
  · unfold directoryAt at hat
    split at hat
    · exact absurd (Except.error.inj hat).symm hfault
    · next content hnode =>
      have hmake : tree.makeDirectory path = .error (refuse .exists path) := by
        simp [makeDirectory, hnul, hlocate, hnode]
      exact ⟨.exists, hmake, nofun, hmissed hmake⟩
    · cases hat

/-- A directory that has been made is reached. -/
theorem reach_of_makeDirectory {tree after : FileTree} (home : tree.Stands tree.workingDirectory)
    {path : Path} (h : tree.makeDirectory path = .ok after) :
    ∃ there, after.reach path = .ok there := by
  have hkept := (grown_of_makeDirectory h).kept
  unfold makeDirectory at h
  split at h
  · cases h
  · split at h
    · cases h
    · next location hlocate =>
      split at h
      · cases h
      · next hnone =>
        obtain rfl := Except.ok.inj h
        have hroot : location ≠ [] := by
          rintro rfl
          cases hnone
        refine ⟨location, ?_⟩
        rw [reach_eq (hkept.home home),
          locate_of_kept hkept (ne_error_of_eq_ok hlocate .notFound), hlocate]
        exact directoryAt_of_find? (find?_insert_self tree .directory hroot)

/-- A directory that is found is reached. -/
theorem reach_of_isDirectory {tree : FileTree} (home : tree.Stands tree.workingDirectory)
    {path : Path} (h : tree.isDirectory path = true) : ∃ there, tree.reach path = .ok there := by
  obtain ⟨-, location, hlocate, hnode⟩ := isDirectory_iff.mp h
  refine ⟨location, ?_⟩
  rw [reach_eq home, hlocate]
  exact directoryAt_of_find? hnode

/-- A directory that has been made or found is reached. -/
theorem reach_of_ensureDirectory {tree after : FileTree}
    (home : tree.Stands tree.workingDirectory) {path : Path}
    (h : tree.ensureDirectory path = .ok after) : ∃ there, after.reach path = .ok there := by
  unfold ensureDirectory at h
  split at h
  · next hmade =>
    obtain rfl := Except.ok.inj h
    exact reach_of_makeDirectory home hmade
  · split at h
    · next hfound =>
      obtain rfl := Except.ok.inj h
      exact reach_of_isDirectory home hfound
    · cases h
  · cases h

/-- A directory above a path is missing. -/
def Missing (tree : FileTree) (path : Path) : Prop :=
  hasNul path = false ∧ tree.locate path = .error .notFound

/-- Above the start of a path no directory is missing. -/
theorem Missing.parts_ne_nil {tree : FileTree} {path : Path} (h : tree.Missing path) :
    path.parts ≠ [] := by
  intro hparts
  have hlocate := h.2
  rw [locate, hparts] at hlocate
  split at hlocate
  · cases hlocate
  · cases hlocate

/-- A directory is refused as not found exactly when a directory above it is missing. -/
theorem makeDirectory_eq_notFound_iff {tree : FileTree} {path : Path} :
    (∃ name, tree.makeDirectory path = .error (.refused .notFound name)) ↔ tree.Missing path := by
  constructor
  · rintro ⟨name, hmake⟩
    unfold makeDirectory at hmake
    split at hmake
    · cases hmake
    · next hnul =>
      refine ⟨Bool.not_eq_true _ ▸ hnul, ?_⟩
      split at hmake
      · next fault hlocate =>
        have hrefused : refuse fault path = .refused .notFound name := Except.error.inj hmake
        rw [hlocate, (FileError.refused.inj hrefused).1]
      · split at hmake
        · cases hmake
        · cases hmake
  · rintro ⟨hnul, hlocate⟩
    exact ⟨path.text, by simp [makeDirectory, hnul, hlocate, refuse]⟩

/-- A path with a NUL character is refused for that character. -/
theorem ensureDirectory_of_hasNul {tree : FileTree} {path : Path} (h : hasNul path = true) :
    tree.ensureDirectory path = .error .nulCharacter := by
  have hmake : tree.makeDirectory path = .error .nulCharacter := by
    rw [makeDirectory, if_pos h]
  rw [ensureDirectory, hmake]

/-- Where a directory is neither made nor found although none above it is missing, the path is
blocked. -/
theorem blocked_of_ensureDirectory {tree : FileTree} (home : tree.Stands tree.workingDirectory)
    {path : Path} {fault : FileFault} {name : String} (hway : ¬ tree.Missing path)
    (h : tree.ensureDirectory path = .error (.refused fault name)) :
    hasNul path = false ∧ tree.Blocked path := by
  have hnul : hasNul path = false := by
    rw [← Bool.not_eq_true]
    intro hnul
    cases h.symm.trans (ensureDirectory_of_hasNul hnul)
  refine ⟨hnul, ?_⟩
  cases hreach : tree.reach path with
  | ok there => cases h.symm.trans (ensureDirectory_of_reach home hnul hreach).2
  | error missed =>
    refine ⟨missed, hreach, ?_⟩
    rintro rfl
    -- nothing stands at the location, so the directory would have been made
    rw [reach_eq home] at hreach
    rcases bind_eq_error_iff.mp hreach with hlocate | ⟨location, hlocate, hat⟩
    · exact hway ⟨hnul, hlocate⟩
    · unfold directoryAt at hat
      split at hat
      · next hnode =>
        have hmake : tree.makeDirectory path = .ok (tree.insert location .directory) := by
          simp [makeDirectory, hnul, hlocate, hnode]
        rw [ensureDirectory, hmake] at h
        cases h
      · cases hat
      · cases hat

end ClientGen.FileTree

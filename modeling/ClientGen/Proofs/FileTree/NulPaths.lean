import ClientGen.FileTree.Basic
import ClientGen.Proofs.ModulePath

/-!
# Paths with a NUL character

No file can have a NUL character in its path, and the system is not even asked for one. A path holds
the character exactly when its anchor or one of its parts does, so it stays out of every path that is
read and joined from texts without it, and the path of a module holds it only when the name of the
project, of a folder or of the class does. A save ends with the character exactly when the path of the
file holds it, unless the directories above the file are refused first.
-/

namespace ClientGen

namespace Path

variable {c : Char}

/-- The anchor or a part of a path holds a character. -/
def Holds (c : Char) (path : Path) : Prop :=
  c ∈ path.anchor.toList ∨ ∃ part ∈ path.parts, c ∈ part.toList

/-- It is decidable whether a path holds a character. -/
instance (c : Char) (path : Path) : Decidable (path.Holds c) :=
  inferInstanceAs (Decidable (_ ∨ ∃ part ∈ path.parts, _))

/-- Joined parts hold the characters of the parts, apart from the slashes between them. -/
theorem mem_intercalate_iff (hslash : c ≠ '/') (parts : List String) :
    c ∈ ("/".intercalate parts).toList ↔ ∃ part ∈ parts, c ∈ part.toList := by
  induction parts with
  | nil => simp
  | cons first rest ih =>
    cases rest with
    | nil => simp
    | cons next rest =>
      have hsep : c ∉ "/".toList := by simpa using hslash
      rw [String.intercalate_cons_cons, String.toList_append, String.toList_append, List.mem_append,
        List.mem_append, ih, or_iff_left hsep]
      simp only [List.mem_cons, exists_eq_or_imp]

/-- The text of a path holds what its anchor and its parts hold, apart from slashes and dots. -/
theorem mem_text_iff (hslash : c ≠ '/') (hdot : c ≠ '.') (path : Path) :
    c ∈ path.text.toList ↔ path.Holds c := by
  have hjoined : c ∈ (path.anchor ++ "/".intercalate path.parts).toList ↔ path.Holds c := by
    rw [String.toList_append, List.mem_append, mem_intercalate_iff hslash, Holds]
  rw [text, ← hjoined]
  split
  · next hempty =>
    rw [hempty]
    simpa using hdot
  · exact Iff.rfl

/-- The parent of a path holds nothing that the path does not hold. -/
theorem Holds.of_parent {path : Path} (h : path.parent.Holds c) : path.Holds c :=
  h.imp_right fun ⟨part, hpart, hc⟩ => ⟨part, List.mem_of_mem_dropLast hpart, hc⟩

/-- Joined paths hold nothing that neither of them holds. -/
theorem Holds.of_join {left right : Path} (h : (left.join right).Holds c) :
    left.Holds c ∨ right.Holds c := by
  unfold join at h
  split at h
  · rcases h with h | ⟨part, hpart, hc⟩
    · exact .inl (.inl h)
    · exact (List.mem_append.mp hpart).imp (fun h => .inr ⟨part, h, hc⟩) fun h => .inr ⟨part, h, hc⟩
  · exact .inr h

/-- The anchor of a text is made of slashes. -/
theorem eq_slash_of_mem_anchorOf {cs : List Char} (h : c ∈ (anchorOf cs).toList) : c = '/' := by
  unfold anchorOf at h
  split at h <;> simp at h <;> exact h

/-- The path that a text is read as holds nothing that the text does not hold, apart from slashes. -/
theorem Holds.of_ofText (hslash : c ≠ '/') {s : String} (h : (ofText s).Holds c) : c ∈ s.toList := by
  rcases h with h | ⟨part, hpart, hc⟩
  · exact absurd (eq_slash_of_mem_anchorOf h) hslash
  · exact (Text.of_mem_split (List.mem_filter.mp hpart).1 c hc).1

/-- Joining texts to a path adds nothing that none of them holds, apart from slashes. -/
theorem Holds.of_foldl_join (hslash : c ≠ '/') {segments : List String} {path : Path}
    (h : (segments.foldl (fun path s => path.join (ofText s)) path).Holds c) :
    path.Holds c ∨ ∃ s ∈ segments, c ∈ s.toList := by
  induction segments generalizing path with
  | nil => exact .inl h
  | cons s rest ih =>
    rcases ih h with hjoin | ⟨t, ht, hc⟩
    · exact hjoin.of_join.imp_right fun hs => ⟨s, List.mem_cons_self, hs.of_ofText hslash⟩
    · exact .inr ⟨t, List.mem_cons_of_mem s ht, hc⟩

/-- The path that texts are joined to holds nothing that none of them holds, apart from slashes. -/
theorem Holds.of_ofTexts (hslash : c ≠ '/') {segments : List String}
    (h : (ofTexts segments).Holds c) : ∃ s ∈ segments, c ∈ s.toList :=
  (Holds.of_foldl_join hslash h).resolve_left (by simp [Holds])

end Path

namespace ModulePath

/-- The folders and the file of a module hold a NUL character only when the name of the project, of a
folder or of the class does. -/
theorem nul_mem_of_segments {several : Bool} {project : String} {folders : List String}
    {className s : String} (hs : s ∈ segments project folders className several)
    (hnul : '\x00' ∈ s.toList) :
    (several = true ∧ '\x00' ∈ project.toList) ∨ (∃ folder ∈ folders.drop 1, '\x00' ∈ folder.toList) ∨
      '\x00' ∈ className.toList := by
  rcases segments_cases hs with
    ⟨hseveral, part, hpart, -, rfl⟩ | ⟨folder, hfolder, rfl⟩ | ⟨base, rfl, hbase⟩
  · exact .inl ⟨hseveral, (Text.of_mem_split hpart _ (nul_mem_of_dashCase hnul)).1⟩
  · exact .inr (.inl ⟨folder, hfolder, nul_mem_of_dashCase hnul⟩)
  · have hextension : '\x00' ∉ defaultExtension.toList := by decide
    rw [String.toList_append, List.mem_append, or_iff_left hextension] at hnul
    exact .inr (.inr (hbase _ (nul_mem_of_dashCase hnul)))

/-- The path of a module holds a NUL character only when the name of the project, of a folder or of
the class does. -/
theorem nul_mem_of_derive {several : Bool} {project : String} {folders : List String}
    {className : String}
    (h : (Path.ofText (derive project folders className several).path).Holds '\x00') :
    (several = true ∧ '\x00' ∈ project.toList) ∨ (∃ folder ∈ folders.drop 1, '\x00' ∈ folder.toList) ∨
      '\x00' ∈ className.toList := by
  have htext := h.of_ofText (by decide)
  rw [derive, Path.mem_text_iff (by decide) (by decide)] at htext
  obtain ⟨s, hs, hnul⟩ := htext.of_ofTexts (by decide)
  exact nul_mem_of_segments hs hnul

end ModulePath

namespace FileTree

/-- A path is refused for a NUL character exactly when it holds one. -/
theorem hasNul_iff {path : Path} : hasNul path = true ↔ path.Holds '\x00' := by
  rw [hasNul, List.contains_iff_mem, Path.mem_text_iff (by decide) (by decide)]

/-- Making a directory ends with a NUL character only when its path holds one. -/
theorem hasNul_of_makeDirectory {tree : FileTree} {path : Path}
    (h : tree.makeDirectory path = .error .nulCharacter) : hasNul path = true := by
  unfold makeDirectory at h
  split at h
  · assumption
  · split at h
    · cases h
    · split at h <;> cases h

/-- Ensuring that there is a directory ends with a NUL character only when its path holds one. -/
theorem hasNul_of_ensureDirectory {tree : FileTree} {path : Path}
    (h : tree.ensureDirectory path = .error .nulCharacter) : hasNul path = true := by
  unfold ensureDirectory at h
  split at h
  · cases h
  · split at h <;> cases h
  · next hmake => exact hasNul_of_makeDirectory hmake

/-- Making a directory with those above it ends with a NUL character only when its path holds one. -/
theorem hasNul_of_makeDirectoriesAt {anchor : String} {parts : List String} {tree : FileTree}
    (h : (makeDirectoriesAt anchor parts tree).1 = .error .nulCharacter) :
    hasNul ⟨anchor, parts.reverse⟩ = true := by
  induction parts generalizing tree with
  | nil =>
    rw [makeDirectoriesAt] at h
    split at h
    · cases h
    · next hmade => exact hasNul_of_ensureDirectory (Except.error.inj h ▸ hmade)
  | cons part above ih =>
    rw [makeDirectoriesAt] at h
    split at h
    · cases h
    · split at h
      · next habove =>
        have hparent : (Path.mk anchor (part :: above).reverse).parent = ⟨anchor, above.reverse⟩ := by
          simp [Path.parent]
        rw [hasNul_iff]
        apply Path.Holds.of_parent
        rw [hparent, ← hasNul_iff]
        exact ih (habove ▸ h)
      · split at h
        · cases h
        · next hmade => exact hasNul_of_ensureDirectory (Except.error.inj h ▸ hmade)
    · next hmade =>
      split at h
      · cases h
      · exact hasNul_of_makeDirectory (Except.error.inj h ▸ hmade)

/-- Writing a file ends with a NUL character exactly when its path holds one. -/
theorem write_eq_nulCharacter_iff {tree : FileTree} {path : Path} {content : ByteArray} :
    tree.write path content = .error .nulCharacter ↔ hasNul path = true := by
  constructor
  · intro h
    unfold write at h
    split at h
    · assumption
    · split at h
      · cases h
      · split at h <;> cases h
  · intro h
    rw [write, if_pos h]

/-- The directories above a path are refused. -/
def RefusesAbove (tree : FileTree) (path : Path) : Prop :=
  ∃ fault name, (tree.makeDirectories path.parent).1 = .error (.refused fault name)

/-- A save ends with a NUL character exactly when the path of the file holds one, unless the
directories above the file are refused first. -/
theorem save_eq_nulCharacter_iff {tree : FileTree} {path : Path} {content : ByteArray} :
    (tree.save path content).1 = .error .nulCharacter ↔
      hasNul path = true ∧ ¬ tree.RefusesAbove path := by
  rw [RefusesAbove, save]
  rcases hmade : tree.makeDirectories path.parent with ⟨(⟨fault, name⟩ | _) | _, between⟩
  · simp
  · have hparent : hasNul path.parent = true := by
      have h := hasNul_of_makeDirectoriesAt (congrArg Prod.fst hmade)
      rwa [List.reverse_reverse] at h
    have hpath : hasNul path = true := hasNul_iff.mpr (hasNul_iff.mp hparent).of_parent
    simp [hpath]
  · have hwrite : between.write path content = .error .nulCharacter ↔ hasNul path = true :=
      write_eq_nulCharacter_iff
    rw [← hwrite]
    dsimp only
    cases between.write path content <;> simp

end FileTree

end ClientGen

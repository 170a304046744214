import ClientGen.Loading.Format
import ClientGen.Proofs.Failure
import Mathlib.Tactic.SplitIfs

/-!
# How loading breaks off

Loading a solution is meant to end with the solution or with a refusal, which has a message for the
user. It does neither, and breaks off, for some paths and contents that no step of it expects. Here
every such cause is named, step by step: bytes that are no text, a document with a scalar that has
no value or with a key that is no text, a source or a project file that cannot be read for another
reason than its form, and paths that no file can have. Loading breaks off for exactly these causes,
with the fault of the first one it meets.
-/

namespace ClientGen

/-- The fault is a refusal, with a message for the user. -/
def LoadFault.IsRefusal (fault : LoadFault) : Prop :=
  ∃ e, fault = .refused e

/-- A step of loading breaks off: it fails with a fault that is no refusal. -/
def BreaksOff {α : Type} (result : Except LoadFault α) (fault : LoadFault) : Prop :=
  result = .error fault ∧ ¬ fault.IsRefusal

/-! ### The causes -/

/-- The file at a path has a text, each of its line ends read as a line feed. -/
def HasText (tree : FileTree) (path : Path) (text : String) : Prop :=
  ∃ written : String, tree.read path = .ok written.toUTF8 ∧
    text = String.ofList (Solution.withLineFeeds written.toList)

/-- Why a text file has no text and is not refused. -/
inductive TextBreaks (tree : FileTree) (path : Path) : LoadFault → Prop
  /-- The path has a NUL character. -/
  | nul (nul : '\x00' ∈ path.text.toList) : TextBreaks tree path .nulCharacter
  /-- The bytes of the file are those of no text. -/
  | notUnicode {content : ByteArray} (stands : tree.read path = .ok content)
    (other : ∀ text : String, text.toUTF8 ≠ content) : TextBreaks tree path .notUnicode

/-- Why a snapshot is neither read nor refused. -/
inductive SnapshotBreaks (tree : FileTree) (path : Path) : LoadFault → Prop
  /-- Its file has no text. -/
  | noText {fault : LoadFault} (breaks : TextBreaks tree path fault) :
    SnapshotBreaks tree path fault
  /-- Its text is a document, but a scalar of it has no value. -/
  | scalar {text : String} {fault : Yaml.Fault} (has : HasText tree path text)
    (read : Yaml.readDocument text = .error fault) (formed : fault ≠ .malformed) :
    SnapshotBreaks tree path (.scalar fault)
  /-- Its text is a mapping with a key that is no text. -/
  | key {text : String} {entries : List (Yaml.Value × Yaml.Value)} (has : HasText tree path text)
    (read : Yaml.readDocument text = .ok (.map entries))
    (other : ∃ entry ∈ entries, ∀ key, entry.1 ≠ .text key) : SnapshotBreaks tree path .keyNotText

/-- Why a source file below a directory is neither read nor refused. -/
inductive SourceBreaks (tree : FileTree) (directory : Path) (parts : List String) :
    LoadFault → Prop
  /-- Its path has a NUL character. -/
  | nul (nul : '\x00' ∈ (directory.join ⟨"", parts⟩).text.toList) :
    SourceBreaks tree directory parts .nulCharacter
  /-- No document can be made of its bytes. -/
  | document {content : ByteArray} {fault : CSharp.SourceFault}
    (stands : tree.read (directory.join ⟨"", parts⟩) = .ok content)
    (read : CSharp.readDocument (.ofBytes content.toList) (parts.getLast?.getD "") parts.dropLast =
      .error fault) :
    SourceBreaks tree directory parts (.source fault)

/-- Why a project file is neither read nor refused. -/
inductive ProjectFileBreaks (tree : FileTree) (file : Path) : LoadFault → Prop
  /-- Its path has a NUL character. -/
  | nul (nul : '\x00' ∈ file.text.toList) : ProjectFileBreaks tree file .nulCharacter
  /-- It names an encoding that cannot be read. -/
  | encoding {content : ByteArray} {fault : Markup.DocumentFault}
    (stands : tree.read file = .ok content)
    (read : Markup.Document.ofBytes content.toList = .error fault) (formed : fault ≠ .malformed) :
    ProjectFileBreaks tree file (.projectEncoding fault)

/-- Why a project is neither loaded nor refused. -/
inductive ProjectBreaks (tree : FileTree) (file : Path) : LoadFault → Prop
  /-- The path of its directory is too long. -/
  | tooLong (long : tree.locate file.parent = .error .nameTooLong) :
    ProjectBreaks tree file .nameTooLong
  /-- A source breaks off, and those before it are read. -/
  | source {before after : List (List String)} {parts : List String} {fault : LoadFault}
    (short : tree.locate file.parent ≠ .error .nameTooLong)
    (sources : SourceTree.sourcesBelow tree file.parent = before ++ parts :: after)
    (earlier : ∀ other ∈ before, ∃ document,
      SourceTree.readSource tree file.parent other = .ok document)
    (breaks : SourceBreaks tree file.parent parts fault) : ProjectBreaks tree file fault
  /-- The project file breaks off, and all sources are read. -/
  | projectFile {fault : LoadFault} (short : tree.locate file.parent ≠ .error .nameTooLong)
    (sources : ∀ parts ∈ SourceTree.sourcesBelow tree file.parent, ∃ document,
      SourceTree.readSource tree file.parent parts = .ok document)
    (breaks : ProjectFileBreaks tree file fault) : ProjectBreaks tree file fault

/-- Why a solution file is neither loaded nor refused. -/
inductive SolutionFileBreaks (tree : FileTree) (file : Path) : LoadFault → Prop
  /-- It has no text. -/
  | noText {fault : LoadFault} (breaks : TextBreaks tree file fault) :
    SolutionFileBreaks tree file fault
  /-- A project that it lists breaks off, and those before it are loaded. -/
  | project {before after : List (String × Path)} {name : String} {project : Path}
    {fault : LoadFault}
    (listed : Solution.listedProjects tree file = .ok (before ++ (name, project) :: after))
    (earlier : ∀ other ∈ before, ∃ loaded, SourceTree.loadProject tree other.1 other.2 = .ok loaded)
    (breaks : ProjectBreaks tree project fault) : SolutionFileBreaks tree file fault

/-- Why what stands at a path is neither loaded nor refused. -/
inductive LoadBreaks (tree : FileTree) (path : Path) : LoadFault → Prop
  /-- The path is too long to be looked at. -/
  | tooLong (clean : '\x00' ∉ path.text.toList) (long : tree.locate path = .error .nameTooLong) :
    LoadBreaks tree path .nameTooLong
  /-- It is a snapshot that breaks off. -/
  | snapshot {fault : LoadFault} (detected : SolutionFormat.detect tree path = .ok .snapshot)
    (breaks : SnapshotBreaks tree path fault) : LoadBreaks tree path fault
  /-- Its solution file breaks off. -/
  | solution {fault : LoadFault} (detected : SolutionFormat.detect tree path = .ok .solution)
    (breaks : SolutionFileBreaks tree (Solution.fileAt tree path) fault) :
    LoadBreaks tree path fault

/-! ### Steps that break off -/

section Steps

variable {α β : Type} {fault : LoadFault}

/-- A step that succeeds does not break off. -/
theorem not_breaksOff_ok (a : α) : ¬ BreaksOff (.ok a) fault :=
  fun h => nomatch h.1

/-- A step that is refused does not break off. -/
theorem not_breaksOff_refused (e : LoadError) :
    ¬ BreaksOff (.error (.refused e) : Except _ α) fault := by
  rintro ⟨h, hrefusal⟩
  exact hrefusal ⟨e, (Except.error.inj h).symm⟩

/-- A step that fails with another fault breaks off with it. -/
theorem breaksOff_error_iff {other : LoadFault} (h : ¬ other.IsRefusal) :
    BreaksOff (.error other : Except _ α) fault ↔ fault = other := by
  constructor
  · exact fun hbreaks => (Except.error.inj hbreaks.1).symm
  · rintro rfl
    exact ⟨rfl, h⟩

/-- Two steps break off when the first one does, or the second one after the first. -/
theorem breaksOff_bind_iff {first : Except LoadFault α} {second : α → Except LoadFault β} :
    BreaksOff (first >>= second) fault ↔
      BreaksOff first fault ∨ ∃ a, first = .ok a ∧ BreaksOff (second a) fault := by
  rw [BreaksOff, bind_eq_error_iff, or_and_right, BreaksOff]
  simp only [BreaksOff, exists_and_right, ← and_assoc]

/-- A step whose result is changed breaks off when the step does. -/
theorem breaksOff_bind_pure_iff {first : Except LoadFault α} {change : α → β} :
    BreaksOff (first >>= fun a => pure (change a)) fault ↔ BreaksOff first fault := by
  rw [breaksOff_bind_iff]
  exact or_iff_left fun ⟨_, _, h⟩ => not_breaksOff_ok _ h

/-- Steps for the members of a list break off when the step of a member does and those before it
succeed. -/
theorem breaksOff_mapM_iff {step : α → Except LoadFault β} {values : List α} :
    BreaksOff (values.mapM step) fault ↔
      ∃ before value after, values = before ++ value :: after ∧
        (∀ earlier ∈ before, ∃ result, step earlier = .ok result) ∧
          BreaksOff (step value) fault := by
  rw [BreaksOff, mapM_eq_error_iff]
  simp only [BreaksOff, ← and_assoc, exists_and_right]

/-- A computation with errors of its own breaks off with those that are turned into no refusal. -/
theorem breaksOff_mapError_iff {ε : Type} {result : Except ε α} {change : ε → LoadFault} :
    BreaksOff (result.mapError change) fault ↔
      ∃ e, result = .error e ∧ fault = change e ∧ ¬ (change e).IsRefusal := by
  cases result with
  | ok a => exact iff_of_false (not_breaksOff_ok a) fun ⟨_, h, _⟩ => nomatch h
  | error e =>
    constructor
    · rintro ⟨h, hrefusal⟩
      obtain rfl := Except.error.inj h
      exact ⟨e, rfl, rfl, hrefusal⟩
    · rintro ⟨_, ⟨⟩, rfl, hrefusal⟩
      exact ⟨rfl, hrefusal⟩

/-- A reader breaks off with all its errors but the one that is refused. -/
theorem breaksOff_reader_iff {ε : Type} [DecidableEq ε] {result : Except ε α} {malformed : ε}
    {refusal : LoadError} {other : ε → LoadFault} (hother : ∀ e, ¬ (other e).IsRefusal) :
    BreaksOff (result.mapError fun e => if e = malformed then .refused refusal else other e) fault ↔
      ∃ e, result = .error e ∧ e ≠ malformed ∧ fault = other e := by
  rw [breaksOff_mapError_iff]
  refine exists_congr fun e => and_congr_right fun _ => ?_
  by_cases hformed : e = malformed
  · rw [if_pos hformed]
    exact iff_of_false (fun h => h.2 ⟨_, rfl⟩) fun h => h.1 hformed
  · rw [if_neg hformed, and_iff_left (hother e), and_iff_right hformed]

end Steps

/-! ### Reading files -/

/-- Reading a file fails without a refusal only when its path has a NUL character. -/
theorem read_eq_nulCharacter_iff {tree : FileTree} {path : Path} :
    tree.read path = .error .nulCharacter ↔ '\x00' ∈ path.text.toList := by
  rw [← List.contains_iff_mem, ← FileTree.hasNul, FileTree.read]
  split
  · next h => exact iff_of_true rfl h
  · next h =>
    refine iff_of_false ?_ h
    split <;> exact fun h => nomatch h

/-- A step that begins with reading a file breaks off when the path has a NUL character, or after
the file is read. -/
theorem breaksOff_read_iff {α : Type} {tree : FileTree} {path : Path}
    {refusal : String → FileFault → LoadError} {next : ByteArray → Except LoadFault α}
    {fault : LoadFault} :
    BreaksOff ((tree.read path).mapError (FileError.toLoadFault refusal) >>= next) fault ↔
      ('\x00' ∈ path.text.toList ∧ fault = .nulCharacter) ∨
        ∃ content, tree.read path = .ok content ∧ BreaksOff (next content) fault := by
  rw [← read_eq_nulCharacter_iff]
  rcases hread : tree.read path with (⟨reason, name⟩ | _) | content
  · exact iff_of_false (not_breaksOff_refused _) (by simp)
  · refine (breaksOff_error_iff (by simp [LoadFault.IsRefusal, FileError.toLoadFault])).trans ?_
    simp [FileError.toLoadFault]
  · constructor
    · exact fun h => .inr ⟨content, rfl, h⟩
    · rintro (⟨h, -⟩ | ⟨_, ⟨⟩, h⟩)
      · cases h
      · exact h

/-- Bytes are read as a text exactly when they are those of the text. -/
theorem fromUTF8?_eq_some_iff {content : ByteArray} {text : String} :
    String.fromUTF8? content = some text ↔ text.toUTF8 = content := by
  rw [String.fromUTF8?]
  split
  · rw [Option.some.injEq]
    constructor <;> rintro rfl <;> rfl
  · next h =>
    refine iff_of_false (fun h => nomatch h) ?_
    rintro rfl
    exact h text.isValidUTF8

/-- Bytes are not read exactly when they are those of no text. -/
theorem fromUTF8?_eq_none_iff {content : ByteArray} :
    String.fromUTF8? content = none ↔ ∀ text : String, text.toUTF8 ≠ content := by
  rw [Option.eq_none_iff_forall_ne_some]
  exact forall_congr' fun text => not_congr fromUTF8?_eq_some_iff

namespace Solution

/-- Reading a text is reading a file, and then its bytes as a text. -/
theorem readText_eq (tree : FileTree) (path : Path) (refusal : String → FileFault → LoadError) :
    readText tree path refusal =
      (tree.read path).mapError (FileError.toLoadFault refusal) >>= fun content =>
        match String.fromUTF8? content with
        | some text => .ok (String.ofList (withLineFeeds text.toList))
        | none => .error .notUnicode := by
  rw [readText]
  cases tree.read path <;> rfl

/-- A file is read as the text it has. -/
theorem readText_eq_ok_iff {tree : FileTree} {path : Path}
    {refusal : String → FileFault → LoadError} {text : String} :
    readText tree path refusal = .ok text ↔ HasText tree path text := by
  constructor
  · intro h
    rw [readText_eq] at h
    obtain ⟨content, hstands, h⟩ := bind_eq_ok_iff.mp h
    split at h
    · next written hwritten =>
      obtain rfl := fromUTF8?_eq_some_iff.mp hwritten
      exact ⟨written, mapError_eq_ok_iff.mp hstands, (Except.ok.inj h).symm⟩
    · cases h
  · rintro ⟨written, hstands, rfl⟩
    rw [readText_eq, hstands]
    have hwritten : String.fromUTF8? written.toUTF8 = some written := fromUTF8?_eq_some_iff.mpr rfl
    refine bind_eq_ok_iff.mpr ⟨_, rfl, ?_⟩
    rw [hwritten]

/-- Reading a text breaks off for the causes of a text. -/
theorem breaksOff_readText_iff {tree : FileTree} {path : Path}
    {refusal : String → FileFault → LoadError} {fault : LoadFault} :
    BreaksOff (readText tree path refusal) fault ↔ TextBreaks tree path fault := by
  rw [readText_eq, breaksOff_read_iff]
  constructor
  · rintro (⟨hnul, rfl⟩ | ⟨content, hstands, hbreaks⟩)
    · exact .nul hnul
    · split at hbreaks
      · exact absurd hbreaks (not_breaksOff_ok _)
      · next hnone =>
        obtain rfl := (breaksOff_error_iff (by simp [LoadFault.IsRefusal])).mp hbreaks
        exact .notUnicode hstands (fromUTF8?_eq_none_iff.mp hnone)
  · rintro (hnul | ⟨hstands, hother⟩)
    · exact .inl ⟨hnul, rfl⟩
    · refine .inr ⟨_, hstands, ?_⟩
      rw [fromUTF8?_eq_none_iff.mpr hother]
      exact (breaksOff_error_iff (by simp [LoadFault.IsRefusal])).mpr rfl

end Solution

/-! ### Snapshots -/

/-- The value of a document breaks off only when it is a mapping with a key that is no text. -/
theorem breaksOff_ofValue_iff {value : Yaml.Value} {fault : LoadFault} :
    BreaksOff (Snapshot.ofValue value) fault ↔
      (∃ entries, value = .map entries ∧ ∃ entry ∈ entries, ∀ key, entry.1 ≠ .text key) ∧
        fault = .keyNotText := by
  have hkey (key : Yaml.Value) : Snapshot.isText key = false ↔ ∀ text, key ≠ .text text := by
    cases key <;> simp [Snapshot.isText]
  unfold Snapshot.ofValue
  split
  · next entries =>
    have hmap : (∃ others, Yaml.Value.map entries = .map others ∧
        ∃ entry ∈ others, ∀ key, entry.1 ≠ .text key) ↔
          ∃ entry ∈ entries, ∀ key, entry.1 ≠ .text key := by
      simp
    rw [hmap]
    split_ifs with h
    · have hother : ∃ entry ∈ entries, ∀ key, entry.1 ≠ .text key := by
        simpa [← hkey] using h
      rw [and_iff_right hother]
      exact breaksOff_error_iff (by simp [LoadFault.IsRefusal])
    · have hall : ¬ ∃ entry ∈ entries, ∀ key, entry.1 ≠ .text key := by
        simpa [← hkey] using h
      refine iff_of_false ?_ fun hbreaks => hall hbreaks.1
      split
      · exact not_breaksOff_ok _
      · exact not_breaksOff_refused _
  · next hother =>
    refine iff_of_false (not_breaksOff_refused _) ?_
    rintro ⟨⟨entries, rfl, -⟩, -⟩
    exact hother entries rfl

/-- Loading a snapshot breaks off for the causes of a snapshot. -/
theorem breaksOff_loadSnapshot_iff {tree : FileTree} {path : Path} {fault : LoadFault} :
    BreaksOff (Solution.loadSnapshot tree path) fault ↔ SnapshotBreaks tree path fault := by
  have hparse (text : String) : Snapshot.parse text =
      (Yaml.readDocument text).mapError (fun e =>
        if e = .malformed then .refused .malformedSnapshot else .scalar e) >>= Snapshot.ofValue := by
    rw [Snapshot.parse]
    rcases Yaml.readDocument text with (_ | _) | value <;> rfl
  have hbreaks (text : String) : BreaksOff (Snapshot.parse text) fault ↔
      (∃ e, Yaml.readDocument text = .error e ∧ e ≠ .malformed ∧ fault = .scalar e) ∨
        ∃ value, Yaml.readDocument text = .ok value ∧ BreaksOff (Snapshot.ofValue value) fault := by
    rw [hparse, breaksOff_bind_iff, breaksOff_reader_iff (by simp [LoadFault.IsRefusal])]
    simp only [mapError_eq_ok_iff]
  rw [Solution.loadSnapshot, breaksOff_bind_iff, Solution.breaksOff_readText_iff]
  simp only [Solution.readText_eq_ok_iff, hbreaks, breaksOff_ofValue_iff]
  constructor
  · rintro (htext | ⟨text, has, ⟨e, hread, hformed, rfl⟩ | ⟨_, hread, ⟨_, rfl, hkey⟩, rfl⟩⟩)
    · exact .noText htext
    · exact .scalar has hread hformed
    · exact .key has hread hkey
  · rintro (htext | ⟨has, hread, hformed⟩ | ⟨has, hread, hkey⟩)
    · exact .inl htext
    · exact .inr ⟨_, has, .inl ⟨_, hread, hformed, rfl⟩⟩
    · exact .inr ⟨_, has, .inr ⟨_, hread, ⟨_, rfl, hkey⟩, rfl⟩⟩

/-! ### Projects -/

namespace SourceTree

/-- Reading a source breaks off for the causes of a source. -/
theorem breaksOff_readSource_iff {tree : FileTree} {directory : Path} {parts : List String}
    {fault : LoadFault} :
    BreaksOff (readSource tree directory parts) fault ↔ SourceBreaks tree directory parts fault := by
  have hread : readSource tree directory parts =
      (tree.read (directory.join ⟨"", parts⟩)).mapError (FileError.toLoadFault .unreadableSource) >>=
        fun content => (CSharp.readDocument (.ofBytes content.toList) (parts.getLast?.getD "")
          parts.dropLast).mapError .source := by
    rw [readSource]
    rcases tree.read (directory.join ⟨"", parts⟩) with e | content
    · rfl
    · change _ = Except.mapError _ (CSharp.readDocument (.ofBytes content.toList) _ _)
      dsimp only
      cases CSharp.readDocument (.ofBytes content.toList) (parts.getLast?.getD "")
        parts.dropLast <;> rfl
  rw [hread, breaksOff_read_iff]
  constructor
  · rintro (⟨hnul, rfl⟩ | ⟨content, hstands, hbreaks⟩)
    · exact .nul hnul
    · obtain ⟨reason, hdocument, rfl, -⟩ := breaksOff_mapError_iff.mp hbreaks
      exact .document hstands hdocument
  · rintro (hnul | ⟨hstands, hdocument⟩)
    · exact .inl ⟨hnul, rfl⟩
    · exact .inr ⟨_, hstands, breaksOff_mapError_iff.mpr
        ⟨_, hdocument, rfl, by simp [LoadFault.IsRefusal]⟩⟩

/-- Reading a project file breaks off for the causes of a project file. -/
theorem breaksOff_readAssemblyName_iff {tree : FileTree} {file : Path} {default : String}
    {fault : LoadFault} :
    BreaksOff (readAssemblyName tree file default) fault ↔ ProjectFileBreaks tree file fault := by
  have hread : readAssemblyName tree file default =
      (tree.read file).mapError (FileError.toLoadFault .unreadableProject) >>= fun content =>
        (ProjectFile.assemblyName content default).mapError fun e =>
          if e = .malformed then .refused (.malformedProject file.text) else .projectEncoding e := by
    rw [readAssemblyName]
    rcases tree.read file with e | content
    · rfl
    · change _ = Except.mapError _ (ProjectFile.assemblyName content default)
      dsimp only
      rcases ProjectFile.assemblyName content default with (_ | _) | name <;> rfl
  have hencoding (e : Markup.DocumentFault) : ¬ (LoadFault.projectEncoding e).IsRefusal := by
    simp [LoadFault.IsRefusal]
  rw [hread, breaksOff_read_iff]
  simp only [breaksOff_reader_iff hencoding, ProjectFile.assemblyName, map_eq_error_iff]
  constructor
  · rintro (⟨hnul, rfl⟩ | ⟨content, hstands, e, hroot, hformed, rfl⟩)
    · exact .nul hnul
    · exact .encoding hstands hroot hformed
  · rintro (hnul | ⟨hstands, hroot, hformed⟩)
    · exact .inl ⟨hnul, rfl⟩
    · exact .inr ⟨_, hstands, _, hroot, hformed, rfl⟩

/-- The sources of a project cannot be found only when the path of its directory is too long. -/
theorem breaksOff_sourceFiles_iff {tree : FileTree} {directory : Path} {fault : LoadFault} :
    BreaksOff (sourceFiles tree directory) fault ↔
      tree.locate directory = .error .nameTooLong ∧ fault = .nameTooLong := by
  rw [sourceFiles]
  split
  · next hlong =>
    rw [hlong, and_iff_right rfl]
    exact breaksOff_error_iff (by simp [LoadFault.IsRefusal])
  · next hshort => exact iff_of_false (not_breaksOff_ok _) fun h => hshort h.1

/-- Otherwise they are those below the directory. -/
theorem sourceFiles_eq_ok_iff {tree : FileTree} {directory : Path} {sources : List (List String)} :
    sourceFiles tree directory = .ok sources ↔
      tree.locate directory ≠ .error .nameTooLong ∧ sources = sourcesBelow tree directory := by
  rw [sourceFiles]
  split
  · next hlong => exact iff_of_false (fun h => nomatch h) fun h => h.1 hlong
  · next hshort =>
    rw [and_iff_right hshort, Except.ok.injEq]
    exact eq_comm

/-- Loading a project breaks off for the causes of a project. -/
theorem breaksOff_loadProject_iff {tree : FileTree} {name : String} {file : Path}
    {fault : LoadFault} :
    BreaksOff (loadProject tree name file) fault ↔ ProjectBreaks tree file fault := by
  rw [loadProject, breaksOff_bind_iff]
  constructor
  · rintro (hlong | ⟨sources, hsources, hbreaks⟩)
    · obtain ⟨long, rfl⟩ := breaksOff_sourceFiles_iff.mp hlong
      exact .tooLong long
    · obtain ⟨hshort, rfl⟩ := sourceFiles_eq_ok_iff.mp hsources
      rcases breaksOff_bind_iff.mp hbreaks with hbreaks | ⟨documents, hdocuments, hbreaks⟩
      · obtain ⟨before, parts, after, hsources, hearlier, hbreaks⟩ := breaksOff_mapM_iff.mp hbreaks
        exact .source hshort hsources hearlier (breaksOff_readSource_iff.mp hbreaks)
      · have hfile := breaksOff_readAssemblyName_iff.mp (breaksOff_bind_pure_iff.mp hbreaks)
        exact .projectFile hshort (exists_mapM_eq_ok_iff.mp ⟨documents, hdocuments⟩) hfile
  · rintro (hlong | ⟨hshort, hsources, hearlier, hbreaks⟩ | ⟨hshort, hsources, hbreaks⟩)
    · exact .inl (breaksOff_sourceFiles_iff.mpr ⟨hlong, rfl⟩)
    · refine .inr ⟨_, sourceFiles_eq_ok_iff.mpr ⟨hshort, rfl⟩, breaksOff_bind_iff.mpr (.inl ?_)⟩
      exact breaksOff_mapM_iff.mpr
        ⟨_, _, _, hsources, hearlier, breaksOff_readSource_iff.mpr hbreaks⟩
    · obtain ⟨documents, hdocuments⟩ := exists_mapM_eq_ok_iff.mpr hsources
      refine .inr ⟨_, sourceFiles_eq_ok_iff.mpr ⟨hshort, rfl⟩,
        breaksOff_bind_iff.mpr (.inr ⟨documents, hdocuments, ?_⟩)⟩
      exact breaksOff_bind_pure_iff.mpr (breaksOff_readAssemblyName_iff.mpr hbreaks)

end SourceTree

/-! ### Solution files -/

namespace Solution

/-- Listing the projects of a solution file breaks off when it has no text. -/
theorem breaksOff_listedProjects_iff {tree : FileTree} {file : Path} {fault : LoadFault} :
    BreaksOff (listedProjects tree file) fault ↔ TextBreaks tree file fault := by
  rw [listedProjects, breaksOff_bind_pure_iff, breaksOff_readText_iff]

/-- Loading listed projects breaks off with the first of them that does. -/
theorem breaksOff_loadListed_iff {tree : FileTree} {listed : List (String × Path)}
    {fault : LoadFault} :
    BreaksOff (do
        let projects ← listed.mapM fun (name, project) => SourceTree.loadProject tree name project
        return Solution.ofProjects projects) fault ↔
      ∃ before name project after, listed = before ++ (name, project) :: after ∧
        (∀ other ∈ before, ∃ loaded, SourceTree.loadProject tree other.1 other.2 = .ok loaded) ∧
          ProjectBreaks tree project fault := by
  rw [breaksOff_bind_pure_iff, breaksOff_mapM_iff]
  simp only [Prod.exists, SourceTree.breaksOff_loadProject_iff]

/-- Loading a solution file breaks off for the causes of a solution file. -/
theorem breaksOff_loadSolutionFile_iff {tree : FileTree} {file : Path} {fault : LoadFault} :
    BreaksOff (loadSolutionFile tree file) fault ↔ SolutionFileBreaks tree file fault := by
  rw [loadSolutionFile, breaksOff_bind_iff, breaksOff_listedProjects_iff]
  constructor
  · rintro (htext | ⟨listed, hlisted, hbreaks⟩)
    · exact .noText htext
    · cases listed with
      | nil => exact absurd hbreaks (not_breaksOff_refused _)
      | cons first rest =>
        obtain ⟨before, name, project, after, hmembers, hearlier, hbreaks⟩ :=
          breaksOff_loadListed_iff.mp hbreaks
        exact .project (hmembers ▸ hlisted) hearlier hbreaks
  · rintro (htext | @⟨before, after, name, project, _, hlisted, hearlier, hbreaks⟩)
    · exact .inl htext
    · refine .inr ⟨_, hlisted, ?_⟩
      have hloads :=
        breaksOff_loadListed_iff.mpr ⟨before, name, project, after, rfl, hearlier, hbreaks⟩
      -- the list of projects is not empty, whatever stands before the one that breaks off
      cases before <;> exact hloads

end Solution

/-! ### Whatever stands at a path -/

namespace SolutionFormat

/-- Telling the format breaks off only when the path is too long to be looked at. -/
theorem breaksOff_detect_iff {tree : FileTree} {path : Path} {fault : LoadFault} :
    BreaksOff (detect tree path) fault ↔
      ('\x00' ∉ path.text.toList ∧ tree.locate path = .error .nameTooLong) ∧
        fault = .nameTooLong := by
  have hlooked : BreaksOff (isDirectory tree path) fault ↔
      ('\x00' ∉ path.text.toList ∧ tree.locate path = .error .nameTooLong) ∧
        fault = .nameTooLong := by
    have hnul : FileTree.hasNul path = false ↔ '\x00' ∉ path.text.toList := by
      rw [← Bool.not_eq_true, FileTree.hasNul, List.contains_iff_mem]
    rw [← hnul, isDirectory]
    split
    · next hclean hlong =>
      rw [hclean, hlong]
      simpa using breaksOff_error_iff (by simp [LoadFault.IsRefusal])
    · next hother =>
      exact iff_of_false (not_breaksOff_ok _) fun h => hother h.1.1 h.1.2
  rw [detect, breaksOff_bind_iff, hlooked]
  refine or_iff_left ?_
  rintro ⟨there, -, h⟩
  dsimp only at h
  split at h
  · split at h
    · exact not_breaksOff_ok _ h
    · exact not_breaksOff_refused _ h
  · split at h
    · exact not_breaksOff_ok _ h
    · split at h
      · exact not_breaksOff_ok _ h
      · exact not_breaksOff_refused _ h

end SolutionFormat

namespace Solution

/-- A snapshot loads as its text says. -/
theorem load_of_snapshot {tree : FileTree} {path : Path} {text : String}
    (detected : SolutionFormat.detect tree path = .ok .snapshot) (has : HasText tree path text) :
    load tree path = Snapshot.parse text := by
  have hload : load tree path = loadSnapshot tree path := by
    rw [load, detected]
    rfl
  rw [hload, loadSnapshot, readText_eq_ok_iff.mpr has]
  rfl

/-- Loading breaks off for the causes named. -/
theorem breaksOff_load_iff (tree : FileTree) (path : Path) (fault : LoadFault) :
    BreaksOff (load tree path) fault ↔ LoadBreaks tree path fault := by
  rw [load, breaksOff_bind_iff, SolutionFormat.breaksOff_detect_iff]
  constructor
  · rintro (⟨⟨hclean, hlong⟩, rfl⟩ | ⟨_ | _, hdetected, hbreaks⟩)
    · exact .tooLong hclean hlong
    · exact .solution hdetected (breaksOff_loadSolutionFile_iff.mp hbreaks)
    · exact .snapshot hdetected (breaksOff_loadSnapshot_iff.mp hbreaks)
  · rintro (⟨hclean, hlong⟩ | ⟨hdetected, hbreaks⟩ | ⟨hdetected, hbreaks⟩)
    · exact .inl ⟨⟨hclean, hlong⟩, rfl⟩
    · exact .inr ⟨_, hdetected, breaksOff_loadSnapshot_iff.mpr hbreaks⟩
    · exact .inr ⟨_, hdetected, breaksOff_loadSolutionFile_iff.mpr hbreaks⟩

/-- A solution file whose only byte is that of an accented letter in another encoding. -/
def latinTree : FileTree where
  nodes := [(["Shop.sln"], .file ⟨#[0xe9]⟩)]

end Solution

end ClientGen

import ClientGen.Loading.SourceTree
import ClientGen.Proofs.FileTree.Reaching
import ClientGen.Proofs.Loading.BreakingOff
import ClientGen.Proofs.Text.LetterCase
import Mathlib.Data.List.Lex
import Mathlib.Data.String.Basic

/-!
# The source files of a project

The sources of a project are found by their names. What stands below the directory of the project
under the name of a source, and not in a directory of build output, is taken, each once and in the
order of the paths part by part. Nothing asks whether it is a file. In a tree without directories
that are named like sources these are exactly the source files; a directory with such a name is taken
for one, and reading it fails.
-/

namespace ClientGen

namespace FileTree

/-- The parts of a key from a location down, when it is strictly below. -/
def partsBelow? (location key : Location) : Option (List String) :=
  if isBelow location key ∧ key.length > location.length then some (key.drop location.length)
  else none

/-- A key is strictly below a location exactly when it is the location with further parts. -/
theorem partsBelow?_eq_some_iff {location key : Location} {parts : List String} :
    partsBelow? location key = some parts ↔ parts ≠ [] ∧ key = location ++ parts := by
  have hbelow : isBelow location key = true ↔ ∃ rest, location ++ rest = key :=
    List.isPrefixOf_iff_prefix
  rw [partsBelow?]
  constructor
  · intro h
    split at h
    · next hkey =>
      obtain ⟨rest, rfl⟩ := hbelow.mp hkey.1
      rw [List.drop_left] at h
      obtain rfl := Option.some.inj h
      have hlength := hkey.2
      refine ⟨?_, rfl⟩
      rintro rfl
      simp at hlength
    · cases h
  · rintro ⟨hne, rfl⟩
    have hlength : (location ++ parts).length > location.length := by
      have hpos := List.length_pos_iff.mpr hne
      rw [List.length_append]
      omega
    rw [if_pos ⟨hbelow.mpr ⟨parts, rfl⟩, hlength⟩, List.drop_left]

/-- What is below a location are the nodes at keys strictly below it. -/
theorem descendants_eq (tree : FileTree) (location : Location) :
    tree.descendants location = tree.nodes.filterMap fun entry =>
      (partsBelow? location entry.1).map fun parts => (parts, entry.2) := by
  refine List.filterMap_congr fun ⟨key, node⟩ _ => ?_
  rw [partsBelow?]
  by_cases h : isBelow location key ∧ key.length > location.length
  · simp only [if_pos h, Option.map_some]
  · simp only [if_neg h, Option.map_none]

/-- In a tree without two nodes at one location, what is below a location is what stands there. -/
theorem mem_descendants_iff {tree : FileTree} (distinct : (tree.nodes.map (·.1)).Nodup)
    {location : Location} {parts : List String} {node : Node} :
    (parts, node) ∈ tree.descendants location ↔
      parts ≠ [] ∧ tree.find? (location ++ parts) = some node := by
  rw [descendants_eq, List.mem_filterMap]
  constructor
  · rintro ⟨⟨key, found⟩, hentry, h⟩
    obtain ⟨parts', hparts, heq⟩ := Option.map_eq_some_iff.mp h
    obtain ⟨hne, hkey⟩ := partsBelow?_eq_some_iff.mp hparts
    obtain ⟨rfl, rfl⟩ := Prod.mk.inj heq
    refine ⟨hne, ?_⟩
    rw [find?, if_neg (List.append_ne_nil_of_right_ne_nil location hne)]
    exact (lookup_eq_some_iff_mem distinct).mpr (hkey ▸ hentry)
  · rintro ⟨hne, hfind⟩
    rw [find?, if_neg (List.append_ne_nil_of_right_ne_nil location hne)] at hfind
    refine ⟨_, (lookup_eq_some_iff_mem distinct).mp hfind, ?_⟩
    rw [partsBelow?_eq_some_iff.mpr ⟨hne, rfl⟩]
    rfl

/-- In such a tree, nothing is below a location twice. -/
theorem nodup_descendants {tree : FileTree} (distinct : (tree.nodes.map (·.1)).Nodup)
    (location : Location) : ((tree.descendants location).map (·.1)).Nodup := by
  have hkeys : (tree.descendants location).map (·.1) =
      (tree.nodes.map (·.1)).filterMap (partsBelow? location) := by
    rw [descendants_eq, List.map_filterMap, List.filterMap_map]
    refine List.filterMap_congr fun entry _ => ?_
    simp [Option.map_map, Function.comp_def]
  rw [hkeys]
  refine List.Nodup.filterMap (fun key key' parts hkey hkey' => ?_) distinct
  rw [(partsBelow?_eq_some_iff.mp hkey).2, (partsBelow?_eq_some_iff.mp hkey').2]

end FileTree

namespace SourceTree

/-- The parts of a path below a project name a source: the last one ends like the name of a source
file, and none of those before it is, in any letter case, the name of a directory of build output. -/
def NamesSource (parts : List String) : Prop :=
  ∃ folders name, parts = folders ++ [name] ∧ sourceEnding.toList <:+ name.toList ∧
    ∀ folder ∈ folders, ∀ word ∈ excludedDirectories, ¬ Text.InAnyCase word folder

/-- The parts of a source are not empty. -/
theorem NamesSource.ne_nil {parts : List String} (h : NamesSource parts) : parts ≠ [] := by
  obtain ⟨folders, name, rfl, -⟩ := h
  exact List.concat_ne_nil name folders

/-- The names of the directories of build output are made of small letters, none of them a `k`. -/
theorem isPlain_excludedDirectories :
    ∀ word ∈ excludedDirectories, ∀ c ∈ word.toList, Text.isPlain c = true := by
  have hall : ∀ word ∈ excludedDirectories, word.toList.all Text.isPlain = true := by decide
  exact fun word hword => List.all_eq_true.mp (hall word hword)

/-- A directory is excluded exactly when its name is one of build output in any letter case. -/
theorem contains_lower_iff {folder : String} :
    excludedDirectories.contains (Text.lower folder) = true ↔
      ∃ word ∈ excludedDirectories, Text.InAnyCase word folder := by
  rw [List.contains_iff_mem]
  constructor
  · intro h
    exact ⟨_, h, (Text.lower_eq_iff (isPlain_excludedDirectories _ h)).mp rfl⟩
  · rintro ⟨word, hword, hcase⟩
    rwa [(Text.lower_eq_iff (isPlain_excludedDirectories word hword)).mpr hcase]

/-- Parts are taken for a source exactly when they name one. -/
theorem isSource_iff {parts : List String} : isSource parts = true ↔ NamesSource parts := by
  cases parts using List.reverseRecOn with
  | nil => exact iff_of_false (by decide) fun h => h.ne_nil rfl
  | append_singleton folders name =>
    have hexcluded : (!folders.any fun folder => excludedDirectories.contains (Text.lower folder)) =
        true ↔ ∀ folder ∈ folders, ∀ word ∈ excludedDirectories, ¬ Text.InAnyCase word folder := by
      simp only [Bool.not_eq_true', List.any_eq_false, contains_lower_iff, not_exists, not_and]
    rw [isSource, List.getLast?_concat, List.dropLast_concat, Bool.and_eq_true, hexcluded,
      Option.getD_some, Text.hasEnd_iff]
    constructor
    · rintro ⟨hname, hfolders⟩
      exact ⟨folders, name, rfl, hname, hfolders⟩
    · rintro ⟨folders', name', h, hname, hfolders⟩
      obtain ⟨rfl, hlast⟩ := List.append_inj' h rfl
      obtain rfl := List.singleton_inj.mp hlast
      exact ⟨hname, hfolders⟩

/-- The order of paths is the order of the lists of their parts. -/
theorem pathLe_iff {left right : List String} :
    pathLe left right = true ↔ left = right ∨ left < right := by
  induction left generalizing right with
  | nil =>
    cases right with
    | nil => simp [pathLe]
    | cons b bs => simp [pathLe]
  | cons a as ih =>
    cases right with
    | nil => simp [pathLe]
    | cons b bs =>
      rw [pathLe, List.cons_lt_cons_iff, List.cons.injEq]
      by_cases hhead : a = b
      · subst hhead
        rw [if_pos rfl, ih]
        simp
      · rw [if_neg hhead, Text.le, decide_eq_true_iff]
        simp [hhead, le_iff_lt_or_eq]

/-- The sources below a directory strictly increase in the order of their parts, when nothing is
below it twice. -/
theorem sorted_sourcesBelow {tree : FileTree} {directory : Path}
    (distinct : ((tree.below directory).map (·.1)).Nodup) :
    (sourcesBelow tree directory).Pairwise (· < ·) := by
  have hsorted : (sourcesBelow tree directory).Pairwise
      fun left right => pathLe left right = true := by
    refine List.pairwise_mergeSort (fun a b c hab hbc => ?_) (fun a b => ?_) _
    · rw [pathLe_iff, ← le_iff_eq_or_lt] at hab hbc ⊢
      exact hab.trans hbc
    · rw [Bool.or_eq_true, pathLe_iff, pathLe_iff, ← le_iff_eq_or_lt, ← le_iff_eq_or_lt]
      exact le_total a b
  have hnodup : (sourcesBelow tree directory).Nodup :=
    (List.mergeSort_perm _ _).nodup_iff.mpr (distinct.filter _)
  exact (hsorted.and hnodup).imp fun h => (pathLe_iff.mp h.1).resolve_left h.2

/-- The sources below a directory are what is below it under the name of a source. -/
theorem mem_sourcesBelow_iff {tree : FileTree} {directory : Path} {parts : List String} :
    parts ∈ sourcesBelow tree directory ↔
      (∃ node, (parts, node) ∈ tree.below directory) ∧ NamesSource parts := by
  rw [sourcesBelow, (List.mergeSort_perm _ _).mem_iff, List.mem_filter, isSource_iff, List.mem_map]
  simp

/-- Some files are the source files below a location: all that stand there under the name of a source,
each once, in the order of their parts. -/
structure ListsSourceFiles (tree : FileTree) (location : Location) (files : List (List String)) :
    Prop where
  /-- The files strictly increase, part by part. -/
  sorted : files.Pairwise (· < ·)
  /-- They are the files under the name of a source. -/
  files : ∀ parts, parts ∈ files ↔
    (∃ content, tree.find? (location ++ parts) = some (.file content)) ∧ NamesSource parts

/-- The sources below a location, sorted, are its source files exactly when no directory has the name of
one. -/
theorem listsSourceFiles_iff_of_mem {tree : FileTree} {location : Location}
    {sources : List (List String)} (sorted : sources.Pairwise (· < ·))
    (mem : ∀ parts, parts ∈ sources ↔
      (∃ node, tree.find? (location ++ parts) = some node) ∧ NamesSource parts) :
    ListsSourceFiles tree location sources ↔
      ∀ parts, NamesSource parts → tree.find? (location ++ parts) ≠ some .directory := by
  constructor
  · intro hlists parts hnames hdirectory
    have hsource := (mem parts).mpr ⟨⟨_, hdirectory⟩, hnames⟩
    obtain ⟨⟨content, hfile⟩, -⟩ := (hlists.files parts).mp hsource
    cases hdirectory.symm.trans hfile
  · intro hnone
    refine ⟨sorted, fun parts => (mem parts).trans (and_congr_left fun hnames => ?_)⟩
    constructor
    · rintro ⟨_ | content, hnode⟩
      · exact absurd hnode (hnone parts hnames)
      · exact ⟨content, hnode⟩
    · rintro ⟨content, hfile⟩
      exact ⟨_, hfile⟩

/-- The sources of a project strictly increase, part by part, and are what stands below its directory
under the name of a source. They are its source files exactly when no directory has such a name. -/
theorem listsSourceFiles_iff {tree : FileTree} (distinct : (tree.nodes.map (·.1)).Nodup)
    {directory : Path} (found : tree.isDirectory directory = true) :
    ∃ sources, sourceFiles tree directory = .ok sources ∧ sources.Pairwise (· < ·) ∧
      (∀ parts, parts ∈ sources ↔
        (∃ node, tree.find? (tree.locationOf directory ++ parts) = some node) ∧ NamesSource parts) ∧
      (ListsSourceFiles tree (tree.locationOf directory) sources ↔
        ∀ parts, NamesSource parts →
          tree.find? (tree.locationOf directory ++ parts) ≠ some .directory) := by
  obtain ⟨-, location, hlocate, -⟩ := FileTree.isDirectory_iff.mp found
  rw [← FileTree.locate_eq hlocate]
  have hbelow : tree.below directory = tree.descendants location := by
    rw [FileTree.below, found, hlocate]
  have hread : sourceFiles tree directory = .ok (sourcesBelow tree directory) :=
    sourceFiles_eq_ok_iff.mpr ⟨by rw [hlocate]; exact nofun, rfl⟩
  have hsorted : (sourcesBelow tree directory).Pairwise (· < ·) :=
    sorted_sourcesBelow (hbelow ▸ FileTree.nodup_descendants distinct location)
  have hmem (parts : List String) : parts ∈ sourcesBelow tree directory ↔
      (∃ node, tree.find? (location ++ parts) = some node) ∧ NamesSource parts := by
    rw [mem_sourcesBelow_iff, hbelow]
    refine and_congr_left fun hnames => exists_congr fun node => ?_
    rw [FileTree.mem_descendants_iff distinct, and_iff_right hnames.ne_nil]
  exact ⟨_, hread, hsorted, hmem, listsSourceFiles_iff_of_mem hsorted hmem⟩

/-- A project with a source in a folder and with one that a build has left behind. -/
def workshopTree : FileTree where
  nodes := [(["Shop"], .directory), (["Shop", "Program.cs"], .file ⟨#[]⟩),
    (["Shop", "Controllers"], .directory), (["Shop", "Controllers", "Bin.cs"], .file ⟨#[]⟩),
    (["Shop", "Obj"], .directory), (["Shop", "Obj", "Program.cs"], .file ⟨#[]⟩)]

/-- Its sources are the two files outside the directory of build output. -/
theorem listsSourceFiles_workshop :
    (workshopTree.nodes.map (·.1)).Nodup ∧ workshopTree.isDirectory (Path.ofText "Shop") = true ∧
      ∃ sources, sourceFiles workshopTree (Path.ofText "Shop") = .ok sources ∧
        ListsSourceFiles workshopTree ["Shop"] sources := by
  have hdistinct : (workshopTree.nodes.map (·.1)).Nodup := by decide
  have hfound : workshopTree.isDirectory (Path.ofText "Shop") = true := by rfl
  have hlocation : workshopTree.locationOf (Path.ofText "Shop") = ["Shop"] := by rfl
  obtain ⟨sources, hsources, -, -, hlists⟩ := listsSourceFiles_iff hdistinct hfound
  rw [hlocation] at hlists
  refine ⟨hdistinct, hfound, sources, hsources, hlists.mpr ?_⟩
  rintro parts ⟨folders, name, rfl, hname, -⟩ hdirectory
  have hentry : (["Shop"] ++ (folders ++ [name]), Node.directory) ∈ workshopTree.nodes := by
    refine (lookup_eq_some_iff_mem hdistinct).mp ?_
    rwa [FileTree.find?, if_neg (by simp)] at hdirectory
  have hlast : folders = [] ∧ name = "Controllers" ∨ folders = [] ∧ name = "Obj" := by
    simpa [workshopTree, List.append_eq_cons_iff] using hentry
  rcases hlast with ⟨-, rfl⟩ | ⟨-, rfl⟩
  · exact absurd hname (by decide)
  · exact absurd hname (by decide)

/-- A project with a source and with a directory that is named like one. -/
def legacyTree : FileTree where
  nodes := [(["Shop"], .directory), (["Shop", "Legacy.cs"], .directory),
    (["Shop", "Program.cs"], .file ⟨#[]⟩)]

/-- Not all that is taken for a source file is one: a directory is taken too, and since it cannot be
read, the project is refused. -/
theorem not_listsSourceFiles_legacy :
    sourceFiles legacyTree (Path.ofText "Shop") = .ok [["Legacy.cs"], ["Program.cs"]] ∧
      legacyTree.find? ["Shop", "Legacy.cs"] = some .directory ∧
      ¬ ListsSourceFiles legacyTree ["Shop"] [["Legacy.cs"], ["Program.cs"]] ∧
      loadProject legacyTree "Shop" (Path.ofText "Shop/Shop.csproj") =
        .error (.refused (.unreadableSource "Shop/Legacy.cs" .isDirectory)) := by
  have hsources : sourceFiles legacyTree (Path.ofText "Shop") =
      .ok [["Legacy.cs"], ["Program.cs"]] := by
    have hsorted : [["Legacy.cs"], ["Program.cs"]].mergeSort pathLe =
        [["Legacy.cs"], ["Program.cs"]] :=
      List.mergeSort_of_pairwise (by decide)
    exact sourceFiles_eq_ok_iff.mpr ⟨nofun, hsorted.symm⟩
  refine ⟨hsources, by rfl, fun hlists => ?_, ?_⟩
  · obtain ⟨⟨content, hfile⟩, -⟩ := (hlists.files ["Legacy.cs"]).mp (by decide)
    cases hfile
  · have hparent : (Path.ofText "Shop/Shop.csproj").parent = Path.ofText "Shop" := by decide
    rw [loadProject, hparent, hsources]
    rfl

end SourceTree

end ClientGen

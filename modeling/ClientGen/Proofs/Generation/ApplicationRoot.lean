import ClientGen.Proofs.FileTree.Location
import ClientGen.Proofs.Generation.FilesLeft

/-!
# From a module up to the application

The imports of a client module begin with steps up, one more than the module has folders. The number of
folders is counted on the names that a path is made from, and the path is joined from the dash cases of
these names. The two agree because dash case keeps a name one part of a path: it takes no character away,
brings in no slash, and makes no name of dots that was none. So the steps take back all folders and the
services, wherever the application lies, and end at its directory.
-/

namespace ClientGen

/-- A text names a folder: it is one part of a path, and no step up. -/
def Path.IsFolder (s : String) : Prop :=
  IsPart s ∧ s ≠ ".."

/-- It is decidable whether a text names a folder. -/
instance : DecidablePred Path.IsFolder :=
  fun _ => inferInstanceAs (Decidable (_ ∧ _))

/-- The dash case of a folder is a folder. -/
theorem Path.IsFolder.dashCase {name : String} (h : IsFolder name) : IsFolder (dashCase name) := by
  obtain ⟨⟨hempty, hdot, hslash⟩, hdots⟩ := h
  have hne {marks : String} (hmarks : marks.toList.all isMark = true) (hname : name ≠ marks) :
      ClientGen.dashCase name ≠ marks :=
    mt (eq_of_dashCase_eq hmarks) hname
  exact ⟨⟨hne (by decide) hempty, hne (by decide) hdot, ModulePath.slash_not_mem_dashCase hslash⟩,
    hne (by decide) hdots⟩

namespace ModulePath

/-- The names that a module path is made from are folders, and the name of the class holds no slash. -/
structure FolderNames (several : Bool) (project : String) (folders : List String)
    (className : String) : Prop where
  /-- The folder of the project, where it counts. -/
  project : several = true → Path.IsFolder (projectSegment project)
  /-- The folders that count. -/
  folders : ∀ folder ∈ folders.drop 1, Path.IsFolder folder
  /-- The name of the class. -/
  className : '/' ∉ className.toList

/-- It is decidable whether names are folders. -/
instance (several : Bool) (project : String) (folders : List String) (className : String) :
    Decidable (FolderNames several project folders className) :=
  decidable_of_iff ((several = true → Path.IsFolder (projectSegment project)) ∧
      (∀ folder ∈ folders.drop 1, Path.IsFolder folder) ∧ '/' ∉ className.toList)
    ⟨fun ⟨h, h', h''⟩ => ⟨h, h', h''⟩, fun h => ⟨h.project, h.folders, h.className⟩⟩

/-- The directories of a module: that of its project, with several front ends, and the dash cases of
its folders but for the first. -/
def directories (several : Bool) (project : String) (folders : List String) : List String :=
  (if several then [projectSegment project] else []) ++ (folders.drop 1).map dashCase

/-- A module has as many directories as are counted. -/
theorem length_directories (several : Bool) (project : String) (folders : List String)
    (className : String) :
    (directories several project folders).length =
      (derive project folders className several).folderCount := by
  rw [directories, derive, List.length_append, List.length_map, List.length_drop]
  cases several <;> rfl

namespace FolderNames

variable {several : Bool} {project : String} {folders : List String} {className : String}

/-- The directories of a module are folders. -/
theorem isFolder_of_mem (h : FolderNames several project folders className) :
    ∀ s ∈ directories several project folders, Path.IsFolder s := by
  intro s hs
  rcases List.mem_append.mp hs with hs | hs
  · split at hs
    · next hseveral =>
      rw [List.mem_singleton.mp hs]
      exact h.project hseveral
    · cases hs
  · obtain ⟨folder, hfolder, rfl⟩ := List.mem_map.mp hs
    exact (h.folders folder hfolder).dashCase

/-- The directories and the file of a module are parts of a path. -/
theorem isPart_of_mem_segments (h : FolderNames several project folders className) :
    ∀ s ∈ segments project folders className several, Path.IsPart s := by
  intro s hs
  rcases List.mem_append.mp hs with hs | hs
  · exact (h.isFolder_of_mem s hs).1
  · obtain ⟨base, hbase, hchars⟩ := exists_controllerBaseName_eq className
    rw [List.mem_singleton.mp hs, Path.isPart_iff, String.toList_append, List.mem_append, hbase]
    refine ⟨isNamed_file _, not_or.mpr ⟨slash_not_mem_dashCase fun hslash => ?_, by decide⟩⟩
    exact h.className (hchars _ hslash)

/-- The path of a module is the text that joins its directories and its file. -/
theorem path_derive (h : FolderNames several project folders className) :
    (derive project folders className several).path =
      "/".intercalate (segments project folders className several) := by
  have hparts := h.isPart_of_mem_segments
  rw [derive, Path.ofTexts_of_isPart hparts, Path.text, String.empty_append]
  cases hsegments : segments project folders className several with
  | nil => exact absurd hsegments (by simp [segments])
  | cons first rest =>
    rw [hsegments] at hparts
    exact if_neg (Path.intercalate_ne_empty rest (hparts first List.mem_cons_self))

end FolderNames

end ModulePath

/-! ### Steps up -/

/-- Steps up, as they stand in an import, are split into single steps. -/
theorem Text.split_join_replicate (n : Nat) :
    split '/' (String.join (List.replicate n "../")) = List.replicate n ".." ++ [""] := by
  induction n with
  | zero => rfl
  | succ n ih =>
    have hstep : "../" = ".." ++ String.singleton '/' := rfl
    rw [List.replicate_succ, String.join_cons, hstep, split_append (by decide), ← hstep, ih,
      List.replicate_succ, List.cons_append]

/-- The beginning of an import is read as one step up more than there are folders. -/
theorem Path.ofText_rootPrefix (folderCount : Nat) :
    ofText (TypeScript.rootPrefix folderCount) = ⟨"", List.replicate (folderCount + 1) ".."⟩ := by
  have hcount : ((folderCount : Int) + 1).toNat = folderCount + 1 := by omega
  have hanchor : anchorOf (String.join (List.replicate (folderCount + 1) "../")).toList = "" := by
    apply anchorOf_eq_empty
    have hfirst : "../".toList.head? = some '.' := rfl
    rw [List.replicate_succ, String.join_cons, String.toList_append, List.head?_append, hfirst,
      Option.some_or]
    decide
  rw [TypeScript.rootPrefix, hcount, ofText, hanchor, partsOf, Text.split_join_replicate,
    List.filter_append, List.filter_replicate_of_pos (by decide)]
  exact congrArg (mk "") (List.append_nil _)

namespace FileTree

/-- As many steps up as there are names lead back to where the names lead from. -/
theorem descend_replicate_up (here : Location) (names : List String) :
    descend (here ++ names) (List.replicate names.length "..") = here := by
  induction names using List.reverseRecOn with
  | nil => exact List.append_nil here
  | append_singleton names name ih =>
    have hup : up (here ++ (names ++ [name])) = here ++ names := by
      rw [up, ← List.append_assoc, List.dropLast_concat]
    rw [List.length_append, List.length_singleton, List.replicate_succ, descend, List.foldl_cons,
      if_pos rfl, hup]
    exact ih

/-- From the directory of a file, one step up more than there are folders above the file leads back to
the directory above these folders. -/
theorem locationOf_steps_up (tree : FileTree) (above : Path) {first file : String}
    {folders : List String} (h : ∀ folder ∈ first :: folders, folder ≠ "..") :
    tree.locationOf ((above.join ⟨"", first :: folders ++ [file]⟩).parent.join
        ⟨"", List.replicate (folders.length + 1) ".."⟩) = tree.locationOf above := by
  have hparts : (above.parts ++ (first :: folders ++ [file])).dropLast =
      above.parts ++ first :: folders := by
    rw [← List.append_assoc, List.dropLast_concat]
  change descend (tree.start above)
    ((above.parts ++ (first :: folders ++ [file])).dropLast ++
      List.replicate (first :: folders).length "..") = descend (tree.start above) above.parts
  rw [hparts, descend_append, descend_append, descend_eq_append h, descend_replicate_up]

end FileTree

/-- The path of a module is relative; its parts are the folder of the project, with several front ends,
the dash cases of the folders but for the first, and the file; and it has as many directories as are
counted. So the steps up that begin the imports of a module, which are one more than are counted, lead
from the directory of the module to that of the application, wherever it lies. -/
theorem ModulePath.imports_reach_application {several : Bool} {project : String}
    {folders : List String} {className : String}
    (h : FolderNames several project folders className) :
    let module := derive project folders className several
    let above := (if several then [projectSegment project] else []) ++ (folders.drop 1).map dashCase
    let file := controllerBaseName className ++ ".ts"
    module.path = "/".intercalate (above ++ [file]) ∧
      Path.ofText module.path = ⟨"", above ++ [file]⟩ ∧
      above.length = module.folderCount ∧
      ∀ (tree : FileTree) (solution : Solution) (applicationRoot : Path) (productName : String),
        tree.locationOf
            (((Generator.new solution applicationRoot productName).fileAt module.path).parent.join
              (Path.ofText (TypeScript.rootPrefix module.folderCount))) =
          tree.locationOf (applicationRoot.join ⟨"", ["app"]⟩) := by
  intro module above file
  have hpath : Path.ofText module.path = ⟨"", above ++ [file]⟩ :=
    ofText_derive h.isPart_of_mem_segments
  have hcount : above.length = module.folderCount := length_directories several project folders _
  refine ⟨h.path_derive, hpath, hcount, fun tree solution applicationRoot productName => ?_⟩
  have hdown : ∀ folder ∈ "services" :: above, folder ≠ ".." :=
    List.forall_mem_cons.mpr ⟨by decide, fun s hs => (h.isFolder_of_mem s hs).2⟩
  have hfile : (Generator.new solution applicationRoot productName).fileAt module.path =
      (applicationRoot.join ⟨"", ["app"]⟩).join ⟨"", "services" :: above ++ [file]⟩ := by
    have hparts : applicationRoot.parts ++ ["app", "services"] ++ (above ++ [file]) =
        applicationRoot.parts ++ ["app"] ++ ("services" :: above ++ [file]) := by
      simp only [List.append_assoc, List.cons_append, List.nil_append]
    rw [Generator.fileAt, hpath]
    exact congrArg (Path.mk applicationRoot.anchor) hparts
  rw [hfile, Path.ofText_rootPrefix, ← hcount, FileTree.locationOf_steps_up tree _ hdown]

/-- A module two folders below the services, in an application that is told by a path that climbs. -/
theorem ModulePath.imports_reach_application_home :
    FolderNames true "Kinetix.Orders.FrontEnd" ["Controllers", "OpenLines"] "HomeController" ∧
      (derive "Kinetix.Orders.FrontEnd" ["Controllers", "OpenLines"] "HomeController" true).path =
        "orders/open-lines/home.ts" ∧
      ∀ solution, ({ workingDirectory := ["home"] } : FileTree).locationOf
        (((Generator.new solution ⟨"", ["..", "web"]⟩ "Kinetix").fileAt
            "orders/open-lines/home.ts").parent.join
          (Path.ofText (TypeScript.rootPrefix 2))) = ["web", "app"] := by
  have names : FolderNames true "Kinetix.Orders.FrontEnd" ["Controllers", "OpenLines"]
      "HomeController" := by decide +kernel
  obtain ⟨-, -, -, hreach⟩ := imports_reach_application names
  have hpath : (derive "Kinetix.Orders.FrontEnd" ["Controllers", "OpenLines"] "HomeController"
      true).path = "orders/open-lines/home.ts" := by decide +kernel
  refine ⟨names, hpath, fun solution => ?_⟩
  rw [hpath] at hreach
  exact hreach { workingDirectory := ["home"] } solution ⟨"", ["..", "web"]⟩ "Kinetix"

end ClientGen

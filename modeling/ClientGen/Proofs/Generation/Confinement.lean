import ClientGen.Proofs.FileTree.Climbing
import ClientGen.Proofs.Generation.FilesLeft

/-!
# Where the files of a run lie

A run creates and changes files at the locations of the paths that it reports as written, and these
are meant to lie below the services of the application. They do exactly when each of the paths leads
there, but for a path at which the same file stood before. No path is checked for that, and a path
has the folders and the class that the solution names: folders of two dots lead out of the services,
and a name with a slash may lead anywhere. Names without slashes, in folders that do not lead upwards,
never leave the services, however the tree looks in which they are written.
-/

namespace ClientGen.Generator

/-- Every file that a run creates or changes lies below the output root. -/
def Confined (g : Generator) (tree : FileTree) (run : Run) : Prop :=
  ∀ location, ¬ FileTree.SameFile tree run.tree location →
    FileTree.Below (tree.locationOf g.outputRoot) location

/-- The names of all controllers are no paths. -/
def HasBareNames (g : Generator) : Prop :=
  ∀ entry ∈ controllersOf g.frontEnds, ∀ controller ∈ entry.2.classes.head?,
    ModulePath.BareNames g.hasSeveral entry.1.name entry.2.folders controller.name

/-- It is decidable whether the names of all controllers are no paths. -/
instance (g : Generator) : Decidable g.HasBareNames :=
  inferInstanceAs (Decidable (∀ _ ∈ _, _))

/-- A module is made for the first class of its document. -/
theorem controller_of_moduleOf {g : Generator} {several : Bool} {project : Project}
    {document : Document} {m : ClientModule} (h : g.moduleOf several project document = .ok m) :
    m.controller ∈ m.document.classes.head? := by
  unfold moduleOf at h
  split at h
  · cases h
  · next controller others hclasses =>
    obtain ⟨text, -, rfl⟩ := map_eq_ok_iff.mp h
    rw [hclasses]
    rfl

/-- The paths that a run reports as written are those of the modules it records. -/
theorem written_of_generate {g : Generator} {tree : FileTree} {run : Run}
    (made : g.generate tree = some run) :
    run.written = (g.recordedModules tree).map (·.place.path) := by
  rw [eq_attemptAll_of_generate made, written_attemptAll]
  rfl

/-- A run creates and changes files where the paths that it reports as written lead. -/
theorem exists_written_of_not_sameFile {g : Generator} {tree : FileTree} {run : Run}
    (made : g.generate tree = some run) {location : Location}
    (h : ¬ FileTree.SameFile tree run.tree location) :
    ∃ path ∈ run.written, tree.locationOf (g.fileAt path) = location := by
  by_contra hnone
  have hne : ∀ m ∈ (g.attempts tree).filterMap (·.saved?), g.locationIn tree m ≠ location := by
    intro m hm hlocation
    rw [← recordedModules_eq_saved] at hm
    exact hnone ⟨m.place.path, written_of_generate made ▸ List.mem_map_of_mem hm, hlocation⟩
  rw [tree_of_generate made] at h
  exact h ((g.chained_attemptsFrom _ _ tree).grows hne).file_iff

/-- The path of a module with bare names leads below every directory. -/
theorem leadsBelow_of_hasBareNames {g : Generator} (names : g.HasBareNames) {tree : FileTree}
    {m : ClientModule} (hm : m ∈ g.recordedModules tree) (directory : Location) :
    FileTree.LeadsBelow directory (Path.ofText m.place.path) := by
  rw [recordedModules_eq_saved] at hm
  have horigin : (m.project, m.document) ∈ controllersOf g.frontEnds :=
    (g.origins_sublist g.hasSeveral _ tree).subset (List.mem_map_of_mem hm)
  obtain ⟨a, ha, hsaved⟩ := List.mem_filterMap.mp hm
  have hmade := (g.chained_attemptsFrom _ _ tree).moduleOf ha hsaved
  have hbare := names _ horigin m.controller (controller_of_moduleOf hmade)
  obtain ⟨above, file, hpath, hdown⟩ := ModulePath.exists_ofText_derive hbare
  rw [place_of_moduleOf hmade, hpath]
  exact FileTree.leadsBelow_of_forall_ne (List.append_ne_nil_of_right_ne_nil above (by simp)) hdown

/-- The files of a run are confined to the output root exactly when every path that it reports as
written leads below it, or to a file that the run has left as it was. They always are when the names
of all controllers are no paths. -/
theorem confined_iff {g : Generator} {tree : FileTree} {run : Run}
    (made : g.generate tree = some run) :
    (g.Confined tree run ↔ ∀ path ∈ run.written,
      FileTree.SameFile tree run.tree (tree.locationOf (g.fileAt path)) ∨
        FileTree.LeadsBelow (tree.locationOf g.outputRoot) (Path.ofText path)) ∧
      (g.HasBareNames → g.Confined tree run) := by
  have hiff : g.Confined tree run ↔ ∀ path ∈ run.written,
      FileTree.SameFile tree run.tree (tree.locationOf (g.fileAt path)) ∨
        FileTree.LeadsBelow (tree.locationOf g.outputRoot) (Path.ofText path) := by
    constructor
    · intro hconfined path _
      by_cases hsame : FileTree.SameFile tree run.tree (tree.locationOf (g.fileAt path))
      · exact .inl hsame
      · exact .inr (FileTree.below_locationOf_join_iff.mp (hconfined _ hsame))
    · intro hpaths location hchanged
      obtain ⟨path, hpath, rfl⟩ := exists_written_of_not_sameFile made hchanged
      exact FileTree.below_locationOf_join_iff.mpr ((hpaths path hpath).resolve_left hchanged)
  refine ⟨hiff, fun names => hiff.mpr fun path hpath => .inr ?_⟩
  rw [written_of_generate made] at hpath
  obtain ⟨m, hm, rfl⟩ := List.mem_map.mp hpath
  exact leadsBelow_of_hasBareNames names hm _

/-- The generator for a front end with one controller in given folders. -/
def annex (folders : List String) : Generator :=
  .new (.ofProjects [{
    name := "Annex.FrontEnd"
    documents := [{ name := "HomeController.cs", folders, classes := [homeController "Show"] }] }])
    ⟨"", ["out"]⟩ "Annex"

/-- In a folder of its own, the module of the controller is in the services. -/
theorem confined_annex :
    ∃ run, (annex ["Controllers", "Admin"]).generate {} = some run ∧
      run.written = ["admin/home.ts"] ∧ (annex ["Controllers", "Admin"]).HasBareNames ∧
      (annex ["Controllers", "Admin"]).Confined {} run := by
  have facts : ((annex ["Controllers", "Admin"]).generate {}).map (·.written) =
      some ["admin/home.ts"] := by decide +kernel
  have names : (annex ["Controllers", "Admin"]).HasBareNames := by decide +kernel
  obtain ⟨run, made, hwritten⟩ := Option.map_eq_some_iff.mp facts
  exact ⟨run, made, hwritten, names, (confined_iff made).2 names⟩

/-- In a folder of two dots, the module is beside the services: the run succeeds, reports the path as
it is, and creates a file out of its place. -/
theorem not_confined_annex :
    ∃ run, (annex ["Controllers", ".."]).generate {} = some run ∧ run.succeeded = true ∧
      run.written = ["../home.ts"] ∧
      (∃ content, run.tree.find? ["out", "app", "home.ts"] = some (.file content)) ∧
      ¬ (annex ["Controllers", ".."]).Confined {} run := by
  have facts : ((annex ["Controllers", ".."]).generate {}).map
        (fun run => (run.succeeded, run.written)) = some (true, ["../home.ts"]) ∧
      ∃ m ∈ (annex ["Controllers", ".."]).recordedModules {},
        (annex ["Controllers", ".."]).locationIn {} m = ["out", "app", "home.ts"] := by
    decide +kernel
  obtain ⟨hreport, m, hm, hlocation⟩ := facts
  obtain ⟨run, made, hrun⟩ := Option.map_eq_some_iff.mp hreport
  obtain ⟨hsucceeded, hwritten⟩ := Prod.mk.inj hrun
  obtain ⟨_, last, _, -, -, -, hfile⟩ := exists_last_in_file made hm
  rw [hlocation] at hfile
  refine ⟨run, made, hsucceeded, hwritten, ⟨_, hfile⟩, fun hconfined => ?_⟩
  have hchanged : ¬ FileTree.SameFile {} run.tree ["out", "app", "home.ts"] := by
    intro hsame
    cases (hsame last.text.toUTF8).mp hfile
  exact absurd (hconfined _ hchanged) (by decide)

end ClientGen.Generator

import ClientGen.Proofs.Generation.Overwriting

/-!
# The files that a run leaves

A run leaves the files of others alone. It removes nothing, it changes and creates files only at the
locations of the paths that it reports as written, and each of these files holds the text of the
last module that was written there. A controller that fails changes no file at all, wherever in the
run it comes and whatever it fails for: it has made directories at most.
-/

namespace ClientGen

/-- At a location stands the file that stood there before, or as before none. -/
def FileTree.SameFile (before after : FileTree) (location : Location) : Prop :=
  ∀ content, after.find? location = some (.file content) ↔
    before.find? location = some (.file content)

namespace Generator

/-- The file of a path that a run reports as written. -/
def fileAt (g : Generator) (path : String) : Path :=
  g.outputRoot.join (Path.ofText path)

/-- What a run does to the files of a tree. -/
structure LeavesFiles (g : Generator) (tree : FileTree) (run : Run) : Prop where
  /-- Nothing is removed. -/
  kept : FileTree.Kept tree run.tree
  /-- The modules recorded are those of their documents. -/
  modules : ∀ m ∈ g.recordedModules tree, g.moduleOf g.hasSeveral m.project m.document = .ok m
  /-- They come in the order of the controller documents. -/
  order : ((g.recordedModules tree).map fun m => (m.project, m.document)).Sublist
    (controllersOf g.frontEnds)
  /-- Their paths are the paths written. -/
  written : run.written = (g.recordedModules tree).map (·.place.path)
  /-- At the location of a path written stands the last module that was written there. -/
  last : ∀ path ∈ run.written, ∃ earlier m later, g.recordedModules tree = earlier ++ m :: later ∧
    g.locationIn tree m = tree.locationOf (g.fileAt path) ∧
      (∀ n ∈ later, g.locationIn tree n ≠ tree.locationOf (g.fileAt path)) ∧
        run.tree.find? (tree.locationOf (g.fileAt path)) = some (.file m.text.toUTF8)
  /-- Where no written path leads, no file is changed or created. -/
  elsewhere : ∀ location, (∀ path ∈ run.written, tree.locationOf (g.fileAt path) ≠ location) →
    FileTree.SameFile tree run.tree location

/-- The modules that attempts save come in the order of the documents. -/
theorem origins_sublist (g : Generator) (several : Bool) (entries : List (Project × Document))
    (tree : FileTree) :
    (((g.attemptsFrom several entries tree).filterMap (·.saved?)).map
      fun m => (m.project, m.document)).Sublist entries := by
  induction entries generalizing tree with
  | nil => exact List.nil_sublist []
  | cons entry rest ih =>
    obtain ⟨project, document⟩ := entry
    let a := g.attemptOn several tree project document
    have hrest : (((if a.ending.endsRun then [] else g.attemptsFrom several rest a.after).filterMap
        (·.saved?)).map fun m => (m.project, m.document)).Sublist rest := by
      split
      · exact List.nil_sublist rest
      · exact ih a.after
    rw [attemptsFrom]
    cases hsaved : a.saved? with
    | none =>
      rw [List.filterMap_cons_none hsaved]
      exact hrest.cons (project, document)
    | some m =>
      obtain ⟨hproject, hdocument⟩ := origin_of_moduleOf (save_of_saved? hsaved).1
      rw [List.filterMap_cons_some hsaved, List.map_cons, hproject, hdocument]
      exact hrest.cons_cons (project, document)

/-- An attempt that reports no path as written changes no file. -/
theorem sameFile_attempt {g : Generator} {several : Bool} {run : Run} {project : Project}
    {document : Document}
    (h : (g.attempt several run project document).written = run.written) (location : Location) :
    FileTree.SameFile run.tree (g.attempt several run project document).tree location := by
  rw [attempt_eq_record] at h ⊢
  have hnone : (g.attemptOn several run.tree project document).saved? = none := by
    cases hsaved : (g.attemptOn several run.tree project document).saved? with
    | none => rfl
    | some m => simp [Run.record, Attempt.writtenPath?, hsaved] at h
  exact FileTree.Grows.file_iff ((grown_of_saved? hnone).node location)

/-- A run removes nothing, every file at the location of a path that it has written holds the text of
the last module written there, and no other file is changed or created. In particular, an attempt
that fails changes no file. -/
theorem leavesFiles_of_generate {g : Generator} {tree : FileTree} {run : Run}
    (made : g.generate tree = some run) :
    g.LeavesFiles tree run ∧
      ∀ (before : Run) (project : Project) (document : Document),
        (g.attempt g.hasSeveral before project document).written = before.written →
          ∀ location, FileTree.SameFile before.tree
            (g.attempt g.hasSeveral before project document).tree location := by
  have htree := tree_of_generate made
  have hchained := g.chained_attemptsFrom g.hasSeveral (controllersOf g.frontEnds) tree
  have hwritten : run.written = (g.recordedModules tree).map (·.place.path) := by
    rw [eq_attemptAll_of_generate made, written_attemptAll]
    rfl
  refine ⟨?_, fun before project document => sameFile_attempt⟩
  refine {
    kept := htree ▸ hchained.kept
    modules := ?_
    order := ?_
    written := hwritten
    last := ?_
    elsewhere := ?_ }
  · intro m hm
    rw [recordedModules_eq_saved] at hm
    obtain ⟨a, ha, hsaved⟩ := List.mem_filterMap.mp hm
    have hmade := hchained.moduleOf ha hsaved
    obtain ⟨hproject, hdocument⟩ := origin_of_moduleOf hmade
    rwa [hproject, hdocument]
  · rw [recordedModules_eq_saved]
    exact g.origins_sublist g.hasSeveral _ tree
  · intro path hpath
    rw [hwritten] at hpath
    obtain ⟨n, hn, rfl⟩ := List.mem_map.mp hpath
    exact exists_last_in_file made hn
  · intro location hother
    have hne : ∀ m ∈ (g.attempts tree).filterMap (·.saved?), g.locationIn tree m ≠ location := by
      intro m hm
      rw [← recordedModules_eq_saved] at hm
      exact hother m.place.path (hwritten ▸ List.mem_map_of_mem hm)
    rw [htree]
    exact (hchained.grows hne).file_iff

/-- A controller whose only action has no summary. -/
def cartController : ClassDecl where
  name := "CartController"
  methods := (homeController "Pay").methods.map fun action => { action with documentation := none }

/-- The generator for a front end with two controllers of one name and another one that fails. -/
def bazaar : Generator :=
  .new (.ofProjects [{
    name := "Bazaar.FrontEnd"
    documents := [
      { name := "HomeController.cs", folders := ["Controllers"], classes := [homeController "Show"] },
      { name := "CartController.cs", folders := ["Controllers"], classes := [cartController] },
      { name := "HomeController.cs", folders := ["Api"], classes := [homeController "List"] }] }])
    ⟨"", ["out"]⟩ "Bazaar"

/-- The services directory with an earlier module of the controller that fails. -/
def bazaarFiles : FileTree where
  nodes := [
    (["out"], .directory),
    (["out", "app"], .directory),
    (["out", "app", "services"], .directory),
    (["out", "app", "services", "cart.ts"], .file "earlier".toUTF8)]

/-- In that run the later of the two modules stays, and the earlier module of the controller that
fails is where it was. -/
theorem leavesFiles_bazaar :
    ∃ run, bazaar.generate bazaarFiles = some run ∧ run.written = ["home.ts", "home.ts"] ∧
      run.failures.map (·.1) = ["Bazaar.FrontEnd/Controllers/CartController.cs"] ∧
      run.tree.find? ["out", "app", "services", "cart.ts"] = some (.file "earlier".toUTF8) ∧
      bazaar.LeavesFiles bazaarFiles run := by
  have facts : (bazaar.generate bazaarFiles).map (fun run =>
      (run.written, run.failures.map (·.1))) =
        some (["home.ts", "home.ts"], ["Bazaar.FrontEnd/Controllers/CartController.cs"]) := by
    decide +kernel
  obtain ⟨run, made, hreport⟩ := Option.map_eq_some_iff.mp facts
  obtain ⟨hwritten, hfailures⟩ := Prod.mk.inj hreport
  have hleaves := (leavesFiles_of_generate made).1
  have hcart : FileTree.SameFile bazaarFiles run.tree ["out", "app", "services", "cart.ts"] := by
    apply hleaves.elsewhere
    rw [hwritten]
    decide +kernel
  exact ⟨run, made, hwritten, hfailures, (hcart _).mpr rfl, hleaves⟩

end Generator

end ClientGen

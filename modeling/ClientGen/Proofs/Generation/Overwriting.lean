import ClientGen.Proofs.Generation.Recorded
import ClientGen.Proofs.ModulePath
import Mathlib.Data.List.Pairwise

/-!
# Modules that overwrite each other

A module that a run records can be lost again in the same run: a later module with the same file
takes its place, and both count as written. No module is lost exactly when modules that share a
file also share their text. When all names are single parts of paths, two modules share a file
exactly when nothing that goes into their paths tells their controllers apart.
-/

namespace ClientGen

/-- The folders and the file name of a module are single parts of a path, and none leads upwards. -/
def ClientModule.HasPlainNames (several : Bool) (m : ClientModule) : Prop :=
  ∀ s ∈ ModulePath.segments m.project.name m.document.folders m.controller.name several,
    Path.IsPart s ∧ s ≠ ".."

/-- The controllers of two modules have the same names in all that goes into paths. -/
def ClientModule.SameNames (several : Bool) (m n : ClientModule) : Prop :=
  ModulePath.SameNames several m.project.name n.project.name m.document.folders n.document.folders
    m.controller.name n.controller.name

/-- It is decidable whether two controllers have the same names. -/
instance (several : Bool) (m n : ClientModule) : Decidable (m.SameNames several n) :=
  inferInstanceAs (Decidable (ModulePath.SameNames ..))

/-- It is decidable whether a module has plain names. -/
instance (several : Bool) (m : ClientModule) : Decidable (m.HasPlainNames several) :=
  inferInstanceAs (Decidable (∀ _ ∈ _, _))

namespace Generator

/-- The modules that a run on a tree records. -/
def recordedModules (g : Generator) (tree : FileTree) : List ClientModule :=
  g.recorded g.hasSeveral (controllersOf g.frontEnds) { tree }

/-- At the end of a run, a module that was recorded is in its file. -/
def Keeps (g : Generator) (tree : FileTree) (run : Run) (m : ClientModule) : Prop :=
  run.tree.find? (g.locationIn tree m) = some (.file m.text.toUTF8)

/-- The modules that a run records are those that its attempts save. -/
theorem recordedModules_eq_saved (g : Generator) (tree : FileTree) :
    g.recordedModules tree = (g.attempts tree).filterMap (·.saved?) :=
  g.recorded_eq_saved g.hasSeveral _ rfl

/-- The file of a recorded module holds the last module that the run recorded in it. -/
theorem exists_last_in_file {g : Generator} {tree : FileTree} {run : Run}
    (made : g.generate tree = some run) {m : ClientModule} (hm : m ∈ g.recordedModules tree) :
    ∃ earlier last later, g.recordedModules tree = earlier ++ last :: later ∧
      g.locationIn tree last = g.locationIn tree m ∧
      (∀ n ∈ later, g.locationIn tree n ≠ g.locationIn tree m) ∧
      run.tree.find? (g.locationIn tree m) = some (.file last.text.toUTF8) := by
  cases hlast : g.lastAt tree (g.locationIn tree m) (g.recordedModules tree) with
  | none => exact absurd rfl (lastAt_eq_none_iff.mp hlast m hm)
  | some last =>
    obtain ⟨earlier, later, hsplit, hlater⟩ := split_of_lastAt hlast
    have hlocation := (lastAt_eq_some hlast).2
    rw [recordedModules_eq_saved] at hlast
    rw [tree_of_generate made]
    exact ⟨earlier, last, later, hsplit, hlocation, hlater,
      (g.chained_attemptsFrom _ _ tree).find?_of_lastAt hlast⟩

/-- Every recorded module is in its file exactly when modules with one file have one text. -/
theorem keeps_iff_eq_text {g : Generator} {tree : FileTree} {run : Run}
    (made : g.generate tree = some run) :
    (∀ m ∈ g.recordedModules tree, g.Keeps tree run m) ↔
      ∀ m ∈ g.recordedModules tree, ∀ n ∈ g.recordedModules tree,
        g.locationIn tree m = g.locationIn tree n → m.text = n.text := by
  constructor
  · intro hkeeps m hm n hn hlocation
    have hboth : Node.file m.text.toUTF8 = .file n.text.toUTF8 := by
      apply Option.some.inj
      rw [← hkeeps m hm, ← hkeeps n hn, hlocation]
    exact String.toByteArray_inj.mp (Node.file.inj hboth)
  · intro htext m hm
    obtain ⟨earlier, last, later, hsplit, hlocation, -, hfile⟩ := exists_last_in_file made hm
    have hlast : last ∈ g.recordedModules tree := by
      rw [hsplit]
      exact List.mem_append_right earlier List.mem_cons_self
    rw [Keeps, hfile, htext last hlast m hm hlocation]

/-- When all names are plain, a module is below the output root as its folders and file say. -/
theorem locationIn_of_hasPlainNames {g : Generator} {tree : FileTree} {m : ClientModule}
    (hm : m ∈ g.recordedModules tree) (hplain : m.HasPlainNames g.hasSeveral) :
    g.locationIn tree m = tree.locationOf g.outputRoot ++
      ModulePath.segments m.project.name m.document.folders m.controller.name g.hasSeveral := by
  rw [recordedModules_eq_saved] at hm
  obtain ⟨a, ha, hsaved⟩ := List.mem_filterMap.mp hm
  have hplace := place_of_moduleOf ((g.chained_attemptsFrom _ _ tree).moduleOf ha hsaved)
  have hread := ModulePath.ofText_derive fun s hs => (hplain s hs).1
  rw [locationIn, fileOf, hplace, hread]
  exact (FileTree.descend_append _ _ _).trans
    (FileTree.descend_eq_append fun s hs => (hplain s hs).2)

/-- When all names are plain, two modules have one file exactly when their controllers' names agree
in all that goes into paths. -/
theorem locationIn_eq_iff {g : Generator} {tree : FileTree} {m n : ClientModule}
    (hm : m ∈ g.recordedModules tree) (hn : n ∈ g.recordedModules tree)
    (hm' : m.HasPlainNames g.hasSeveral) (hn' : n.HasPlainNames g.hasSeveral) :
    g.locationIn tree m = g.locationIn tree n ↔ m.SameNames g.hasSeveral n := by
  rw [locationIn_of_hasPlainNames hm hm', locationIn_of_hasPlainNames hn hn',
    List.append_right_inj, ModulePath.segments_eq_iff, ClientModule.SameNames]

/-- The modules that a run records are all in files of their own. -/
def DistinctFiles (g : Generator) (tree : FileTree) : Prop :=
  (g.recordedModules tree).Pairwise fun m n => g.locationIn tree m ≠ g.locationIn tree n

/-- Modules in files of their own are all kept. -/
theorem keeps_of_distinctFiles {g : Generator} {tree : FileTree} {run : Run}
    (made : g.generate tree = some run) (hfiles : g.DistinctFiles tree) :
    ∀ m ∈ g.recordedModules tree, g.Keeps tree run m := by
  apply (keeps_iff_eq_text made).mpr
  intro m hm n hn hlocation
  have : Std.Symm fun m n => g.locationIn tree m ≠ g.locationIn tree n := ⟨fun _ _ => Ne.symm⟩
  by_cases heq : m = n
  · rw [heq]
  · exact absurd hlocation (hfiles.forall hm hn heq)

/-- When all names are plain, all modules are in files of their own exactly when something in the
names of any two controllers tells their modules apart. -/
theorem distinctFiles_iff {g : Generator} {tree : FileTree}
    (hplain : ∀ m ∈ g.recordedModules tree, m.HasPlainNames g.hasSeveral) :
    g.DistinctFiles tree ↔
      (g.recordedModules tree).Pairwise fun m n => ¬ m.SameNames g.hasSeveral n :=
  List.Pairwise.iff_of_mem fun hm hn =>
    not_congr (locationIn_eq_iff hm hn (hplain _ hm) (hplain _ hn))

/-- The paths that a run records are those of the modules it has saved. None of these modules is
lost exactly when those with one file have one text, and then in particular when all are in files of
their own. When all names are plain, the latter means that no two controllers have the same names in
all that goes into paths. -/
theorem keeps_modules_iff {g : Generator} {tree : FileTree} {run : Run}
    (made : g.generate tree = some run) :
    run.written = (g.recordedModules tree).map (·.place.path) ∧
      ((∀ m ∈ g.recordedModules tree, g.Keeps tree run m) ↔
        ∀ m ∈ g.recordedModules tree, ∀ n ∈ g.recordedModules tree,
          g.locationIn tree m = g.locationIn tree n → m.text = n.text) ∧
      (g.DistinctFiles tree → ∀ m ∈ g.recordedModules tree, g.Keeps tree run m) ∧
      ((∀ m ∈ g.recordedModules tree, m.HasPlainNames g.hasSeveral) →
        (g.DistinctFiles tree ↔
          (g.recordedModules tree).Pairwise fun m n => ¬ m.SameNames g.hasSeveral n)) := by
  refine ⟨?_, keeps_iff_eq_text made, keeps_of_distinctFiles made, distinctFiles_iff⟩
  rw [eq_attemptAll_of_generate made, written_attemptAll]
  rfl

/-- A controller with one action. -/
def homeController (action : String) : ClassDecl where
  name := "HomeController"
  methods := [{
    name := action
    returnType := { name := "string" }
    attributes := [⟨"HttpGet", [some action]⟩]
    modifiers := ["public"]
    documentation := some [{ tag := "summary", text := action }] }]

/-- The generator for a front end with two controllers of one name, the second one in given
folders. -/
def shop (folders : List String) : Generator :=
  .new (.ofProjects [{
    name := "Shop.FrontEnd"
    documents := [
      { name := "HomeController.cs", folders := ["Controllers"], classes := [homeController "Show"] },
      { name := "HomeController.cs", folders, classes := [homeController "List"] }] }])
    ⟨"", ["out"]⟩ "Shop"

/-- With the second controller in a folder of its own, both modules are kept. -/
theorem keeps_modules_shop :
    ∃ run, (shop ["Controllers", "Admin"]).generate {} = some run ∧
      run.written = ["home.ts", "admin/home.ts"] ∧
      (∀ m ∈ (shop ["Controllers", "Admin"]).recordedModules {},
        m.HasPlainNames (shop ["Controllers", "Admin"]).hasSeveral) ∧
      (shop ["Controllers", "Admin"]).DistinctFiles {} ∧
      ∀ m ∈ (shop ["Controllers", "Admin"]).recordedModules {},
        (shop ["Controllers", "Admin"]).Keeps {} run m := by
  have facts : ((shop ["Controllers", "Admin"]).generate {}).isSome = true ∧
      ((shop ["Controllers", "Admin"]).recordedModules {}).map (·.place.path) =
        ["home.ts", "admin/home.ts"] ∧
      (∀ m ∈ (shop ["Controllers", "Admin"]).recordedModules {},
        m.HasPlainNames (shop ["Controllers", "Admin"]).hasSeveral) ∧
      ((shop ["Controllers", "Admin"]).recordedModules {}).Pairwise fun m n =>
        ¬ m.SameNames (shop ["Controllers", "Admin"]).hasSeveral n := by
    decide +kernel
  obtain ⟨hsome, hpaths, hplain, hnames⟩ := facts
  have made := (Option.some_get hsome).symm
  obtain ⟨hwritten, -, hkeeps, hfiles⟩ := keeps_modules_iff made
  have hdistinct := (hfiles hplain).mpr hnames
  exact ⟨_, made, hwritten.trans hpaths, hplain, hdistinct, hkeeps hdistinct⟩

/-- A first folder of another name tells no modules apart: both controllers are reported as
written, and the module of one of them is lost. -/
theorem not_keeps_modules_shop :
    ∃ run, (shop ["Api"]).generate {} = some run ∧ run.aborted = false ∧ run.succeeded = true ∧
      run.written = ["home.ts", "home.ts"] ∧ ¬ (shop ["Api"]).DistinctFiles {} ∧
      ¬ ∀ m ∈ (shop ["Api"]).recordedModules {}, (shop ["Api"]).Keeps {} run m := by
  have facts : ((shop ["Api"]).generate {}).map
        (fun run => (run.aborted, run.succeeded, run.written)) =
          some (false, true, ["home.ts", "home.ts"]) ∧
      ∃ m ∈ (shop ["Api"]).recordedModules {}, ∃ n ∈ (shop ["Api"]).recordedModules {},
        (shop ["Api"]).locationIn {} m = (shop ["Api"]).locationIn {} n ∧ m.text ≠ n.text := by
    decide +kernel
  obtain ⟨hreport, m, hm, n, hn, hlocation, htext⟩ := facts
  obtain ⟨run, made, hrun⟩ := Option.map_eq_some_iff.mp hreport
  obtain ⟨haborted, hsucceeded, hwritten⟩ :=
    (Prod.mk.inj hrun).imp id fun h => Prod.mk.inj h
  have hlost : ¬ ∀ k ∈ (shop ["Api"]).recordedModules {}, (shop ["Api"]).Keeps {} run k :=
    fun hkeeps => htext ((keeps_iff_eq_text made).mp hkeeps m hm n hn hlocation)
  exact ⟨run, made, haborted, hsucceeded, hwritten,
    fun hfiles => hlost (keeps_of_distinctFiles made hfiles), hlost⟩

end Generator

end ClientGen

import ClientGen.Proofs.Generation.Accounting
import ClientGen.Proofs.Solution.Agreement

/-!
# Projects that a run does not see

A run takes its controllers from the front ends and everything else from what their classes
mention, base class by base class. A project that is no front end and declares nothing that the
classes of the other projects mention can stand anywhere in a solution, or be left out: the report,
the lines of progress and of errors, and the files are the same.
-/

namespace ClientGen

namespace Generator

variable {classes : List ClassDecl} {left right : Solution} {outputRoot : Path}
  {productName : String}

/-- Generators for two solutions that agree on the classes of a document attempt it alike. -/
theorem attempt_eq_of_agreesOn (agree : Solution.AgreesOn classes left right) (several : Bool)
    (run : Run) (project : Project) {document : Document}
    (hclasses : ∀ c ∈ document.classes, c ∈ classes) :
    attempt ⟨left, outputRoot, productName⟩ several run project document =
      attempt ⟨right, outputRoot, productName⟩ several run project document := by
  rw [attempt, attempt]
  cases hdocument : document.classes with
  | nil => rfl
  | cons controller rest =>
    have hcontroller : controller ∈ classes := hclasses controller (by simp [hdocument])
    -- The place of a module and what is written there do not depend on the solution.
    have hwrite (path text : String) (run : Run) :
        writeModule ⟨left, outputRoot, productName⟩ project document path text run =
          writeModule ⟨right, outputRoot, productName⟩ project document path text run := rfl
    simp only [moduleText, agree.services_eq hcontroller, hwrite]

/-- Generators for two solutions that agree on the classes of some documents attempt them alike,
one after the other. -/
theorem attemptAll_eq_of_agreesOn (agree : Solution.AgreesOn classes left right) (several : Bool)
    (run : Run) {entries : List (Project × Document)}
    (hclasses : ∀ entry ∈ entries, ∀ c ∈ entry.2.classes, c ∈ classes) :
    attemptAll ⟨left, outputRoot, productName⟩ several entries run =
      attemptAll ⟨right, outputRoot, productName⟩ several entries run := by
  induction entries generalizing run with
  | nil => rfl
  | cons entry rest ih =>
    rw [List.forall_mem_cons] at hclasses
    simp only [attemptAll, attempt_eq_of_agreesOn agree several run entry.1 hclasses.1,
      ih _ hclasses.2]

/-- The classes of the controller documents of some projects are classes of these projects. -/
theorem mem_classesOf_of_controllersOf {projects : List Project} {entry : Project × Document}
    (hentry : entry ∈ controllersOf projects) {c : ClassDecl} (hc : c ∈ entry.2.classes) :
    c ∈ classesOf projects := by
  obtain ⟨project, hproject, hentry⟩ := List.mem_flatMap.mp hentry
  obtain ⟨document, hdocument, rfl⟩ := List.mem_map.mp hentry
  exact List.mem_flatMap.mpr ⟨project, hproject,
    List.mem_flatMap.mpr ⟨document, (List.mem_filter.mp hdocument).1, hc⟩⟩

/-- Generators for two solutions with the same front ends, which agree on the classes of these,
make the same run. -/
theorem generate_eq_of_agreesOn (agree : Solution.AgreesOn classes left right)
    (hfrontEnds : left.frontEnds productName = right.frontEnds productName)
    (hclasses : ∀ c ∈ classesOf (right.frontEnds productName), c ∈ classes) (tree : FileTree) :
    generate ⟨left, outputRoot, productName⟩ tree =
      generate ⟨right, outputRoot, productName⟩ tree := by
  simp only [generate, frontEnds, hfrontEnds]
  cases hprojects : right.frontEnds productName with
  | nil => rfl
  | cons project rest =>
    rw [hprojects] at hclasses
    simp only [attemptAll_eq_of_agreesOn agree _ { tree } fun entry hentry c hc =>
      hclasses c (mem_classesOf_of_controllersOf hentry hc)]

end Generator

/-- A project that is no front end and is unrelated to the other projects of a solution does not
influence a run, wherever it stands among them. -/
theorem Generator.generate_insert_unrelated {before after : List Project} {project : Project}
    {productName : String} (notFrontEnd : ¬ project.IsFrontEndOf productName)
    (unrelated : project.UnrelatedTo (before ++ after)) (applicationRoot : Path) (tree : FileTree) :
    (Generator.new (.ofProjects (before ++ project :: after)) applicationRoot productName).generate
        tree =
      (Generator.new (.ofProjects (before ++ after)) applicationRoot productName).generate tree := by
  have hselected (projects : List Project) : (Solution.ofProjects projects).frontEnds productName =
      projects.filter fun project => decide (project.IsFrontEndOf productName) :=
    frontEnds_eq_filter (.new (.ofProjects projects) applicationRoot productName)
  have hfrontEnds : (Solution.ofProjects (before ++ project :: after)).frontEnds productName =
      (Solution.ofProjects (before ++ after)).frontEnds productName := by
    rw [hselected, hselected, List.filter_append, List.filter_append,
      List.filter_cons_of_neg (by simpa using notFrontEnd)]
  refine generate_eq_of_agreesOn (Solution.agreesOn_insert unrelated) hfrontEnds ?_ tree
  intro c hc
  obtain ⟨frontEnd, hfrontEnd, hc⟩ := List.mem_flatMap.mp hc
  exact List.mem_flatMap.mpr ⟨frontEnd, (List.mem_filter.mp hfrontEnd).1, hc⟩

/-- The front end of a product with a controller that answers with a type of the product. -/
def pier : Project where
  name := "Pier.FrontEnd"
  documents := [{
    name := "BoatController.cs"
    folders := ["Controllers"]
    classes := [{
      name := "BoatController"
      baseType := some { name := "Controller" }
      methods := [{
        name := "List"
        returnType := { name := "Task", arguments := [{ name := "Boat", array := true }] }
        attributes := [⟨"HttpGet", [some "boats"]⟩]
        modifiers := ["public"]
        documentation := some [{ tag := "summary", text := "Lists the boats." }] }] }] }]

/-- The types of the product. -/
def pierModel : Project where
  name := "Pier.Model"
  documents := [{ name := "Boat.cs", types := [{ name := "Boat", scope := "Pier.Model" }] }]

/-- A back end with a controller of its own and a type of its own. -/
def pierBackEnd : Project where
  name := "Pier.BackEnd"
  documents := [{
    name := "BoatController.cs"
    classes := [{ name := "BoatController", scope := "Pier.BackEnd" }]
    types := [{ name := "Crane", scope := "Pier.BackEnd" }] }]

/-- The back end does not influence the run, although it declares a class of the name of the
controller. -/
theorem generate_insert_pierBackEnd :
    ¬ pierBackEnd.IsFrontEndOf "Pier" ∧ pierBackEnd.UnrelatedTo ([pier] ++ [pierModel]) ∧
      (Generator.new (.ofProjects [pier, pierBackEnd, pierModel]) ⟨"", ["out"]⟩ "Pier").generate {} =
        (Generator.new (.ofProjects [pier, pierModel]) ⟨"", ["out"]⟩ "Pier").generate {} := by
  have notFrontEnd : ¬ pierBackEnd.IsFrontEndOf "Pier" := by decide
  have unrelated : pierBackEnd.UnrelatedTo ([pier] ++ [pierModel]) := by decide
  exact ⟨notFrontEnd, unrelated,
    Generator.generate_insert_unrelated notFrontEnd unrelated ⟨"", ["out"]⟩ {}⟩

end ClientGen

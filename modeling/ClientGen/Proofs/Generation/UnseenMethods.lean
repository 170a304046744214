import ClientGen.Generation
import ClientGen.Proofs.Solution.Trimming

/-!
# Methods that a run does not see

A run asks nothing of a method that is no endpoint. Such methods can be left out of the classes of a
solution, of controllers and of their base classes alike: every controller has the same services in the
same order, or fails with the same error, and the whole run makes the same files and the same report.
-/

namespace ClientGen

namespace Generator

variable {projects rest : List Project} {outputRoot : Path} {productName : String}

/-- The front ends of a product are left over one by one. -/
theorem frontEnds_of_trims {solution : Solution}
    (h : List.Forall₂ (Project.Trims solution) projects rest) (productName : String) :
    List.Forall₂ (Project.Trims solution) ((Solution.ofProjects projects).frontEnds productName)
      ((Solution.ofProjects rest).frontEnds productName) := by
  refine List.rel_filter ?_ h
  rintro project _ ⟨documents, -, rfl⟩
  rfl

/-- The controller documents of some projects are left over one by one. -/
theorem controllersOf_of_trims {solution : Solution}
    (h : List.Forall₂ (Project.Trims solution) projects rest) :
    List.Forall₂ (fun entry left => Project.Trims solution entry.1 left.1 ∧
        Document.Trims solution entry.2 left.2) (controllersOf projects) (controllersOf rest) := by
  refine List.rel_flatMap h ?_
  rintro project _ ⟨documents, hdocuments, rfl⟩
  have hselected : List.Forall₂ (Document.Trims solution)
      (project.documents.filter (·.isController)) (documents.filter (·.isController)) := by
    refine List.rel_filter ?_ hdocuments
    rintro document _ ⟨classes, -, rfl⟩
    rfl
  refine List.rel_map ?_ hselected
  exact fun document left hdocument => ⟨⟨documents, hdocuments, rfl⟩, hdocument⟩

/-- What is left of a document is reported as the document was. -/
theorem reportFailure_of_trims {solution : Solution} {project project' : Project}
    {document document' : Document} (hproject : project.Trims solution project')
    (hdocument : document.Trims solution document') (e : GenerationError) (run : Run) :
    reportFailure project' document' e run = reportFailure project document e run := by
  obtain ⟨documents, -, rfl⟩ := hproject
  obtain ⟨name, folders, classes, types⟩ := document
  obtain ⟨_, hclasses, rfl⟩ := hdocument
  cases hclasses with
  | nil => rfl
  | cons hc _ =>
    obtain ⟨methods, -, rfl⟩ := hc
    rfl

section Trimmed

variable (h : List.Forall₂ (Project.Trims (.ofProjects projects)) projects rest)
include h

/-- What is left of a document is attempted as the document was. -/
theorem attempt_of_trims (several : Bool) (run : Run) {project project' : Project}
    {document document' : Document} (hproject : project.Trims (.ofProjects projects) project')
    (hdocument : document.Trims (.ofProjects projects) document') :
    attempt ⟨.ofProjects rest, outputRoot, productName⟩ several run project' document' =
      attempt ⟨.ofProjects projects, outputRoot, productName⟩ several run project document := by
  have hreport := reportFailure_of_trims hproject hdocument
  have hwrite (path text : String) (run : Run) :
      writeModule ⟨.ofProjects rest, outputRoot, productName⟩ project' document' path text run =
        writeModule ⟨.ofProjects projects, outputRoot, productName⟩ project document path text run := by
    simp only [writeModule, hreport]
  obtain ⟨documents, -, rfl⟩ := hproject
  obtain ⟨name, folders, classes, types⟩ := document
  obtain ⟨_, hclasses, rfl⟩ := hdocument
  cases hclasses with
  | nil => exact hreport _ run
  | cons hc _ =>
    have hservices := services_of_trims h hc
    obtain ⟨methods, -, rfl⟩ := hc
    simp only [attempt, moduleText, hservices, hreport, hwrite]

/-- What is left of some documents is attempted as the documents were, one after the other. -/
theorem attemptAll_of_trims (several : Bool) {entries left : List (Project × Document)}
    (hentries : List.Forall₂ (fun entry left => Project.Trims (.ofProjects projects) entry.1 left.1 ∧
      Document.Trims (.ofProjects projects) entry.2 left.2) entries left) (run : Run) :
    attemptAll ⟨.ofProjects rest, outputRoot, productName⟩ several left run =
      attemptAll ⟨.ofProjects projects, outputRoot, productName⟩ several entries run := by
  induction hentries generalizing run with
  | nil => rfl
  | cons hentry _ ih =>
    rw [attemptAll, attemptAll]
    simp only [attempt_of_trims h several run hentry.1 hentry.2, ih]

/-- A run on what is left of a solution is the run on the solution. -/
theorem generate_of_trims (tree : FileTree) :
    generate ⟨.ofProjects rest, outputRoot, productName⟩ tree =
      generate ⟨.ofProjects projects, outputRoot, productName⟩ tree := by
  have hfrontEnds := frontEnds_of_trims h productName
  simp only [generate, frontEnds]
  generalize (Solution.ofProjects projects).frontEnds productName = selected at hfrontEnds ⊢
  generalize (Solution.ofProjects rest).frontEnds productName = selected' at hfrontEnds ⊢
  cases hfrontEnds with
  | nil => rfl
  | cons hfirst hothers =>
    have hall := List.Forall₂.cons hfirst hothers
    simp only [← hall.length_eq, attemptAll_of_trims h _ (controllersOf_of_trims hall)]

end Trimmed

end Generator

/-- Methods out of sight do not influence anything that is generated. When some of them are left out
of the classes of a solution, every controller of which some may be left out has the services it had,
or its error, and every run is the run that it was. -/
theorem Generator.generate_without_unseen {projects rest : List Project}
    (h : List.Forall₂ (Project.Trims (.ofProjects projects)) projects rest) :
    (∀ controller left, ClassDecl.Trims (.ofProjects projects) controller left →
        left.services (.ofProjects rest) = controller.services (.ofProjects projects)) ∧
      ∀ applicationRoot productName tree,
        (Generator.new (.ofProjects rest) applicationRoot productName).generate tree =
          (Generator.new (.ofProjects projects) applicationRoot productName).generate tree :=
  ⟨fun _ _ hc => services_of_trims h hc, fun _ _ tree => generate_of_trims h tree⟩

/-- A front end with a base controller and a controller on top of it, each with some methods. -/
def lodge (inherited own : List Method) : List Project :=
  [{
    name := "Lodge.FrontEnd"
    documents := [
      { name := "Base.cs", classes := [{ name := "BaseController", methods := inherited }] },
      { name := "RoomsController.cs"
        folders := ["Controllers"]
        classes := [{
          name := "RoomsController"
          baseType := some { name := "BaseController" }
          methods := own }] }] }]

/-- An endpoint. -/
def listRooms : Method where
  name := "List"
  returnType := { name := "string", array := true }
  attributes := [⟨"HttpGet", [some "rooms"]⟩]
  modifiers := ["public"]
  documentation := some [{ tag := "summary", text := "Lists the rooms." }]

/-- A method without documentation that is not public. -/
def auditRooms : Method where
  name := "Audit"
  returnType := { name := "void" }
  modifiers := ["protected"]

/-- A method with two verbs that is taken out of routing. -/
def pingRooms : Method where
  name := "Ping"
  returnType := { name := "void" }
  attributes := [⟨"HttpGet", []⟩, ⟨"HttpPost", []⟩, ⟨"NonAction", []⟩]
  modifiers := ["public"]

/-- A redirect with a route that cannot be read. -/
def leaveRoom : Method where
  name := "Leave"
  returnType := { name := "Task", arguments := [{ name := "RedirectResult" }] }
  attributes := [⟨"HttpGet", [some "rooms/\x7b"]⟩]
  modifiers := ["public"]

/-- Three methods are left out of a controller and its base controller, and the run is the same. -/
theorem generate_without_unseen_lodge :
    List.Forall₂
        (Project.Trims (.ofProjects (lodge [pingRooms] [auditRooms, listRooms, leaveRoom])))
        (lodge [pingRooms] [auditRooms, listRooms, leaveRoom]) (lodge [] [listRooms]) ∧
      (Generator.new (.ofProjects (lodge [] [listRooms])) ⟨"", ["out"]⟩ "Lodge").generate {} =
        (Generator.new (.ofProjects (lodge [pingRooms] [auditRooms, listRooms, leaveRoom]))
          ⟨"", ["out"]⟩ "Lodge").generate {} := by
  have inherited : LeavesOut
      (·.OutOfSight (.ofProjects (lodge [pingRooms] [auditRooms, listRooms, leaveRoom])))
      [pingRooms] [] :=
    .leave (.optedOut (a := ⟨"NonAction", []⟩) (by decide) (by decide)) .nil
  have own : LeavesOut
      (·.OutOfSight (.ofProjects (lodge [pingRooms] [auditRooms, listRooms, leaveRoom])))
      [auditRooms, listRooms, leaveRoom] [listRooms] :=
    .leave (.hidden (by decide)) (.keep _ (.leave (.redirect (by decide)) .nil))
  have trims : List.Forall₂
      (Project.Trims (.ofProjects (lodge [pingRooms] [auditRooms, listRooms, leaveRoom])))
      (lodge [pingRooms] [auditRooms, listRooms, leaveRoom]) (lodge [] [listRooms]) :=
    .cons ⟨_, .cons ⟨_, .cons ⟨_, inherited, rfl⟩ .nil, rfl⟩
      (.cons ⟨_, .cons ⟨_, own, rfl⟩ .nil, rfl⟩ .nil), rfl⟩ .nil
  exact ⟨trims, (Generator.generate_without_unseen trims).2 _ _ _⟩

end ClientGen

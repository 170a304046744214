import ClientGen.Generation
import ClientGen.Proofs.Failure
import ClientGen.Proofs.Lookup

/-!
# The attempts of a run

A run makes one attempt for each controller document. An attempt saves the module of its document,
or it fails with an error; only a module path with a NUL character ends it, and the run, without
either. All that a run reports is the record of its attempts, one after the other: what one attempt
adds to a report is said once, and what a run reports follows by induction over the attempts.
-/

namespace ClientGen

/-- What comes of the first of several elements stands before what comes of the others. -/
theorem filterMap_cons_eq_append {α β : Type*} (f : α → Option β) (a : α) (rest : List α) :
    (a :: rest).filterMap f = (f a).toList ++ rest.filterMap f := by
  cases h : f a <;> simp [h]

/-- A client module with the controller that it was made for. -/
structure ClientModule where
  /-- The project of the controller. -/
  project : Project
  /-- The document of the controller. -/
  document : Document
  /-- The class of the controller. -/
  controller : ClassDecl
  /-- The path of the module. -/
  place : ModulePath
  /-- The text of the module. -/
  text : String

/-- How an attempt ends. -/
inductive Ending where
  /-- The module is saved. -/
  | saved (m : ClientModule)
  /-- The error is reported. -/
  | failed (e : GenerationError)
  /-- The run ends too. -/
  | cutOff

/-- An attempt of a run. -/
structure Attempt where
  /-- The project of the document. -/
  project : Project
  /-- The document that a module is attempted for. -/
  document : Document
  /-- The files before it. -/
  before : FileTree
  /-- How it ends. -/
  ending : Ending
  /-- The files after it. -/
  after : FileTree

namespace Ending

/-- The module that is saved. -/
def saved? : Ending → Option ClientModule
  | saved m => some m
  | failed _ | cutOff => none

/-- The error that is reported. -/
def error? : Ending → Option GenerationError
  | failed e => some e
  | saved _ | cutOff => none

/-- Does the run end too? -/
def endsRun : Ending → Bool
  | cutOff => true
  | saved _ | failed _ => false

end Ending

namespace Attempt

/-- The module that an attempt saves. -/
def saved? (a : Attempt) : Option ClientModule :=
  a.ending.saved?

/-- The path that an attempt reports as written. -/
def writtenPath? (a : Attempt) : Option String :=
  a.saved?.map (·.place.path)

/-- The key and the message that an attempt reports as a failure. -/
def failure? (a : Attempt) : Option (String × String) :=
  a.ending.error?.map fun e => (documentKey a.project a.document, e.message)

/-- The line that an attempt reports among the errors. -/
def errorLine? (a : Attempt) : Option String :=
  a.ending.error?.map fun e => "Error in " ++ a.document.reportName ++ ": " ++ e.message

/-- The line that an attempt reports as progress: the path for the first class of its document. -/
def progressLine? (several : Bool) (a : Attempt) : Option String :=
  a.document.classes.head?.map fun c => "Generating " ++
    (ModulePath.derive a.project.name a.document.folders c.name several).path

end Attempt

namespace Run

/-- A run that has made one more attempt. -/
def record (several : Bool) (run : Run) (a : Attempt) : Run where
  tree := a.after
  written := run.written ++ a.writtenPath?.toList
  failures := assignAll a.failure?.toList run.failures
  progress := run.progress ++ (a.progressLine? several).toList
  errors := run.errors ++ a.errorLine?.toList
  aborted := run.aborted || a.ending.endsRun

/-- Setting a failure is setting the value of its key. -/
theorem setFailure_eq_assign (key message : String) (failures : List (String × String)) :
    setFailure key message failures = assign key message failures := by
  induction failures with
  | nil => rfl
  | cons entry rest ih => rw [setFailure, assign, ih]

end Run

namespace Generator

/-- Does the product have several front ends? -/
def hasSeveral (g : Generator) : Bool :=
  decide (g.frontEnds.length > 1)

/-- The module of a document, made from its first class. -/
def moduleOf (g : Generator) (several : Bool) (project : Project) (document : Document) :
    Except GenerationError ClientModule :=
  match document.classes with
  | [] => .error (.missingClass document.name)
  | controller :: _ =>
    let place := ModulePath.derive project.name document.folders controller.name several
    (g.moduleText place.folderCount controller).map
      fun text => ⟨project, document, controller, place, text⟩

/-- The file that a module is saved in. -/
def fileOf (g : Generator) (m : ClientModule) : Path :=
  g.outputRoot.join (Path.ofText m.place.path)

/-- How the attempt of a document ends, with the files it leaves. -/
def outcome (g : Generator) (several : Bool) (tree : FileTree) (project : Project)
    (document : Document) : Ending × FileTree :=
  match g.moduleOf several project document with
  | .error e => (.failed e, tree)
  | .ok m =>
    match tree.save (g.fileOf m) m.text.toUTF8 with
    | (.ok (), after) => (.saved m, after)
    | (.error (.refused fault path), after) =>
      (.failed (.notWritten (g.fileOf m).text fault path), after)
    | (.error .nulCharacter, after) => (.cutOff, after)

/-- The attempt of a document on given files. -/
def attemptOn (g : Generator) (several : Bool) (tree : FileTree) (project : Project)
    (document : Document) : Attempt where
  project := project
  document := document
  before := tree
  ending := (g.outcome several tree project document).1
  after := (g.outcome several tree project document).2

/-- The attempts of several documents, one after the other. -/
def attemptsFrom (g : Generator) (several : Bool) :
    List (Project × Document) → FileTree → List Attempt
  | [], _ => []
  | (project, document) :: rest, tree =>
    let a := g.attemptOn several tree project document
    a :: if a.ending.endsRun then [] else g.attemptsFrom several rest a.after

/-- The attempts of a run that starts with given files. -/
def attempts (g : Generator) (tree : FileTree) : List Attempt :=
  g.attemptsFrom g.hasSeveral (controllersOf g.frontEnds) tree

/-! ### What one attempt adds -/

variable {g : Generator} {several : Bool} {tree after : FileTree} {project : Project}
  {document : Document} {m : ClientModule}

/-- Without a module the attempt fails. -/
theorem attemptOn_of_error {e : GenerationError}
    (h : g.moduleOf several project document = .error e) :
    g.attemptOn several tree project document = ⟨project, document, tree, .failed e, tree⟩ := by
  simp only [attemptOn, outcome, h]

/-- A module that is saved ends the attempt. -/
theorem attemptOn_of_saved (h : g.moduleOf several project document = .ok m)
    (hsave : tree.save (g.fileOf m) m.text.toUTF8 = (.ok (), after)) :
    g.attemptOn several tree project document = ⟨project, document, tree, .saved m, after⟩ := by
  simp only [attemptOn, outcome, h, hsave]

/-- When saving the module is refused, the attempt fails. -/
theorem attemptOn_of_refused {fault : FileFault} {path : String}
    (h : g.moduleOf several project document = .ok m)
    (hsave : tree.save (g.fileOf m) m.text.toUTF8 = (.error (.refused fault path), after)) :
    g.attemptOn several tree project document =
      ⟨project, document, tree, .failed (.notWritten (g.fileOf m).text fault path), after⟩ := by
  simp only [attemptOn, outcome, h, hsave]

/-- A NUL character in the path of the module ends the run with the attempt. -/
theorem attemptOn_of_nul (h : g.moduleOf several project document = .ok m)
    (hsave : tree.save (g.fileOf m) m.text.toUTF8 = (.error .nulCharacter, after)) :
    g.attemptOn several tree project document = ⟨project, document, tree, .cutOff, after⟩ := by
  simp only [attemptOn, outcome, h, hsave]

/-- The record of an attempt that saves a module. -/
theorem record_of_saved (several : Bool) (run : Run) (project : Project) (document : Document)
    (m : ClientModule) (before after : FileTree) :
    let a : Attempt := ⟨project, document, before, .saved m, after⟩
    run.record several a = { run with
      tree := after
      written := run.written ++ [m.place.path]
      progress := run.progress ++ (a.progressLine? several).toList } := by
  simp [Run.record, Attempt.writtenPath?, Attempt.saved?, Attempt.failure?, Attempt.errorLine?,
    Ending.saved?, Ending.error?, Ending.endsRun, assignAll]

/-- The record of an attempt that fails reports the failure. -/
theorem record_of_failed (several : Bool) (run : Run) (project : Project) (document : Document)
    (e : GenerationError) (before after : FileTree) :
    let a : Attempt := ⟨project, document, before, .failed e, after⟩
    run.record several a = reportFailure project document e { run with
      tree := after
      progress := run.progress ++ (a.progressLine? several).toList } := by
  simp [reportFailure, Run.record, Attempt.writtenPath?, Attempt.saved?, Attempt.failure?,
    Attempt.errorLine?, Ending.saved?, Ending.error?, Ending.endsRun, assignAll,
    Run.setFailure_eq_assign]

/-- The record of an attempt that ends the run. -/
theorem record_of_cutOff (several : Bool) (run : Run) (project : Project) (document : Document)
    (before after : FileTree) :
    let a : Attempt := ⟨project, document, before, .cutOff, after⟩
    run.record several a = { run with
      tree := after
      progress := run.progress ++ (a.progressLine? several).toList
      aborted := true } := by
  simp [Run.record, Attempt.writtenPath?, Attempt.saved?, Attempt.failure?, Attempt.errorLine?,
    Ending.saved?, Ending.error?, Ending.endsRun, assignAll]

/-- An attempt adds its record to the run. -/
theorem attempt_eq_record (g : Generator) (several : Bool) (run : Run) (project : Project)
    (document : Document) :
    g.attempt several run project document =
      run.record several (g.attemptOn several run.tree project document) := by
  cases hclasses : document.classes with
  | nil =>
    have hnone : g.moduleOf several project document = .error (.missingClass document.name) := by
      simp only [moduleOf, hclasses]
    rw [attemptOn_of_error hnone, record_of_failed]
    simp [attempt, hclasses, Attempt.progressLine?]
  | cons controller others =>
    let place := ModulePath.derive project.name document.folders controller.name several
    cases htext : g.moduleText place.folderCount controller with
    | error e =>
      have hnone : g.moduleOf several project document = .error e := by
        simp only [moduleOf, hclasses, place, htext, Except.map]
      rw [attemptOn_of_error hnone, record_of_failed]
      simp [attempt, hclasses, place, htext, Attempt.progressLine?]
    | ok text =>
      let m : ClientModule := ⟨project, document, controller, place, text⟩
      have hmade : g.moduleOf several project document = .ok m := by
        simp only [moduleOf, hclasses, place, htext, Except.map, m]
      have hwrite : g.attempt several run project document =
          g.writeModule project document place.path text
            { run with progress := run.progress ++ ["Generating " ++ place.path] } := by
        simp only [attempt, hclasses, place, htext]
      have hfile : g.outputRoot.join (Path.ofText place.path) = g.fileOf m := rfl
      rw [hwrite, writeModule, hfile]
      rcases hsave : run.tree.save (g.fileOf m) text.toUTF8 with
        ⟨(⟨fault, refusedPath⟩ | _) | _, after⟩
      · rw [attemptOn_of_refused hmade hsave, record_of_failed]
        simp [Attempt.progressLine?, hclasses, place]
      · rw [attemptOn_of_nul hmade hsave, record_of_cutOff]
        simp [Attempt.progressLine?, hclasses, place]
      · rw [attemptOn_of_saved hmade hsave, record_of_saved]
        simp [Attempt.progressLine?, hclasses, place, m]

/-! ### What a run reports -/

/-- A run that is not over adds the records of its attempts. -/
theorem attemptAll_eq_record (g : Generator) (several : Bool) (entries : List (Project × Document))
    {run : Run} (h : run.aborted = false) :
    g.attemptAll several entries run =
      (g.attemptsFrom several entries run.tree).foldl (Run.record several) run := by
  induction entries generalizing run with
  | nil => rfl
  | cons entry rest ih =>
    obtain ⟨project, document⟩ := entry
    rw [attemptAll, attemptsFrom, attempt_eq_record]
    generalize g.attemptOn several run.tree project document = a
    have hends : (run.record several a).aborted = a.ending.endsRun := by
      rw [Run.record, h, Bool.false_or]
    rw [List.foldl_cons, hends]
    by_cases hending : a.ending.endsRun = true
    · rw [if_pos hending, if_pos hending, List.foldl_nil]
    · rw [if_neg hending, if_neg hending]
      exact ih (hends.trans (Bool.eq_false_iff.mpr hending))

/-- A run that takes place attempts all controllers of the front ends. -/
theorem eq_attemptAll_of_generate {g : Generator} {tree : FileTree} {run : Run}
    (made : g.generate tree = some run) :
    run = g.attemptAll g.hasSeveral (controllersOf g.frontEnds) { tree } := by
  unfold generate at made
  split at made
  · cases made
  · exact (Option.some.inj made).symm

/-- A run that takes place adds the records of the attempts of all controllers. -/
theorem eq_record_of_generate {g : Generator} {tree : FileTree} {run : Run}
    (made : g.generate tree = some run) :
    run = (g.attempts tree).foldl (Run.record g.hasSeveral) { tree } := by
  rw [eq_attemptAll_of_generate made, attemptAll_eq_record g g.hasSeveral _ rfl, attempts]

end Generator

namespace Run

/-- What every attempt adds to the end of a list of lines is there after all attempts, in order. -/
theorem foldl_record_eq_append {several : Bool} {lines : Run → List String}
    {added : Attempt → Option String}
    (step : ∀ run a, lines (record several run a) = lines run ++ (added a).toList)
    (attempts : List Attempt) (run : Run) :
    lines (attempts.foldl (record several) run) = lines run ++ attempts.filterMap added := by
  induction attempts generalizing run with
  | nil => exact (List.append_nil _).symm
  | cons a rest ih =>
    rw [List.foldl_cons, ih, step, List.append_assoc, filterMap_cons_eq_append]

/-- The failures after all attempts are set one after the other. -/
theorem failures_foldl_record (several : Bool) (attempts : List Attempt) (run : Run) :
    (attempts.foldl (record several) run).failures =
      assignAll (attempts.filterMap (·.failure?)) run.failures := by
  induction attempts generalizing run with
  | nil => rfl
  | cons a rest ih =>
    rw [List.foldl_cons, ih, filterMap_cons_eq_append, assignAll_append]
    rfl

/-- A run is over after some attempt exactly when one of them ends it. -/
theorem aborted_foldl_record (several : Bool) (attempts : List Attempt) (run : Run) :
    (attempts.foldl (record several) run).aborted =
      (run.aborted || attempts.any (·.ending.endsRun)) := by
  induction attempts generalizing run with
  | nil => exact (Bool.or_false _).symm
  | cons a rest ih => rw [List.foldl_cons, ih, record, List.any_cons, Bool.or_assoc]

end Run

namespace Generator

/-- Unless the first attempt ends the run, the others come after it. -/
theorem attemptsFrom_cons {g : Generator} {several : Bool} {tree : FileTree} {project : Project}
    {document : Document}
    (h : (g.attemptOn several tree project document).ending.endsRun = false)
    (rest : List (Project × Document)) :
    g.attemptsFrom several ((project, document) :: rest) tree =
      g.attemptOn several tree project document ::
        g.attemptsFrom several rest (g.attemptOn several tree project document).after := by
  rw [attemptsFrom, if_neg (Bool.eq_false_iff.mp h)]

/-- No attempt ends the run when the first one does not and no later one does. -/
theorem goes_on_cons {g : Generator} {several : Bool} {tree : FileTree} {project : Project}
    {document : Document} {rest : List (Project × Document)}
    (h : (g.attemptsFrom several ((project, document) :: rest) tree).any (·.ending.endsRun) =
      false) :
    (g.attemptOn several tree project document).ending.endsRun = false ∧
      (g.attemptsFrom several rest (g.attemptOn several tree project document).after).any
        (·.ending.endsRun) = false := by
  have hfirst : (g.attemptOn several tree project document).ending.endsRun = false := by
    rw [attemptsFrom, List.any_cons, Bool.or_eq_false_iff] at h
    exact h.1
  rw [attemptsFrom_cons hfirst, List.any_cons, Bool.or_eq_false_iff] at h
  exact h

/-- When no attempt ends the run, there is one for each document, in order. -/
theorem map_document_attemptsFrom {g : Generator} {several : Bool}
    {entries : List (Project × Document)} {tree : FileTree}
    (h : (g.attemptsFrom several entries tree).any (·.ending.endsRun) = false) :
    (g.attemptsFrom several entries tree).map (fun a => (a.project, a.document)) = entries := by
  induction entries generalizing tree with
  | nil => rfl
  | cons entry rest ih =>
    obtain ⟨project, document⟩ := entry
    obtain ⟨hfirst, hrest⟩ := goes_on_cons h
    rw [attemptsFrom_cons hfirst, List.map_cons, ih hrest]
    rfl

end Generator

end ClientGen

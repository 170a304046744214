import ClientGen.Proofs.Generation.Attempts
import ClientGen.Proofs.Text.Cutting
import Mathlib.Data.List.Infix

/-!
# The accounting of a run

A run that is not cut off attempts every controller document of its front ends once, in order,
whatever becomes of the others. Its report accounts for these attempts: the paths of those that
saved a module, a line for each error, a line of progress for each document with a class, and the
last message of every document that failed, under a key that stands where it first occurred.
-/

namespace ClientGen

/-- The name of a document has the word of controllers in it. -/
def Document.NamesController (document : Document) : Prop :=
  "Controller".toList <:+: document.name.toList

/-- It is decidable whether a document has that word in its name. -/
instance : DecidablePred Document.NamesController :=
  fun _ => inferInstanceAs (Decidable (_ <:+: _))

/-- A project is a front end of a product: its assembly has the name of the product at the
beginning and the word of front ends at the end. -/
def Project.IsFrontEndOf (productName : String) (project : Project) : Prop :=
  productName.toList <+: project.assembly.toList ∧ "FrontEnd".toList <:+ project.assembly.toList

/-- It is decidable whether a project is a front end of a product. -/
instance (productName : String) : DecidablePred (Project.IsFrontEndOf productName) :=
  fun _ => inferInstanceAs (Decidable (_ ∧ _))

/-- The report of a run accounts for its attempts. -/
structure Run.AccountsFor (run : Run) (several : Bool) (attempts : List Attempt) : Prop where
  /-- Every attempt has saved a module or reported an error. -/
  ended : ∀ a ∈ attempts, (∃ m, a.ending = .saved m) ∨ ∃ e, a.ending = .failed e
  /-- The paths written are those of the modules saved. -/
  written : run.written = attempts.filterMap (·.writtenPath?)
  /-- There is a line for every error. -/
  errors : run.errors = attempts.filterMap (·.errorLine?)
  /-- There is a line for every document that has a class. -/
  progress : run.progress = attempts.filterMap (·.progressLine? several)
  /-- The keys are those of the attempts that failed, in the order of their first occurrence. -/
  keys : run.failures.map (·.1) = ((attempts.filterMap (·.failure?)).map (·.1)).eraseDups
  /-- The message of a key is the one of the last attempt that failed under it. -/
  messages : ∀ key, run.failures.lookup key = (attempts.filterMap (·.failure?)).reverse.lookup key
  /-- The run counts as successful exactly when every attempt saved a module. -/
  succeeded : run.succeeded = true ↔ ∀ a ∈ attempts, ∃ m, a.ending = .saved m

namespace Generator

/-- The controller documents of the front ends of the product, in order, with their projects. -/
def controllerDocuments (g : Generator) : List (Project × Document) :=
  (g.solution.projects.filter fun project => decide (project.IsFrontEndOf g.productName)).flatMap
    fun project => (project.documents.filter fun document => decide document.NamesController).map
      fun document => (project, document)

/-- The front ends that a run is about are those of its product. -/
theorem frontEnds_eq_filter (g : Generator) :
    g.frontEnds =
      g.solution.projects.filter fun project => decide (project.IsFrontEndOf g.productName) := by
  refine List.filter_congr fun project _ => ?_
  rw [Bool.eq_iff_iff, decide_eq_true_iff, Bool.and_eq_true, Text.hasStart_iff, Text.hasEnd_iff]
  rfl

/-- No run takes place exactly when the product has no front end. -/
theorem generate_eq_none_iff {g : Generator} {tree : FileTree} :
    g.generate tree = none ↔
      ∀ project ∈ g.solution.projects, ¬ project.IsFrontEndOf g.productName := by
  have hempty : g.generate tree = none ↔ g.frontEnds = [] := by
    rw [generate]
    split
    · next h => exact iff_of_true rfl h
    · next h => exact iff_of_false (fun h => nomatch h) h
  rw [hempty, frontEnds_eq_filter, List.filter_eq_nil_iff]
  simp only [decide_eq_true_eq]

/-- The documents that a run takes up are the controller documents of its front ends. -/
theorem controllersOf_frontEnds (g : Generator) :
    controllersOf g.frontEnds = g.controllerDocuments := by
  have hcontroller (document : Document) :
      document.isController = decide document.NamesController := by
    rw [Bool.eq_iff_iff, decide_eq_true_iff]
    exact Text.contains_iff
  simp only [controllersOf, frontEnds_eq_filter, controllerDocuments, hcontroller]

/-- A run that is not cut off makes all attempts, one after the other. -/
theorem attemptAll_eq_foldl {g : Generator} {several : Bool} {entries : List (Project × Document)}
    {run : Run} (h : (g.attemptAll several entries run).aborted = false) :
    g.attemptAll several entries run =
      entries.foldl (fun run entry => g.attempt several run entry.1 entry.2) run := by
  induction entries generalizing run with
  | nil => rfl
  | cons entry rest ih =>
    obtain ⟨project, document⟩ := entry
    rw [attemptAll] at h ⊢
    split at h
    · next hcut => cases hcut.symm.trans h
    · next hgoes =>
      rw [if_neg hgoes]
      exact ih h

end Generator

/-- The records of attempts that do not end the run account for them. -/
theorem Run.accountsFor_foldl_record (several : Bool) {attempts : List Attempt} (tree : FileTree)
    (h : ∀ a ∈ attempts, a.ending.endsRun = false) :
    (attempts.foldl (Run.record several) { tree }).AccountsFor several attempts := by
  have hended (a : Attempt) (ha : a ∈ attempts) :
      (∃ m, a.ending = .saved m) ∨ ∃ e, a.ending = .failed e := by
    have hgoes := h a ha
    cases hending : a.ending with
    | saved m => exact .inl ⟨m, rfl⟩
    | failed e => exact .inr ⟨e, rfl⟩
    | cutOff =>
      rw [hending] at hgoes
      cases hgoes
  have hfailures := Run.failures_foldl_record several attempts { tree }
  refine {
    ended := hended
    written := Run.foldl_record_eq_append (fun _ _ => rfl) attempts { tree }
    errors := Run.foldl_record_eq_append (fun _ _ => rfl) attempts { tree }
    progress := Run.foldl_record_eq_append (fun _ _ => rfl) attempts { tree }
    keys := ?_
    messages := ?_
    succeeded := ?_ }
  · rw [hfailures, keys_assignAll_nil]
  · intro key
    rw [hfailures, lookup_assignAll, List.lookup_nil, Option.or_none]
  · rw [Run.succeeded, hfailures, List.isEmpty_iff, assignAll_nil_eq_nil_iff,
      List.filterMap_eq_nil_iff]
    refine forall₂_congr fun a ha => ?_
    rcases hended a ha with ⟨m, hending⟩ | ⟨e, hending⟩
    · simp [Attempt.failure?, Ending.error?, hending]
    · simp [Attempt.failure?, Ending.error?, hending]

namespace Generator

variable {g : Generator} {tree : FileTree} {run : Run}

/-- No attempt ends a run that is not cut off. -/
theorem goes_on_of_generate (made : g.generate tree = some run) (finished : run.aborted = false) :
    (g.attempts tree).any (·.ending.endsRun) = false := by
  rw [eq_record_of_generate made, Run.aborted_foldl_record, Bool.false_or] at finished
  exact finished

/-- A run that is not cut off accounts for its attempts. -/
theorem accountsFor_attempts (made : g.generate tree = some run) (finished : run.aborted = false) :
    run.AccountsFor g.hasSeveral (g.attempts tree) := by
  have hgoes := goes_on_of_generate made finished
  rw [eq_record_of_generate made]
  exact Run.accountsFor_foldl_record g.hasSeveral tree
    fun a ha => Bool.eq_false_iff.mpr (List.any_eq_false.mp hgoes a ha)

end Generator

/-- A run that is not cut off attempts every controller document of its front ends once, in order,
and accounts for all attempts. -/
theorem Generator.accountsFor_of_generate {g : Generator} {tree : FileTree} {run : Run}
    (made : g.generate tree = some run) (finished : run.aborted = false) :
    run = g.controllerDocuments.foldl
        (fun run entry => g.attempt g.hasSeveral run entry.1 entry.2) { tree } ∧
      (g.attempts tree).map (fun a => (a.project, a.document)) = g.controllerDocuments ∧
      run.AccountsFor g.hasSeveral (g.attempts tree) := by
  refine ⟨?_, ?_, accountsFor_attempts made finished⟩
  · have hall := eq_attemptAll_of_generate made
    rw [hall] at finished
    rw [hall, attemptAll_eq_foldl finished, controllersOf_frontEnds]
  · rw [← controllersOf_frontEnds]
    exact map_document_attemptsFrom (goes_on_of_generate made finished)

/-- A controller with one action, which may have a summary or not. -/
def stallController (name : String) (documentation : Option (List DocElement)) : ClassDecl where
  name := name
  methods := [{
    name := "List"
    returnType := { name := "string" }
    attributes := [⟨"HttpGet", [some "list"]⟩]
    modifiers := ["public"]
    documentation }]

/-- The generator for a front end in which two documents have one key: the first has no class, and
the class of the second one has an action without a summary. -/
def market : Generator :=
  .new (.ofProjects [{
    name := "Market.FrontEnd"
    documents := [
      { name := "StallController.cs", folders := ["Controllers"] },
      { name := "FishController.cs", folders := ["Controllers"], classes := [
        stallController "FishController" (some [{ tag := "summary", text := "Lists the fish." }])] },
      { name := "Scales.cs", folders := ["Controllers"] },
      { name := "StallController.cs", folders := ["Controllers"], classes := [
        stallController "StallController" none] }] }])
    ⟨"", ["out"]⟩ "Market"

/-- In that run three documents are attempted, one module is saved, and the two failures share a
key, under which the later message stays. -/
theorem accountsFor_market :
    ∃ run, market.generate {} = some run ∧ run.aborted = false ∧ run.written = ["fish.ts"] ∧
      run.failures = [("Market.FrontEnd/Controllers/StallController.cs",
        "Method 'List' has no <summary> documentation.")] ∧
      run = market.controllerDocuments.foldl
        (fun run entry => market.attempt market.hasSeveral run entry.1 entry.2) { tree := {} } ∧
      (market.attempts {}).map (fun a => (a.project, a.document)) = market.controllerDocuments ∧
      run.AccountsFor market.hasSeveral (market.attempts {}) := by
  have facts : (market.generate {}).map (fun run => (run.aborted, run.written, run.failures)) =
      some (false, ["fish.ts"], [("Market.FrontEnd/Controllers/StallController.cs",
        "Method 'List' has no <summary> documentation.")]) := by
    decide +kernel
  obtain ⟨run, made, hreport⟩ := Option.map_eq_some_iff.mp facts
  obtain ⟨finished, hrest⟩ := Prod.mk.inj hreport
  obtain ⟨hwritten, hfailures⟩ := Prod.mk.inj hrest
  exact ⟨run, made, finished, hwritten, hfailures, Generator.accountsFor_of_generate made finished⟩

end ClientGen

import ClientGen.CommandLine.Outcome
import ClientGen.Proofs.Generation.Accounting
import ClientGen.Proofs.Text.Splitting

/-!
# The keys of controllers that fail

A run reports a controller that fails under a key: the name of its project, its folders and its file
name, between slashes. Two controllers have one key exactly when these have the same parts between
slashes. The front ends of a product are told by their assemblies, but the key has the name of the
project: where two front ends have the same name, controllers at the same place in them have one key,
and only the last of their failures stays in the report. Otherwise, and without slashes in the names,
all keys differ, and the number of failures in the report is the number of controllers that failed.
-/

namespace ClientGen

/-- Two documents stand in the same folders, under the same file name. -/
def Document.SamePlace (left right : Document) : Prop :=
  left.folders = right.folders ∧ left.name = right.name

/-- It is decidable whether two documents do. -/
instance : DecidableRel Document.SamePlace :=
  fun _ _ => inferInstanceAs (Decidable (_ ∧ _))

/-- No two documents of a project stand in the same folders, under the same file name. -/
def Project.PlacesApart (project : Project) : Prop :=
  project.documents.Pairwise fun left right => ¬ left.SamePlace right

/-- It is decidable whether the documents of a project stand apart. -/
instance : DecidablePred Project.PlacesApart :=
  fun _ => inferInstanceAs (Decidable (List.Pairwise _ _))

/-- The controller documents of a project. -/
def Project.controllers (project : Project) : List Document :=
  project.documents.filter fun document => decide document.NamesController

/-- Two projects have a controller at the same place. -/
def Project.SharesController (left right : Project) : Prop :=
  ∃ document ∈ left.controllers, ∃ other ∈ right.controllers, document.SamePlace other

/-- It is decidable whether two projects do. -/
instance : DecidableRel Project.SharesController :=
  fun _ _ => inferInstanceAs (Decidable (∃ _ ∈ _, ∃ _ ∈ _, _))

/-! ### One key -/

/-- The names in the key of a document: that of its project, those of its folders, and its own. -/
def keyNames (project : Project) (document : Document) : List String :=
  project.name :: document.folders ++ [document.name]

/-- The parts of the key of a document: what stands between the slashes of these names. -/
def keyParts (project : Project) (document : Document) : List String :=
  (keyNames project document).flatMap (Text.split '/')

section Keys

variable {project other : Project} {document another : Document}

/-- The key of a document is split into its parts. -/
theorem split_documentKey (project : Project) (document : Document) :
    Text.split '/' (documentKey project document) = keyParts project document :=
  Text.split_intercalate_eq_flatMap '/' project.name (document.folders ++ [document.name])

/-- Two documents have one key exactly when it has the same parts. -/
theorem documentKey_eq_iff : documentKey project document = documentKey other another ↔
    keyParts project document = keyParts other another := by
  rw [← split_documentKey, ← split_documentKey]
  exact (Text.split_injective '/').eq_iff.symm

/-- Without slashes in the names, two documents have one key exactly when they stand at the same place
in projects of the same name. -/
theorem documentKey_eq_iff_of_forall (plain : ∀ name ∈ keyNames project document, '/' ∉ name.toList)
    (plainOther : ∀ name ∈ keyNames other another, '/' ∉ name.toList) :
    documentKey project document = documentKey other another ↔
      project.name = other.name ∧ document.SamePlace another := by
  rw [documentKey_eq_iff, keyParts, keyParts, Text.flatMap_split_of_forall plain,
    Text.flatMap_split_of_forall plainOther, keyNames, keyNames, List.cons_append, List.cons_append,
    List.cons.injEq, ← List.concat_eq_append, ← List.concat_eq_append, List.concat_inj,
    Document.SamePlace]

end Keys

/-! ### The keys of a product -/

namespace Generator

/-- The controller documents of a product are those of its front ends. -/
theorem controllerDocuments_eq_flatMap (g : Generator) :
    g.controllerDocuments = g.frontEnds.flatMap fun project =>
      project.controllers.map fun document => (project, document) := by
  rw [controllerDocuments, frontEnds_eq_filter]
  rfl

/-- A document is a controller document of a product when it is one of a front end. -/
theorem mem_controllerDocuments {g : Generator} {project : Project} {document : Document}
    (hproject : project ∈ g.frontEnds) (hdocument : document ∈ project.controllers) :
    (project, document) ∈ g.controllerDocuments := by
  rw [controllerDocuments_eq_flatMap]
  exact List.mem_flatMap.mpr ⟨project, hproject, List.mem_map_of_mem hdocument⟩

/-- All controller documents of the front ends have different keys. -/
def KeysDiffer (g : Generator) : Prop :=
  g.controllerDocuments.Pairwise fun left right =>
    documentKey left.1 left.2 ≠ documentKey right.1 right.2

/-- Without slashes in the names, and when no project has two documents at one place, all keys differ
exactly when no two front ends of the same name have a controller at the same place. -/
theorem keysDiffer_iff_of_forall {g : Generator}
    (apart : ∀ project ∈ g.frontEnds, project.PlacesApart)
    (plain : ∀ entry ∈ g.controllerDocuments, ∀ name ∈ keyNames entry.1 entry.2, '/' ∉ name.toList) :
    g.KeysDiffer ↔ g.frontEnds.Pairwise fun left right =>
      left.name = right.name → ¬ left.SharesController right := by
  have hkeys {left right : Project} {document other : Document} (hleft : left ∈ g.frontEnds)
      (hdocument : document ∈ left.controllers) (hright : right ∈ g.frontEnds)
      (hother : other ∈ right.controllers) :
      documentKey left document = documentKey right other ↔
        left.name = right.name ∧ document.SamePlace other :=
    documentKey_eq_iff_of_forall (plain _ (mem_controllerDocuments hleft hdocument))
      (plain _ (mem_controllerDocuments hright hother))
  -- The places in one front end differ, so what is left are pairs of front ends.
  have hwithin : ∀ project ∈ g.frontEnds,
      (project.controllers.map fun document => (project, document)).Pairwise
        fun left right => documentKey left.1 left.2 ≠ documentKey right.1 right.2 := by
    intro project hproject
    refine List.pairwise_map.mpr (((apart project hproject).filter _).imp_of_mem ?_)
    intro document other hdocument hother hplace hkey
    exact hplace ((hkeys hproject hdocument hproject hother).mp hkey).2
  rw [KeysDiffer, controllerDocuments_eq_flatMap, List.pairwise_flatMap, and_iff_right hwithin]
  refine List.Pairwise.iff_of_mem fun {left right} hleft hright => ?_
  simp only [List.forall_mem_map]
  constructor
  · rintro h hname ⟨document, hdocument, other, hother, hplace⟩
    exact h document hdocument other hother
      ((hkeys hleft hdocument hright hother).mpr ⟨hname, hplace⟩)
  · intro h document hdocument other hother hkey
    obtain ⟨hname, hplace⟩ := (hkeys hleft hdocument hright hother).mp hkey
    exact h hname ⟨document, hdocument, other, hother, hplace⟩

end Generator

/-! ### The failures of a run -/

/-- The key of the document of an attempt. -/
def Attempt.key (a : Attempt) : String :=
  documentKey a.project a.document

/-- Does an attempt fail? -/
def Attempt.failed (a : Attempt) : Bool :=
  a.ending.error?.isSome

/-- The keys that attempts report are those of the attempts that fail. -/
theorem keys_failures (attempts : List Attempt) :
    (attempts.filterMap (·.failure?)).map (·.1) = (attempts.filter (·.failed)).map (·.key) := by
  induction attempts with
  | nil => rfl
  | cons a rest ih =>
    rw [filterMap_cons_eq_append, List.map_append, ih, List.filter_cons, Attempt.failure?,
      Attempt.failed]
    cases a.ending.error? <;> rfl

namespace Generator

/-- The attempts of a run that fail. -/
def failedAttempts (g : Generator) (tree : FileTree) : List Attempt :=
  (g.attempts tree).filter (·.failed)

variable {g : Generator} {tree : FileTree} {run : Run}

/-- There are as many failures in the report of a run as keys of attempts that fail. -/
theorem length_failures (made : g.generate tree = some run) (finished : run.aborted = false) :
    run.failures.length = ((g.failedAttempts tree).map (·.key)).eraseDups.length := by
  rw [failedAttempts, ← keys_failures, ← (accountsFor_attempts made finished).keys, List.length_map]

/-- There is a failure in the report for each attempt that fails exactly when their keys differ. -/
theorem length_failures_iff (made : g.generate tree = some run) (finished : run.aborted = false) :
    run.failures.length = (g.failedAttempts tree).length ↔
      ((g.failedAttempts tree).map (·.key)).Nodup := by
  rw [length_failures made finished, ← (length_eraseDups (List.map _ _)).2, List.length_map]

/-- When all keys differ, so do those of the attempts that fail. -/
theorem KeysDiffer.nodup_failedAttempts (h : g.KeysDiffer) (made : g.generate tree = some run)
    (finished : run.aborted = false) : ((g.failedAttempts tree).map (·.key)).Nodup := by
  have hdocuments := (accountsFor_of_generate made finished).2.1
  rw [KeysDiffer, ← hdocuments, List.pairwise_map] at h
  exact List.pairwise_map.mpr (h.filter _)

/-- A run that is not cut off succeeds exactly when no attempt fails. -/
theorem succeeded_eq_isEmpty (made : g.generate tree = some run) (finished : run.aborted = false) :
    run.succeeded = (g.failedAttempts tree).isEmpty := by
  have haccounts := accountsFor_attempts made finished
  rw [Bool.eq_iff_iff, haccounts.succeeded, List.isEmpty_iff, failedAttempts,
    List.filter_eq_nil_iff]
  refine forall₂_congr fun a ha => ?_
  rcases haccounts.ended a ha with ⟨m, hending⟩ | ⟨e, hending⟩
  · simp [Attempt.failed, Ending.error?, hending]
  · simp [Attempt.failed, Ending.error?, hending]

/-- The command names the number of failures in the report of its run, if an attempt has failed. -/
theorem errors_ofRun (made : g.generate tree = some run) (finished : run.aborted = false)
    (outputRoot : Path) (output : String) :
    (CommandLine.Outcome.ofRun outputRoot output run).errors =
      CommandLine.textOfLines run.errors ++ if (g.failedAttempts tree).isEmpty then "" else
        toString run.failures.length ++ " controller(s) failed.\n" := by
  rw [← succeeded_eq_isEmpty made finished, CommandLine.Outcome.ofRun, finished]
  cases run.succeeded with
  | true => exact String.append_empty.symm
  | false => exact String.append_assoc ..

/-- The keys of the controller documents differ exactly when their parts do. When no names hold a slash
and no project has two documents at one place, that is so exactly when no two front ends of one name
have a controller at the same place. A run that is not cut off has a failure in its report for each
attempt that fails exactly when the keys of these attempts differ, as they do when all keys do, and
the command names the number of failures in the report. -/
theorem keysDiffer_iff (g : Generator) :
    (g.KeysDiffer ↔ g.controllerDocuments.Pairwise fun left right =>
        keyParts left.1 left.2 ≠ keyParts right.1 right.2) ∧
      ((∀ project ∈ g.frontEnds, project.PlacesApart) →
        (∀ entry ∈ g.controllerDocuments, ∀ name ∈ keyNames entry.1 entry.2, '/' ∉ name.toList) →
        (g.KeysDiffer ↔ g.frontEnds.Pairwise fun left right =>
          left.name = right.name → ¬ left.SharesController right)) ∧
      ∀ tree run, g.generate tree = some run → run.aborted = false →
        (run.failures.length = (g.failedAttempts tree).length ↔
          ((g.failedAttempts tree).map (·.key)).Nodup) ∧
        (g.KeysDiffer → run.failures.length = (g.failedAttempts tree).length) ∧
        ∀ output, (CommandLine.Outcome.ofRun g.outputRoot output run).errors =
          CommandLine.textOfLines run.errors ++ if (g.failedAttempts tree).isEmpty then "" else
            toString run.failures.length ++ " controller(s) failed.\n" := by
  refine ⟨?_, keysDiffer_iff_of_forall, fun tree run made finished => ⟨?_, fun h => ?_, ?_⟩⟩
  · rw [KeysDiffer]
    simp only [ne_eq, documentKey_eq_iff]
  · exact length_failures_iff made finished
  · exact (length_failures_iff made finished).mpr (h.nodup_failedAttempts made finished)
  · exact errors_ofRun made finished g.outputRoot

end Generator

/-- A front end whose one controller has an action without a summary. -/
def stallFrontEnd (name assemblyName : String) : Project where
  name := name
  assemblyName := assemblyName
  documents := [{
    name := "StallController.cs"
    folders := ["Controllers"]
    classes := [stallController "StallController" none] }]

/-- The generator for two such front ends that have different names. -/
def bakery : Generator :=
  .new (.ofProjects [stallFrontEnd "Bakery.Bread.FrontEnd" "",
    stallFrontEnd "Bakery.Cake.FrontEnd" ""]) ⟨"", ["out"]⟩ "Bakery"

/-- Their keys differ, and the report has the failures of both controllers. -/
theorem keysDiffer_bakery :
    bakery.KeysDiffer ∧ ∃ run, bakery.generate {} = some run ∧ run.aborted = false ∧
      (bakery.failedAttempts {}).length = 2 ∧ run.failures.length = 2 := by
  obtain ⟨-, hkeys, hruns⟩ := bakery.keysDiffer_iff
  have hdiffer : bakery.KeysDiffer := (hkeys (by decide) (by decide)).mpr (by decide)
  have facts : (bakery.generate {}).map (·.aborted) = some false := by decide +kernel
  obtain ⟨run, made, finished⟩ := Option.map_eq_some_iff.mp facts
  have hfailed : (bakery.failedAttempts {}).length = 2 := by decide +kernel
  have hcount := (hruns {} run made finished).2.1 hdiffer
  exact ⟨hdiffer, run, made, finished, hfailed, hcount.trans hfailed⟩

/-- The generator for two such front ends that have the same name and different assemblies. -/
def twinBakery : Generator :=
  .new (.ofProjects [stallFrontEnd "Web" "Bakery.Bread.FrontEnd",
    stallFrontEnd "Web" "Bakery.Cake.FrontEnd"]) ⟨"", ["out"]⟩ "Bakery"

/-- The keys do not always differ, even when no project has two documents at one place: both
controllers of these front ends fail, and the report has one failure. -/
theorem not_keysDiffer_twinBakery :
    (∀ project ∈ twinBakery.frontEnds, project.PlacesApart) ∧ ¬ twinBakery.KeysDiffer ∧
      ∃ run, twinBakery.generate {} = some run ∧ run.aborted = false ∧
        (twinBakery.failedAttempts {}).length = 2 ∧
        run.failures = [("Web/Controllers/StallController.cs",
          "Method 'List' has no <summary> documentation.")] := by
  have facts : (twinBakery.generate {}).map (fun run => (run.aborted, run.failures)) =
      some (false, [("Web/Controllers/StallController.cs",
        "Method 'List' has no <summary> documentation.")]) := by
    decide +kernel
  obtain ⟨run, made, hreport⟩ := Option.map_eq_some_iff.mp facts
  obtain ⟨finished, hfailures⟩ := Prod.mk.inj hreport
  refine ⟨by decide, ?_, run, made, finished, by decide +kernel, hfailures⟩
  rw [Generator.KeysDiffer]
  decide

end ClientGen

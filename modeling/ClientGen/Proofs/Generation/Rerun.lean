import ClientGen.Proofs.FileTree.Repeating
import ClientGen.Proofs.Generation.Accounting
import ClientGen.Proofs.Generation.Recorded

/-!
# Running again

A run that is repeated on the files it has left writes the same paths, fails for the same documents
and leaves the files as they are. Every attempt of the second run ends as the one of the first run
did, although it meets other files: nothing that stood there has been removed in the meantime, and
this alone makes every save repeat its outcome. No directory is made any more, so what the second
run does to the files is to put the saved modules in them again, in the same order; the last one in
each file is what stands there already.

The working directory has to exist, with all directories above it. Otherwise relative paths lead
nowhere.
-/

namespace ClientGen

namespace FileTree

/-- Put nodes at locations, one after the other. -/
def insertAll (tree : FileTree) (entries : List (Location × Node)) : FileTree :=
  { tree with nodes := assignAll entries tree.nodes }

/-- Nodes are put after those before them. -/
theorem insertAll_append (tree : FileTree) (earlier later : List (Location × Node)) :
    tree.insertAll (earlier ++ later) = (tree.insertAll earlier).insertAll later := by
  rw [insertAll, assignAll_append]
  rfl

/-- Putting one node is inserting it. -/
theorem insertAll_singleton (tree : FileTree) (location : Location) (node : Node) :
    tree.insertAll [(location, node)] = tree.insert location node := by
  rw [insert, setNode_eq_assign]
  rfl

/-- Nodes of which the last one at each location stands there already change nothing. -/
theorem insertAll_eq_self {tree : FileTree} {entries : List (Location × Node)}
    (h : ∀ location node, entries.reverse.lookup location = some node →
      location ≠ [] ∧ tree.find? location = some node) : tree.insertAll entries = tree := by
  have hnodes : assignAll entries tree.nodes = tree.nodes := by
    apply assignAll_eq_self
    intro location node hlast
    obtain ⟨hroot, hnode⟩ := h location node hlast
    rwa [find?, if_neg hroot] at hnode
  rw [insertAll, hnodes]

end FileTree

/-- What becomes of the document of an attempt: the module that is saved for it, if any. -/
def Attempt.result (a : Attempt) : Project × Document × Option ClientModule :=
  (a.project, a.document, a.saved?)

namespace Generator

/-- A module as a file at its location. -/
def entryOf (g : Generator) (tree : FileTree) (m : ClientModule) : Location × Node :=
  (g.locationIn tree m, .file m.text.toUTF8)

/-- The last file at a location is that of the last module there. -/
theorem lookup_entries (g : Generator) (tree : FileTree) (location : Location)
    (modules : List ClientModule) :
    (modules.map (g.entryOf tree)).reverse.lookup location =
      (g.lastAt tree location modules).map fun m => .file m.text.toUTF8 := by
  rw [← List.map_reverse, lastAt]
  induction modules.reverse with
  | nil => rfl
  | cons m rest ih =>
    rw [List.map_cons, lookup_cons_eq_ite]
    change (if location = g.locationIn tree m then _ else _) = _
    by_cases h : g.locationIn tree m = location
    · rw [if_pos h.symm, List.find?_cons_of_pos (by simpa using h)]
      rfl
    · rw [if_neg (Ne.symm h), List.find?_cons_of_neg (by simpa using h), ih]

/-- An attempt that is repeated after nothing has been removed ends as it did, and only puts the
module that it saves in its file again. -/
theorem attemptOn_again {g : Generator} {several : Bool} {tree later : FileTree} {project : Project}
    {document : Document} (home : tree.Stands tree.workingDirectory)
    (hgoes : (g.attemptOn several tree project document).ending.endsRun = false)
    (hkept : FileTree.Kept (g.attemptOn several tree project document).after later) :
    let first := g.attemptOn several tree project document
    let second := g.attemptOn several later project document
    second.result = first.result ∧ second.ending.endsRun = false ∧
      second.after = later.insertAll (first.saved?.toList.map (g.entryOf later)) := by
  cases hmade : g.moduleOf several project document with
  | error e =>
    rw [attemptOn_of_error hmade, attemptOn_of_error hmade]
    exact ⟨rfl, rfl, rfl⟩
  | ok m =>
    rcases hsave : tree.save (g.fileOf m) m.text.toUTF8 with
      ⟨(⟨fault, refusedPath⟩ | _) | _, after⟩
    · rw [attemptOn_of_refused hmade hsave] at hkept ⊢
      obtain ⟨fault', path', hagain⟩ :=
        FileTree.save_again_of_refused home hsave hkept m.text.toUTF8
      rw [attemptOn_of_refused hmade hagain]
      exact ⟨rfl, rfl, rfl⟩
    · rw [attemptOn_of_nul hmade hsave] at hgoes
      cases hgoes
    · rw [attemptOn_of_saved hmade hsave] at hkept ⊢
      have hagain := FileTree.save_again_of_ok home hsave hkept m.text.toUTF8
      rw [attemptOn_of_saved hmade hagain]
      exact ⟨rfl, rfl, (FileTree.insertAll_singleton later _ _).symm⟩

/-- Attempts that are repeated after nothing has been removed end as they did, and only put the
modules that they save in their files again. -/
theorem attemptsFrom_again {g : Generator} {several : Bool} {entries : List (Project × Document)}
    {tree later : FileTree} (home : tree.Stands tree.workingDirectory)
    (hgoes : (g.attemptsFrom several entries tree).any (·.ending.endsRun) = false)
    (hkept : FileTree.Kept (filesAfter tree (g.attemptsFrom several entries tree)) later) :
    let first := g.attemptsFrom several entries tree
    let second := g.attemptsFrom several entries later
    second.map (·.result) = first.map (·.result) ∧ second.any (·.ending.endsRun) = false ∧
      filesAfter later second =
        later.insertAll ((first.filterMap (·.saved?)).map (g.entryOf later)) := by
  induction entries generalizing tree later with
  | nil => exact ⟨rfl, rfl, rfl⟩
  | cons entry rest ih =>
    obtain ⟨project, document⟩ := entry
    obtain ⟨hfirst, hrest⟩ := goes_on_cons hgoes
    rw [attemptsFrom_cons hfirst] at hkept ⊢
    let a := g.attemptOn several tree project document
    have hhere : FileTree.Kept tree a.after := g.kept_attemptOn several tree project document
    -- what the attempt has left is still there after those that follow it
    have hlater := (g.chained_attemptsFrom several rest a.after).kept
    obtain ⟨hresult, hgoes', hafter⟩ := attemptOn_again home hfirst (hlater.trans hkept)
    have hagain := g.kept_attemptOn several later project document
    obtain ⟨hresults, hgoesRest, hafterRest⟩ := ih (hhere.home home) hrest (hkept.trans hagain)
    rw [attemptsFrom_cons hgoes']
    refine ⟨?_, ?_, ?_⟩
    · rw [List.map_cons, List.map_cons, hresult, hresults]
    · rw [List.any_cons, hgoes', hgoesRest]
      rfl
    · have hplace : g.entryOf (g.attemptOn several later project document).after =
          g.entryOf later := by
        funext m
        rw [entryOf, g.locationIn_congr hagain.workingDirectory, entryOf]
      rw [filesAfter, List.foldl_cons, ← filesAfter, hafterRest, hplace, hafter,
        filterMap_cons_eq_append, List.map_append, FileTree.insertAll_append]

/-- Attempts that are repeated on the files they have left change none of them. -/
theorem filesAfter_again {g : Generator} {several : Bool} {entries : List (Project × Document)}
    {tree : FileTree} (home : tree.Stands tree.workingDirectory)
    (hgoes : (g.attemptsFrom several entries tree).any (·.ending.endsRun) = false) :
    let left := filesAfter tree (g.attemptsFrom several entries tree)
    filesAfter left (g.attemptsFrom several entries left) = left := by
  have hchained := g.chained_attemptsFrom several entries tree
  have hafter := (attemptsFrom_again home hgoes (.refl _)).2.2
  refine hafter.trans (FileTree.insertAll_eq_self fun location node hlast => ?_)
  rw [lookup_entries, Option.map_eq_some_iff] at hlast
  obtain ⟨m, hlast, rfl⟩ := hlast
  rw [lastAt, g.locationIn_congr hchained.kept.workingDirectory] at hlast
  have hfile := hchained.find?_of_lastAt hlast
  refine ⟨?_, hfile⟩
  rintro rfl
  cases hfile

end Generator

/-- A run repeats another one. -/
structure Run.Repeats (again run : Run) : Prop where
  /-- It is not cut off. -/
  finished : again.aborted = false
  /-- It writes the same paths. -/
  written : again.written = run.written
  /-- It fails under the same keys, in the same order. -/
  failed : again.failures.map (·.1) = run.failures.map (·.1)
  /-- It leaves the same files. -/
  tree : again.tree = run.tree

/-- The paths that attempts report as written are told by their results. -/
theorem filterMap_writtenPath? (attempts : List Attempt) :
    attempts.filterMap (·.writtenPath?) =
      (attempts.map (·.result)).filterMap fun r => r.2.2.map (·.place.path) := by
  rw [List.filterMap_map]
  rfl

/-- An attempt that does not end the run fails under its key when it saves no module. -/
theorem Attempt.failureKey_eq {a : Attempt} (h : a.ending.endsRun = false) :
    a.failure?.map (·.1) =
      if a.saved?.isNone then some (documentKey a.project a.document) else none := by
  cases hending : a.ending with
  | saved m => simp [failure?, saved?, hending, Ending.saved?, Ending.error?]
  | failed e => simp [failure?, saved?, hending, Ending.saved?, Ending.error?]
  | cutOff =>
    rw [hending] at h
    cases h

/-- The keys under which attempts fail that do not end the run are told by their results. -/
theorem filterMap_failureKey {attempts : List Attempt}
    (h : attempts.any (·.ending.endsRun) = false) :
    (attempts.filterMap (·.failure?)).map (·.1) =
      (attempts.map (·.result)).filterMap fun r =>
        if r.2.2.isNone then some (documentKey r.1 r.2.1) else none := by
  rw [List.map_filterMap]
  induction attempts with
  | nil => rfl
  | cons a rest ih =>
    rw [List.any_cons, Bool.or_eq_false_iff] at h
    rw [List.map_cons, filterMap_cons_eq_append, filterMap_cons_eq_append, ih h.2,
      Attempt.failureKey_eq h.1]
    rfl

namespace Generator

/-- Whether a run takes place does not depend on the files. -/
theorem exists_generate {g : Generator} {tree : FileTree} {run : Run}
    (made : g.generate tree = some run) (later : FileTree) :
    ∃ again, g.generate later = some again := by
  unfold generate at made ⊢
  split at made
  · cases made
  · exact ⟨_, rfl⟩

/-- In a tree whose working directory exists, a run that is not cut off can be repeated on the files
it has left: the second run writes the same paths, fails for the same documents, saves the same
module for every other one, and leaves the files as they are. -/
theorem repeats_of_generate {g : Generator} {tree : FileTree} {run : Run}
    (home : tree.Stands tree.workingDirectory) (made : g.generate tree = some run)
    (finished : run.aborted = false) :
    ∃ again, g.generate run.tree = some again ∧ again.Repeats run ∧
      (g.attempts run.tree).map (·.result) = (g.attempts tree).map (·.result) := by
  obtain ⟨again, hagain⟩ := exists_generate made run.tree
  have hgoes := goes_on_of_generate made finished
  have hleft := tree_of_generate made
  have hkept : FileTree.Kept (filesAfter tree (g.attempts tree)) run.tree := hleft ▸ .refl _
  obtain ⟨hresults, hgoes', -⟩ := attemptsFrom_again home hgoes hkept
  have hfinished : again.aborted = false := by
    rw [eq_record_of_generate hagain, Run.aborted_foldl_record]
    exact hgoes'
  have hfirst := accountsFor_attempts made finished
  have hsecond := accountsFor_attempts hagain hfinished
  refine ⟨again, hagain, ?_, hresults⟩
  refine {
    finished := hfinished
    written := ?_
    failed := ?_
    tree := ?_ }
  · rw [hsecond.written, hfirst.written, filterMap_writtenPath?, filterMap_writtenPath?]
    exact congrArg _ hresults
  · rw [hsecond.keys, hfirst.keys, filterMap_failureKey (goes_on_of_generate hagain hfinished),
      filterMap_failureKey hgoes]
    exact congrArg _ (congrArg _ hresults)
  · rw [tree_of_generate hagain, hleft]
    exact filesAfter_again home hgoes

/-- The generator for a front end in which the second controller needs a directory where the module
of the first one is, and the third one has the file of the first. -/
def quay : Generator :=
  .new (.ofProjects [{
    name := "Quay.FrontEnd"
    documents := [
      { name := "StallController.cs", folders := ["Controllers"], classes := [
        stallController "StallController" (some [{ tag := "summary", text := "Lists." }])] },
      { name := "FishController.cs", folders := ["Controllers", "stall.ts"], classes := [
        stallController "FishController" (some [{ tag := "summary", text := "Lists." }])] },
      { name := "StallController.cs", folders := ["Api"], classes := [
        stallController "StallController" (some [{ tag := "summary", text := "Lists all." }])] }] }])
    ⟨"", ["out"]⟩ "Quay"

/-- On the files that its first run has left, the second controller fails again. -/
theorem repeats_quay :
    ∃ run again, quay.generate {} = some run ∧ run.aborted = false ∧
      run.written = ["stall.ts", "stall.ts"] ∧
      run.failures.map (·.1) = ["Quay.FrontEnd/Controllers/stall.ts/FishController.cs"] ∧
      quay.generate run.tree = some again ∧ again.Repeats run ∧
      (quay.attempts run.tree).map (·.result) = (quay.attempts {}).map (·.result) := by
  have facts : (quay.generate {}).map (fun run =>
      (run.aborted, run.written, run.failures.map (·.1))) =
        some (false, ["stall.ts", "stall.ts"],
          ["Quay.FrontEnd/Controllers/stall.ts/FishController.cs"]) := by
    decide +kernel
  obtain ⟨run, made, hreport⟩ := Option.map_eq_some_iff.mp facts
  obtain ⟨finished, hrest⟩ := Prod.mk.inj hreport
  obtain ⟨hwritten, hfailures⟩ := Prod.mk.inj hrest
  have home : FileTree.Stands {} [] := fun above habove => by
    rw [List.prefix_nil.mp habove]
    rfl
  obtain ⟨again, hagain, hrepeats⟩ := repeats_of_generate home made finished
  exact ⟨run, again, made, finished, hwritten, hfailures, hagain, hrepeats⟩

end Generator

end ClientGen

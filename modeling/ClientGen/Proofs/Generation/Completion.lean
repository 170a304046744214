import ClientGen.Loading.Snapshot
import ClientGen.Proofs.FileTree.NulPaths
import ClientGen.Proofs.Generation.Accounting
import ClientGen.Proofs.Generation.Confinement
import ClientGen.Proofs.Solution.Symbols

/-!
# What ends a run

No failure of a controller is meant to end a run: an error is reported, and the next controller has
its turn. Of everything that can go wrong in an attempt, one thing is no such error. The system never
sees a path with a NUL character, so saving a module there is not refused but breaks off, and the run
with it. A run therefore completes exactly when no attempt meets a NUL character, and it does whenever
the names of its controllers hold none. A snapshot may hold such names: its loader takes any text.
-/

namespace ClientGen

namespace Generator

variable {g : Generator} {several : Bool} {tree : FileTree} {run : Run}

/-- A run attempts every controller document of the front ends once, in order, and accounts for all
attempts. -/
structure Completes (g : Generator) (tree : FileTree) (run : Run) : Prop where
  /-- Nothing cuts the run off. -/
  finished : run.aborted = false
  /-- Every controller document is attempted. -/
  attempted : (g.attempts tree).map (fun a => (a.project, a.document)) = g.controllerDocuments
  /-- The report accounts for the attempts. -/
  accounts : run.AccountsFor g.hasSeveral (g.attempts tree)

/-- An attempt meets a NUL character: it makes a module whose file has the character in its path, and
the directories above that file are not refused. -/
def MeetsNul (g : Generator) (a : Attempt) : Prop :=
  ∃ m, g.moduleOf g.hasSeveral a.project a.document = .ok m ∧ '\x00' ∈ (g.fileOf m).text.toList ∧
    ¬ a.before.RefusesAbove (g.fileOf m)

/-- The output root and the names that the paths of modules are made from hold no NUL character. -/
def HasNoNul (g : Generator) : Prop :=
  '\x00' ∉ g.outputRoot.text.toList ∧
    ∀ entry ∈ controllersOf g.frontEnds, ∀ controller ∈ entry.2.classes.head?,
      (g.hasSeveral = true → '\x00' ∉ entry.1.name.toList) ∧
        (∀ folder ∈ entry.2.folders.drop 1, '\x00' ∉ folder.toList) ∧
        '\x00' ∉ controller.name.toList

/-- It is decidable whether names hold no NUL character. -/
instance (g : Generator) : Decidable g.HasNoNul :=
  inferInstanceAs (Decidable (_ ∧ ∀ _ ∈ _, _))

/-- An attempt ends the run exactly when it meets a NUL character. -/
theorem endsRun_attemptOn_iff (tree : FileTree) (project : Project) (document : Document) :
    (g.attemptOn g.hasSeveral tree project document).ending.endsRun = true ↔
      g.MeetsNul (g.attemptOn g.hasSeveral tree project document) := by
  have hmeets (m : ClientModule) (hmade : g.moduleOf g.hasSeveral project document = .ok m) :
      g.MeetsNul (g.attemptOn g.hasSeveral tree project document) ↔
        (tree.save (g.fileOf m) m.text.toUTF8).1 = .error .nulCharacter := by
    rw [FileTree.save_eq_nulCharacter_iff, FileTree.hasNul, List.contains_iff_mem]
    constructor
    · rintro ⟨n, hn, h⟩
      obtain rfl := Except.ok.inj (hmade.symm.trans hn)
      exact h
    · exact fun h => ⟨m, hmade, h⟩
  cases hmade : g.moduleOf g.hasSeveral project document with
  | error e =>
    rw [attemptOn_of_error hmade]
    refine iff_of_false Bool.false_ne_true ?_
    rintro ⟨m, hm, -⟩
    cases hmade.symm.trans hm
  | ok m =>
    rw [hmeets m hmade]
    rcases hsave : tree.save (g.fileOf m) m.text.toUTF8 with
      ⟨(⟨fault, refusedPath⟩ | _) | _, after⟩
    · rw [attemptOn_of_refused hmade hsave]
      simp [Ending.endsRun]
    · rw [attemptOn_of_nul hmade hsave]
      simp [Ending.endsRun]
    · rw [attemptOn_of_saved hmade hsave]
      simp [Ending.endsRun]

/-- Every attempt is the attempt of one of the documents, on the files before it. -/
theorem eq_attemptOn_of_mem {entries : List (Project × Document)} {a : Attempt}
    (ha : a ∈ g.attemptsFrom several entries tree) :
    (a.project, a.document) ∈ entries ∧ g.attemptOn several a.before a.project a.document = a := by
  induction entries generalizing tree with
  | nil => exact absurd ha List.not_mem_nil
  | cons entry rest ih =>
    obtain ⟨project, document⟩ := entry
    rw [attemptsFrom] at ha
    rcases List.mem_cons.mp ha with rfl | ha
    · exact ⟨List.mem_cons_self, rfl⟩
    · split at ha
      · exact absurd ha List.not_mem_nil
      · exact (ih ha).imp_left (List.mem_cons_of_mem _)

/-- A run is cut off exactly when one of its attempts meets a NUL character. -/
theorem aborted_eq_false_iff (made : g.generate tree = some run) :
    run.aborted = false ↔ ∀ a ∈ g.attempts tree, ¬ g.MeetsNul a := by
  rw [eq_record_of_generate made, Run.aborted_foldl_record, Bool.false_or, List.any_eq_false]
  refine forall₂_congr fun a ha => ?_
  have hattempt := endsRun_attemptOn_iff (g := g) a.before a.project a.document
  rw [(eq_attemptOn_of_mem ha).2] at hattempt
  rw [hattempt]

/-- A run completes exactly when nothing cuts it off. -/
theorem completes_iff_finished (made : g.generate tree = some run) :
    g.Completes tree run ↔ run.aborted = false := by
  refine ⟨Completes.finished, fun finished => ⟨finished, ?_, accountsFor_attempts made finished⟩⟩
  rw [← controllersOf_frontEnds]
  exact map_document_attemptsFrom (goes_on_of_generate made finished)

/-- When the names of the controllers hold no NUL character, no attempt meets one. -/
theorem HasNoNul.not_meetsNul (names : g.HasNoNul) {a : Attempt} (ha : a ∈ g.attempts tree) :
    ¬ g.MeetsNul a := by
  rintro ⟨m, hmade, hnul, -⟩
  obtain ⟨hproject, hdocument⟩ := origin_of_moduleOf hmade
  have hcontroller := controller_of_moduleOf hmade
  rw [hdocument] at hcontroller
  obtain ⟨hroot, hnames⟩ := names
  obtain ⟨hname, hfolders, hclass⟩ := hnames _ (eq_attemptOn_of_mem ha).1 m.controller hcontroller
  rw [Path.mem_text_iff (by decide) (by decide)] at hroot hnul
  rcases hnul.of_join with h | h
  · exact hroot h
  · rw [place_of_moduleOf hmade, hproject, hdocument] at h
    rcases ModulePath.nul_mem_of_derive h with ⟨hseveral, h⟩ | ⟨folder, hfolder, h⟩ | h
    · exact hname hseveral h
    · exact hfolders folder hfolder h
    · exact hclass h

/-- A front end with two controllers, the class of the first under a given name. -/
def lockProject (className : String) : Project where
  name := "LockFrontEnd"
  documents := [
    { name := "AController", classes := [{ name := className }] },
    { name := "BController", classes := [{ name := "Gate" }] }]

/-- The generator for the product of that front end. -/
def lock (className : String) : Generator :=
  .new (.ofProjects [lockProject className]) ⟨"", ["out"]⟩ "Lock"

/-- A snapshot of that front end, with a NUL character at the end of the name. -/
def lockText : String :=
  "projects: [\x7bname: LockFrontEnd, documents: [\x7bname: AController, classes: " ++
    "[\x7bname: \"Sluice\\0\"\x7d]\x7d, \x7bname: BController, classes: [\x7bname: Gate\x7d]\x7d]\x7d]"

end Generator

end ClientGen

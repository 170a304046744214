import ClientGen.CommandLine.Outcome
import ClientGen.Proofs.Generation.Accounting
import ClientGen.Proofs.Generation.Recorded
import ClientGen.Proofs.Loading.BreakingOff

/-!
# What the exit code means

A request that the command line makes is fulfilled when its solution loads, when the product has a
front end in it, and when the module of every controller document of these front ends is saved, one
after the other. The command ends with code 0 exactly when its request is fulfilled, and otherwise
with code 1, however it ends. When it ends before the first module is generated, the files are the
ones it has found.
-/

namespace ClientGen

namespace Generator

/-- The modules of some documents are all made and saved, one after the other. -/
inductive Writes (g : Generator) (several : Bool) :
    List (Project × Document) → FileTree → FileTree → Prop
  /-- There is no document. -/
  | none (tree : FileTree) : Writes g several [] tree tree
  /-- The module of the first document is saved, and then those of the others. -/
  | next {project : Project} {document : Document} {m : ClientModule}
    {rest : List (Project × Document)} {tree between after : FileTree}
    (made : g.moduleOf several project document = .ok m)
    (saved : tree.save (g.fileOf m) m.text.toUTF8 = (.ok (), between))
    (later : Writes g several rest between after) :
    Writes g several ((project, document) :: rest) tree after

variable {g : Generator} {several : Bool} {entries : List (Project × Document)}
  {tree after : FileTree}

/-- When every attempt saves a module, the modules of all documents are saved. -/
theorem writes_of_saved
    (h : ∀ a ∈ g.attemptsFrom several entries tree, ∃ m, a.ending = .saved m) :
    g.Writes several entries tree (filesAfter tree (g.attemptsFrom several entries tree)) := by
  induction entries generalizing tree with
  | nil => exact .none tree
  | cons entry rest ih =>
    obtain ⟨project, document⟩ := entry
    obtain ⟨m, hending⟩ := h (g.attemptOn several tree project document) List.mem_cons_self
    have hgoes : (g.attemptOn several tree project document).ending.endsRun = false := by
      rw [hending, Ending.endsRun]
    rw [attemptsFrom_cons hgoes] at h ⊢
    obtain ⟨made, saved⟩ := save_of_saved? (congrArg Ending.saved? hending)
    exact .next made saved (ih fun a ha => h a (List.mem_cons_of_mem _ ha))

/-- When the modules of all documents are saved, every attempt saves one. -/
theorem saved_of_writes (h : g.Writes several entries tree after) :
    (∀ a ∈ g.attemptsFrom several entries tree, ∃ m, a.ending = .saved m) ∧
      filesAfter tree (g.attemptsFrom several entries tree) = after := by
  induction h with
  | none tree => exact ⟨fun _ ha => absurd ha List.not_mem_nil, rfl⟩
  | @next project document m rest tree between after made saved _ ih =>
    have hattempt := attemptOn_of_saved made saved
    have hgoes : (g.attemptOn several tree project document).ending.endsRun = false := by
      rw [hattempt, Ending.endsRun]
    rw [attemptsFrom_cons hgoes, hattempt]
    exact ⟨List.forall_mem_cons.mpr ⟨⟨m, rfl⟩, ih.1⟩, ih.2⟩

/-- A run that takes place is neither cut off nor has failures exactly when it saves the modules of
all controller documents of the front ends. -/
theorem succeeds_iff_writes {run : Run} (made : g.generate tree = some run) :
    (run.aborted = false ∧ run.succeeded = true) ↔
      g.Writes g.hasSeveral g.controllerDocuments tree run.tree := by
  rw [tree_of_generate made, ← controllersOf_frontEnds]
  constructor
  · rintro ⟨finished, succeeded⟩
    exact writes_of_saved ((accountsFor_attempts made finished).succeeded.mp succeeded)
  · intro h
    have hsaved := (saved_of_writes h).1
    have finished : run.aborted = false := by
      rw [eq_record_of_generate made, Run.aborted_foldl_record, Bool.false_or, List.any_eq_false]
      intro a ha
      obtain ⟨m, hending⟩ := hsaved a ha
      rw [hending, Ending.endsRun]
      exact Bool.false_ne_true
    exact ⟨finished, (accountsFor_attempts made finished).succeeded.mpr hsaved⟩

end Generator

namespace CommandLine

/-- The generator that a request asks for. -/
def Request.generator (request : Request) (solution : Solution) : Generator :=
  .new solution request.applicationRoot request.productName

/-- A request is fulfilled, and leaves some files. -/
inductive Request.Fulfilled (request : Request) (tree after : FileTree) : Prop
  /-- The solution loads, the product has a front end, and the modules of all controller documents
  of its front ends are saved. -/
  | intro {solution : Solution} (loaded : Solution.load tree request.solutionPath = .ok solution)
    (frontEnd : ∃ project ∈ solution.projects, project.IsFrontEndOf request.productName)
    (writes : (request.generator solution).Writes (request.generator solution).hasSeveral
      (request.generator solution).controllerDocuments tree after)

/-- A request ends before generation starts. -/
inductive Request.EndsEarly (request : Request) (tree : FileTree) : Prop
  /-- The format of the solution is not told. -/
  | undetected {fault : LoadFault}
    (failed : SolutionFormat.detect tree request.solutionPath = .error fault)
  /-- The solution does not load. -/
  | unloaded {fault : LoadFault}
    (failed : Solution.load tree request.solutionPath = .error fault)
  /-- The product has no front end. -/
  | noFrontEnd {solution : Solution}
    (loaded : Solution.load tree request.solutionPath = .ok solution)
    (none : ∀ project ∈ solution.projects, ¬ project.IsFrontEndOf request.productName)

/-! ### How a command ends -/

section Endings

variable {request : Request} {tree : FileTree} {solution : Solution}

/-- A fault of loading leaves the files and ends with code 1. -/
theorem Outcome.ofLoadFault_ends (tree : FileTree) (output : String) (fault : LoadFault) :
    (Outcome.ofLoadFault tree output fault).tree = tree ∧
      (Outcome.ofLoadFault tree output fault).exitCode = 1 := by
  cases fault <;> exact ⟨rfl, rfl⟩

/-- A run leaves its files, and ends with code 0 exactly when it is not cut off and has no failures.
-/
theorem Outcome.ofRun_ends (outputRoot : Path) (output : String) (run : Run) :
    (Outcome.ofRun outputRoot output run).tree = run.tree ∧
      (Outcome.ofRun outputRoot output run).exitCode =
        if run.aborted = false ∧ run.succeeded = true then 0 else 1 := by
  unfold Outcome.ofRun
  cases run.aborted <;> cases run.succeeded <;> exact ⟨rfl, rfl⟩

/-- Without a solution a request leaves the files and ends with code 1. -/
theorem Request.perform_of_unloaded {fault : LoadFault}
    (failed : Solution.load tree request.solutionPath = .error fault) :
    (request.perform tree).tree = tree ∧ (request.perform tree).exitCode = 1 := by
  rw [perform]
  cases SolutionFormat.detect tree request.solutionPath with
  | error other => exact Outcome.ofLoadFault_ends tree "" other
  | ok format =>
    rw [failed]
    exact Outcome.ofLoadFault_ends tree (loadingLine request.solutionPath format) fault

/-- With a solution a request ends as its run does, if there is one. -/
theorem Request.perform_of_loaded
    (loaded : Solution.load tree request.solutionPath = .ok solution) :
    ∃ output, request.perform tree =
      match (request.generator solution).generate tree with
      | some run => .ofRun (request.generator solution).outputRoot output run
      | none =>
        { tree, output, exitCode := 1
          errors := errorLine (Generator.noFrontEnds request.productName) } := by
  obtain ⟨format, detected, -⟩ := bind_eq_ok_iff.mp loaded
  refine ⟨loadingLine request.solutionPath format, ?_⟩
  rw [perform, detected, loaded]
  rfl

/-- Without a front end a request leaves the files and ends with code 1. -/
theorem Request.perform_of_noFrontEnd
    (loaded : Solution.load tree request.solutionPath = .ok solution)
    (none : ∀ project ∈ solution.projects, ¬ project.IsFrontEndOf request.productName) :
    (request.perform tree).tree = tree ∧ (request.perform tree).exitCode = 1 := by
  obtain ⟨output, hperform⟩ := perform_of_loaded loaded
  have hnone : (request.generator solution).generate tree = .none :=
    Generator.generate_eq_none_iff.mpr none
  rw [hperform, hnone]
  exact ⟨rfl, rfl⟩

/-- With a front end a request leaves the files of a run, and ends with code 0 exactly when that is
neither cut off nor has failures. -/
theorem Request.perform_of_frontEnd
    (loaded : Solution.load tree request.solutionPath = .ok solution)
    (frontEnd : ∃ project ∈ solution.projects, project.IsFrontEndOf request.productName) :
    ∃ run, (request.generator solution).generate tree = some run ∧
      (request.perform tree).tree = run.tree ∧
      (request.perform tree).exitCode =
        if run.aborted = false ∧ run.succeeded = true then 0 else 1 := by
  obtain ⟨output, hperform⟩ := perform_of_loaded loaded
  cases made : (request.generator solution).generate tree with
  | none =>
    obtain ⟨project, hproject, hfront⟩ := frontEnd
    exact absurd hfront (Generator.generate_eq_none_iff.mp made project hproject)
  | some run =>
    rw [made] at hperform
    rw [hperform]
    exact ⟨run, rfl, Outcome.ofRun_ends _ output run⟩

/-- A request that ends early is not fulfilled by any files. -/
theorem Request.not_fulfilled_of_endsEarly (early : request.EndsEarly tree) (after : FileTree) :
    ¬ request.Fulfilled tree after := by
  rintro ⟨loaded, ⟨project, hproject, hfront⟩, -⟩
  rcases early with failed | failed | ⟨others, none⟩
  · obtain ⟨format, detected, -⟩ := bind_eq_ok_iff.mp loaded
    cases detected.symm.trans failed
  · cases loaded.symm.trans failed
  · obtain rfl := Except.ok.inj (loaded.symm.trans others)
    exact none project hproject hfront

/-- A request that ends early leaves the files and ends with code 1. -/
theorem Request.perform_of_endsEarly (early : request.EndsEarly tree) :
    (request.perform tree).tree = tree ∧ (request.perform tree).exitCode = 1 := by
  rcases early with failed | failed | ⟨loaded, none⟩
  · exact perform_of_unloaded (bind_error_of_first failed)
  · exact perform_of_unloaded failed
  · exact perform_of_noFrontEnd loaded none

/-- A request ends with code 0 when it is fulfilled, and with code 1 when it is not. -/
theorem Request.exitCode_perform (request : Request) (tree : FileTree) :
    let outcome := request.perform tree
    (outcome.exitCode = 0 ∧ request.Fulfilled tree outcome.tree) ∨
      (outcome.exitCode = 1 ∧ ¬ request.Fulfilled tree outcome.tree) := by
  cases loaded : Solution.load tree request.solutionPath with
  | error fault =>
    have early : request.EndsEarly tree := .unloaded loaded
    exact .inr ⟨(perform_of_endsEarly early).2, not_fulfilled_of_endsEarly early _⟩
  | ok solution =>
    by_cases frontEnd : ∃ project ∈ solution.projects, project.IsFrontEndOf request.productName
    · obtain ⟨run, made, htree, hcode⟩ := perform_of_frontEnd loaded frontEnd
      have hfulfilled : request.Fulfilled tree run.tree ↔
          (run.aborted = false ∧ run.succeeded = true) := by
        rw [Generator.succeeds_iff_writes made]
        constructor
        · rintro ⟨others, -, writes⟩
          obtain rfl := Except.ok.inj (loaded.symm.trans others)
          exact writes
        · exact .intro loaded frontEnd
      dsimp only
      rw [htree, hcode, hfulfilled]
      split
      · next h => exact .inl ⟨rfl, h⟩
      · next h => exact .inr ⟨rfl, h⟩
    · have early : request.EndsEarly tree :=
        .noFrontEnd loaded fun project hproject hfront => frontEnd ⟨project, hproject, hfront⟩
      exact .inr ⟨(perform_of_endsEarly early).2, not_fulfilled_of_endsEarly early _⟩

end Endings

/-- A command line that is understood as a request ends with code 0 exactly when the request is
fulfilled, and otherwise with code 1. When it ends early, the files are as they were. -/
theorem exitCode_of_read {tree : FileTree} {line : List String} {request : Request}
    (accepted : Command.read tree line = .ok (.generate request)) :
    let outcome := execute tree line
    (outcome.exitCode = 0 ↔ request.Fulfilled tree outcome.tree) ∧
      (outcome.exitCode = 0 ∨ outcome.exitCode = 1) ∧
      (request.EndsEarly tree → outcome.tree = tree) := by
  have hperform : execute tree line = request.perform tree := by rw [execute, accepted]
  rw [hperform]
  refine ⟨?_, ?_, fun early => (Request.perform_of_endsEarly early).1⟩
  · rcases request.exitCode_perform tree with ⟨hcode, h⟩ | ⟨hcode, h⟩
    · exact iff_of_true hcode h
    · exact iff_of_false (by rw [hcode]; exact Nat.one_ne_zero) h
  · exact (request.exitCode_perform tree).imp And.left And.left

/-- A snapshot of a front end with one controller. -/
def harborText : String :=
  "projects: [{name: HarborFrontEnd, documents: [{name: Controller, classes: [{name: Pier}]}]}]"

/-- The files with that snapshot. -/
def harborTree : FileTree where
  nodes := [(["harbor.yml"], .file harborText.toUTF8)]

/-- The request for the modules of that front end. -/
def harborRequest : Request where
  solutionPath := ⟨"", ["harbor.yml"]⟩
  applicationRoot := ⟨"", ["out"]⟩
  productName := "Harbor"

/-- The command line that makes that request. -/
def harborLine : List String :=
  ["harbor.yml", "out", "Harbor"]

/-- That request is fulfilled, and the command ends with code 0. -/
theorem exitCode_of_read_harbor :
    Command.read harborTree harborLine = .ok (.generate harborRequest) ∧
      (execute harborTree harborLine).exitCode = 0 ∧
      let outcome := execute harborTree harborLine
      (outcome.exitCode = 0 ↔ harborRequest.Fulfilled harborTree outcome.tree) ∧
        (outcome.exitCode = 0 ∨ outcome.exitCode = 1) ∧
        (harborRequest.EndsEarly harborTree → outcome.tree = harborTree) := by
  have accepted : Command.read harborTree harborLine = .ok (.generate harborRequest) := rfl
  have detected : SolutionFormat.detect harborTree harborRequest.solutionPath = .ok .snapshot := rfl
  have stands : harborTree.read harborRequest.solutionPath = .ok harborText.toUTF8 := rfl
  have lines : harborText = String.ofList (Solution.withLineFeeds harborText.toList) := by
    decide +kernel
  have loaded := Solution.load_of_snapshot detected ⟨harborText, stands, lines⟩
  refine ⟨accepted, ?_, exitCode_of_read accepted⟩
  rw [execute, accepted]
  dsimp only
  rw [Request.perform, detected, loaded]
  decide +kernel

end CommandLine

end ClientGen

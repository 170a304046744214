import ClientGen.Proofs.FileTree.Saving
import ClientGen.Proofs.Generation.Attempts

/-!
# The modules that a run records

An attempt either saves the module of its document and records its path, or it records nothing and
has made directories at most. The attempts of a run follow one another: each starts with the files
that the one before it has left. By induction over them, nothing is ever removed, the last module
saved at a location is the file that stands there at the end, and at any other location there is at
most a directory that has been made. The modules recorded by a run are those that its attempts save.
-/

namespace ClientGen.Generator

/-- The location of a module's file. -/
def locationIn (g : Generator) (tree : FileTree) (m : ClientModule) : Location :=
  tree.locationOf (g.fileOf m)

/-- The module that an attempt records, if it records any. -/
def recordedBy (g : Generator) (several : Bool) (run : Run) (project : Project)
    (document : Document) : Option ClientModule :=
  if (g.attempt several run project document).written = run.written then none
  else (g.moduleOf several project document).toOption

/-- The modules that the attempts of a run record, in order. -/
def recorded (g : Generator) (several : Bool) : List (Project × Document) → Run → List ClientModule
  | [], _ => []
  | (project, document) :: rest, run =>
    let next := g.attempt several run project document
    (g.recordedBy several run project document).toList ++
      if next.aborted then [] else g.recorded several rest next

/-- A module belongs to the project and the document that it was made for. -/
theorem origin_of_moduleOf {g : Generator} {several : Bool} {project : Project}
    {document : Document} {m : ClientModule} (h : g.moduleOf several project document = .ok m) :
    m.project = project ∧ m.document = document := by
  unfold moduleOf at h
  split at h
  · cases h
  · obtain ⟨text, -, rfl⟩ := map_eq_ok_iff.mp h
    exact ⟨rfl, rfl⟩

/-- A module is made from the names of its project, its document and its class. -/
theorem place_of_moduleOf {g : Generator} {several : Bool} {project : Project}
    {document : Document} {m : ClientModule} (h : g.moduleOf several project document = .ok m) :
    m.place = ModulePath.derive m.project.name m.document.folders m.controller.name several := by
  unfold moduleOf at h
  split at h
  · cases h
  · obtain ⟨text, -, rfl⟩ := map_eq_ok_iff.mp h
    rfl

/-! ### The files of one attempt -/

/-- An attempt saves the module of its document, or it saves nothing and makes directories at
most. -/
theorem attemptOn_cases (g : Generator) (several : Bool) (tree : FileTree) (project : Project)
    (document : Document) :
    let a := g.attemptOn several tree project document
    (∃ m, a.ending = .saved m ∧ g.moduleOf several project document = .ok m ∧
        tree.save (g.fileOf m) m.text.toUTF8 = (.ok (), a.after)) ∨
      (a.saved? = none ∧ FileTree.Grown tree a.after) := by
  cases hmade : g.moduleOf several project document with
  | error e =>
    rw [attemptOn_of_error hmade]
    exact .inr ⟨rfl, .refl tree⟩
  | ok m =>
    rcases hsave : tree.save (g.fileOf m) m.text.toUTF8 with
      ⟨(⟨fault, refusedPath⟩ | _) | _, after⟩
    · rw [attemptOn_of_refused hmade hsave]
      exact .inr ⟨rfl, FileTree.grown_of_save_eq_error hsave⟩
    · rw [attemptOn_of_nul hmade hsave]
      exact .inr ⟨rfl, FileTree.grown_of_save_eq_error hsave⟩
    · rw [attemptOn_of_saved hmade hsave]
      exact .inl ⟨m, rfl, rfl, hsave⟩

/-- A module that an attempt saves is the one of its document. -/
theorem save_of_saved? {g : Generator} {several : Bool} {tree : FileTree} {project : Project}
    {document : Document} {m : ClientModule}
    (h : (g.attemptOn several tree project document).saved? = some m) :
    g.moduleOf several project document = .ok m ∧
      tree.save (g.fileOf m) m.text.toUTF8 =
        (.ok (), (g.attemptOn several tree project document).after) := by
  rcases g.attemptOn_cases several tree project document with ⟨n, hending, hsave⟩ | ⟨hnone, -⟩
  · rw [Attempt.saved?, hending] at h
    obtain rfl : n = m := Option.some.inj h
    exact hsave
  · cases hnone.symm.trans h

/-- An attempt that saves nothing makes directories at most. -/
theorem grown_of_saved? {g : Generator} {several : Bool} {tree : FileTree} {project : Project}
    {document : Document} (h : (g.attemptOn several tree project document).saved? = none) :
    FileTree.Grown tree (g.attemptOn several tree project document).after := by
  rcases g.attemptOn_cases several tree project document with ⟨m, hending, -⟩ | ⟨-, hgrown⟩
  · rw [Attempt.saved?, hending] at h
    cases h
  · exact hgrown

/-- An attempt removes nothing. -/
theorem kept_attemptOn (g : Generator) (several : Bool) (tree : FileTree) (project : Project)
    (document : Document) :
    FileTree.Kept tree (g.attemptOn several tree project document).after := by
  cases hsaved : (g.attemptOn several tree project document).saved? with
  | none => exact (grown_of_saved? hsaved).kept
  | some m =>
    have hkept := FileTree.kept_save tree (g.fileOf m) m.text.toUTF8
    rwa [(save_of_saved? hsaved).2] at hkept

/-- The files of modules have the same locations when the working directory is the same. -/
theorem locationIn_congr (g : Generator) {left right : FileTree}
    (h : left.workingDirectory = right.workingDirectory) : g.locationIn left = g.locationIn right :=
  funext fun m => FileTree.locationOf_congr h (g.fileOf m)

/-- Where an attempt saves no module, it makes a directory at most. -/
theorem grows_attemptOn {g : Generator} {several : Bool} {tree : FileTree} {project : Project}
    {document : Document} {location : Location}
    (hne : ∀ m ∈ (g.attemptOn several tree project document).saved?,
      g.locationIn tree m ≠ location) :
    FileTree.Grows tree (g.attemptOn several tree project document).after location := by
  cases hsaved : (g.attemptOn several tree project document).saved? with
  | none => exact (grown_of_saved? hsaved).node location
  | some m =>
    have hgrows := FileTree.grows_save_of_ne m.text.toUTF8 (hne m hsaved).symm
    rwa [(save_of_saved? hsaved).2] at hgrows

/-! ### The files of several attempts -/

/-- Attempts that follow one another, each with the files that the one before it has left. -/
inductive Chained (g : Generator) (several : Bool) : FileTree → List Attempt → Prop
  /-- There is no attempt. -/
  | none (tree : FileTree) : Chained g several tree []
  /-- An attempt comes before others. -/
  | next {tree : FileTree} {project : Project} {document : Document} {rest : List Attempt}
    (later : Chained g several (g.attemptOn several tree project document).after rest) :
    Chained g several tree (g.attemptOn several tree project document :: rest)

/-- The attempts of a run follow one another. -/
theorem chained_attemptsFrom (g : Generator) (several : Bool) (entries : List (Project × Document))
    (tree : FileTree) : g.Chained several tree (g.attemptsFrom several entries tree) := by
  induction entries generalizing tree with
  | nil => exact .none tree
  | cons entry rest ih =>
    obtain ⟨project, document⟩ := entry
    rw [attemptsFrom]
    refine .next ?_
    split
    · exact .none _
    · exact ih _

/-- The files after several attempts. -/
def filesAfter (tree : FileTree) (attempts : List Attempt) : FileTree :=
  attempts.foldl (fun _ a => a.after) tree

/-- The files of a run are those that its attempts leave. -/
theorem tree_foldl_record (several : Bool) (attempts : List Attempt) (run : Run) :
    (attempts.foldl (Run.record several) run).tree = filesAfter run.tree attempts := by
  induction attempts generalizing run with
  | nil => rfl
  | cons a rest ih => exact ih (run.record several a)

/-- The files of a run that takes place are those that its attempts leave. -/
theorem tree_of_generate {g : Generator} {tree : FileTree} {run : Run}
    (made : g.generate tree = some run) : run.tree = filesAfter tree (g.attempts tree) := by
  rw [eq_record_of_generate made, tree_foldl_record]

/-- Attempts remove nothing. -/
theorem Chained.kept {g : Generator} {several : Bool} {tree : FileTree} {attempts : List Attempt}
    (h : g.Chained several tree attempts) : FileTree.Kept tree (filesAfter tree attempts) := by
  induction h with
  | none tree => exact .refl tree
  | next _ ih => exact (g.kept_attemptOn several _ _ _).trans ih

/-- Every attempt saves the module of its document. -/
theorem Chained.moduleOf {g : Generator} {several : Bool} {tree : FileTree}
    {attempts : List Attempt} (h : g.Chained several tree attempts) {a : Attempt}
    (ha : a ∈ attempts) {m : ClientModule} (hm : a.saved? = some m) :
    g.moduleOf several a.project a.document = .ok m := by
  induction h with
  | none _ => cases ha
  | next _ ih =>
    rcases List.mem_cons.mp ha with rfl | ha
    · exact (save_of_saved? hm).1
    · exact ih ha

/-- Where attempts save no module, they make a directory at most. -/
theorem Chained.grows {g : Generator} {several : Bool} {tree : FileTree} {attempts : List Attempt}
    (h : g.Chained several tree attempts) {location : Location}
    (hne : ∀ m ∈ attempts.filterMap (·.saved?), g.locationIn tree m ≠ location) :
    FileTree.Grows tree (filesAfter tree attempts) location := by
  induction h with
  | none tree => exact .inl rfl
  | @next tree project document rest _ ih =>
    let a := g.attemptOn several tree project document
    have hhere : FileTree.Grows tree a.after location :=
      grows_attemptOn fun m hm => hne m (List.mem_filterMap.mpr ⟨a, List.mem_cons_self, hm⟩)
    have hplace := g.locationIn_congr (g.kept_attemptOn several tree project document).workingDirectory
    refine FileTree.Grows.trans hhere (ih fun m hm => ?_)
    obtain ⟨b, hb, hsaved⟩ := List.mem_filterMap.mp hm
    rw [hplace]
    exact hne m (List.mem_filterMap.mpr ⟨b, List.mem_cons_of_mem a hb, hsaved⟩)

/-- The last of several modules whose file has a location. -/
def lastAt (g : Generator) (tree : FileTree) (location : Location) (modules : List ClientModule) :
    Option ClientModule :=
  modules.reverse.find? fun m => g.locationIn tree m = location

/-- The last module at a location is the last one among later modules, or else among earlier ones. -/
theorem lastAt_append (g : Generator) (tree : FileTree) (location : Location)
    (earlier later : List ClientModule) :
    g.lastAt tree location (earlier ++ later) =
      (g.lastAt tree location later).or (g.lastAt tree location earlier) := by
  rw [lastAt, List.reverse_append, List.find?_append]
  rfl

/-- There is no last module at a location exactly when there is none at all. -/
theorem lastAt_eq_none_iff {g : Generator} {tree : FileTree} {location : Location}
    {modules : List ClientModule} :
    g.lastAt tree location modules = none ↔ ∀ m ∈ modules, g.locationIn tree m ≠ location := by
  simp [lastAt]

/-- The last module at a location is one of the modules, and its file has that location. -/
theorem lastAt_eq_some {g : Generator} {tree : FileTree} {location : Location}
    {modules : List ClientModule} {m : ClientModule} (h : g.lastAt tree location modules = some m) :
    m ∈ modules ∧ g.locationIn tree m = location := by
  have hlocation := List.find?_some (p := fun m => decide (g.locationIn tree m = location)) h
  exact ⟨List.mem_reverse.mp (List.mem_of_find?_eq_some h), of_decide_eq_true hlocation⟩

/-- After the last module at a location comes none with that location. -/
theorem split_of_lastAt {g : Generator} {tree : FileTree} {location : Location}
    {modules : List ClientModule} {m : ClientModule} (h : g.lastAt tree location modules = some m) :
    ∃ earlier later, modules = earlier ++ m :: later ∧
      ∀ n ∈ later, g.locationIn tree n ≠ location := by
  obtain ⟨-, later, earlier, hsplit, hlater⟩ := List.find?_eq_some_iff_append.mp h
  refine ⟨earlier.reverse, later.reverse, ?_, fun n hn => ?_⟩
  · rw [← List.reverse_reverse modules, hsplit]
    simp
  · simpa using hlater n (List.mem_reverse.mp hn)

/-- The file at the end of attempts is the last module that was saved there. -/
theorem Chained.find?_of_lastAt {g : Generator} {several : Bool} {tree : FileTree}
    {attempts : List Attempt} (h : g.Chained several tree attempts) {location : Location}
    {m : ClientModule} (hlast : g.lastAt tree location (attempts.filterMap (·.saved?)) = some m) :
    (filesAfter tree attempts).find? location = some (.file m.text.toUTF8) := by
  induction h with
  | none _ => cases hlast
  | @next tree project document rest hrest ih =>
    let a := g.attemptOn several tree project document
    have hplace := g.locationIn_congr (g.kept_attemptOn several tree project document).workingDirectory
    rw [filterMap_cons_eq_append, lastAt_append] at hlast
    -- a module that this attempt saves stands there unless a later attempt saves another
    cases hlater : g.lastAt tree location (rest.filterMap (·.saved?)) with
    | some last =>
      rw [hlater] at hlast
      obtain rfl : last = m := Option.some.inj hlast
      rw [lastAt, ← hplace] at hlater
      exact ih hlater
    | none =>
      rw [hlater, Option.none_or] at hlast
      obtain ⟨hmem, hlocation⟩ := lastAt_eq_some hlast
      have hsaved := (save_of_saved? (Option.mem_toList.mp hmem)).2
      have hhere : a.after.find? location = some (.file m.text.toUTF8) := by
        rw [← hlocation]
        exact FileTree.find?_save_self hsaved
      have hne := lastAt_eq_none_iff.mp hlater
      rw [← hplace] at hne
      exact (hrest.grows hne).find?_eq_some hhere

/-! ### The modules recorded -/

/-- An attempt records the module that it saves. -/
theorem recordedBy_eq_saved? (g : Generator) (several : Bool) (run : Run) (project : Project)
    (document : Document) :
    g.recordedBy several run project document =
      (g.attemptOn several run.tree project document).saved? := by
  have hwritten : (g.attempt several run project document).written =
      run.written ++ (g.attemptOn several run.tree project document).writtenPath?.toList := by
    rw [attempt_eq_record, Run.record]
  rw [recordedBy, hwritten, Attempt.writtenPath?]
  cases hsaved : (g.attemptOn several run.tree project document).saved? with
  | none => exact if_pos (List.append_nil _)
  | some m =>
    rw [if_neg (by simp), (save_of_saved? hsaved).1]
    rfl

/-- The modules that a run records are those that its attempts save. -/
theorem recorded_eq_saved (g : Generator) (several : Bool) (entries : List (Project × Document))
    {run : Run} (h : run.aborted = false) :
    g.recorded several entries run =
      (g.attemptsFrom several entries run.tree).filterMap (·.saved?) := by
  induction entries generalizing run with
  | nil => rfl
  | cons entry rest ih =>
    obtain ⟨project, document⟩ := entry
    rw [recorded, attemptsFrom, attempt_eq_record, recordedBy_eq_saved?]
    generalize g.attemptOn several run.tree project document = a
    have hends : (run.record several a).aborted = a.ending.endsRun := by
      rw [Run.record, h, Bool.false_or]
    rw [hends]
    by_cases hending : a.ending.endsRun = true
    · rw [if_pos hending, if_pos hending, filterMap_cons_eq_append]
      rfl
    · rw [if_neg hending, if_neg hending, ih (hends.trans (Bool.eq_false_iff.mpr hending)),
        filterMap_cons_eq_append]
      rfl

/-- The paths of a run are those of the modules that its attempts record. -/
theorem written_attemptAll (g : Generator) (several : Bool) (entries : List (Project × Document))
    (run : Run) :
    (g.attemptAll several entries run).written =
      run.written ++ (g.recorded several entries run).map (·.place.path) := by
  induction entries generalizing run with
  | nil => exact (List.append_nil _).symm
  | cons entry rest ih =>
    obtain ⟨project, document⟩ := entry
    have hnext : (g.attempt several run project document).written =
        run.written ++ (g.recordedBy several run project document).toList.map (·.place.path) := by
      rw [attempt_eq_record, recordedBy_eq_saved?, Run.record, Attempt.writtenPath?]
      cases (g.attemptOn several run.tree project document).saved? <;> rfl
    rw [attemptAll, recorded]
    split
    · rw [hnext, List.append_nil]
    · rw [ih, hnext, List.map_append, List.append_assoc]

end ClientGen.Generator

import ClientGen.ModulePath
import ClientGen.Proofs.DashCase
import ClientGen.Proofs.Path
import ClientGen.Proofs.Text.Cutting

/-!
# What the names of a controller make of a module path

The path of a module forgets most of the name of a project, the first folder of a document, the word
`Controller` at the end of a class, and the difference between spellings that have one dash case.
Two controllers have the same folders and file exactly when nothing else tells them apart.

A name with a slash is a path in itself, and two dots lead upwards. Dash case leaves both alone, so a
module path goes down from folder to folder when no name holds a slash and no folder is two dots. The
folder of a project never is: its name is taken from between dots.
-/

namespace ClientGen.ModulePath

/-- What the path of a module is made from is the same for two controllers. -/
structure SameNames (several : Bool) (project project' : String) (folders folders' : List String)
    (className className' : String) : Prop where
  project : several = true → projectSegment project = projectSegment project'
  folders : (folders.drop 1).map dashCase = (folders'.drop 1).map dashCase
  className : controllerBaseName className = controllerBaseName className'

/-- It is decidable whether the names of two controllers agree in what paths are made from. -/
instance (several : Bool) (project project' : String) (folders folders' : List String)
    (className className' : String) :
    Decidable (SameNames several project project' folders folders' className className') :=
  decidable_of_iff ((several = true → projectSegment project = projectSegment project') ∧
      (folders.drop 1).map dashCase = (folders'.drop 1).map dashCase ∧
      controllerBaseName className = controllerBaseName className')
    ⟨fun ⟨h, h', h''⟩ => ⟨h, h', h''⟩, fun h => ⟨h.project, h.folders, h.className⟩⟩

/-- Two modules have the same folders and file exactly when those names agree. -/
theorem segments_eq_iff {several : Bool} {project project' : String} {folders folders' : List String}
    {className className' : String} :
    segments project folders className several = segments project' folders' className' several ↔
      SameNames several project project' folders folders' className className' := by
  have hhead : (if several then [projectSegment project] else []) =
      (if several then [projectSegment project'] else []) ↔
      (several = true → projectSegment project = projectSegment project') := by
    cases several <;> simp
  constructor
  · intro h
    obtain ⟨habove, hlast⟩ := List.append_inj' h rfl
    obtain ⟨hproject, hfolders⟩ := List.append_inj habove (by cases several <;> rfl)
    have hname := List.singleton_inj.mp hlast
    exact ⟨hhead.mp hproject, hfolders, String.append_left_inj _ |>.mp hname⟩
  · rintro ⟨hproject, hfolders, hname⟩
    rw [segments, segments, hhead.mpr hproject, hfolders, hname]

/-- The path of a module is read back as its folders and file, when each of them is one part. -/
theorem ofText_derive {several : Bool} {project : String} {folders : List String}
    {className : String}
    (h : ∀ s ∈ segments project folders className several, Path.IsPart s) :
    Path.ofText (derive project folders className several).path =
      ⟨"", segments project folders className several⟩ := by
  rw [derive, Path.ofTexts_of_isPart h, Path.ofText_text h]

/-! ### Names that are no paths -/

/-- The names that the path of a module is made from hold no slash, and no folder leads upwards. -/
structure BareNames (several : Bool) (project : String) (folders : List String)
    (className : String) : Prop where
  /-- The name of the project, where it counts. -/
  project : several = true → '/' ∉ project.toList
  /-- The folders that count. -/
  folders : ∀ folder ∈ folders.drop 1, '/' ∉ folder.toList ∧ folder ≠ ".."
  /-- The name of the class. -/
  className : '/' ∉ className.toList

/-- It is decidable whether names are no paths. -/
instance (several : Bool) (project : String) (folders : List String) (className : String) :
    Decidable (BareNames several project folders className) :=
  decidable_of_iff ((several = true → '/' ∉ project.toList) ∧
      (∀ folder ∈ folders.drop 1, '/' ∉ folder.toList ∧ folder ≠ "..") ∧ '/' ∉ className.toList)
    ⟨fun ⟨h, h', h''⟩ => ⟨h, h', h''⟩, fun h => ⟨h.project, h.folders, h.className⟩⟩

/-- The dash case of a name without slashes has none. -/
theorem slash_not_mem_dashCase {name : String} (h : '/' ∉ name.toList) :
    '/' ∉ (dashCase name).toList :=
  mt (mem_dashCase_iff (by decide)).mp h

/-- The dash case of a name is two dots only when the name is. -/
theorem dashCase_ne_dots {name : String} (h : name ≠ "..") : dashCase name ≠ ".." :=
  mt (eq_of_dashCase_eq (by decide)) h

/-- The folder of a project is the dash case of a part of its name between dots. -/
theorem exists_projectSegment_eq (name : String) :
    ∃ part ∈ Text.split '.' name, projectSegment name = dashCase part := by
  unfold projectSegment
  split
  · next first second others h =>
    exact ⟨second, h ▸ List.mem_cons_of_mem first List.mem_cons_self, rfl⟩
  · next only h => exact ⟨only, h ▸ List.mem_cons_self, rfl⟩
  · next h => exact absurd (List.map_eq_nil_iff.mp h) (Text.splitWhere_ne_nil _ _)

/-- The folder of a project never leads upwards. -/
theorem projectSegment_ne_dots (name : String) : projectSegment name ≠ ".." := by
  obtain ⟨part, hpart, heq⟩ := exists_projectSegment_eq name
  rw [heq]
  apply dashCase_ne_dots
  rintro rfl
  exact (Text.of_mem_split hpart '.' (by decide)).2 rfl

/-- The name of a controller's module is made from characters of the name of the controller. -/
theorem exists_controllerBaseName_eq (className : String) :
    ∃ base, controllerBaseName className = dashCase base ∧
      ∀ c ∈ base.toList, c ∈ className.toList := by
  unfold controllerBaseName
  split
  · exact ⟨className, rfl, fun _ => id⟩
  · exact ⟨className, rfl, fun _ => id⟩
  · next base _ h =>
    refine ⟨base, rfl, fun c hc => ?_⟩
    rw [Text.dropEnd?_eq_some_iff.mp h, String.toList_append]
    exact List.mem_append_left _ hc

/-- The folders and the file of a module come from a part of the name of the project, from the folders
but for the first, and from the name of the class. -/
theorem segments_cases {several : Bool} {project : String} {folders : List String}
    {className s : String} (hs : s ∈ segments project folders className several) :
    (several = true ∧ ∃ part ∈ Text.split '.' project, s = projectSegment project ∧
        s = dashCase part) ∨
      (∃ folder ∈ folders.drop 1, s = dashCase folder) ∨
      ∃ base, s = dashCase base ++ defaultExtension ∧ ∀ c ∈ base.toList, c ∈ className.toList := by
  rw [segments, List.mem_append, List.mem_append, List.mem_singleton] at hs
  obtain (hs | hs) | rfl := hs
  · split at hs
    · next hseveral =>
      obtain rfl := List.mem_singleton.mp hs
      obtain ⟨part, hpart, heq⟩ := exists_projectSegment_eq project
      exact .inl ⟨hseveral, part, hpart, rfl, heq⟩
    · cases hs
  · obtain ⟨folder, hfolder, rfl⟩ := List.mem_map.mp hs
    exact .inr (.inl ⟨folder, hfolder, rfl⟩)
  · obtain ⟨base, heq, hbase⟩ := exists_controllerBaseName_eq className
    exact .inr (.inr ⟨base, by rw [heq], hbase⟩)

/-- The name of a file is longer than two dots, so it is none of the parts with a meaning of their
own. -/
theorem file_ne_of_length_le {base other : String} (h : other.length ≤ 2) :
    base ++ defaultExtension ≠ other := by
  have hending : defaultExtension.length = 3 := by decide
  rintro rfl
  rw [String.length_append] at h
  omega

/-- A file has a name. -/
theorem isNamed_file (base : String) : Path.isNamed (base ++ defaultExtension) = true := by
  rw [Path.isNamed, Bool.and_eq_true, bne_iff_ne, bne_iff_ne]
  exact ⟨file_ne_of_length_le (by decide), file_ne_of_length_le (by decide)⟩

/-- Bare names make folders and a file that hold no slash and do not lead upwards. -/
theorem BareNames.segments {several : Bool} {project : String} {folders : List String}
    {className : String} (h : BareNames several project folders className) :
    ∀ s ∈ segments project folders className several, '/' ∉ s.toList ∧ s ≠ ".." := by
  intro s hs
  rcases segments_cases hs with
    ⟨hseveral, part, hpart, hproject, hdash⟩ | ⟨folder, hfolder, rfl⟩ | ⟨base, rfl, hbase⟩
  · refine ⟨?_, hproject ▸ projectSegment_ne_dots project⟩
    rw [hdash]
    exact slash_not_mem_dashCase fun hslash =>
      h.project hseveral (Text.of_mem_split hpart '/' hslash).1
  · obtain ⟨hslash, hdots⟩ := h.folders folder hfolder
    exact ⟨slash_not_mem_dashCase hslash, dashCase_ne_dots hdots⟩
  · refine ⟨?_, file_ne_of_length_le (by decide)⟩
    rw [String.toList_append, List.mem_append]
    exact not_or.mpr ⟨slash_not_mem_dashCase fun hslash => h.className (hbase _ hslash), by decide⟩

/-- The path of a module with bare names goes down to its file, part by part. -/
theorem exists_ofText_derive {several : Bool} {project : String} {folders : List String}
    {className : String} (h : BareNames several project folders className) :
    ∃ above file, Path.ofText (derive project folders className several).path =
        ⟨"", above ++ [file]⟩ ∧
      ∀ part ∈ above ++ [file], part ≠ ".." := by
  let file := controllerBaseName className ++ defaultExtension
  let above := (if several then [projectSegment project] else []) ++ (folders.drop 1).map dashCase
  have hsegments : ModulePath.segments project folders className several = above ++ [file] := rfl
  have hnamed : (above ++ [file]).filter Path.isNamed = above.filter Path.isNamed ++ [file] := by
    rw [List.filter_append, List.filter_cons_of_pos (isNamed_file _), List.filter_nil]
  have hbare := h.segments
  rw [hsegments] at hbare
  have hparts : ∀ part ∈ above.filter Path.isNamed ++ [file], Path.IsPart part ∧ part ≠ ".." := by
    intro part hpart
    rw [← hnamed] at hpart
    obtain ⟨hsegment, hname⟩ := List.mem_filter.mp hpart
    obtain ⟨hslash, hdots⟩ := hbare part hsegment
    exact ⟨Path.isPart_iff.mpr ⟨hname, hslash⟩, hdots⟩
  refine ⟨above.filter Path.isNamed, file, ?_, fun part hpart => (hparts part hpart).2⟩
  rw [derive, hsegments, Path.ofTexts_of_not_mem fun s hs => (hbare s hs).1, hnamed,
    Path.ofText_text fun part hpart => (hparts part hpart).1]

end ClientGen.ModulePath

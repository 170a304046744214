import ClientGen.Proofs.FileTree.Location
import Mathlib.Data.List.Infix

/-!
# Paths that climb

A path that goes up as well as down leads to a location that it can be told without following it:
take away as many names at the end of the location it starts from as the path goes up on balance, and
append the names that it goes down to at last. So a path that starts at a directory stays below it
exactly when those names come back through what was taken away, and go on. An absolute path starts
at the root of the tree, so its names have to lead to the directory all the way.
-/

namespace ClientGen

namespace FileTree

/-- A location lies below a directory. -/
def Below (directory location : Location) : Prop :=
  directory <+: location ∧ directory ≠ location

/-- It is decidable whether a location lies below a directory. -/
instance (directory location : Location) : Decidable (Below directory location) :=
  inferInstanceAs (Decidable (_ ∧ _))

/-- Names lie below a directory exactly when the remaining ones do after a common beginning. -/
theorem below_append_left_iff (above : Location) {directory location : Location} :
    Below (above ++ directory) (above ++ location) ↔ Below directory location := by
  rw [Below, Below, List.prefix_append_right_inj, Ne, List.append_right_inj]

/-- Names that follow a directory lie below it. -/
theorem below_append {directory names : Location} (h : names ≠ []) :
    Below directory (directory ++ names) :=
  ⟨List.prefix_append directory names, fun heq => h (List.self_eq_append_right.mp heq)⟩

/-- Where parts lead from any location: up by some steps, and then down by names. -/
structure Course where
  /-- How many steps the parts lead up. -/
  ups : Nat := 0
  /-- The names that they lead down by. -/
  names : List String := []

namespace Course

/-- One more part goes down by a name, takes back the last name, or goes up when there is none. -/
def next (course : Course) (part : String) : Course :=
  if part = ".." then
    if course.names = [] then ⟨course.ups + 1, []⟩ else ⟨course.ups, course.names.dropLast⟩
  else ⟨course.ups, course.names ++ [part]⟩

/-- The course of several parts. -/
def ofParts (parts : List String) : Course :=
  parts.foldl next {}

/-- Where a course leads from a location. The root is its own parent. -/
def lead (course : Course) (here : Location) : Location :=
  here.take (here.length - course.ups) ++ course.names

/-- One more part leads a course one step further. -/
theorem lead_next (course : Course) (here : Location) (part : String) :
    (course.next part).lead here =
      if part = ".." then up (course.lead here) else course.lead here ++ [part] := by
  rw [next]
  split
  · split
    · next hnames =>
      -- a step up from the root stays there, and so does one from where nothing is left to take away
      have hsteps : here.length - (course.ups + 1) =
          min (min (here.length - course.ups) here.length - 1) (here.length - course.ups) := by
        omega
      rw [lead, lead, up, hnames, List.append_nil, List.append_nil, List.dropLast_eq_take,
        List.length_take, List.take_take, hsteps]
    · next hnames => rw [lead, lead, up, List.dropLast_append_of_ne_nil hnames]
  · rw [lead, lead, List.append_assoc]

/-- Parts lead where their course does. -/
theorem descend_eq_lead (here : Location) (parts : List String) :
    descend here parts = (ofParts parts).lead here := by
  induction parts using List.reverseRecOn with
  | nil =>
    change here = here.take here.length ++ []
    rw [List.take_length, List.append_nil]
  | append_singleton above part ih =>
    have hnext : ofParts (above ++ [part]) = (ofParts above).next part := List.foldl_append
    rw [descend_append_singleton, hnext, lead_next, ih]

/-- From a directory, a course leads below it exactly when its names come back through what it has
gone up, and go on. -/
theorem below_lead_iff {course : Course} {directory : Location} :
    Below directory (course.lead directory) ↔
      Below (directory.drop (directory.length - course.ups)) course.names := by
  let kept := directory.take (directory.length - course.ups)
  let lost := directory.drop (directory.length - course.ups)
  have hwhole : kept ++ lost = directory := List.take_append_drop _ directory
  calc Below directory (course.lead directory)
      ↔ Below (kept ++ lost) (kept ++ course.names) := by rw [hwhole, lead]
    _ ↔ Below lost course.names := below_append_left_iff kept

end Course

/-- A path leads below a directory from there, or from the root of the tree when it is absolute. -/
def LeadsBelow (directory : Location) (path : Path) : Prop :=
  let course := Course.ofParts path.parts
  Below (directory.drop (if path.anchor = "" then directory.length - course.ups else 0))
    course.names

/-- It is decidable whether a path leads below a directory. -/
instance (directory : Location) (path : Path) : Decidable (LeadsBelow directory path) :=
  inferInstanceAs (Decidable (Below _ _))

/-- A path that goes down part by part leads below every directory. -/
theorem leadsBelow_of_forall_ne {directory : Location} {parts : List String} (hparts : parts ≠ [])
    (h : ∀ part ∈ parts, part ≠ "..") : LeadsBelow directory ⟨"", parts⟩ := by
  rw [LeadsBelow, if_pos rfl, ← Course.below_lead_iff, ← Course.descend_eq_lead, descend_eq_append h]
  exact below_append hparts

/-- A path that is joined to that of a directory is below the directory exactly when it leads there. -/
theorem below_locationOf_join_iff {tree : FileTree} {directory path : Path} :
    Below (tree.locationOf directory) (tree.locationOf (directory.join path)) ↔
      LeadsBelow (tree.locationOf directory) path := by
  by_cases hanchor : path.anchor = ""
  · have hjoin : tree.locationOf (directory.join path) =
        (Course.ofParts path.parts).lead (tree.locationOf directory) := by
      rw [Path.join, if_pos hanchor, ← Course.descend_eq_lead]
      exact descend_append _ _ _
    rw [hjoin, Course.below_lead_iff, LeadsBelow, if_pos hanchor]
  · have hjoin : tree.locationOf (directory.join path) = (Course.ofParts path.parts).names := by
      rw [Path.join, if_neg hanchor, locationOf_eq_descend, start, if_neg hanchor,
        Course.descend_eq_lead, Course.lead, List.take_nil, List.nil_append]
    rw [hjoin, LeadsBelow, if_neg hanchor, List.drop_zero]

/-- A path may climb out of the services and come back, under their name only. -/
example : LeadsBelow ["app", "services"] ⟨"", ["..", "services", "home.ts"]⟩ ∧
    ¬ LeadsBelow ["app", "services"] ⟨"", ["..", "service", "home.ts"]⟩ := by
  decide

end FileTree

end ClientGen

import ClientGen.FileTree.Basic
import ClientGen.Proofs.Failure
import ClientGen.Proofs.Lookup

/-!
# Locations and nodes

An insertion changes what stands at one location and at no other; the root stays a directory
whatever is inserted. Whenever a path can be followed in a tree, it leads to the location that its
parts spell from its start, which depends on the working directory of the tree alone.
-/

namespace ClientGen.FileTree

/-- Setting a node is setting the value of its location. -/
theorem setNode_eq_assign (location : Location) (node : Node) (nodes : List (Location × Node)) :
    setNode location node nodes = assign location node nodes := by
  induction nodes with
  | nil => rfl
  | cons entry rest ih => rw [setNode, assign, ih]

/-- Setting a node changes the entry of its location only. -/
theorem lookup_setNode (location other : Location) (node : Node) (nodes : List (Location × Node)) :
    (setNode location node nodes).lookup other =
      if other = location then some node else nodes.lookup other := by
  rw [setNode_eq_assign, lookup_assign]

/-- Below the root, an inserted node stands at its location. -/
theorem find?_insert_self {location : Location} (tree : FileTree) (node : Node)
    (h : location ≠ []) : (tree.insert location node).find? location = some node := by
  rw [find?, if_neg h, insert, lookup_setNode, if_pos rfl]

/-- An insertion changes nothing at another location. -/
theorem find?_insert_of_ne {location other : Location} (tree : FileTree) (node : Node)
    (h : other ≠ location) : (tree.insert location node).find? other = tree.find? other := by
  rw [find?, find?, insert, lookup_setNode, if_neg h]

/-- The location that parts lead to from another. -/
def descend (here : Location) (parts : List String) : Location :=
  parts.foldl (fun here part => if part = ".." then up here else here ++ [part]) here

/-- A path leads from its start along its parts. -/
theorem locationOf_eq_descend (tree : FileTree) (path : Path) :
    tree.locationOf path = descend (tree.start path) path.parts := rfl

/-- Parts lead on from where the parts before them lead. -/
theorem descend_append (here : Location) (above parts : List String) :
    descend here (above ++ parts) = descend (descend here above) parts :=
  List.foldl_append

/-- Parts that do not go up lead to the location that lists them below. -/
theorem descend_eq_append {here : Location} {parts : List String} (h : ∀ part ∈ parts, part ≠ "..") :
    descend here parts = here ++ parts := by
  induction parts generalizing here with
  | nil => exact (List.append_nil here).symm
  | cons part rest ih =>
    obtain ⟨hpart, hrest⟩ := List.forall_mem_cons.mp h
    rw [descend, List.foldl_cons, if_neg hpart, ← descend, ih hrest, List.append_assoc,
      List.singleton_append]

/-- One more part leads one step further. -/
theorem descend_append_singleton (here : Location) (parts : List String) (part : String) :
    descend here (parts ++ [part]) =
      if part = ".." then up (descend here parts) else descend here parts ++ [part] := by
  rw [descend_append]
  rfl

/-- A directory that can be entered is where its part leads. -/
theorem enter_eq {tree : FileTree} {here there : Location} {part : String}
    (h : tree.enter here part = .ok there) : there = descend here [part] := by
  change there = if part = ".." then up here else here ++ [part]
  unfold enter at h
  split at h
  · next hup =>
    rw [if_pos hup]
    exact (Except.ok.inj h).symm
  · next hdown =>
    rw [if_neg hdown]
    split at h
    · cases h
    · split at h
      · cases h
      · cases h
      · exact (Except.ok.inj h).symm

/-- Directories that can be followed end where their parts lead. -/
theorem follow_eq {tree : FileTree} {here there : Location} {parts : List String}
    (h : tree.follow here parts = .ok there) : there = descend here parts := by
  induction parts generalizing here with
  | nil => exact (Except.ok.inj h).symm
  | cons part rest ih =>
    obtain ⟨next, hnext, hrest⟩ := bind_eq_ok_iff.mp h
    rw [ih hrest, enter_eq hnext]
    rfl

/-- A path that can be located has the location that its parts lead to. -/
theorem locate_eq {tree : FileTree} {path : Path} {location : Location}
    (h : tree.locate path = .ok location) : location = tree.locationOf path := by
  rw [locationOf_eq_descend]
  unfold locate at h
  split at h
  · cases h
  · split at h
    · next hparts =>
      rw [List.getLast?_eq_none_iff.mp hparts]
      exact (Except.ok.inj h).symm
    · next last hlast =>
      obtain ⟨directory, hdirectory, h⟩ := bind_eq_ok_iff.mp h
      obtain ⟨above, hparts⟩ := List.getLast?_eq_some_iff.mp hlast
      rw [hparts, List.dropLast_concat] at hdirectory
      rw [hparts, descend_append_singleton, ← follow_eq hdirectory]
      split at h
      · next hup =>
        rw [if_pos hup]
        exact (Except.ok.inj h).symm
      · next hdown =>
        rw [if_neg hdown]
        split at h
        · cases h
        · exact (Except.ok.inj h).symm

end ClientGen.FileTree

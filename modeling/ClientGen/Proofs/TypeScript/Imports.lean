import ClientGen.Proofs.Lookup
import ClientGen.TypeScript.Imports
import Mathlib.Data.String.Basic

/-!
# Imports as a table of names

The imports of a client module are a table from modules to names. The table is built by inserting
one mentioned type after the other into a list that stays strictly increasing in its modules, so a
module has one entry, and a name is in the entry of a module exactly when some mentioned type of
that name has its namespace there.
-/

namespace ClientGen.TypeScript

/-- The names that a table lists under a module. -/
def namesUnder (table : List (String × List String)) (module : String) : List String :=
  (table.lookup module).getD []

/-- The types of the solution that the signatures of services mention, in order. -/
def mentioned (services : List Service) : List TypeRef :=
  services.flatMap fun service => declaredTypesAll (signatureTypes service)

/-- Inserting a text adds it to the texts that are there. -/
theorem mem_insertText {s t : String} {texts : List String} :
    t ∈ insertText s texts ↔ t = s ∨ t ∈ texts := by
  induction texts with
  | nil => simp [insertText]
  | cons u rest ih =>
    rw [insertText]
    split
    · next h => simp [h]
    · split
      · simp
      · simp only [List.mem_cons, ih]
        exact or_left_comm

/-- Inserting a text keeps texts strictly increasing. -/
theorem sorted_insertText (s : String) {texts : List String} (sorted : texts.Pairwise (· < ·)) :
    (insertText s texts).Pairwise (· < ·) := by
  induction texts with
  | nil => exact List.pairwise_singleton ..
  | cons t rest ih =>
    obtain ⟨hfirst, hrest⟩ := List.pairwise_cons.mp sorted
    rw [insertText]
    split
    · exact sorted
    · next hne =>
      split
      · next hlt =>
        refine List.pairwise_cons.mpr ⟨fun u hu => ?_, sorted⟩
        rcases List.mem_cons.mp hu with rfl | hu
        · exact hlt
        · exact hlt.trans (hfirst u hu)
      · next hge =>
        refine List.pairwise_cons.mpr ⟨fun u hu => ?_, ih hrest⟩
        rcases mem_insertText.mp hu with rfl | hu
        · exact lt_of_le_of_ne (not_lt.mp hge) (Ne.symm hne)
        · exact hfirst u hu

/-- The modules of a table after an insertion. -/
theorem mem_keys_insertImport {module name key : String} {table : List (String × List String)} :
    key ∈ (insertImport module name table).map (·.1) ↔ key = module ∨ key ∈ table.map (·.1) := by
  induction table with
  | nil => simp [insertImport]
  | cons entry rest ih =>
    rw [insertImport]
    split
    · next h => simp [h]
    · split
      · simp
      · simp only [List.map_cons, List.mem_cons, ih]
        exact or_left_comm

/-- An insertion keeps the modules of a table strictly increasing. -/
theorem sorted_insertImport (module name : String) {table : List (String × List String)}
    (sorted : (table.map (·.1)).Pairwise (· < ·)) :
    ((insertImport module name table).map (·.1)).Pairwise (· < ·) := by
  induction table with
  | nil => exact List.pairwise_singleton ..
  | cons entry rest ih =>
    obtain ⟨hfirst, hrest⟩ := List.pairwise_cons.mp sorted
    rw [insertImport]
    split
    · exact sorted
    · next hne =>
      split
      · next hlt =>
        refine List.pairwise_cons.mpr ⟨fun key hkey => ?_, sorted⟩
        rcases List.mem_cons.mp hkey with rfl | hkey
        · exact hlt
        · exact hlt.trans (hfirst key hkey)
      · next hge =>
        refine List.pairwise_cons.mpr ⟨fun key hkey => ?_, ih hrest⟩
        rcases mem_keys_insertImport.mp hkey with rfl | hkey
        · exact lt_of_le_of_ne (not_lt.mp hge) (Ne.symm hne)
        · exact hfirst key hkey

/-- What holds of one name alone, and of names to which another is added, holds of the names under every
module after an insertion. -/
theorem forall_names_insertImport {P : List String → Prop} (module : String) {name : String}
    (new : P [name]) (more : ∀ names, P names → P (insertText name names))
    {table : List (String × List String)} (h : ∀ entry ∈ table, P entry.2) :
    ∀ entry ∈ insertImport module name table, P entry.2 := by
  induction table with
  | nil => exact List.forall_mem_singleton.mpr new
  | cons first rest ih =>
    obtain ⟨hfirst, hrest⟩ := List.forall_mem_cons.mp h
    rw [insertImport]
    split
    · exact List.forall_mem_cons.mpr ⟨more first.2 hfirst, hrest⟩
    · split
      · exact List.forall_mem_cons.mpr ⟨new, h⟩
      · exact List.forall_mem_cons.mpr ⟨hfirst, ih hrest⟩

/-- An entry of a table with strictly increasing modules is the one of its module. -/
theorem namesUnder_of_mem {entry : String × List String} {table : List (String × List String)}
    (sorted : (table.map (·.1)).Pairwise (· < ·)) (hentry : entry ∈ table) :
    namesUnder table entry.1 = entry.2 := by
  have hlookup : table.lookup entry.1 = some entry.2 :=
    (lookup_eq_some_iff_mem (sorted.imp ne_of_lt)).mpr hentry
  rw [namesUnder, hlookup, Option.getD_some]

/-- A name is under a module of a table with strictly increasing modules when it is in its entry. -/
theorem mem_namesUnder_iff {module name : String} {table : List (String × List String)}
    (sorted : (table.map (·.1)).Pairwise (· < ·)) :
    name ∈ namesUnder table module ↔ ∃ entry ∈ table, entry.1 = module ∧ name ∈ entry.2 := by
  constructor
  · intro hname
    cases hlookup : table.lookup module with
    | none => simp [namesUnder, hlookup] at hname
    | some names =>
      have hentry := (lookup_eq_some_iff_mem (sorted.imp ne_of_lt)).mp hlookup
      rw [namesUnder, hlookup] at hname
      exact ⟨(module, names), hentry, rfl, hname⟩
  · rintro ⟨entry, hentry, rfl, hname⟩
    rwa [namesUnder_of_mem sorted hentry]

/-- A module that comes before every module of a table has no entry there. -/
theorem lookup_eq_none_of_lt {module : String} {table : List (String × List String)}
    (h : ∀ key ∈ table.map (·.1), module < key) : table.lookup module = none := by
  rw [List.lookup_eq_none_iff]
  intro entry hentry
  exact bne_iff_ne.mpr (ne_of_lt (h entry.1 (List.mem_map_of_mem hentry)))

/-- An insertion changes the entry of its module and no other. -/
theorem lookup_insertImport (module name key : String) {table : List (String × List String)}
    (sorted : (table.map (·.1)).Pairwise (· < ·)) :
    (insertImport module name table).lookup key =
      if key = module then some (insertText name (namesUnder table module))
      else table.lookup key := by
  induction table with
  | nil => exact lookup_cons_eq_ite key (module, [name]) []
  | cons entry rest ih =>
    obtain ⟨hfirst, hrest⟩ := List.pairwise_cons.mp sorted
    rw [insertImport]
    split
    · next hmodule =>
      subst hmodule
      simp only [namesUnder, lookup_cons_eq_ite, if_true, Option.getD_some]
      split <;> rfl
    · next hne =>
      split
      · next hlt =>
        have hnone : (entry :: rest).lookup module = none := by
          refine lookup_eq_none_of_lt fun other hother => ?_
          rcases List.mem_cons.mp hother with rfl | hother
          · exact hlt
          · exact hlt.trans (hfirst other hother)
        rw [lookup_cons_eq_ite, namesUnder, hnone]
        rfl
      · next hge =>
        rw [lookup_cons_eq_ite, ih hrest, namesUnder, namesUnder, lookup_cons_eq_ite module,
          lookup_cons_eq_ite key, if_neg hne]
        by_cases hkey : key = entry.1
        · rw [if_pos hkey, if_neg (hkey ▸ Ne.symm hne), if_pos hkey]
        · rw [if_neg hkey, if_neg hkey]

/-- After an insertion a name is under a module when it was there or is the one inserted there. -/
theorem mem_namesUnder_insertImport {module name key other : String}
    {table : List (String × List String)} (sorted : (table.map (·.1)).Pairwise (· < ·)) :
    other ∈ namesUnder (insertImport module name table) key ↔
      (module = key ∧ name = other) ∨ other ∈ namesUnder table key := by
  rw [namesUnder, lookup_insertImport module name key sorted]
  by_cases h : key = module
  · subst h
    rw [if_pos rfl, Option.getD_some, mem_insertText, and_iff_right rfl, eq_comm]
  · rw [if_neg h, or_iff_right fun hm => h hm.1.symm]
    rfl

/-- The table that insertions build on a table is sorted, and a name is under a module when it was
there or a type of that name was inserted there. -/
theorem foldl_insertImport (productName : String) (refs : List TypeRef)
    {table : List (String × List String)} (sorted : (table.map (·.1)).Pairwise (· < ·)) :
    let built := refs.foldl
      (fun found ref => insertImport (modelModule ref.scope productName) ref.name found) table
    (built.map (·.1)).Pairwise (· < ·) ∧
      ∀ module name, name ∈ namesUnder built module ↔
        (∃ ref ∈ refs, modelModule ref.scope productName = module ∧ ref.name = name) ∨
          name ∈ namesUnder table module := by
  induction refs generalizing table with
  | nil => exact ⟨sorted, fun module name => by simp⟩
  | cons ref refs ih =>
    have hsorted := sorted_insertImport (modelModule ref.scope productName) ref.name sorted
    obtain ⟨hbuilt, hnames⟩ := ih hsorted
    refine ⟨hbuilt, fun module name => ?_⟩
    rw [List.foldl_cons, hnames, mem_namesUnder_insertImport sorted, List.exists_mem_cons_iff,
      or_assoc, or_left_comm]

/-- The imports list every module once, in increasing order. -/
theorem sorted_imports (services : List Service) (productName : String) :
    ((imports services productName).map (·.1)).Pairwise (· < ·) :=
  (@foldl_insertImport productName (mentioned services) [] List.Pairwise.nil).1

/-- What holds of one name alone, and of names to which another is added, holds of the names of every
imported module. -/
theorem forall_names_imports {P : List String → Prop} (services : List Service)
    (productName : String) (new : ∀ name, P [name])
    (more : ∀ name names, P names → P (insertText name names)) :
    ∀ entry ∈ imports services productName, P entry.2 := by
  have hkept (refs : List TypeRef) {table : List (String × List String)}
      (h : ∀ entry ∈ table, P entry.2) :
      ∀ entry ∈ refs.foldl (fun found ref =>
        insertImport (modelModule ref.scope productName) ref.name found) table, P entry.2 := by
    induction refs generalizing table with
    | nil => exact h
    | cons ref refs ih => exact ih (forall_names_insertImport _ (new ref.name) (more ref.name) h)
  exact hkept (mentioned services) (fun entry hentry => nomatch hentry)

/-- The imports list the names of every module once, in increasing order. -/
theorem sorted_names_imports (services : List Service) (productName : String) :
    ∀ entry ∈ imports services productName, entry.2.Pairwise (· < ·) :=
  forall_names_imports services productName (fun _ => List.pairwise_singleton ..)
    fun name _ sorted => sorted_insertText name sorted

/-- The imports list no module without names. -/
theorem names_ne_nil_imports (services : List Service) (productName : String) :
    ∀ entry ∈ imports services productName, entry.2 ≠ [] :=
  forall_names_imports (P := (· ≠ [])) services productName (fun name => List.cons_ne_nil name [])
    fun _ _ _ => List.ne_nil_of_mem (mem_insertText.mpr (.inl rfl))

/-- A name is imported from a module exactly when the services mention a type of that name whose
namespace has its model there. -/
theorem mem_namesUnder_imports {services : List Service} {productName module name : String} :
    name ∈ namesUnder (imports services productName) module ↔
      ∃ ref ∈ mentioned services, modelModule ref.scope productName = module ∧ ref.name = name := by
  have h := (@foldl_insertImport productName (mentioned services) [] List.Pairwise.nil).2 module name
  exact h.trans (or_iff_left (by simp [namesUnder]))

end ClientGen.TypeScript

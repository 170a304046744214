import ClientGen.Proofs.TypeScript.Imports
import Mathlib.Data.List.Sort

/-!
# Imports in one form

What a client module imports is a set of names for each module, and there is one way to list it: the
modules strictly increase, so do the names of each, and no module is without names. The imports of
services are always listed in this way. They depend on the mentioned types alone, and these on the
services as a set; so neither the order of the services nor a repetition of one changes what is
generated. Namespaces that differ may have one module, whose names are then listed together.
-/

namespace ClientGen.TypeScript

/-- A table lists types under the modules of their namespaces. -/
structure ListsTypes (productName : String) (refs : List TypeRef)
    (table : List (String × List String)) : Prop where
  /-- The modules strictly increase. -/
  modules : (table.map (·.1)).Pairwise (· < ·)
  /-- No module is without names, and its names strictly increase. -/
  names : ∀ entry ∈ table, entry.2 ≠ [] ∧ entry.2.Pairwise (· < ·)
  /-- A name stands under a module when it is that of a type whose namespace has its model there. -/
  types : ∀ module name, (∃ entry ∈ table, entry.1 = module ∧ name ∈ entry.2) ↔
    ∃ ref ∈ refs, modelModule ref.scope productName = module ∧ ref.name = name

namespace ListsTypes

variable {productName : String} {refs refs' : List TypeRef} {table table' : List (String × List String)}

/-- In a list of types, only their presence counts. -/
theorem congr (h : ListsTypes productName refs table) (same : ∀ ref, ref ∈ refs ↔ ref ∈ refs') :
    ListsTypes productName refs' table where
  modules := h.modules
  names := h.names
  types module name := by simp only [h.types, same]

/-- Entries of one module have the same names. -/
theorem names_eq (h : ListsTypes productName refs table) {entry entry' : String × List String}
    (hentry : entry ∈ table) (hentry' : entry' ∈ table) (hmodule : entry.1 = entry'.1) :
    entry.2 = entry'.2 := by
  rw [← namesUnder_of_mem h.modules hentry, ← namesUnder_of_mem h.modules hentry', hmodule]

/-- What one table lists is an entry of every other table of the same types. -/
theorem mem_of_mem (h : ListsTypes productName refs table) (h' : ListsTypes productName refs table')
    {entry : String × List String} (hentry : entry ∈ table) : entry ∈ table' := by
  have hstands (module name : String) :
      (∃ other ∈ table, other.1 = module ∧ name ∈ other.2) ↔
        ∃ other ∈ table', other.1 = module ∧ name ∈ other.2 :=
    (h.types module name).trans (h'.types module name).symm
  obtain ⟨hnonempty, hsorted⟩ := h.names entry hentry
  obtain ⟨first, hfirst⟩ := List.exists_mem_of_ne_nil entry.2 hnonempty
  -- the first name leads to the entry of the module in the other table
  obtain ⟨other, hother, hmodule, -⟩ := (hstands entry.1 first).mp ⟨entry, hentry, rfl, hfirst⟩
  have hnames : entry.2 = other.2 := by
    refine hsorted.eq_of_mem_iff (h'.names other hother).2 fun name => ⟨fun hname => ?_, fun hname => ?_⟩
    · obtain ⟨there, hthere, hsame, hname⟩ := (hstands entry.1 name).mp ⟨entry, hentry, rfl, hname⟩
      rwa [h'.names_eq hother hthere (hmodule.trans hsame.symm)]
    · obtain ⟨there, hthere, hsame, hname⟩ :=
        (hstands entry.1 name).mpr ⟨other, hother, hmodule, hname⟩
      rwa [h.names_eq hentry hthere hsame.symm]
  have heq : other = entry := Prod.ext hmodule hnames.symm
  exact heq ▸ hother

/-- There is one table of given types. -/
theorem unique (h : ListsTypes productName refs table) (h' : ListsTypes productName refs table') :
    table = table' := by
  have hsorted : table.Pairwise (fun left right => left.1 < right.1) := List.pairwise_map.mp h.modules
  have hsorted' : table'.Pairwise (fun left right => left.1 < right.1) :=
    List.pairwise_map.mp h'.modules
  have hperm : table.Perm table' := by
    have hdistinct : table.Nodup := hsorted.imp fun hlt heq => (ne_of_lt hlt) (congrArg _ heq)
    have hdistinct' : table'.Nodup := hsorted'.imp fun hlt heq => (ne_of_lt hlt) (congrArg _ heq)
    exact (List.perm_ext_iff_of_nodup hdistinct hdistinct').mpr
      fun entry => ⟨h.mem_of_mem h', h'.mem_of_mem h⟩
  exact hperm.eq_of_pairwise (fun _ _ _ _ hlt hgt => absurd hgt (lt_asymm hlt)) hsorted hsorted'

end ListsTypes

/-- The imports of services list the types that their signatures mention. -/
theorem listsTypes_imports (services : List Service) (productName : String) :
    ListsTypes productName (mentioned services) (imports services productName) where
  modules := sorted_imports services productName
  names entry hentry := ⟨names_ne_nil_imports services productName entry hentry,
    sorted_names_imports services productName entry hentry⟩
  types _ _ :=
    (mem_namesUnder_iff (sorted_imports services productName)).symm.trans mem_namesUnder_imports

/-- Services with the same members mention the same types. -/
theorem mem_mentioned_congr {services services' : List Service}
    (same : ∀ service, service ∈ services ↔ service ∈ services') (ref : TypeRef) :
    ref ∈ mentioned services ↔ ref ∈ mentioned services' := by
  simp only [mentioned, List.mem_flatMap, same]

/-- The imports of services are the one table of the types that they mention, which strictly increases
in its modules and in the names of each, none of them without names. They are the same for all lists
of services with the same members, whatever their order and their repetitions. -/
theorem imports_canonical (productName : String) {services services' : List Service}
    (same : ∀ service, service ∈ services ↔ service ∈ services') :
    imports services productName = imports services' productName ∧
      ListsTypes productName (mentioned services) (imports services productName) ∧
      ∀ table, ListsTypes productName (mentioned services) table →
        table = imports services productName := by
  have hlists := listsTypes_imports services productName
  have hlists' := listsTypes_imports services' productName
  exact ⟨hlists.unique (hlists'.congr fun ref => (mem_mentioned_congr same ref).symm), hlists,
    fun _ h => h.unique hlists⟩

/-- A service without parameters. -/
def stockService (name : String) (answer : TypeRef) : Service where
  verb := .get
  route := "stock"
  name := name
  returnType := answer
  parameters := []
  uriParameters := []
  queryParameters := []
  documentation := { summary := "" }

/-- Two services whose types have different namespaces and one module. -/
def stockServices : List Service :=
  [stockService "Count" { name := "Shelf", scope := "Depot.Stock" },
    stockService "Find" { name := "List", arguments := [{ name := "Item", scope := "Stock" }] }]

/-- They have the same imports in another order, with one of them twice. -/
theorem imports_canonical_stock :
    let swapped := stockServices.reverse ++ stockServices.take 1
    (∀ service, service ∈ stockServices ↔ service ∈ swapped) ∧
      imports stockServices "Depot" = [("stock", ["Item", "Shelf"])] ∧
      imports stockServices "Depot" = imports swapped "Depot" ∧
      ListsTypes "Depot" (mentioned stockServices) (imports stockServices "Depot") ∧
      ∀ table, ListsTypes "Depot" (mentioned stockServices) table →
        table = imports stockServices "Depot" := by
  have same : ∀ service, service ∈ stockServices ↔
      service ∈ stockServices.reverse ++ stockServices.take 1 := by
    simp [stockServices, or_comm]
  exact ⟨same, by decide +kernel, imports_canonical "Depot" same⟩

end ClientGen.TypeScript

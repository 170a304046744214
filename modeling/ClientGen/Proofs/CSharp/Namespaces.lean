import ClientGen.CSharp.Unit
import ClientGen.Proofs.CSharp.Members
import ClientGen.Proofs.Failure

/-!
# Namespaces of types

A compilation unit has members, which are types and namespaces, and then perhaps a namespace
without a block, to which all that follows belongs. What it declares is each of its types with the
path to it, the names of the namespaces around the type. Types within types are not among these:
they are somewhere in the body of a type, which is any block.

The scope of a type is made step by step on the way down, one name after the other. It is the same
as all names of the path joined by dots, because no name is empty. A namespace with a block changes
the scope for its members and not for what follows, so the members of a list are read apart from
each other; a namespace without a block changes the scope for what follows.
-/

namespace ClientGen.CSharp

/-- Something that is declared, with the names of the namespaces around it, outermost first. -/
structure Located (α : Type) where
  /-- The names of the namespaces. -/
  path : List ScopeName
  /-- What is declared. -/
  item : α

/-- The names of some namespaces, joined by dots. -/
def joined (path : List ScopeName) : String :=
  ".".intercalate (path.map (·.1))

/-- The namespace that something is declared in. -/
def Located.scope {α : Type} (found : Located α) : String :=
  joined found.path

mutual

/-- The types that a member declares, within the namespaces of a path. -/
def Member.types (path : List ScopeName) : Member → List (Located TypeDecl)
  | .type decl => [⟨path, decl⟩]
  | .scope name members => typesOf (path ++ [name]) members

/-- The types that some members declare, within the namespaces of a path. -/
def typesOf (path : List ScopeName) : List Member → List (Located TypeDecl)
  | [] => []
  | member :: members => member.types path ++ typesOf path members

end

/-- The members of a compilation unit. -/
structure CompilationUnit where
  /-- The members, or those before a namespace without a block. -/
  members : List Member
  /-- A namespace without a block, and the members that follow it. -/
  fileScope? : Option (ScopeName × List Member)

/-- The class that a type is, if it is one. -/
def TypeDecl.class? : TypeDecl → Option ClassSyntax
  | .classDecl written => some written
  | .otherType _ => none

/-- The name of a type, if it is no class. -/
def TypeDecl.otherType? : TypeDecl → Option String
  | .classDecl _ => none
  | .otherType name => some name

/-- What something becomes, if it becomes anything, where it is declared. -/
def Located.filterMap {α β : Type} (change : α → Option β) (items : List (Located α)) :
    List (Located β) :=
  items.filterMap fun found => (change found.item).map (Located.mk found.path)

namespace CompilationUnit

/-- The trees of a compilation unit. -/
inductive Writes : CompilationUnit → List Tree → Prop where
  /-- There are members only. -/
  | members {members : List Member} {trees : List Tree} (hmembers : WritesAll members trees) :
    Writes ⟨members, none⟩ trees
  /-- There is a namespace without a block. -/
  | fileScope {members following : List Member} {name : ScopeName} {before line after : List Tree}
    {last : Tree} (hmembers : WritesAll members before) (hname : name.Writes line)
    (hlast : last.isSymbol ';' = true) (hfollowing : WritesAll following after) :
    Writes ⟨members, some (name, following)⟩ (before ++ (line ++ last :: after))

/-- The types that a compilation unit declares, in order. -/
def types (unit : CompilationUnit) : List (Located TypeDecl) :=
  typesOf [] unit.members ++
    match unit.fileScope? with
    | none => []
    | some (name, following) => typesOf [name] following

/-- The classes that a compilation unit declares, in order. -/
def classes (unit : CompilationUnit) : List (Located ClassSyntax) :=
  Located.filterMap TypeDecl.class? unit.types

/-- The names of the other types that a compilation unit declares, in order. -/
def otherTypes (unit : CompilationUnit) : List (Located String) :=
  Located.filterMap TypeDecl.otherType? unit.types

/-- The declarations that the members of a compilation unit are. -/
def declarations (unit : CompilationUnit) : List Declaration :=
  toDeclarations unit.members ++
    match unit.fileScope? with
    | none => []
    | some (name, following) => .fileScope (Source.ofText name) :: toDeclarations following

end CompilationUnit

/-! ### Declarations of a unit -/

/-- Members with nothing after them are read as these members. -/
theorem WritesAll.ofTrees_eq {members : List Member} {trees : List Tree} {depth : Nat}
    (h : WritesAll members trees) (hdepth : Tree.depthOf trees < depth) :
    Declaration.ofTrees depth trees = toDeclarations members := by
  have hnone : StartsAnew [] := rfl
  have hmembers := h.ofTrees_append hnone hdepth
  rwa [ofTrees_nil, List.append_nil, List.append_nil] at hmembers

/-- The trees of a compilation unit are read as its declarations. -/
theorem CompilationUnit.Writes.ofTrees_eq {unit : CompilationUnit} {trees : List Tree} {depth : Nat}
    (h : unit.Writes trees) (hdepth : Tree.depthOf trees < depth) :
    Declaration.ofTrees depth trees = unit.declarations := by
  cases h with
  | members hmembers => rw [hmembers.ofTrees_eq hdepth, declarations, List.append_nil]
  | @fileScope members following name before line after last hmembers hname hlast hfollowing =>
    rw [depthOf_append, depthOf_append, Tree.depthOf] at hdepth
    obtain ⟨depth, rfl⟩ := Nat.exists_eq_succ_of_ne_zero (Nat.ne_zero_of_lt hdepth)
    have hline : StartsAnew (line ++ last :: after) :=
      startsAnew_append _ hname.ne_nil fun tree htree => (hname.continues tree htree).2.2
    have hspans : spans (line ++ last :: after) = (line ++ [last]) :: spans after :=
      spans_append_semicolon
        (fun tree htree => ⟨(hname.continues tree htree).1, (hname.continues tree htree).2.1⟩) hlast
    rw [hmembers.ofTrees_append hline (by omega),
      ofTrees_eq_cons hspans (hname.ofSpan?_eq_fileScope hlast), hfollowing.ofTrees_eq (by omega),
      declarations]

/-! ### Scopes -/

/-- A source with the characters of a text is read as this text. -/
theorem read_ofText (text : String) : (Source.ofText text).read = .ok text := by
  simp [Source.read, Source.ofText, Source.chars?_map_some]

/-- A source that is made of characters is their text. -/
theorem eq_map_some_of_chars? {s : Source} {cs : List Char} (h : s.chars? = some cs) :
    s = cs.map some := by
  induction s generalizing cs with
  | nil => simp_all [Source.chars?]
  | cons c s ih =>
    rw [Source.chars?, List.mapM_cons] at h
    obtain ⟨first, hfirst, h⟩ := Option.bind_eq_some_iff.mp h
    obtain ⟨rest, hrest, h⟩ := Option.bind_eq_some_iff.mp h
    rw [← Option.some.inj h, List.map_cons, ← ih hrest, ← hfirst, id]

/-- A source that is read as a text has its characters. -/
theorem eq_ofText_of_read {s : Source} {text : String} (h : s.read = .ok text) :
    s = Source.ofText text := by
  rw [Source.read] at h
  cases hchars : s.chars? with
  | none =>
    rw [hchars] at h
    cases h
  | some cs =>
    rw [hchars] at h
    rw [eq_map_some_of_chars? hchars, ← Except.ok.inj h, Source.ofText, String.toList_ofList]

/-- The names of a path that has any are not empty. -/
theorem joined_cons_ne_empty (name : ScopeName) (path : List ScopeName) :
    joined (name :: path) ≠ "" := by
  intro h
  refine name.2 ?_
  cases path with
  | nil => simpa [joined] using h
  | cons next path =>
    simp only [joined, List.map_cons, String.intercalate_cons_cons, String.append_eq_empty_iff] at h
    exact h.1.1

/-- The scope within one more namespace has one more name at the end. -/
theorem scopeWithin_joined (path : List ScopeName) (name : ScopeName) :
    scopeWithin (joined path) name = joined (path ++ [name]) := by
  cases path with
  | nil => simp [scopeWithin, joined]
  | cons first path =>
    rw [scopeWithin, if_neg (joined_cons_ne_empty first path), joined, joined, List.map_append,
      String.intercalate_append_of_ne_nil (by simp) (by simp), List.map_singleton,
      String.intercalate_singleton]

/-! ### Types of a unit -/

/-- A type read as it is declared. -/
def Located.read (found : Located TypeDecl) : Except SourceFault Declared :=
  match found.item with
  | .classDecl written => return .classDecl (← written.toClass found.scope)
  | .otherType name => return .otherType { name, scope := found.scope }

/-- A member is collected apart from what follows it, in the same namespace. -/
theorem declaredTypes_cons (scope : String) (member : Member) (rest : List Declaration) :
    declaredTypes scope (member.toDeclaration :: rest) = do
      let types ← member.toDeclaration.types scope
      return types ++ (← declaredTypes scope rest) := by
  -- only a namespace without a block changes what follows it, and no member is one
  rcases member with ⟨_ | _⟩ | _ <;> rw [Member.toDeclaration, declaredTypes] <;> simp

mutual

/-- The types of a member are collected, each in its namespace. -/
theorem types_toDeclaration (path : List ScopeName) (member : Member) :
    member.toDeclaration.types (joined path) = (member.types path).mapM Located.read := by
  cases member with
  | type decl =>
    rw [Member.types, List.mapM_cons, List.mapM_nil]
    cases decl with
    | classDecl written =>
      simp [Member.toDeclaration, Declaration.types, Located.read, Located.scope]
    | otherType name =>
      rw [Member.toDeclaration, Declaration.types, read_ofText]
      rfl
  | scope name members =>
    rw [Member.toDeclaration, Declaration.types, read_ofText]
    exact (congrArg (declaredTypes · _) (scopeWithin_joined path name)).trans
      (declaredTypes_toDeclarations (path ++ [name]) members)

/-- The types of some members are collected in order, each in its namespace. -/
theorem declaredTypes_toDeclarations (path : List ScopeName) (members : List Member) :
    declaredTypes (joined path) (toDeclarations members) =
      (typesOf path members).mapM Located.read := by
  cases members with
  | nil => rw [toDeclarations, declaredTypes, typesOf, List.mapM_nil]
  | cons member members =>
    rw [toDeclarations, declaredTypes_cons, typesOf, List.mapM_append,
      types_toDeclaration path member, declaredTypes_toDeclarations path members]

end

/-- What follows some members is collected apart from them, in the same namespace. -/
theorem declaredTypes_append (scope : String) (members : List Member) (rest : List Declaration) :
    declaredTypes scope (toDeclarations members ++ rest) = do
      let types ← declaredTypes scope (toDeclarations members)
      return types ++ (← declaredTypes scope rest) := by
  induction members with
  | nil => simp [toDeclarations, declaredTypes]
  | cons member members ih =>
    rw [toDeclarations, List.cons_append, declaredTypes_cons, declaredTypes_cons, ih]
    simp only [bind_assoc, pure_bind, List.append_assoc]

/-- The types of a compilation unit are collected in order, each in its namespace. -/
theorem CompilationUnit.declaredTypes_declarations (unit : CompilationUnit) :
    declaredTypes "" unit.declarations = unit.types.mapM Located.read := by
  have houter : ∀ members, declaredTypes "" (toDeclarations members) =
      (typesOf [] members).mapM Located.read := fun members =>
    declaredTypes_toDeclarations [] members
  rcases unit with ⟨members, _ | ⟨name, following⟩⟩
  · rw [declarations, types, List.append_nil, List.append_nil, houter]
  · have hinner := declaredTypes_toDeclarations [name] following
    rw [joined, List.map_singleton, String.intercalate_singleton] at hinner
    rw [declarations, types, declaredTypes_append, houter, declaredTypes, read_ofText,
      List.mapM_append, ← hinner]
    rfl

/-- The class that a collected type is, if it is one. -/
def Declared.class? : Declared → Option ClassDecl
  | .classDecl decl => some decl
  | .otherType _ => none

/-- The name and the namespace of a collected type that is no class. -/
def Declared.otherType? : Declared → Option TypeRef
  | .classDecl _ => none
  | .otherType ref => some ref

/-- The name and the namespace of a type that is no class. -/
def Located.toTypeRef (found : Located String) : TypeRef :=
  { name := found.item, scope := found.scope }

/-- The classes and the other types among some types can be collected apart from each other: only
the classes can fail to be read. -/
theorem mapM_read {β : Type} (items : List (Located TypeDecl))
    (result : List ClassDecl → List TypeRef → β) :
    (do
      let types ← items.mapM Located.read
      return result (types.filterMap Declared.class?) (types.filterMap Declared.otherType?)) = do
      let classes ← (Located.filterMap TypeDecl.class? items).mapM fun found =>
        found.item.toClass found.scope
      let types := (Located.filterMap TypeDecl.otherType? items).map Located.toTypeRef
      return result classes types := by
  induction items generalizing result with
  | nil => rfl
  | cons found items ih =>
    rcases found with ⟨path, written | name⟩
    · have hclasses : Located.filterMap TypeDecl.class? (⟨path, .classDecl written⟩ :: items) =
          ⟨path, written⟩ :: Located.filterMap TypeDecl.class? items := rfl
      have hread : Located.read ⟨path, .classDecl written⟩ =
          written.toClass (joined path) >>= fun decl => pure (.classDecl decl) := rfl
      rw [List.mapM_cons, hread, hclasses, List.mapM_cons]
      simp only [bind_assoc, pure_bind]
      exact congrArg (written.toClass (joined path) >>= ·)
        (funext fun decl => ih fun classes types => result (decl :: classes) types)
    · have hread : Located.read ⟨path, .otherType name⟩ =
          pure (.otherType (Located.toTypeRef ⟨path, name⟩)) := rfl
      rw [List.mapM_cons, hread]
      simp only [bind_assoc, pure_bind]
      exact ih fun classes types => result classes (Located.toTypeRef ⟨path, name⟩ :: types)

/-- The name and the namespace of a class that has been read. -/
theorem ClassSyntax.name_scope_of_toClass {written : ClassSyntax} {scope : String}
    {decl : ClassDecl} (h : written.toClass scope = .ok decl) :
    Source.ofText decl.name = written.name ∧ decl.scope = scope := by
  obtain ⟨methods, -, h⟩ := bind_eq_ok_iff.mp h
  obtain ⟨name, hname, h⟩ := bind_eq_ok_iff.mp h
  obtain ⟨base, -, h⟩ := bind_eq_ok_iff.mp h
  cases h
  exact ⟨(eq_ofText_of_read hname).symm, rfl⟩

/-- Reading a compilation unit records each of its types once and in order, the classes and the
others apart, with the names of the namespaces around it joined by dots; nothing else is recorded,
and only a class that cannot be read makes it fail. -/
theorem CompilationUnit.Writes.readDocument_eq {unit : CompilationUnit} {s : Source}
    (h : unit.Writes (Tree.ofSource s)) (name : String) (folders : List String) :
    (readDocument s name folders = do
      let classes ← unit.classes.mapM fun found => found.item.toClass found.scope
      return { name, folders, classes, types := unit.otherTypes.map Located.toTypeRef }) ∧
    ∀ document, readDocument s name folders = .ok document →
      document.classes.map (fun decl => (Source.ofText decl.name, decl.scope)) =
        unit.classes.map fun found => (found.item.name, found.scope) := by
  have hread : readDocument s name folders = do
      let classes ← unit.classes.mapM fun found => found.item.toClass found.scope
      let types := unit.otherTypes.map Located.toTypeRef
      return ({ name, folders, classes, types } : Document) := by
    rw [readDocument, Declaration.ofSource, h.ofTrees_eq (Nat.lt_succ_self _),
      unit.declaredTypes_declarations]
    exact mapM_read unit.types fun classes types => ({ name, folders, classes, types } : Document)
  refine ⟨hread, fun document hdocument => ?_⟩
  rw [hread] at hdocument
  obtain ⟨classes, hclasses, hresult⟩ := bind_eq_ok_iff.mp hdocument
  cases hresult
  have hall : List.Forall₂ Eq (unit.classes.map fun found => (found.item.name, found.scope))
      (classes.map fun decl => (Source.ofText decl.name, decl.scope)) := by
    rw [List.forall₂_map_left_iff, List.forall₂_map_right_iff]
    refine (mapM_eq_ok_iff.mp hclasses).imp fun found decl hdecl => ?_
    obtain ⟨hname, hscope⟩ := ClassSyntax.name_scope_of_toClass hdecl
    rw [hname, hscope]
  rw [List.forall₂_eq_eq_eq] at hall
  exact hall.symm

/-- A token after a blank. -/
def Token.afterBlank (kind : TokenKind) (text : String) : Token :=
  ⟨[.blank (Source.ofText " ")], kind, Source.ofText text⟩

/-- A word after a blank. -/
def Tree.wordAfterBlank (text : String) : Tree :=
  .leaf (.afterBlank .word text)

/-- A semicolon after a blank. -/
def Tree.semicolonAfterBlank : Tree :=
  .leaf (.afterBlank .symbol ";")

/-- A block whose brackets stand after blanks. -/
def Tree.blockAfterBlank (items : List Tree) : Tree :=
  .group (.afterBlank .symbol "\x7b") items (.afterBlank .symbol "\x7d")

/-- A namespace without a block has a namespace with one in it and a record after it. The class in
the block is recorded with both names, the record with the first one, and an enumeration in the
class is not recorded. -/
theorem readDocument_orders :
    let orders : ClassSyntax := { name := Source.ofText "Orders", bases := [], methods := [] }
    let unit : CompilationUnit :=
      { members := []
        fileScope? := some (⟨"Shop", by decide⟩,
          [.scope ⟨"Api", by decide⟩ [.type (.classDecl orders)], .type (.otherType "Money")]) }
    let s := Source.ofText
      (" namespace Shop ; namespace Api \x7b class Orders \x7b enum Kind \x7b \x7d \x7d \x7d" ++
        " record Money ;")
    unit.Writes (Tree.ofSource s) ∧
      readDocument s "Orders.cs" [] = .ok
        { name := "Orders.cs"
          classes := [{ name := "Orders", scope := "Shop.Api", baseType := none, methods := [] }]
          types := [{ name := "Money", scope := "Shop" }] } := by
  intro orders unit s
  have htokens : Token.ofSource s =
      [.afterBlank .word "namespace", .afterBlank .word "Shop", .afterBlank .symbol ";",
        .afterBlank .word "namespace", .afterBlank .word "Api", .afterBlank .symbol "\x7b",
        .afterBlank .word "class", .afterBlank .word "Orders", .afterBlank .symbol "\x7b",
        .afterBlank .word "enum", .afterBlank .word "Kind", .afterBlank .symbol "\x7b",
        .afterBlank .symbol "\x7d", .afterBlank .symbol "\x7d", .afterBlank .symbol "\x7d",
        .afterBlank .word "record", .afterBlank .word "Money", .afterBlank .symbol ";"] := by
    decide +kernel
  have htrees : Tree.ofSource s =
      [.wordAfterBlank "namespace", .wordAfterBlank "Shop", .semicolonAfterBlank,
        .wordAfterBlank "namespace", .wordAfterBlank "Api",
        .blockAfterBlank [.wordAfterBlank "class", .wordAfterBlank "Orders",
          .blockAfterBlank [.wordAfterBlank "enum", .wordAfterBlank "Kind", .blockAfterBlank []]],
        .wordAfterBlank "record", .wordAfterBlank "Money", .semicolonAfterBlank] := by
    rw [Tree.ofSource, htokens]
    rfl
  have hunit : unit.Writes (Tree.ofSource s) := by
    have hlead : IsLead [] := @IsLead.mk [] [] (by simp) (by simp)
    have hshop : ScopeName.Writes ⟨"Shop", by decide⟩
        [.wordAfterBlank "namespace", .wordAfterBlank "Shop"] :=
      @ScopeName.Writes.mk _ [] [] _ _ (by simp) rfl rfl (by simp) rfl
    have hapi : ScopeName.Writes ⟨"Api", by decide⟩
        [.wordAfterBlank "namespace", .wordAfterBlank "Api"] :=
      @ScopeName.Writes.mk _ [] [] _ _ (by simp) rfl rfl (by simp) rfl
    have horders : TypeDecl.Writes
        (.blockAfterBlank [.wordAfterBlank "enum", .wordAfterBlank "Kind", .blockAfterBlank []])
        (.classDecl orders) [.wordAfterBlank "class", .wordAfterBlank "Orders"] :=
      @TypeDecl.Writes.classDecl _ [] [] _ _ _ hlead rfl rfl (by simp) rfl
    have hmoney : TypeDecl.Writes .semicolonAfterBlank (.otherType "Money")
        [.wordAfterBlank "record", .wordAfterBlank "Money"] :=
      @TypeDecl.Writes.otherType _ [] [] [] _ _ "record" _ [] hlead (by decide) rfl rfl rfl
        (by decide) (by simp)
    rw [htrees]
    exact .fileScope .nil hshop rfl
      (.scope hapi rfl (.type horders (.inr rfl) .nil) (.type hmoney (.inl rfl) .nil))
  refine ⟨hunit, ?_⟩
  rw [(hunit.readDocument_eq "Orders.cs" []).1]
  rfl

end ClientGen.CSharp

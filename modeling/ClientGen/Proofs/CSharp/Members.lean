import ClientGen.CSharp.Declaration
import Mathlib.Data.List.TakeWhile

/-!
# Members as they are written

A compilation unit and a namespace are made of types, namespaces and what is passed over. What the
trees of each of them are is said here by grammar, apart from how declarations are read, and with no
word on what is in the body of a type: that may be any block, whatever is declared in it.

Each member is one span. It goes on up to the first block or semicolon, since no sign of a value
stands in it, and a member that follows a block begins with no such sign either, so that the block
does end it. In its span, attributes and modifiers are passed over up to the word that introduces a
type or a namespace. So what is written as some members is read as these, in order, at any depth.
-/

namespace ClientGen.CSharp

/-- The name of a namespace, which is never empty. -/
abbrev ScopeName := { name : String // name ≠ "" }

/-- A type that is declared in a namespace or outside of all of them. -/
inductive TypeDecl where
  /-- A class. -/
  | classDecl (written : ClassSyntax)
  /-- A record, structure, interface or enumeration. -/
  | otherType (name : String)

/-- A member of a compilation unit or of a namespace. -/
inductive Member where
  /-- A type. -/
  | type (decl : TypeDecl)
  /-- A namespace with its members in a block. -/
  | scope (name : ScopeName) (members : List Member)

/-- The modifiers of types. -/
def typeModifiers : List String :=
  ["abstract", "file", "internal", "new", "partial", "private", "protected", "public", "readonly",
   "sealed", "static", "unsafe"]

/-- The words that introduce a type other than a class: the first one and the others. -/
def otherTypeWords : List (String × List String) :=
  [("record", []), ("record", ["class"]), ("record", ["struct"]), ("struct", []),
   ("ref", ["struct"]), ("ref", ["partial", "struct"]), ("interface", []), ("enum", [])]

/-- A tree with which a declaration goes on: it is no end, and no sign that a value follows. -/
def Continues (tree : Tree) : Prop :=
  tree.isSymbol ';' = false ∧ tree.isGroup '\x7b' = false ∧ tree.isSymbol '=' = false

/-- A tree with which a declaration ends. -/
def Ends (tree : Tree) : Prop :=
  tree.isSymbol ';' = true ∨ tree.isGroup '\x7b' = true

/-- The attributes and modifiers before the words that introduce a type. -/
inductive IsLead : List Tree → Prop where
  /-- The attributes come first. -/
  | mk {attributes modifiers : List Tree}
    (hattributes : ∀ tree ∈ attributes, tree.isGroup '[' = true)
    (hmodifiers : ∀ tree ∈ modifiers, tree.isOneOf typeModifiers = true) :
    IsLead (attributes ++ modifiers)

/-- The trees of the declaration of a type, up to the last of them. The last one is a block, and
whatever types are declared in it, or a semicolon. -/
inductive TypeDecl.Writes (last : Tree) : TypeDecl → List Tree → Prop where
  /-- A class. -/
  | classDecl {lead header : List Tree} {word name : Tree} {written : ClassSyntax}
    (hlead : IsLead lead) (hword : word.isWord "class" = true)
    (hname : name.name? = some written.name) (hheader : ∀ tree ∈ header, Continues tree)
    (hwritten : ClassSyntax.ofTrees? (name :: header ++ [last]) = some written) :
    Writes last (.classDecl written) (lead ++ word :: name :: header)
  /-- Another type. -/
  | otherType {lead words header : List Tree} {word tree : Tree} {text name : String}
    {texts : List String} (hlead : IsLead lead) (htexts : (text, texts) ∈ otherTypeWords)
    (hword : word.isWord text = true)
    (hwords : words.map Tree.word? = texts.map fun text => some (Source.ofText text))
    (hname : tree.name? = some (Source.ofText name)) (hreserved : name ∉ ["class", "struct"])
    (hheader : ∀ tree ∈ header, Continues tree) :
    Writes last (.otherType name) (lead ++ word :: (words ++ tree :: header))

/-- The trees with which a namespace begins, up to its block or the semicolon. -/
inductive ScopeName.Writes (name : ScopeName) : List Tree → Prop where
  /-- The word and the name. -/
  | mk {attributes others : List Tree} {word first : Tree}
    (hattributes : ∀ tree ∈ attributes, tree.isGroup '[' = true)
    (hword : word.isWord "namespace" = true) (hfirst : first.name?.isSome = true)
    (hothers : ∀ tree ∈ others, Continues tree)
    (hname : Tree.source (first :: others) = Source.ofText name) :
    name.Writes (attributes ++ word :: first :: others)

/-- Trees that declare nothing: a semicolon, or a directive that makes names known. -/
inductive IsPassed : List Tree → Prop where
  /-- A semicolon. -/
  | semicolon {last : Tree} (hlast : last.isSymbol ';' = true) : IsPassed [last]
  /-- A directive. -/
  | directive {others : List Tree} {word last : Tree}
    (hword : word.isOneOf ["using", "global"] = true)
    (hothers : ∀ tree ∈ others, tree.isSymbol ';' = false ∧ tree.isGroup '\x7b' = false)
    (hlast : last.isSymbol ';' = true) : IsPassed (word :: others ++ [last])

/-- The trees of some members one after the other. -/
inductive WritesAll : List Member → List Tree → Prop where
  /-- There are no members. -/
  | nil : WritesAll [] []
  /-- There is something that declares nothing before the members. -/
  | passed {members : List Member} {front rest : List Tree} (hfront : IsPassed front)
    (hrest : WritesAll members rest) : WritesAll members (front ++ rest)
  /-- The first member is a type. -/
  | type {decl : TypeDecl} {members : List Member} {front rest : List Tree} {last : Tree}
    (hdecl : decl.Writes last front) (hlast : Ends last) (hrest : WritesAll members rest) :
    WritesAll (.type decl :: members) (front ++ last :: rest)
  /-- The first member is a namespace. -/
  | scope {name : ScopeName} {inner members : List Member} {front items rest : List Tree}
    {opening closing : Token} (hname : name.Writes front) (hopening : opening.text = [some '\x7b'])
    (hinner : WritesAll inner items) (hrest : WritesAll members rest) :
    WritesAll (.scope name inner :: members) (front ++ .group opening items closing :: rest)

mutual

/-- The declaration that a member is. -/
def Member.toDeclaration : Member → Declaration
  | .type (.classDecl written) => .classDecl written
  | .type (.otherType name) => .otherType (Source.ofText name)
  | .scope name members => .scope (Source.ofText name) (toDeclarations members)

/-- The declarations that some members are. -/
def toDeclarations : List Member → List Declaration
  | [] => []
  | member :: members => member.toDeclaration :: toDeclarations members

end

/-! ### Words and other trees -/

/-- A tree that is a word is no group. -/
theorem isGroup_of_word? {tree : Tree} {text : Source} (h : tree.word? = some text)
    (opening : Char) : tree.isGroup opening = false := by
  cases tree with
  | leaf token => rfl
  | group _ _ _ => cases h

/-- A tree that is a word is no symbol. -/
theorem isSymbol_of_word? {tree : Tree} {text : Source} (h : tree.word? = some text) (c : Char) :
    tree.isSymbol c = false := by
  cases tree with
  | leaf token =>
    have hkind : token.kind = .word := by
      by_contra hkind
      rw [Tree.word?, if_neg hkind] at h
      cases h
    simp [Tree.isSymbol, Token.isSymbolIn, hkind]
  | group _ _ _ => rfl

/-- A group is no symbol. -/
theorem isSymbol_of_isGroup {tree : Tree} {opening : Char} (h : tree.isGroup opening = true)
    (c : Char) : tree.isSymbol c = false := by
  cases tree with
  | leaf token => cases h
  | group _ _ _ => rfl

/-- A symbol is no word. -/
theorem word?_of_isSymbol {tree : Tree} {c : Char} (h : tree.isSymbol c = true) :
    tree.word? = none := by
  by_contra hword
  obtain ⟨text, hword⟩ := Option.ne_none_iff_exists'.mp hword
  rw [isSymbol_of_word? hword] at h
  cases h

/-- A tree is a word exactly when its text is the word. -/
theorem isWord_iff {tree : Tree} {word : String} :
    tree.isWord word = true ↔ tree.word? = some (Source.ofText word) :=
  decide_eq_true_iff

/-- A tree is one of some words exactly when its text is one of them. -/
theorem isOneOf_iff {tree : Tree} {words : List String} :
    tree.isOneOf words = true ↔ ∃ word ∈ words, tree.word? = some (Source.ofText word) := by
  simp only [Tree.isOneOf, List.any_eq_true, isWord_iff]

/-- Different texts are different sources. -/
theorem ofText_inj {first second : String} :
    Source.ofText first = Source.ofText second ↔ first = second := by
  rw [Source.ofText, Source.ofText, List.map_inj_right fun _ _ => Option.some.inj,
    String.toList_inj]

/-- A tree that is a name is a word with the same text. -/
theorem word?_of_name? {tree : Tree} {text : Source} (h : tree.name? = some text) :
    tree.word? = some text :=
  (Option.filter_eq_some_iff.mp h).1

/-- Which words a word is. -/
theorem isWord_of_word? {tree : Tree} {text : String} (h : tree.word? = some (Source.ofText text))
    (word : String) : tree.isWord word = decide (text = word) := by
  rw [Tree.isWord, h]
  simp only [Option.some.injEq, ofText_inj]

/-- Among which words a word is. -/
theorem isOneOf_of_word? {tree : Tree} {text : String} (h : tree.word? = some (Source.ofText text))
    (words : List String) : tree.isOneOf words = decide (text ∈ words) := by
  rw [Bool.eq_iff_iff, isOneOf_iff, decide_eq_true_iff]
  simp [h, ofText_inj]

/-- A word does not end a declaration. -/
theorem continues_of_word? {tree : Tree} {text : Source} (h : tree.word? = some text) :
    Continues tree :=
  ⟨isSymbol_of_word? h ';', isGroup_of_word? h _, isSymbol_of_word? h '='⟩

/-- Attributes do not end a declaration. -/
theorem continues_of_isGroup {tree : Tree} (h : tree.isGroup '[' = true) : Continues tree := by
  refine ⟨isSymbol_of_isGroup h ';', ?_, isSymbol_of_isGroup h '='⟩
  cases tree with
  | leaf token => rfl
  | group opening items closing =>
    have hopening : opening.text = [some '['] := by
      by_contra hopening
      simp [Tree.isGroup, Tree.items?, hopening] at h
    simp [Tree.isGroup, Tree.items?, hopening]

/-- Attributes and modifiers do not end a declaration. -/
theorem IsLead.continues {lead : List Tree} (h : IsLead lead) : ∀ tree ∈ lead, Continues tree := by
  cases h with
  | mk hattributes hmodifiers =>
    refine List.forall_mem_append.mpr
      ⟨fun tree htree => continues_of_isGroup (hattributes tree htree), fun tree htree => ?_⟩
    obtain ⟨_, -, hword⟩ := isOneOf_iff.mp (hmodifiers tree htree)
    exact continues_of_word? hword

/-- A declaration goes on up to its last tree. -/
theorem TypeDecl.Writes.continues {decl : TypeDecl} {front : List Tree} {last : Tree}
    (h : decl.Writes last front) : ∀ tree ∈ front, Continues tree := by
  cases h with
  | classDecl hlead hword hname hheader _ =>
    exact List.forall_mem_append.mpr ⟨hlead.continues, List.forall_mem_cons.mpr
      ⟨continues_of_word? (isWord_iff.mp hword),
        List.forall_mem_cons.mpr ⟨continues_of_word? (word?_of_name? hname), hheader⟩⟩⟩
  | @otherType lead words header word tree text name texts hlead _ hword hwords hname _ hheader =>
    have hothers : ∀ other ∈ words, Continues other := by
      intro other hmem
      have htext : other.word? ∈ texts.map fun text => some (Source.ofText text) :=
        hwords ▸ List.mem_map_of_mem hmem
      obtain ⟨text, -, htext⟩ := List.mem_map.mp htext
      exact continues_of_word? htext.symm
    exact List.forall_mem_append.mpr ⟨hlead.continues, List.forall_mem_cons.mpr
      ⟨continues_of_word? (isWord_iff.mp hword), List.forall_mem_append.mpr
        ⟨hothers, List.forall_mem_cons.mpr
          ⟨continues_of_word? (word?_of_name? hname), hheader⟩⟩⟩⟩

/-- The declaration of a namespace goes on up to its block or the semicolon. -/
theorem ScopeName.Writes.continues {name : ScopeName} {front : List Tree} (h : name.Writes front) :
    ∀ tree ∈ front, Continues tree := by
  cases h with
  | @mk attributes others word first hattributes hword hfirst hothers _ =>
    obtain ⟨text, hfirst⟩ := Option.isSome_iff_exists.mp hfirst
    exact List.forall_mem_append.mpr
      ⟨fun tree htree => continues_of_isGroup (hattributes tree htree), List.forall_mem_cons.mpr
        ⟨continues_of_word? (isWord_iff.mp hword), List.forall_mem_cons.mpr
          ⟨continues_of_word? (word?_of_name? hfirst), hothers⟩⟩⟩

/-- The declaration of a type does not begin with its last tree. -/
theorem TypeDecl.Writes.ne_nil {decl : TypeDecl} {front : List Tree} {last : Tree}
    (h : decl.Writes last front) : front ≠ [] := by
  cases h <;> simp

/-- The declaration of a namespace does not begin with its block or the semicolon. -/
theorem ScopeName.Writes.ne_nil {name : ScopeName} {front : List Tree} (h : name.Writes front) :
    front ≠ [] := by
  cases h
  simp

/-! ### Spans -/

/-- A tree that is no end of a span is taken into it. -/
theorem spansAfter_append {front rest span : List Tree} {state : SpanState}
    (h : ∀ tree ∈ front, tree.isSymbol ';' = false ∧ tree.isGroup '\x7b' = false) :
    spansAfter state span (front ++ rest) =
      spansAfter (front.foldl SpanState.next state) (front.reverse ++ span) rest := by
  induction front generalizing state span with
  | nil => rfl
  | cons tree front ih =>
    obtain ⟨⟨hsymbol, hgroup⟩, hfront⟩ := List.forall_mem_cons.mp h
    rw [List.cons_append, spansAfter, hsymbol, hgroup]
    simp [ih hfront]

/-- Where no value is assigned none has been shown. -/
theorem foldl_next_ne_assigned {front : List Tree} {state : SpanState} (hstate : state ≠ .assigned)
    (h : ∀ tree ∈ front, tree.isSymbol '=' = false) :
    front.foldl SpanState.next state ≠ .assigned := by
  induction front generalizing state with
  | nil => exact hstate
  | cons tree front ih =>
    obtain ⟨htree, hfront⟩ := List.forall_mem_cons.mp h
    refine ih ?_ hfront
    cases state with
    | head =>
      rw [SpanState.next, htree]
      split <;> simp
    | operatorSign =>
      rw [SpanState.next]
      split <;> simp
    | assigned => contradiction

/-- A semicolon ends the span. -/
theorem spans_append_semicolon {front rest : List Tree} {last : Tree}
    (hfront : ∀ tree ∈ front, tree.isSymbol ';' = false ∧ tree.isGroup '\x7b' = false)
    (hlast : last.isSymbol ';' = true) :
    spans (front ++ last :: rest) = (front ++ [last]) :: spans rest := by
  rw [spans, spansAfter_append hfront, spansAfter, hlast]
  simp [spans]

/-- A declaration is a span, whether it ends with a block or with a semicolon. -/
theorem spans_append_end {front rest : List Tree} {last : Tree}
    (hfront : ∀ tree ∈ front, Continues tree) (hlast : Ends last)
    (hrest : rest.head?.any (·.isSymbol '=') = false) :
    spans (front ++ last :: rest) = (front ++ [last]) :: spans rest := by
  rcases hlast with hlast | hlast
  · exact spans_append_semicolon
      (fun tree htree => ⟨(hfront tree htree).1, (hfront tree htree).2.1⟩) hlast
  · have hstate : front.foldl SpanState.next .head ≠ .assigned :=
      foldl_next_ne_assigned (by simp) fun tree htree => (hfront tree htree).2.2
    rw [spans, spansAfter_append fun tree htree => ⟨(hfront tree htree).1, (hfront tree htree).2.1⟩,
      spansAfter, hlast, hrest]
    simp [spans, hstate]

/-! ### Declarations in spans -/

/-- What is left of a span after its attributes and modifiers. -/
def withoutLead (span : List Tree) : List Tree :=
  (MethodSyntax.splitModifiers (AttributeSyntax.ofDeclaration span).2).2

/-- The attributes before a declaration are passed over. -/
theorem ofDeclaration_append {attributes : List Tree} {tree : Tree} (rest : List Tree)
    (h : ∀ tree ∈ attributes, tree.isGroup '[' = true) (htree : tree.isGroup '[' = false) :
    (AttributeSyntax.ofDeclaration (attributes ++ tree :: rest)).2 = tree :: rest := by
  simp only [AttributeSyntax.ofDeclaration]
  rw [List.dropWhile_append_of_pos h, List.dropWhile_cons_of_neg (by rw [htree]; decide)]

/-- Types have no modifiers that other declarations have not. -/
theorem isOneOf_modifierWords {tree : Tree} (h : tree.isOneOf typeModifiers = true) :
    ∃ text, tree.word? = some text ∧ tree.isOneOf MethodSyntax.modifierWords = true := by
  have hsub : ∀ word ∈ typeModifiers, word ∈ MethodSyntax.modifierWords := by decide
  obtain ⟨word, hmem, hword⟩ := isOneOf_iff.mp h
  exact ⟨_, hword, isOneOf_iff.mpr ⟨word, hsub word hmem, hword⟩⟩

/-- A word that is no modifier is no part of the modifiers. -/
theorem splitModifiers_of_not_mem {word : Tree} {text : String} (rest : List Tree)
    (hword : word.word? = some (Source.ofText text)) (htext : text ∉ MethodSyntax.modifierWords) :
    MethodSyntax.splitModifiers (word :: rest) = ([], word :: rest) := by
  have hno : word.isOneOf MethodSyntax.modifierWords = false := by
    rw [isOneOf_of_word? hword, decide_eq_false htext]
  rw [MethodSyntax.splitModifiers, hword, hno]
  rfl

/-- The modifiers before a word that is followed by another one are passed over, even `file`. -/
theorem splitModifiers_append {modifiers : List Tree} {word next : Tree} {text : String}
    {text' : Source} (rest : List Tree) (h : ∀ tree ∈ modifiers, tree.isOneOf typeModifiers = true)
    (hword : word.word? = some (Source.ofText text)) (htext : text ∉ MethodSyntax.modifierWords)
    (hnext : next.word? = some text') :
    (MethodSyntax.splitModifiers (modifiers ++ word :: next :: rest)).2 = word :: next :: rest := by
  induction modifiers with
  | nil => rw [List.nil_append, splitModifiers_of_not_mem _ hword htext]
  | cons tree modifiers ih =>
    obtain ⟨htree, hmodifiers⟩ := List.forall_mem_cons.mp h
    obtain ⟨modifier, hmodifier, hone⟩ := isOneOf_modifierWords htree
    -- the tree after the next one is a word too, so no parameters follow here
    have hthird :
        ((modifiers ++ word :: next :: rest).drop 1).head?.any (·.isGroup '(') = false := by
      rcases modifiers with _ | ⟨second, _ | ⟨third, modifiers⟩⟩
      · exact isGroup_of_word? hnext '('
      · exact isGroup_of_word? hword '('
      · obtain ⟨_, hthird, -⟩ :=
          isOneOf_modifierWords (hmodifiers third (List.mem_cons_of_mem _ List.mem_cons_self))
        exact isGroup_of_word? hthird '('
    rw [List.cons_append, MethodSyntax.splitModifiers, hmodifier, hone, hthird]
    simpa using ih hmodifiers

/-- After the attributes and modifiers the words come that introduce a type. -/
theorem withoutLead_append {lead : List Tree} {word next : Tree} {text : String} {text' : Source}
    (rest : List Tree) (h : IsLead lead) (hword : word.word? = some (Source.ofText text))
    (htext : text ∉ MethodSyntax.modifierWords) (hnext : next.word? = some text') :
    withoutLead (lead ++ word :: next :: rest) = word :: next :: rest := by
  cases h with
  | @mk attributes modifiers hattributes hmodifiers =>
    have hsplit := splitModifiers_append rest hmodifiers hword htext hnext
    rw [withoutLead, List.append_assoc]
    cases modifiers with
    | nil => rwa [List.nil_append, ofDeclaration_append _ hattributes (isGroup_of_word? hword '[')]
    | cons tree modifiers =>
      obtain ⟨_, htree, -⟩ := isOneOf_modifierWords (hmodifiers tree List.mem_cons_self)
      rwa [List.cons_append, ofDeclaration_append _ hattributes (isGroup_of_word? htree '[')]

/-- After attributes alone the word comes that follows them. -/
theorem withoutLead_append_attributes {attributes : List Tree} {word : Tree} {text : String}
    (rest : List Tree) (h : ∀ tree ∈ attributes, tree.isGroup '[' = true)
    (hword : word.word? = some (Source.ofText text)) (htext : text ∉ MethodSyntax.modifierWords) :
    withoutLead (attributes ++ word :: rest) = word :: rest := by
  rw [withoutLead, ofDeclaration_append _ h (isGroup_of_word? hword '['),
    splitModifiers_of_not_mem _ hword htext]

variable {members : List Tree → List Declaration}

/-- A class is declared by the word for it. -/
theorem ofSpan?_class {span rest : List Tree} {word : Tree} (h : withoutLead span = word :: rest)
    (hword : word.isWord "class" = true) :
    Declaration.ofSpan? members span = (ClassSyntax.ofTrees? rest).map .classDecl := by
  unfold Declaration.ofSpan? withoutLead at *
  dsimp only
  have hwords := isWord_of_word? (isWord_iff.mp hword)
  rw [h]
  simp [hwords]

/-- Another type is declared by its words and its name. -/
theorem ofSpan?_otherType {span words rest : List Tree} {word tree : Tree} {text name : String}
    {texts : List String} (h : withoutLead span = word :: (words ++ tree :: rest))
    (htexts : (text, texts) ∈ otherTypeWords) (hword : word.isWord text = true)
    (hwords : words.map Tree.word? = texts.map fun text => some (Source.ofText text))
    (hname : tree.name? = some (Source.ofText name)) (hreserved : name ∉ ["class", "struct"]) :
    Declaration.ofSpan? members span = some (.otherType (Source.ofText name)) := by
  unfold Declaration.ofSpan? withoutLead at *
  dsimp only
  rw [h]
  have hword := isWord_iff.mp hword
  have hlast := word?_of_name? hname
  simp only [List.mem_cons, List.not_mem_nil, or_false, not_or] at hreserved
  simp only [otherTypeWords, List.mem_cons, List.not_mem_nil, or_false, Prod.mk.injEq] at htexts
  rcases htexts with h | h | h | h | h | h | h | h
  all_goals
    obtain ⟨rfl, rfl⟩ := h
    rcases words with _ | ⟨first, _ | ⟨second, words⟩⟩ <;> simp at hwords
  all_goals
    simp [Declaration.isTypeWord, Tree.isOneOf, Tree.isWord, ofText_inj, hword, hwords, hname,
      hlast, hreserved]

/-- A tree that opens no block holds no members. -/
theorem items?_of_continues {tree : Tree} (h : Continues tree) : tree.items? '\x7b' = none := by
  have hgroup := h.2.1
  rw [Tree.isGroup] at hgroup
  simpa using hgroup

/-- The name of a namespace is what stands up to its block or the semicolon. -/
theorem scopeName_append {front rest : List Tree} {last : Tree}
    (hfront : ∀ tree ∈ front, Continues tree) (hlast : Ends last) :
    Declaration.scopeName (front ++ last :: rest) = Tree.source front := by
  have hgoes : ∀ tree ∈ front, (!(tree.isGroup '\x7b' || tree.isSymbol ';')) = true := by
    intro tree htree
    obtain ⟨hsymbol, hgroup, -⟩ := hfront tree htree
    rw [hgroup, hsymbol]
    rfl
  have hends :
      (last :: rest).takeWhile (fun tree => !(tree.isGroup '\x7b' || tree.isSymbol ';')) = [] := by
    rcases hlast with hlast | hlast <;> simp [hlast]
  rw [Declaration.scopeName, List.takeWhile_append_of_pos hgoes, hends, List.append_nil]

/-- A namespace with a block is declared with the members in the block. -/
theorem ofSpan?_scope {span others items : List Tree} {word : Tree} {opening closing : Token}
    (h : withoutLead span = word :: (others ++ [.group opening items closing]))
    (hword : word.isWord "namespace" = true) (hothers : ∀ tree ∈ others, Continues tree)
    (hopening : opening.text = [some '\x7b']) :
    Declaration.ofSpan? members span = some (.scope (Tree.source others) (members items)) := by
  have hitems : Tree.items? '\x7b' (.group opening items closing) = some items := if_pos hopening
  have hlast : Ends (.group opening items closing) := .inr (by rw [Tree.isGroup, hitems]; rfl)
  have hnone : others.findSome? (·.items? '\x7b') = none :=
    List.findSome?_eq_none_iff.mpr fun tree htree => items?_of_continues (hothers tree htree)
  unfold Declaration.ofSpan? withoutLead at *
  dsimp only
  have hwords := isWord_of_word? (isWord_iff.mp hword)
  rw [h]
  simp [hwords, hnone, hitems, scopeName_append hothers hlast]

/-- A namespace without a block is declared for all that follows. -/
theorem ofSpan?_fileScope {span others : List Tree} {word last : Tree}
    (h : withoutLead span = word :: (others ++ [last])) (hword : word.isWord "namespace" = true)
    (hothers : ∀ tree ∈ others, Continues tree) (hlast : last.isSymbol ';' = true) :
    Declaration.ofSpan? members span = some (.fileScope (Tree.source others)) := by
  have hitems : last.items? '\x7b' = none := by
    cases last with
    | leaf token => rfl
    | group _ _ _ => cases hlast
  have hnone : others.findSome? (·.items? '\x7b') = none :=
    List.findSome?_eq_none_iff.mpr fun tree htree => items?_of_continues (hothers tree htree)
  unfold Declaration.ofSpan? withoutLead at *
  dsimp only
  have hwords := isWord_of_word? (isWord_iff.mp hword)
  rw [h]
  simp [hwords, hnone, hitems, scopeName_append hothers (.inl hlast)]

/-- What is passed over is one span, and it declares nothing. -/
theorem IsPassed.spans_append {front : List Tree} (h : IsPassed front) (rest : List Tree) :
    spans (front ++ rest) = front :: spans rest := by
  cases h with
  | semicolon hlast =>
    exact spans_append_semicolon (List.forall_mem_nil _) hlast
  | @directive others word last hword hothers hlast =>
    obtain ⟨text, -, htext⟩ := isOneOf_iff.mp hword
    have hcontinues := continues_of_word? htext
    rw [List.append_assoc]
    exact spans_append_semicolon
      (List.forall_mem_cons.mpr ⟨⟨hcontinues.1, hcontinues.2.1⟩, hothers⟩) hlast

/-- What is passed over declares nothing. -/
theorem IsPassed.ofSpan?_eq {front : List Tree} (h : IsPassed front) :
    Declaration.ofSpan? members front = none := by
  unfold Declaration.ofSpan?
  dsimp only
  cases h with
  | @semicolon last hlast =>
    have hword := word?_of_isSymbol hlast
    have hgroup : last.isGroup '[' = false := by
      by_contra hgroup
      rw [isSymbol_of_isGroup (Bool.not_eq_false _ ▸ hgroup)] at hlast
      cases hlast
    simp [AttributeSyntax.ofDeclaration, MethodSyntax.splitModifiers, Declaration.isTypeWord,
      Tree.isOneOf, Tree.isWord, hgroup, hword]
  | @directive others word last hword =>
    obtain ⟨text, hmem, htext⟩ := isOneOf_iff.mp hword
    have hnone : ∀ tree ∈ ([] : List Tree), tree.isGroup '[' = true := by simp
    have hmodifier : ∀ text ∈ ["using", "global"], text ∉ MethodSyntax.modifierWords := by decide
    have hleft :=
      withoutLead_append_attributes (others ++ [last]) hnone htext (hmodifier text hmem)
    rw [withoutLead, List.nil_append] at hleft
    rw [List.cons_append, hleft]
    simp only [List.mem_cons, List.not_mem_nil, or_false] at hmem
    rcases hmem with rfl | rfl <;>
      simp [Declaration.isTypeWord, Tree.isOneOf, isWord_of_word? htext]

/-- A type that is written is declared. -/
theorem TypeDecl.Writes.ofSpan?_eq {decl : TypeDecl} {front : List Tree} {last : Tree}
    (h : decl.Writes last front) :
    Declaration.ofSpan? members (front ++ [last]) = some (Member.type decl).toDeclaration := by
  cases h with
  | @classDecl lead header word name written hlead hword hname hheader hwritten =>
    have hleft := withoutLead_append (header ++ [last]) hlead (isWord_iff.mp hword) (by decide)
      (word?_of_name? hname)
    rw [List.append_assoc, List.cons_append, List.cons_append, ofSpan?_class hleft hword,
      ← List.cons_append, hwritten]
    rfl
  | @otherType lead words header word tree text name texts hlead htexts hword hwords hname hres =>
    have hmodifier : ∀ entry ∈ otherTypeWords, entry.1 ∉ MethodSyntax.modifierWords := by decide
    have hnext : ∃ next others text, words ++ tree :: (header ++ [last]) = next :: others ∧
        next.word? = some text := by
      cases words with
      | nil => exact ⟨tree, _, _, rfl, word?_of_name? hname⟩
      | cons other words =>
        obtain ⟨text, _, -, htext, -⟩ := List.map_eq_cons_iff.mp hwords.symm
        exact ⟨other, _, _, rfl, htext.symm⟩
    obtain ⟨next, others, text', hothers, hnext⟩ := hnext
    have hleft := withoutLead_append others hlead (isWord_iff.mp hword) (hmodifier _ htexts) hnext
    rw [← hothers] at hleft
    rw [List.append_assoc, List.cons_append, List.append_assoc, List.cons_append]
    exact ofSpan?_otherType hleft htexts hword hwords hname hres

/-- What is left of a span that begins as a namespace: the word for it, its name and the rest. -/
theorem ScopeName.Writes.withoutLead_append {name : ScopeName} {front : List Tree}
    (h : name.Writes front) :
    ∃ word others, word.isWord "namespace" = true ∧ (∀ tree ∈ others, Continues tree) ∧
      Tree.source others = Source.ofText name ∧
      ∀ rest, withoutLead (front ++ rest) = word :: (others ++ rest) := by
  cases h with
  | @mk attributes others word first hattributes hword hfirst hothers hname =>
    obtain ⟨text, hfirst⟩ := Option.isSome_iff_exists.mp hfirst
    refine ⟨word, first :: others, hword, List.forall_mem_cons.mpr
      ⟨continues_of_word? (word?_of_name? hfirst), hothers⟩, hname, fun rest => ?_⟩
    rw [List.append_assoc, List.cons_append]
    exact withoutLead_append_attributes _ hattributes (isWord_iff.mp hword) (by decide)

/-- A namespace that is written with a block is declared with the members in the block. -/
theorem ScopeName.Writes.ofSpan?_eq {name : ScopeName} {front items : List Tree}
    {opening closing : Token} (h : name.Writes front) (hopening : opening.text = [some '\x7b']) :
    Declaration.ofSpan? members (front ++ [.group opening items closing]) =
      some (.scope (Source.ofText name) (members items)) := by
  obtain ⟨word, others, hword, hothers, hname, hleft⟩ := h.withoutLead_append
  rw [ofSpan?_scope (hleft _) hword hothers hopening, hname]

/-- A namespace that is written with a semicolon is declared for all that follows. -/
theorem ScopeName.Writes.ofSpan?_eq_fileScope {name : ScopeName} {front : List Tree} {last : Tree}
    (h : name.Writes front) (hlast : last.isSymbol ';' = true) :
    Declaration.ofSpan? members (front ++ [last]) = some (.fileScope (Source.ofText name)) := by
  obtain ⟨word, others, hword, hothers, hname, hleft⟩ := h.withoutLead_append
  rw [ofSpan?_fileScope (hleft _) hword hothers hlast, hname]

/-! ### Members in a list of trees -/

/-- A list of trees that does not begin with the sign of a value. -/
def StartsAnew (trees : List Tree) : Prop :=
  trees.head?.any (·.isSymbol '=') = false

/-- A declaration begins with a tree with which it goes on. -/
theorem startsAnew_append {front : List Tree} (rest : List Tree) (hne : front ≠ [])
    (h : ∀ tree ∈ front, tree.isSymbol '=' = false) : StartsAnew (front ++ rest) := by
  cases front with
  | nil => contradiction
  | cons tree front => exact h tree List.mem_cons_self

/-- What is passed over begins anew. -/
theorem IsPassed.startsAnew {front : List Tree} (h : IsPassed front) (rest : List Tree) :
    StartsAnew (front ++ rest) := by
  cases h with
  | @semicolon last hlast =>
    cases last with
    | leaf token =>
      have hsemicolon : token.kind = .symbol ∧ token.text = [some ';'] := by
        simpa [Tree.isSymbol, Token.isSymbolIn] using hlast
      simp [StartsAnew, Tree.isSymbol, Token.isSymbolIn, hsemicolon.2]
    | group _ _ _ => rfl
  | directive hword =>
    obtain ⟨_, -, htext⟩ := isOneOf_iff.mp hword
    exact (continues_of_word? htext).2.2

/-- What is written as members begins anew. -/
theorem WritesAll.startsAnew {members : List Member} {trees rest : List Tree}
    (h : WritesAll members trees) (hrest : StartsAnew rest) : StartsAnew (trees ++ rest) := by
  cases h with
  | nil => exact hrest
  | passed hfront _ =>
    rw [List.append_assoc]
    exact hfront.startsAnew _
  | type hdecl _ _ =>
    rw [List.append_assoc]
    exact startsAnew_append _ hdecl.ne_nil fun tree htree => (hdecl.continues tree htree).2.2
  | scope hname _ _ _ =>
    rw [List.append_assoc]
    exact startsAnew_append _ hname.ne_nil fun tree htree => (hname.continues tree htree).2.2

/-- How deep the groups of two lists of trees are nested. -/
theorem depthOf_append (trees rest : List Tree) :
    Tree.depthOf (trees ++ rest) = max (Tree.depthOf trees) (Tree.depthOf rest) := by
  induction trees with
  | nil => simp [Tree.depthOf]
  | cons tree trees ih => rw [List.cons_append, Tree.depthOf, Tree.depthOf, ih, Nat.max_assoc]

/-- Where there are no trees there are no declarations. -/
theorem ofTrees_nil (depth : Nat) : Declaration.ofTrees depth [] = [] := by
  cases depth <;> rfl

/-- The declaration in the first span comes first. -/
theorem ofTrees_eq_cons {trees span rest : List Tree} {declaration : Declaration} {depth : Nat}
    (hspans : spans trees = span :: spans rest)
    (hspan : Declaration.ofSpan? (Declaration.ofTrees depth) span = some declaration) :
    Declaration.ofTrees (depth + 1) trees =
      declaration :: Declaration.ofTrees (depth + 1) rest := by
  rw [Declaration.ofTrees, hspans, List.filterMap_cons_some hspan, Declaration.ofTrees]

/-- What is written as members is read as these members, before whatever follows. -/
theorem WritesAll.ofTrees_append {members : List Member} {trees rest : List Tree} {depth : Nat}
    (h : WritesAll members trees) (hrest : StartsAnew rest) (hdepth : Tree.depthOf trees < depth) :
    Declaration.ofTrees depth (trees ++ rest) =
      toDeclarations members ++ Declaration.ofTrees depth rest := by
  obtain ⟨depth, rfl⟩ := Nat.exists_eq_succ_of_ne_zero (Nat.ne_zero_of_lt hdepth)
  induction h generalizing rest depth with
  | nil => rfl
  | @passed members front trees hfront _ ih =>
    rw [depthOf_append, Nat.max_lt] at hdepth
    rw [← ih hrest depth hdepth.2, List.append_assoc, Declaration.ofTrees, hfront.spans_append,
      List.filterMap_cons_none hfront.ofSpan?_eq, Declaration.ofTrees]
  | @type decl members front trees last hdecl hlast htrees ih =>
    rw [depthOf_append, Tree.depthOf, Nat.max_lt, Nat.max_lt] at hdepth
    have hspans := spans_append_end hdecl.continues hlast (htrees.startsAnew hrest)
    rw [List.append_assoc, List.cons_append, ofTrees_eq_cons hspans hdecl.ofSpan?_eq,
      ih hrest depth hdepth.2.2, toDeclarations, List.cons_append]
  | @scope name inner members front items trees opening closing hname hopening _ htrees ihinner ih =>
    rw [depthOf_append, Tree.depthOf, Tree.depth, Nat.max_lt, Nat.max_lt] at hdepth
    obtain ⟨-, hitems, htreesDepth⟩ := hdepth
    have hlast : Ends (.group opening items closing) :=
      .inr (by rw [Tree.isGroup, Tree.items?, if_pos hopening]; rfl)
    have hspans := spans_append_end hname.continues hlast (htrees.startsAnew hrest)
    -- the block is read with one level of nesting less, and nothing follows in it
    obtain ⟨depth, rfl⟩ := Nat.exists_eq_succ_of_ne_zero
      (Nat.ne_zero_of_lt (Nat.lt_of_succ_lt_succ hitems))
    have hnone : StartsAnew [] := rfl
    have hmembers := ihinner hnone depth (Nat.lt_of_succ_lt_succ hitems)
    rw [ofTrees_nil, List.append_nil, List.append_nil] at hmembers
    rw [List.append_assoc, List.cons_append,
      ofTrees_eq_cons hspans (hname.ofSpan?_eq hopening), hmembers, ih hrest _ htreesDepth,
      toDeclarations, Member.toDeclaration, List.cons_append]

end ClientGen.CSharp

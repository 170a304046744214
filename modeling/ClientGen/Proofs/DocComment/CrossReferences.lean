import ClientGen.Proofs.DocComment.Ampersands
import ClientGen.Proofs.DocComment.Fragments
import ClientGen.Proofs.Markup.Tokens
import ClientGen.Proofs.Text.Cutting

/-!
# Cross-references in the text of an element

The text of a well-formed element is what it says from beginning to end: its characters, a name for
each cross-reference and the name of each parameter that is referred to. The name of a
cross-reference is cut at the last dot of the whole documentation id. This is the short name of what
the id means as long as the id has no argument list; the dots in the types of arguments are taken for
those of the qualified name, and an argument list without dots stays at the end. Each wrong name
holds a closing bracket that does not belong there, so wrong names never make up for each other.
-/

namespace ClientGen.DocComment

/-- A piece of what an element says. -/
inductive Piece where
  /-- Characters that stand in it. -/
  | characters (value : String)
  /-- A cross-reference to what a documentation id means. -/
  | reference (id : String)
  /-- The name of a parameter or of a type parameter, if it is given. -/
  | parameter (name : Option String)
deriving Repr, DecidableEq

/-- A tag and attributes make a cross-reference to what an id means. -/
def RefersTo (tag : String) (attributes : List (String × String)) (id : String) : Prop :=
  (tag = "see" ∨ tag = "seealso") ∧ attributes.lookup "cref" = some id

/-- A tag makes a reference to a parameter. -/
def NamesParameter (tag : String) : Prop :=
  tag = "paramref" ∨ tag = "typeparamref"

/-- It is decidable whether a tag makes a reference to a parameter. -/
instance : DecidablePred NamesParameter :=
  fun tag => inferInstanceAs (Decidable (tag = "paramref" ∨ tag = "typeparamref"))

/-- What nodes say in document order. A reference says nothing of its content, and any other element
says its content. -/
inductive Reads : List Markup.Node → List Piece → Prop
  /-- Nothing is left to read. -/
  | nil : Reads [] []
  /-- Characters are read as they stand. -/
  | characters {value : String} {nodes : List Markup.Node} {pieces : List Piece}
    (rest : Reads nodes pieces) : Reads (.text value :: nodes) (.characters value :: pieces)
  /-- A cross-reference. -/
  | reference {tag id : String} {attributes : List (String × String)}
    {content nodes : List Markup.Node} {pieces : List Piece}
    (refers : RefersTo tag attributes id) (rest : Reads nodes pieces) :
    Reads (.element tag attributes content :: nodes) (.reference id :: pieces)
  /-- A reference to a parameter. -/
  | parameter {tag : String} {attributes : List (String × String)}
    {content nodes : List Markup.Node} {pieces : List Piece} (names : NamesParameter tag)
    (rest : Reads nodes pieces) :
    Reads (.element tag attributes content :: nodes)
      (.parameter (attributes.lookup "name") :: pieces)
  /-- Any other element. -/
  | nested {tag : String} {attributes : List (String × String)} {content nodes : List Markup.Node}
    {inner pieces : List Piece} (plain : ∀ id, ¬ RefersTo tag attributes id)
    (unnamed : ¬ NamesParameter tag) (inside : Reads content inner) (rest : Reads nodes pieces) :
    Reads (.element tag attributes content :: nodes) (inner ++ pieces)

/-- The text of a piece, when cross-references are named in the given way. -/
def Piece.text (nameOf : String → String) : Piece → String
  | .characters value => value
  | .reference id => nameOf id
  | .parameter name => name.getD ""

/-- The text of pieces one after the other. -/
def textOf (nameOf : String → String) (pieces : List Piece) : String :=
  String.join (pieces.map (Piece.text nameOf))

/-! ### Documentation ids -/

/-- A documentation id without the character and the colon for its kind, if it has them. -/
def withoutKind : List Char → List Char
  | _ :: ':' :: rest => rest
  | cs => cs

/-- Does a character begin an argument list? -/
def opensArguments (c : Char) : Bool :=
  c == '(' || c == '{'

/-- Does a character end an argument list? -/
def closesArguments (c : Char) : Bool :=
  c == ')' || c == '}'

/-- The qualified name in a documentation id, which ends where an argument list begins. -/
def qualifiedName (id : String) : List Char :=
  (withoutKind id.toList).takeWhile (!opensArguments ·)

/-- The argument list of a documentation id, with all that follows its beginning. -/
def argumentList (id : String) : List Char :=
  (withoutKind id.toList).dropWhile (!opensArguments ·)

/-- The short name of what a documentation id means: the last part of its qualified name. -/
def meantName (id : String) : String :=
  String.ofList (Text.afterLastChars '.' (qualifiedName id))

/-- A documentation id as documents have them: its first colon, if there is one, ends its kind, no
bracket is closed in its qualified name, and its argument list, if there is one, ends with a closing
bracket. Conversions, whose ids go on with the type of the result, are left out. -/
structure IsDocumentationId (id : String) : Prop where
  /-- The first colon follows a single character. -/
  kind : ':' ∈ id.toList → (id.toList.takeWhile (· != ':')).length = 1
  /-- The qualified name closes no brackets. -/
  qualified : ∀ c ∈ qualifiedName id, closesArguments c = false
  /-- The argument list is closed. -/
  closed : ∀ c ∈ (argumentList id).getLast?, closesArguments c = true

/-- It is decidable whether a text is a documentation id. -/
instance : DecidablePred IsDocumentationId :=
  fun id => decidable_of_iff ((':' ∈ id.toList → (id.toList.takeWhile (· != ':')).length = 1) ∧
    ((qualifiedName id).all fun c => !closesArguments c) ∧
    (argumentList id).getLast?.all closesArguments) <| by
    simp only [List.all_eq_true, Bool.not_eq_true', Option.all_eq_true]
    exact ⟨fun h => ⟨h.1, h.2.1, h.2.2⟩, fun h => ⟨h.kind, h.qualified, h.closed⟩⟩

/-- Where the first colon ends the kind, what follows the first colon is what follows the kind. -/
theorem afterFirstChars?_getD_eq_withoutKind {cs : List Char}
    (kind : ':' ∈ cs → (cs.takeWhile (· != ':')).length = 1) :
    (Text.afterFirstChars? ':' cs).getD cs = withoutKind cs := by
  match cs with
  | [] => rfl
  | [first] =>
    have hfirst : ':' ∉ [first] := by
      rintro hcolon
      obtain rfl := List.mem_singleton.mp hcolon
      exact absurd (kind hcolon) (by decide)
    rw [Text.afterFirstChars?_of_not_mem hfirst]
    rfl
  | first :: second :: rest =>
    by_cases hcolon : ':' ∈ first :: second :: rest
    · have hlength := kind hcolon
      have hfirst : first ≠ ':' := by
        rintro rfl
        rw [List.takeWhile_cons_of_neg (by decide)] at hlength
        exact absurd hlength (by decide)
      have hsecond : second = ':' := by
        by_contra hne
        rw [List.takeWhile_cons_of_pos (by simpa using hfirst),
          List.takeWhile_cons_of_pos (by simpa using hne)] at hlength
        simp at hlength
      subst hsecond
      rw [Text.afterFirstChars?, if_neg hfirst, Text.afterFirstChars?, if_pos rfl]
      rfl
    · have hsecond : second ≠ ':' := fun heq => hcolon (by simp [heq])
      rw [Text.afterFirstChars?_of_not_mem hcolon, Option.getD_none, withoutKind]
      rintro _ _ heq
      exact hsecond (by injection heq with _ hrest; injection hrest)

/-- What follows the first colon of a documentation id is what follows its kind. -/
theorem IsDocumentationId.toList_afterFirst {id : String} (h : IsDocumentationId id) :
    (Text.afterFirst ':' id).toList = withoutKind id.toList := by
  rw [← afterFirstChars?_getD_eq_withoutKind h.kind, Text.afterFirst]
  cases Text.afterFirstChars? ':' id.toList with
  | some rest => exact String.toList_ofList
  | none => rfl

/-- The short name of a documentation id is the last part of all that follows its kind. -/
theorem IsDocumentationId.shortName_eq {id : String} (h : IsDocumentationId id) :
    Markup.Node.shortName id =
      String.ofList (Text.afterLastChars '.' (qualifiedName id ++ argumentList id)) := by
  rw [Markup.Node.shortName, Text.afterLast, h.toList_afterFirst, qualifiedName, argumentList,
    List.takeWhile_append_dropWhile]

/-- Without an argument list the short name is the one that is meant. -/
theorem IsDocumentationId.shortName_eq_meantName {id : String} (h : IsDocumentationId id)
    (hplain : argumentList id = []) : Markup.Node.shortName id = meantName id := by
  rw [h.shortName_eq, hplain, List.append_nil, meantName]

/-- How many closing brackets stand in a text. -/
def closingCount (s : String) : Nat :=
  s.toList.countP closesArguments

/-- No bracket is closed in the name that is meant. -/
theorem IsDocumentationId.closingCount_meantName {id : String} (h : IsDocumentationId id) :
    closingCount (meantName id) = 0 := by
  rw [closingCount, meantName, String.toList_ofList, List.countP_eq_zero]
  intro c hc
  have hqualified := h.qualified c ((Text.afterLastChars_suffix _ _).subset hc)
  exact Bool.eq_false_iff.mp hqualified

/-- With an argument list the short name holds the closing bracket of the list. -/
theorem IsDocumentationId.closingCount_shortName_pos {id : String} (h : IsDocumentationId id)
    (harguments : argumentList id ≠ []) : 0 < closingCount (Markup.Node.shortName id) := by
  obtain ⟨last, hlast⟩ : ∃ last, (argumentList id).getLast? = some last :=
    ⟨_, List.getLast?_eq_some_getLast harguments⟩
  have hcloses : closesArguments last = true := h.closed last hlast
  have hend : (qualifiedName id ++ argumentList id).getLast? = some last := by
    rw [List.getLast?_append, hlast, Option.some_or]
  have hdot : last ≠ '.' := by
    rintro rfl
    revert hcloses
    decide
  have hundotted : (qualifiedName id ++ argumentList id).getLast? ≠ some '.' := by
    rw [hend]
    simpa using hdot
  have hkept := Text.getLast?_afterLastChars hundotted
  rw [hend] at hkept
  rw [h.shortName_eq, closingCount, String.toList_ofList, List.countP_pos_iff]
  exact ⟨last, List.mem_of_getLast? hkept, hcloses⟩

/-! ### What is said -/

@[simp]
theorem textOf_nil (nameOf : String → String) : textOf nameOf [] = "" := by
  rw [textOf, List.map_nil, String.join_nil]

@[simp]
theorem textOf_cons (nameOf : String → String) (piece : Piece) (pieces : List Piece) :
    textOf nameOf (piece :: pieces) = piece.text nameOf ++ textOf nameOf pieces := by
  rw [textOf, List.map_cons, String.join_cons, textOf]

@[simp]
theorem textOf_append (nameOf : String → String) (pieces others : List Piece) :
    textOf nameOf (pieces ++ others) = textOf nameOf pieces ++ textOf nameOf others := by
  induction pieces with
  | nil => simp
  | cons piece pieces ih => simp [ih, String.append_assoc]

/-- A reference to a parameter is no cross-reference. -/
theorem NamesParameter.not_refersTo {tag : String} {attributes : List (String × String)}
    (h : NamesParameter tag) (id : String) : ¬ RefersTo tag attributes id := by
  rintro ⟨rfl | rfl, -⟩ <;> revert h <;> decide

/-- A cross-reference says the short name of its id. -/
theorem spoken_of_refersTo {tag id : String} {attributes : List (String × String)}
    (content : List Markup.Node) (h : RefersTo tag attributes id) :
    (Markup.Node.element tag attributes content).spoken = Markup.Node.shortName id := by
  have htag : (tag == "see" || tag == "seealso") = true := by simpa using h.1
  rw [Markup.Node.spoken, htag, h.2]

/-- What is no cross-reference is taken for a reference to a parameter, or for what it contains. -/
theorem spoken_of_not_refersTo {tag : String} {attributes : List (String × String)}
    (content : List Markup.Node) (h : ∀ id, ¬ RefersTo tag attributes id) :
    (Markup.Node.element tag attributes content).spoken =
      if NamesParameter tag then (attributes.lookup "name").getD ""
      else Markup.Node.spokenAll content := by
  have hother : (tag == "see" || tag == "seealso") = true → attributes.lookup "cref" = none := by
    intro htag
    cases hid : attributes.lookup "cref" with
    | none => rfl
    | some id => exact absurd ⟨by simpa using htag, hid⟩ (h id)
  rw [Markup.Node.spoken]
  split
  · next htag hid => simp [hother htag] at hid
  · rfl

/-- What nodes say is what they are read as, with the short names of cross-references. -/
theorem Reads.spokenAll_eq {nodes : List Markup.Node} {pieces : List Piece}
    (h : Reads nodes pieces) :
    Markup.Node.spokenAll nodes = textOf Markup.Node.shortName pieces := by
  induction h with
  | nil => rw [Markup.Node.spokenAll, textOf_nil]
  | characters _ ih => rw [Markup.Node.spokenAll, Markup.Node.spoken, ih, textOf_cons, Piece.text]
  | reference refers _ ih =>
    rw [Markup.Node.spokenAll, spoken_of_refersTo _ refers, ih, textOf_cons, Piece.text]
  | parameter names _ ih =>
    rw [Markup.Node.spokenAll, spoken_of_not_refersTo _ names.not_refersTo, if_pos names, ih,
      textOf_cons, Piece.text]
  | nested plain unnamed _ _ inside rest =>
    rw [Markup.Node.spokenAll, spoken_of_not_refersTo _ plain, if_neg unnamed, inside, rest,
      textOf_append]

/-- All nodes can be read. -/
theorem exists_reads : (nodes : List Markup.Node) → ∃ pieces, Reads nodes pieces
  | [] => ⟨[], .nil⟩
  | .text value :: nodes => by
    obtain ⟨pieces, hpieces⟩ := exists_reads nodes
    exact ⟨_, .characters hpieces⟩
  | .element tag attributes content :: nodes => by
    obtain ⟨pieces, hpieces⟩ := exists_reads nodes
    obtain ⟨inner, hinner⟩ := exists_reads content
    by_cases hrefers : ∃ id, RefersTo tag attributes id
    · obtain ⟨id, hrefers⟩ := hrefers
      exact ⟨_, .reference hrefers hpieces⟩
    by_cases hnames : NamesParameter tag
    · exact ⟨_, .parameter hnames hpieces⟩
    · exact ⟨_, .nested (not_exists.mp hrefers) hnames hinner hpieces⟩

/-! ### Wrong names -/

/-- The closing brackets of two texts are those of the text that joins them. -/
theorem closingCount_append (first second : String) :
    closingCount (first ++ second) = closingCount first + closingCount second := by
  rw [closingCount, String.toList_append, List.countP_append, closingCount, closingCount]

/-- A text with short names has at least the closing brackets of the one that is meant. -/
theorem closingCount_textOf_le {pieces : List Piece}
    (hids : ∀ id, .reference id ∈ pieces → IsDocumentationId id) :
    closingCount (textOf meantName pieces) ≤
      closingCount (textOf Markup.Node.shortName pieces) := by
  induction pieces with
  | nil => rw [textOf_nil, textOf_nil]
  | cons piece pieces ih =>
    have hrest := ih fun id hid => hids id (List.mem_cons_of_mem piece hid)
    have hfirst : closingCount (piece.text meantName) ≤
        closingCount (piece.text Markup.Node.shortName) := by
      cases piece with
      | characters value => rw [Piece.text, Piece.text]
      | parameter name => rw [Piece.text, Piece.text]
      | reference id =>
        rw [Piece.text, (hids id List.mem_cons_self).closingCount_meantName]
        exact Nat.zero_le _
    rw [textOf_cons, textOf_cons, closingCount_append, closingCount_append]
    exact Nat.add_le_add hfirst hrest

/-- A cross-reference with an argument list adds a closing bracket, which no other piece takes
away. -/
theorem closingCount_textOf_lt {pieces : List Piece} {id : String}
    (hids : ∀ id, .reference id ∈ pieces → IsDocumentationId id) (hid : .reference id ∈ pieces)
    (harguments : argumentList id ≠ []) :
    closingCount (textOf meantName pieces) <
      closingCount (textOf Markup.Node.shortName pieces) := by
  obtain ⟨before, after, rfl⟩ := List.append_of_mem hid
  have hidsBefore : ∀ other, .reference other ∈ before → IsDocumentationId other :=
    fun other hother => hids other (List.mem_append_left _ hother)
  have hidsAfter : ∀ other, .reference other ∈ after → IsDocumentationId other :=
    fun other hother => hids other (List.mem_append_right _ (List.mem_cons_of_mem _ hother))
  have hbefore := closingCount_textOf_le hidsBefore
  have hafter := closingCount_textOf_le hidsAfter
  have hmeant := (hids id hid).closingCount_meantName
  have hshort := (hids id hid).closingCount_shortName_pos harguments
  simp only [textOf_append, textOf_cons, Piece.text, closingCount_append, hmeant]
  omega

/-- The short names in a text are the ones that are meant exactly when no cross-reference has an
argument list. -/
theorem textOf_shortName_eq_iff {pieces : List Piece}
    (hids : ∀ id, .reference id ∈ pieces → IsDocumentationId id) :
    textOf Markup.Node.shortName pieces = textOf meantName pieces ↔
      ∀ id, .reference id ∈ pieces → argumentList id = [] := by
  constructor
  · intro heq id hid
    by_contra harguments
    have hlt := closingCount_textOf_lt hids hid harguments
    rw [heq] at hlt
    exact Nat.lt_irrefl _ hlt
  · intro hplain
    have hsame : pieces.map (Piece.text Markup.Node.shortName) =
        pieces.map (Piece.text meantName) := by
      refine List.map_congr_left fun piece hpiece => ?_
      cases piece with
      | characters value => rw [Piece.text, Piece.text]
      | parameter name => rw [Piece.text, Piece.text]
      | reference id =>
        rw [Piece.text, Piece.text, (hids id hpiece).shortName_eq_meantName (hplain id hpiece)]
    rw [textOf, hsame, textOf]

/-- The text of a well-formed element, in which a bare `&` counts as a reference, is what its content
is read as with cross-references under the last part of their whole ids. Where these are
documentation ids, this is the text with the names they mean exactly when none of them has an
argument list. -/
theorem text_toElement_iff {fragment : Fragment} {tag : String}
    {attributes : List (String × String)} {content : List Markup.Node}
    (wellFormed : Markup.Node.ofChars? (escapeBare fragment.whole) =
      some (.element tag attributes content)) :
    (∃ pieces, Reads content pieces) ∧ ∀ pieces, Reads content pieces →
      fragment.toElement.text = textOf Markup.Node.shortName pieces ∧
        ((∀ id, .reference id ∈ pieces → IsDocumentationId id) →
          (fragment.toElement.text = textOf meantName pieces ↔
            ∀ id, .reference id ∈ pieces → argumentList id = [])) := by
  refine ⟨exists_reads content, fun pieces hreads => ?_⟩
  have htext : fragment.toElement.text = textOf Markup.Node.shortName pieces := by
    rw [Fragment.toElement, wellFormed]
    exact hreads.spokenAll_eq
  exact ⟨htext, fun hids => by rw [htext, textOf_shortName_eq_iff hids]⟩

/-- A summary in which a cross-reference stands within other markup. -/
def nestedSummary : Fragment :=
  .ofParts "summary".toList []
    "Sends <b>an <see cref=\"T:Shop.Order\"/></b> & <paramref name=\"note\"/>.".toList

/-- What it contains. -/
def nestedContent : List Markup.Node :=
  [.text "Sends ", .element "b" [] [.text "an ", .element "see" [("cref", "T:Shop.Order")] []],
    .text " ", .text "&", .text " ", .element "paramref" [("name", "note")] [], .text "."]

/-- What it is read as. -/
def nestedPieces : List Piece :=
  [.characters "Sends ", .characters "an ", .reference "T:Shop.Order", .characters " ",
    .characters "&", .characters " ", .parameter (some "note"), .characters "."]

/-- The tokens of the summary with nested markup. -/
def nestedTokens : List Markup.Token :=
  [.opening ⟨none, "summary"⟩ [] false, .text "Sends ".toList, .opening ⟨none, "b"⟩ [] false,
    .text "an ".toList, .opening ⟨none, "see"⟩ [(⟨none, "cref"⟩, "T:Shop.Order")] true,
    .closing ⟨none, "b"⟩, .text [' '], .data ['&'], .text [' '],
    .opening ⟨none, "paramref"⟩ [(⟨none, "name"⟩, "note")] true, .text ['.'],
    .closing ⟨none, "summary"⟩]

/-- The bare ampersand of the summary is taken for a reference. -/
theorem escapeBare_nestedSummary :
    escapeBare nestedSummary.whole = nestedTokens.flatMap Markup.Token.written := by
  have hwhole : nestedSummary.whole =
      "<summary>Sends <b>an <see cref=\"T:Shop.Order\"/></b> ".toList ++
        '&' :: " <paramref name=\"note\"/>.</summary>".toList := by decide
  have hbare : ¬ NamesReference " <paramref name=\"note\"/>.</summary>".toList := by
    decide +kernel
  rw [hwhole, escapeBare_append _ (by decide), escapeBare_bare hbare,
    escapeBare_of_not_mem (by decide)]
  decide

/-- The summary with nested markup is well-formed. -/
theorem ofChars?_nestedSummary :
    Markup.Node.ofChars? (escapeBare nestedSummary.whole) =
      some (.element "summary" [] nestedContent) := by
  rw [escapeBare_nestedSummary, Markup.Node.ofChars?_flatMap_written (by decide) (by decide)]
  rfl

/-- The content of the summary with nested markup is read inside out. -/
theorem reads_nestedContent : Reads nestedContent nestedPieces := by
  have hbold : Reads [.text "an ", .element "see" [("cref", "T:Shop.Order")] []]
      [.characters "an ", .reference "T:Shop.Order"] :=
    .characters (.reference ⟨.inl rfl, rfl⟩ .nil)
  have hplain (id : String) : ¬ RefersTo "b" [] id := by simp [RefersTo]
  have hrest : Reads
      [.text " ", .text "&", .text " ", .element "paramref" [("name", "note")] [], .text "."]
      [.characters " ", .characters "&", .characters " ", .parameter (some "note"),
        .characters "."] :=
    .characters <| .characters <| .characters <| .parameter (.inl rfl) <| .characters .nil
  exact .characters (.nested hplain (by decide) hbold hrest)

/-- Within other markup a type keeps its short name. -/
theorem text_toElement_iff_nested :
    Markup.Node.ofChars? (escapeBare nestedSummary.whole) =
        some (.element "summary" [] nestedContent) ∧
      nestedSummary.toElement.text = textOf meantName nestedPieces ∧
      textOf meantName nestedPieces = "Sends an Order & note." := by
  have wellFormed : Markup.Node.ofChars? (escapeBare nestedSummary.whole) =
      some (.element "summary" [] nestedContent) := ofChars?_nestedSummary
  obtain ⟨-, hevery⟩ := text_toElement_iff wellFormed
  obtain ⟨-, hmeant⟩ := hevery nestedPieces reads_nestedContent
  have hids : ∀ id, .reference id ∈ nestedPieces → id = "T:Shop.Order" := by
    simp [nestedPieces]
  refine ⟨wellFormed, (hmeant fun id hid => ?_).mpr fun id hid => ?_, by decide⟩
  · rw [hids id hid]
    decide
  · rw [hids id hid]
    decide

/-- A summary with a cross-reference to a method. -/
def methodSummary : Fragment :=
  .ofParts "summary".toList [] "Same as <see cref=\"M:Shop.Find(System.Guid)\"/>.".toList

/-- The tokens of the summary with a cross-reference to a method. -/
def methodTokens : List Markup.Token :=
  [.opening ⟨none, "summary"⟩ [] false, .text "Same as ".toList,
    .opening ⟨none, "see"⟩ [(⟨none, "cref"⟩, "M:Shop.Find(System.Guid)")] true, .text ['.'],
    .closing ⟨none, "summary"⟩]

/-- The summary with a cross-reference to a method is well-formed. -/
theorem ofChars?_methodSummary :
    Markup.Node.ofChars? (escapeBare methodSummary.whole) =
      some (.element "summary" [] [.text "Same as ",
        .element "see" [("cref", "M:Shop.Find(System.Guid)")] [], .text "."]) := by
  have hwhole : methodSummary.whole = methodTokens.flatMap Markup.Token.written := by decide
  rw [hwhole, escapeBare_of_not_mem (by decide),
    Markup.Node.ofChars?_flatMap_written (by decide) (by decide)]
  rfl

/-- The name of a method with a qualified type of arguments is not the one that is meant. -/
theorem not_text_toElement_meantName :
    ¬ ∀ (fragment : Fragment) (tag : String) (attributes : List (String × String))
      (content : List Markup.Node) (pieces : List Piece),
      Markup.Node.ofChars? (escapeBare fragment.whole) = some (.element tag attributes content) →
      Reads content pieces → (∀ id, .reference id ∈ pieces → IsDocumentationId id) →
      fragment.toElement.text = textOf meantName pieces := by
  intro hclaim
  have wellFormed : Markup.Node.ofChars? (escapeBare methodSummary.whole) =
      some (.element "summary" [] [.text "Same as ",
        .element "see" [("cref", "M:Shop.Find(System.Guid)")] [], .text "."]) :=
    ofChars?_methodSummary
  have hreads : Reads [.text "Same as ",
      .element "see" [("cref", "M:Shop.Find(System.Guid)")] [], .text "."]
      [.characters "Same as ", .reference "M:Shop.Find(System.Guid)", .characters "."] :=
    .characters (.reference ⟨.inl rfl, rfl⟩ (.characters .nil))
  have hid : IsDocumentationId "M:Shop.Find(System.Guid)" := by decide
  have htext := hclaim methodSummary _ _ _ _ wellFormed hreads (by simpa using hid)
  have hcode : methodSummary.toElement.text = "Same as Guid)." := by
    rw [Fragment.toElement, wellFormed]
    decide
  rw [hcode] at htext
  exact absurd htext (by decide)

end ClientGen.DocComment

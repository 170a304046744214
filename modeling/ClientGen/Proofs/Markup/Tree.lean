import ClientGen.Markup.Node
import ClientGen.Proofs.Markup.Writing
import Mathlib.Data.List.Nodup

/-!
# The outermost element of a document

The tree of a document is built on a stack of open elements. Whatever the tokens are, the element at
the bottom of the stack keeps its name and its attributes; when it is closed it is the tree, and
nothing but white space may follow. So the name and the attributes of a document are those of its
first tag.
-/

namespace ClientGen.Markup

/-- What an element keeps while nodes are added to it: its name and its attributes. -/
def OpenElement.head (element : OpenElement) : String × List (String × String) :=
  (element.tag, element.attributes)

/-- What the element at the bottom of a stack keeps. -/
def bottomHead? (enclosing : List OpenElement) : Option (String × List (String × String)) :=
  enclosing.getLast?.map OpenElement.head

/-- Adding a node to the innermost element does not change what the bottom one keeps. -/
theorem bottomHead?_add (inner : OpenElement) (outer : List OpenElement) (node : Node) :
    bottomHead? (inner.add node :: outer) = bottomHead? (inner :: outer) := by
  cases outer with
  | nil => rfl
  | cons next outer => simp [bottomHead?, List.getLast?_cons_cons]

/-- An element that is opened inside another one is not at the bottom. -/
theorem bottomHead?_open (element inner : OpenElement) (outer : List OpenElement) :
    bottomHead? (element :: inner :: outer) = bottomHead? (inner :: outer) := by
  simp [bottomHead?, List.getLast?_cons_cons]

namespace Node

/-- After the outermost element nothing changes it. -/
theorem eq_of_ofTokensAfter?_closed {tokens : List Token} {root node : Node}
    (h : ofTokensAfter? [] (some root) tokens = some node) : node = root := by
  induction tokens with
  | nil => simpa [ofTokensAfter?] using h.symm
  | cons token tokens ih =>
    cases token with
    | text value =>
      rw [ofTokensAfter?] at h
      split at h
      · exact ih h
      · cases h
    | data value => cases h
    | closing name => cases h
    | opening name attributes isEmpty =>
      rw [ofTokensAfter?] at h
      obtain ⟨element, -, h⟩ := Option.bind_eq_some_iff.mp h
      split at h <;> cases h

/-- The name and the attributes of a tree are those of the element at the bottom of the stack. -/
theorem eq_element_of_ofTokensAfter? {tokens : List Token} {enclosing : List OpenElement}
    {tag : String} {attributes : List (String × String)} {node : Node}
    (hbottom : bottomHead? enclosing = some (tag, attributes))
    (h : ofTokensAfter? enclosing none tokens = some node) :
    ∃ content, node = .element tag attributes content := by
  induction tokens generalizing enclosing with
  | nil =>
    cases enclosing with
    | nil => cases hbottom
    | cons inner outer => cases h
  | cons token tokens ih =>
    cases enclosing with
    | nil => cases hbottom
    | cons inner outer =>
      cases token with
      | text value => exact ih ((bottomHead?_add inner outer _).trans hbottom) h
      | data value => exact ih ((bottomHead?_add inner outer _).trans hbottom) h
      | opening name named isEmpty =>
        rw [ofTokensAfter?] at h
        obtain ⟨element, -, h⟩ := Option.bind_eq_some_iff.mp h
        cases isEmpty with
        | true => exact ih ((bottomHead?_add inner outer _).trans hbottom) h
        | false => exact ih ((bottomHead?_open element inner outer).trans hbottom) h
      | closing name =>
        rw [ofTokensAfter?] at h
        split at h
        · cases outer with
          | nil =>
            obtain ⟨rfl, rfl⟩ := Prod.mk.inj (Option.some.inj hbottom)
            exact ⟨_, eq_of_ofTokensAfter?_closed h⟩
          | cons next outer =>
            have hnext := (bottomHead?_open inner next outer).symm.trans hbottom
            exact ih ((bottomHead?_add next outer _).trans hnext) h
        · cases h

/-! ### An element with text in it -/

/-- An attribute without a qualifier declares a namespace only under the name for it. -/
theorem declared?_eq_none {name : String} (value : String) (h : name ≠ "xmlns") :
    Scope.declared? (⟨none, name⟩, value) = none := by
  unfold Scope.declared?
  split
  · next heq =>
    injection heq with hname
    injection hname with _ hname
    exact absurd hname h
  · next heq =>
    injection heq with hname
    injection hname with hqualifier
    cases hqualifier
  · rfl

/-- A tag and attributes of plain names start an element of just these. -/
theorem start?_outermost {tag : String} {attributes : List (String × String)}
    (hnames : ∀ a ∈ attributes, a.1 ≠ "xmlns") (hdistinct : (attributes.map (·.1)).Nodup) :
    OpenElement.start? Scope.outermost ⟨none, tag⟩ (attributes.map fun a => (⟨none, a.1⟩, a.2)) =
      some ⟨⟨none, tag⟩, tag, attributes, Scope.outermost, []⟩ := by
  let named : List (QName × String) := attributes.map fun a => (⟨none, a.1⟩, a.2)
  have hdeclared : ∀ a ∈ named, Scope.declared? a = none :=
    List.forall_mem_map.mpr fun a ha => declared?_eq_none a.2 (hnames a ha)
  have hscope : Scope.outermost.within? named = some Scope.outermost := by
    rw [Scope.within?, List.filterMap_eq_nil_iff.mpr hdeclared]
    rfl
  have hfilter : named.filter (fun a => (Scope.declared? a).isNone) = named :=
    List.filter_eq_self.mpr fun a ha => by rw [hdeclared a ha, Option.isNone_none]
  have hexpanded : named.mapM (fun a =>
      (Scope.outermost.attributeName? a.1).map (·, a.2)) = some attributes := by
    rw [List.mapM_map]
    exact List.mapM_pure.trans (congrArg some (List.map_id attributes))
  have hunique : (named.map (·.1)).Nodup := by
    have hnamed : named.map (·.1) = (attributes.map (·.1)).map (fun name => (⟨none, name⟩ : QName)) := by
      simp [named]
    rw [hnamed]
    exact hdistinct.map fun _ _ h => (QName.mk.inj h).2
  have hattributes : Scope.outermost.attributes? named = some attributes := by
    rw [Scope.attributes?, hfilter]
    refine (congrArg (· >>= _) hexpanded).trans ?_
    rw [Option.bind_eq_bind, Option.bind_some, if_pos ⟨hunique, hdistinct⟩]
  change OpenElement.start? Scope.outermost ⟨none, tag⟩ named = _
  rw [OpenElement.start?, hscope]
  simp only [Option.bind_eq_bind, Option.bind_some, hattributes]
  rfl

/-- Text tokens leave their text in the innermost element. -/
theorem exists_ofTokensAfter?_says {tokens : List Token} {cs : List Char}
    (h : Token.Says tokens cs) :
    ∃ nodes : List Node, spokenAll nodes = String.ofList cs ∧
      ∀ inner outer root more, ofTokensAfter? (inner :: outer) root (tokens ++ more) =
        ofTokensAfter? ({ inner with content := nodes.reverse ++ inner.content } :: outer) root
          more := by
  induction h with
  | nil => exact ⟨[], rfl, fun _ _ _ _ => rfl⟩
  | @text value cs tokens _ ih =>
    obtain ⟨nodes, hspoken, hread⟩ := ih
    refine ⟨.text (String.ofList value) :: nodes, ?_, fun inner outer root more => ?_⟩
    · rw [spokenAll, spoken, hspoken, String.ofList_append]
    · rw [List.cons_append, ofTokensAfter?, hread]
      simp [OpenElement.add]
  | @data value cs tokens _ ih =>
    obtain ⟨nodes, hspoken, hread⟩ := ih
    refine ⟨.text (String.ofList value) :: nodes, ?_, fun inner outer root more => ?_⟩
    · rw [spokenAll, spoken, hspoken, String.ofList_append]
    · rw [List.cons_append, ofTokensAfter?, hread]
      simp [OpenElement.add]

/-- A document that begins with an opening tag is built on an open element of its name and
attributes. -/
theorem ofChars?_opening {tag : String} {attributes : List (String × String)} {rest : List Char}
    (htag : IsLetters tag)
    (hnames : ∀ a ∈ attributes, IsLetters a.1 ∧ a.1 ≠ "xmlns")
    (hdistinct : (attributes.map (·.1)).Nodup)
    (hvalues : ∀ a ∈ attributes, ∀ c ∈ a.2.toList,
      isAllowed c = true ∧ (isSpace c = true → c = ' ')) :
    ofChars? ('<' :: (tag.toList ++ (attributesText attributes ++ '>' :: rest))) =
      (Token.ofChars? [] rest).bind
        (ofTokensAfter? [⟨⟨none, tag⟩, tag, attributes, Scope.outermost, []⟩] none) := by
  have hopening : Token.markup? [] (tag.toList ++ (attributesText attributes ++ '>' :: rest)) =
      some (some (.opening ⟨none, tag⟩ (attributes.map fun a => (⟨none, a.1⟩, a.2)) false), rest) :=
    Token.markup?_opening [] false rest htag (fun a ha => (hnames a ha).1) hvalues
  have hlength : rest.length ≤ (tag.toList ++ (attributesText attributes ++ '>' :: rest)).length := by
    simp only [List.length_append, List.length_cons]
    omega
  have hstart := @start?_outermost tag _ (fun a ha => (hnames a ha).2) hdistinct
  rw [ofChars?, Token.ofChars?_markup hopening hlength]
  cases Token.ofChars? [] rest with
  | none => rfl
  | some tokens =>
    simp only [Option.map_some, Option.bind_eq_bind, Option.bind_some, Option.toList_some,
      List.singleton_append]
    rw [ofTokensAfter?, hstart]
    rfl

/-- An element with text in it is read back. -/
theorem exists_ofChars?_elementText {tag : String} {attributes : List (String × String)}
    {cs : List Char} (htag : IsLetters tag)
    (hnames : ∀ a ∈ attributes, IsLetters a.1 ∧ a.1 ≠ "xmlns")
    (hdistinct : (attributes.map (·.1)).Nodup)
    (hvalues : ∀ a ∈ attributes, ∀ c ∈ a.2.toList,
      isAllowed c = true ∧ (isSpace c = true → c = ' '))
    (hcs : ∀ c ∈ cs, isAllowed c = true ∧ c ≠ '\r') :
    ∃ content, ofChars? (elementText tag attributes cs) = some (.element tag attributes content) ∧
      spokenAll content = String.ofList cs := by
  have hempty : Token.IsPlain [] := by simp [Token.IsPlain]
  obtain ⟨tokens, hsays, htokens⟩ :=
    Token.exists_says_escaped [] ('/' :: (tag.toList ++ ['>'])) hempty hcs
  obtain ⟨content, hspoken, hread⟩ := exists_ofTokensAfter?_says hsays
  have hclosing : Token.ofChars? [] ('<' :: '/' :: (tag.toList ++ ['>'])) =
      some [.closing ⟨none, tag⟩] := by
    rw [Token.ofChars?_markup (Token.markup?_closing [] [] htag) (by simp), Token.ofChars?]
    rfl
  rw [List.nil_append, hclosing] at htokens
  refine ⟨content, ?_, hspoken⟩
  rw [elementText, ofChars?_opening htag hnames hdistinct hvalues, htokens]
  simp only [Option.map_some, Option.bind_some]
  rw [hread, ofTokensAfter?, if_pos rfl]
  simp [place?, OpenElement.close, ofTokensAfter?]

end Node

end ClientGen.Markup

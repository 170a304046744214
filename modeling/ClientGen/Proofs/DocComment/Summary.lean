import ClientGen.Proofs.DocComment.Ampersands
import ClientGen.Proofs.DocComment.Fragments
import ClientGen.Proofs.Markup.Tokens
import ClientGen.Proofs.Markup.Tree
import ClientGen.Service.Mapping

/-!
# The summary of a broken comment

The first element of a comment is cut out at its first closing tag, before anything is read as
markup. So what follows a summary can neither hide nor change it, and what stands between its tags
can change its text only. When this is well-formed the name comes from the tree, and otherwise from
the cut; both are the name of the opening tag.
-/

namespace ClientGen.DocComment

/-! ### Text without its tags -/

/-- Text before a tag is kept. -/
theorem withoutTags_append {cs : List Char} (rest : List Char) (h : '<' ∉ cs) :
    withoutTags (cs ++ rest) = cs ++ withoutTags rest := by
  induction cs with
  | nil => rfl
  | cons c cs ih =>
    have hc : c ≠ '<' := fun heq => h (heq ▸ List.mem_cons_self)
    rw [List.cons_append, withoutTags, if_neg fun hopen => hc hopen.1,
      ih fun hmem => h (List.mem_cons_of_mem c hmem), List.cons_append]

/-- Text without tags is kept as it is. -/
theorem withoutTags_of_not_mem {cs : List Char} (h : '<' ∉ cs) : withoutTags cs = cs := by
  have hnil : withoutTags [] = [] := by rw [withoutTags]
  simpa [hnil] using withoutTags_append [] h

/-- A tag is left out. -/
theorem withoutTags_tag {inside : List Char} (rest : List Char) (hopen : '<' ∉ inside)
    (hclose : '>' ∉ inside) : withoutTags ('<' :: (inside ++ '>' :: rest)) = withoutTags rest := by
  have hinside : ∀ c ∈ inside, (c != '<' && c != '>') = true := by
    intro c hc
    have hneOpen : c ≠ '<' := fun heq => hopen (heq ▸ hc)
    have hneClose : c ≠ '>' := fun heq => hclose (heq ▸ hc)
    simp [hneOpen, hneClose]
  have hdrop : (inside ++ '>' :: rest).dropWhile (fun c => c != '<' && c != '>') = '>' :: rest :=
    Text.dropWhile_append_of_head? hinside (by simp)
  rw [withoutTags, hdrop, if_pos ⟨rfl, rfl⟩]
  rfl

/-! ### The first element -/

/-- The element with no attributes that is cut out of a comment with the given tag and content. -/
def elementOf (tag : String) (content : List Char) : DocElement :=
  (Fragment.ofParts tag.toList [] content).toElement

/-- An element that begins with a bare tag has its name and no attributes, whether it is well-formed
or not. -/
theorem elementOf_head {tag : String} (htag : Markup.IsLetters tag) (content : List Char) :
    (elementOf tag content).tag = tag ∧ (elementOf tag content).attributes = [] := by
  have hplain : '&' ∉ '<' :: (tag.toList ++ ['>']) := by
    have hletters : '&' ∉ tag.toList := htag.not_mem (by decide)
    simp [hletters]
  have htext : Fragment.text tag.toList [] content =
      '<' :: (tag.toList ++ ['>']) ++ (content ++ closingTag tag.toList) := by
    simp [Fragment.text]
  have hescaped : escapeBare (Fragment.text tag.toList [] content) = '<' :: (tag.toList ++
      (Markup.attributesText [] ++ '>' :: escapeBare (content ++ closingTag tag.toList))) := by
    rw [htext, escapeBare_append _ hplain]
    simp [Markup.attributesText]
  rw [elementOf, Fragment.toElement, Fragment.ofParts, hescaped,
    Markup.Node.ofChars?_opening htag (by simp) (by simp) (by simp)]
  split
  · next node named inner hnode =>
    obtain ⟨tokens, -, hnode⟩ := Option.bind_eq_some_iff.mp hnode
    obtain ⟨_, heq⟩ := Markup.Node.eq_element_of_ofTokensAfter? rfl hnode
    injection heq with hname hattributes
    exact ⟨hname, hattributes⟩
  · exact ⟨String.ofList_toList, by simp [Fragment.loose, looseAttributes, lastWins]⟩

/-- The element that a summary with the given content becomes. -/
def summaryElement (content : List Char) : DocElement :=
  elementOf "summary" content

/-- The first element of a comment that begins with a summary is told by the content of the summary
alone. -/
theorem elements?_of_bodyOf {lines : List String} {before content after : List Char}
    (body : bodyOf lines =
      before ++ "<summary>".toList ++ content ++ "</summary>".toList ++ after)
    (hbefore : '<' ∉ before) (hcontent : ¬ "</summary".toList <:+: content) :
    ∃ others, elements? lines = some (summaryElement content :: others) := by
  have hlines : lines.isEmpty = false := by
    rw [List.isEmpty_eq_false_iff]
    rintro rfl
    simp [bodyOf] at body
  have htext : bodyOf lines =
      before ++ Fragment.text "summary".toList [] content ++ after := by
    rw [body]
    simp [Fragment.text, closingTag, closingStart]
  have hclosing : ¬ closingStart "summary".toList <:+: content := by
    have hstart : closingStart "summary".toList = "</summary".toList := by decide
    rwa [hstart]
  have hword : ∀ c ∈ "summary".toList, Text.isWordChar c = true := by
    have hletters : Markup.IsLetters "summary" := by decide
    exact fun c hc => Markup.isWordChar_of_isAlpha (hletters.letters c hc)
  have hcut : Fragment.ofText (before ++ Fragment.text "summary".toList [] content ++ after) =
      Fragment.ofParts "summary".toList [] content :: Fragment.ofText after :=
    Fragment.ofText_text after hbefore (by decide) hword .nil hclosing
  rw [elements?, hlines, if_neg (by decide), htext, hcut, List.map_cons]
  exact ⟨_, rfl⟩

/-- Whatever stands in a summary and after it, well-formed or not, the summary is the first element
of its comment, its text depends on its content alone, and the method has the documentation that
the text gives. -/
theorem summary_of_bodyOf {lines : List String} {before content after : List Char}
    (body : bodyOf lines =
      before ++ "<summary>".toList ++ content ++ "</summary>".toList ++ after)
    (hbefore : '<' ∉ before) (hcontent : ¬ "</summary".toList <:+: content) :
    (∃ others, elements? lines = some (summaryElement content :: others)) ∧
      (summaryElement content).tag = "summary" ∧ (summaryElement content).attributes = [] ∧
      ∀ method, ∃ documentation,
        Method.documentationOf (elements? lines) method = .ok documentation ∧
          documentation.summary = Text.collapse (summaryElement content).text := by
  have hletters : Markup.IsLetters "summary" := by decide
  obtain ⟨htag, hattributes⟩ := elementOf_head hletters content
  obtain ⟨others, helements⟩ := elements?_of_bodyOf body hbefore hcontent
  refine ⟨⟨others, helements⟩, htag, hattributes, fun method => ?_⟩
  have hfind : (summaryElement content :: others).find? (·.tag == "summary") =
      some (summaryElement content) :=
    List.find?_cons_of_pos (beq_iff_eq.mpr htag)
  rw [Method.documentationOf, helements, Option.getD_some, Documentation.ofElements?, hfind]
  exact ⟨_, rfl, rfl⟩

/-- What a summary with an unclosed tag contains, and another summary begun in it. -/
def brokenContent : List Char :=
  "A <b>list & <summary>of\ntypes".toList

/-- The tokens of the summary: its only closing tag closes the inner one. -/
def brokenTokens : List Markup.Token :=
  [.opening ⟨none, "summary"⟩ [] false, .text "A ".toList, .opening ⟨none, "b"⟩ [] false,
    .text "list ".toList, .data ['&'], .text [' '], .opening ⟨none, "summary"⟩ [] false,
    .text "of\ntypes".toList, .closing ⟨none, "summary"⟩]

/-- Its tags are left out, closed or not, and nothing else is. -/
theorem withoutTags_brokenContent :
    withoutTags brokenContent = "A list & of\ntypes".toList := by
  have hcontent : brokenContent = "A ".toList ++ '<' :: ("b".toList ++ '>' ::
      ("list & ".toList ++ '<' :: ("summary".toList ++ '>' :: "of\ntypes".toList))) := by rfl
  rw [hcontent, withoutTags_append _ (by decide), withoutTags_tag _ (by decide) (by decide),
    withoutTags_append _ (by decide), withoutTags_tag _ (by decide) (by decide),
    withoutTags_of_not_mem (by decide)]
  rfl

/-- A summary that is not well-formed loses only its tags. -/
theorem summaryElement_brokenContent :
    summaryElement brokenContent = ⟨"summary", [], "A list & of\ntypes"⟩ := by
  have htext : Fragment.text "summary".toList [] brokenContent =
      "<summary>A <b>list ".toList ++ '&' :: " <summary>of\ntypes</summary>".toList := by decide
  have hbare : ¬ NamesReference " <summary>of\ntypes</summary>".toList := by decide +kernel
  have hescaped : escapeBare (Fragment.text "summary".toList [] brokenContent) =
      brokenTokens.flatMap Markup.Token.written := by
    rw [htext, escapeBare_append _ (by decide), escapeBare_bare hbare,
      escapeBare_of_not_mem (by decide)]
    decide
  have hunclosed : Markup.Node.ofTokensAfter? [] none brokenTokens = none := by rfl
  have hnode : Markup.Node.ofChars? (escapeBare (Fragment.text "summary".toList [] brokenContent)) =
      none := by
    rw [hescaped, Markup.Node.ofChars?_flatMap_written (by decide) (by decide), hunclosed]
  have hresolved : resolveReferences "A list & of\ntypes".toList =
      "A list & of\ntypes".toList := rfl
  rw [summaryElement, elementOf, Fragment.toElement, Fragment.ofParts, hnode]
  simp only [Fragment.loose, looseAttributes, Option.getD_some, withoutTags_brokenContent,
    hresolved, String.ofList_toList]
  rfl

/-- A comment with this summary, before a broken description. -/
def brokenLines : List String :=
  ["/// Reads: <summary>A <b>list & <summary>of", "/// types</summary> <returns>List<int>",
    "/// </summary>"]

/-- A summary that is not well-formed is documentation all the same. -/
theorem summary_of_bodyOf_broken :
    bodyOf brokenLines =
        "Reads: ".toList ++ "<summary>".toList ++ "A <b>list & <summary>of\ntypes".toList ++
          "</summary>".toList ++ " <returns>List<int>\n</summary>".toList ∧
      (∃ others, elements? brokenLines =
        some (⟨"summary", [], "A list & of\ntypes"⟩ :: others)) ∧
      ∀ method, ∃ documentation,
        Method.documentationOf (elements? brokenLines) method = .ok documentation ∧
          documentation.summary = "A list & of types" := by
  have body : bodyOf brokenLines =
      "Reads: ".toList ++ "<summary>".toList ++ "A <b>list & <summary>of\ntypes".toList ++
        "</summary>".toList ++ " <returns>List<int>\n</summary>".toList := by decide
  obtain ⟨hfirst, -, -, hdocumented⟩ := summary_of_bodyOf body (by decide) (by decide)
  have helement : summaryElement "A <b>list & <summary>of\ntypes".toList =
      ⟨"summary", [], "A list & of\ntypes"⟩ := summaryElement_brokenContent
  rw [helement] at hfirst hdocumented
  have hcollapse : Text.collapse "A list & of\ntypes" = "A list & of types" := by decide
  rw [hcollapse] at hdocumented
  exact ⟨body, hfirst, hdocumented⟩

end ClientGen.DocComment

import ClientGen.Proofs.DocComment.Ampersands
import ClientGen.Proofs.DocComment.Fragments
import ClientGen.Proofs.Markup.Tree
import ClientGen.Proofs.Text.Splitting

/-!
# Comments that are written and read

A documentation comment is written element by element: markup characters in texts and values become
references, an ampersand may stay when what follows does not make it one, anything without a `<` may
stand between the elements, and every line gets a marker. Reading the lines gives the elements back.
The bare ampersands are put right before an element is read as markup, which leaves the one way of
writing it that has none, and markup that is written so is read as it was meant.
-/

namespace ClientGen.DocComment

open Markup (IsLetters escaped escapedChar attributesText elementText references)

/-- A text is written before `after`: every markup character as its reference, but for ampersands
that what follows makes no reference. -/
inductive Spells (after : List Char) : List Char → List Char → Prop
  /-- Nothing is left to write. -/
  | nil : Spells after [] []
  /-- A character is written as itself or as its reference. -/
  | char (c : Char) {text written : List Char} (rest : Spells after text written) :
    Spells after (c :: text) (escapedChar c ++ written)
  /-- An ampersand is left as it is. -/
  | bare {text written : List Char} (alone : ¬ NamesReference (written ++ after))
    (rest : Spells after text written) : Spells after ('&' :: text) ('&' :: written)

/-- Attributes are written before `after`, each after a space and with its value in quotes. -/
inductive SpellsAttributes (after : List Char) : List (String × String) → List Char → Prop
  /-- Nothing is left to write. -/
  | nil : SpellsAttributes after [] []
  /-- An attribute is written before the others. -/
  | cons {name value : String} {attributes : List (String × String)} {spelled written : List Char}
    (first : Spells ('"' :: (written ++ after)) value.toList spelled)
    (rest : SpellsAttributes after attributes written) :
    SpellsAttributes after ((name, value) :: attributes)
      (' ' :: (name.toList ++ '=' :: '"' :: (spelled ++ '"' :: written)))

/-- An element is written with its attributes and its text. -/
inductive Writes (element : DocElement) : List Char → Prop
  /-- The opening tag, the text and the closing tag. -/
  | mk {attributes content : List Char}
    (named : SpellsAttributes ('>' :: (content ++ closingTag element.tag.toList)) element.attributes
      attributes)
    (said : Spells (closingTag element.tag.toList) element.text.toList content) :
    Writes element (Fragment.text element.tag.toList attributes content)

/-- The text of a comment in which elements are written, with anything but a `<` around them. -/
inductive WritesAll : List DocElement → List Char → Prop
  /-- There are no elements. -/
  | nil {between : List Char} (plain : '<' ∉ between) : WritesAll [] between
  /-- There is an element before the others. -/
  | cons {element : DocElement} {elements : List DocElement} {between written body : List Char}
    (plain : '<' ∉ between) (first : Writes element written) (rest : WritesAll elements body) :
    WritesAll (element :: elements) (between ++ written ++ body)

/-- The lines of a comment with the given text. -/
def commentLines (body : List Char) : List String :=
  (Text.splitWhere (· == '\n') body).map fun line => String.ofList ('/' :: '/' :: '/' :: ' ' :: line)

/-- A character of XML 1.0. -/
def IsXmlChar (c : Char) : Prop :=
  c = '\t' ∨ c = '\n' ∨ c = '\r' ∨ 0x20 ≤ c.toNat ∧ c.toNat ≤ 0xd7ff ∨
    0xe000 ≤ c.toNat ∧ c.toNat ≤ 0xfffd ∨ 0x10000 ≤ c.toNat ∧ c.toNat ≤ 0x10ffff

/-- A control character. -/
def IsControl (c : Char) : Prop :=
  c.toNat ≤ 0x1f ∨ 0x7f ≤ c.toNat ∧ c.toNat ≤ 0x9f

/-- An element that can be written: it has names of letters, no attribute that would declare a
namespace or stands twice, and no control characters but tabs and line feeds in its text. -/
structure IsWritable (element : DocElement) : Prop where
  /-- The name of the element. -/
  tag : IsLetters element.tag
  /-- The names of the attributes. -/
  names : ∀ a ∈ element.attributes, IsLetters a.1 ∧ a.1 ≠ "xmlns"
  /-- No two attributes have the same name. -/
  distinct : (element.attributes.map (·.1)).Nodup
  /-- The values of the attributes. -/
  values : ∀ a ∈ element.attributes, ∀ c ∈ a.2.toList, IsXmlChar c ∧ ¬ IsControl c
  /-- The text. -/
  text : ∀ c ∈ element.text.toList, IsXmlChar c ∧ (IsControl c → c = '\t' ∨ c = '\n')

/-- It is decidable whether a character is one of XML. -/
instance : DecidablePred IsXmlChar :=
  fun _ => inferInstanceAs (Decidable (_ ∨ _))

/-- It is decidable whether a character is a control character. -/
instance : DecidablePred IsControl :=
  fun _ => inferInstanceAs (Decidable (_ ∨ _))

/-- It is decidable whether an element can be written. -/
instance : DecidablePred IsWritable :=
  fun element => decidable_of_iff (IsLetters element.tag ∧
    (∀ a ∈ element.attributes, IsLetters a.1 ∧ a.1 ≠ "xmlns") ∧
    (element.attributes.map (·.1)).Nodup ∧
    (∀ a ∈ element.attributes, a.2.toList.all fun c => IsXmlChar c ∧ ¬ IsControl c) ∧
    element.text.toList.all fun c => IsXmlChar c ∧ (IsControl c → c = '\t' ∨ c = '\n')) <| by
    simp only [List.all_eq_true, decide_eq_true_eq]
    exact ⟨fun h => ⟨h.1, h.2.1, h.2.2.1, h.2.2.2.1, h.2.2.2.2⟩,
      fun h => ⟨h.tag, h.names, h.distinct, h.values, h.text⟩⟩

/-! ### Lines -/

/-- The text of a comment is what its lines say. -/
theorem bodyOf_commentLines (body : List Char) : bodyOf (commentLines body) = body := by
  have hline : (commentLines body).map lineText = Text.splitWhere (· == '\n') body := by
    rw [commentLines, List.map_map]
    refine (List.map_congr_left fun line _ => ?_).trans (List.map_id _)
    simp [lineText]
  rw [bodyOf, hline, Text.intercalate_splitWhere]

/-! ### Ampersands -/

/-- However a text is written, putting its bare ampersands right writes it with references only. -/
theorem Spells.escapeBare_append {after text written : List Char} (h : Spells after text written) :
    escapeBare (written ++ after) = escaped text ++ escapeBare after := by
  induction h with
  | nil => rfl
  | @char c text written _ ih =>
    rw [escaped, List.flatMap_cons, List.append_assoc, List.append_assoc]
    rw [escaped] at ih
    rcases Markup.escapedChar_cases c with ⟨name, hname, hchar⟩ | ⟨hmarks, hchar⟩
    · rw [hchar, escapeBare_reference hname, ih]
    · have hamp : '&' ∉ [c] := by
        simpa using (hmarks ('&', "amp") (by decide)).symm
      rw [hchar, DocComment.escapeBare_append _ hamp, ih]
  | @bare text written halone _ ih =>
    rw [List.cons_append, escapeBare_bare halone, ih]
    rfl

/-- However attributes are written, putting their bare ampersands right writes them with references
only. -/
theorem SpellsAttributes.escapeBare_append {after written : List Char}
    {attributes : List (String × String)} (h : SpellsAttributes after attributes written)
    (hnames : ∀ a ∈ attributes, IsLetters a.1) :
    escapeBare (written ++ after) = attributesText attributes ++ escapeBare after := by
  induction h with
  | nil => rfl
  | @cons name value attributes spelled written first _ ih =>
    obtain ⟨hname, hnames⟩ := List.forall_mem_cons.mp hnames
    have hplain : '&' ∉ ' ' :: (name.toList ++ ['=', '"']) := by
      have hletters : '&' ∉ name.toList := hname.not_mem (by decide)
      simp [hletters]
    have htext : ' ' :: (name.toList ++ '=' :: '"' :: (spelled ++ '"' :: written)) ++ after =
        ' ' :: (name.toList ++ ['=', '"']) ++ (spelled ++ '"' :: (written ++ after)) := by simp
    have hquote : escapeBare ('"' :: (written ++ after)) = '"' :: escapeBare (written ++ after) :=
      @DocComment.escapeBare_append ['"'] _ (by decide)
    rw [htext, DocComment.escapeBare_append _ hplain, first.escapeBare_append, hquote, ih hnames]
    simp [attributesText]

/-- However an element is written, putting its bare ampersands right writes it with references
only. -/
theorem Writes.escapeBare_eq {element : DocElement} {written : List Char}
    (h : Writes element written) (hwritable : IsWritable element) :
    escapeBare written = elementText element.tag element.attributes element.text.toList := by
  obtain @⟨attributes, content, hnamed, hsaid⟩ := h
  have hopen : '&' ∉ '<' :: element.tag.toList := by
    have hletters : '&' ∉ element.tag.toList := hwritable.tag.not_mem (by decide)
    simp [hletters]
  have hclose : '&' ∉ closingTag element.tag.toList := by
    have hletters : '&' ∉ element.tag.toList := hwritable.tag.not_mem (by decide)
    simp [closingTag, closingStart, hletters]
  have hend : escapeBare (closingTag element.tag.toList) = closingTag element.tag.toList :=
    escapeBare_of_not_mem hclose
  have htext : Fragment.text element.tag.toList attributes content =
      '<' :: element.tag.toList ++
        (attributes ++ '>' :: (content ++ closingTag element.tag.toList)) := by
    simp [Fragment.text]
  have hmiddle : escapeBare ('>' :: (content ++ closingTag element.tag.toList)) =
      '>' :: escapeBare (content ++ closingTag element.tag.toList) :=
    @DocComment.escapeBare_append ['>'] _ (by decide)
  rw [htext, DocComment.escapeBare_append _ hopen,
    hnamed.escapeBare_append fun a ha => (hwritable.names a ha).1, hmiddle, hsaid.escapeBare_append,
    hend]
  simp [elementText, closingTag, closingStart]

/-! ### Elements -/

/-- The characters that may stand in a document are those of XML. -/
theorem isAllowed_iff {c : Char} : Markup.isAllowed c = true ↔ IsXmlChar c := by
  have hvalid : c.toNat < 0xd800 ∨ 0xdfff < c.toNat ∧ c.toNat < 0x110000 := c.valid
  have htab : c = '\t' ↔ c.toNat = 0x9 := ⟨fun h => h ▸ rfl, fun h => Char.toNat_inj.mp h⟩
  have hfeed : c = '\n' ↔ c.toNat = 0xa := ⟨fun h => h ▸ rfl, fun h => Char.toNat_inj.mp h⟩
  have hreturn : c = '\r' ↔ c.toNat = 0xd := ⟨fun h => h ▸ rfl, fun h => Char.toNat_inj.mp h⟩
  simp only [Markup.isAllowed, IsXmlChar, Bool.or_eq_true, Bool.and_eq_true, decide_eq_true_eq,
    bne_iff_ne, beq_iff_eq, htab, hfeed, hreturn]
  omega

/-- A character of a value that can be written is allowed, and its only white space is the space. -/
theorem allowed_of_value {c : Char} (h : IsXmlChar c ∧ ¬ IsControl c) :
    Markup.isAllowed c = true ∧ (Markup.isSpace c = true → c = ' ') := by
  refine ⟨isAllowed_iff.mpr h.1, fun hspace => ?_⟩
  simp only [Markup.isSpace, Bool.or_eq_true, beq_iff_eq] at hspace
  rcases hspace with ((rfl | rfl) | rfl) | rfl
  · rfl
  all_goals exact absurd (.inl (by decide)) h.2

/-- A character of a text that can be written is allowed and no carriage return. -/
theorem allowed_of_text {c : Char} (h : IsXmlChar c ∧ (IsControl c → c = '\t' ∨ c = '\n')) :
    Markup.isAllowed c = true ∧ c ≠ '\r' := by
  refine ⟨isAllowed_iff.mpr h.1, ?_⟩
  rintro rfl
  exact absurd (h.2 (.inl (by decide))) (by decide)

/-- There are no angle brackets in a written text. -/
theorem Spells.not_mem {after text written : List Char} (h : Spells after text written) :
    ∀ c ∈ written, c ≠ '<' ∧ c ≠ '>' := by
  induction h with
  | nil => simp
  | @char c text written _ ih =>
    refine List.forall_mem_append.mpr ⟨fun d hd => ?_, ih⟩
    rcases Markup.escapedChar_cases c with ⟨name, hname, hchar⟩ | ⟨hmarks, hchar⟩
    · have hletters : IsLetters name := Markup.isLetters_of_mem_references hname
      rw [hchar, List.mem_cons, List.mem_append, List.mem_singleton] at hd
      rcases hd with rfl | hd | rfl
      · decide
      · exact ⟨Markup.ne_of_isAlpha (hletters.letters d hd) (by decide),
          Markup.ne_of_isAlpha (hletters.letters d hd) (by decide)⟩
      · decide
    · obtain rfl := List.mem_singleton.mp (hchar ▸ hd)
      exact ⟨hmarks ('<', "lt") (by decide), hmarks ('>', "gt") (by decide)⟩
  | bare _ _ ih => exact List.forall_mem_cons.mpr ⟨by decide, ih⟩

/-- Written attributes may stand in an opening tag. -/
theorem SpellsAttributes.inTag {after written : List Char} {attributes : List (String × String)}
    (h : SpellsAttributes after attributes written) (hnames : ∀ a ∈ attributes, IsLetters a.1) :
    Fragment.InTag written := by
  induction h with
  | nil => exact .nil
  | @cons name value attributes spelled written first _ ih =>
    obtain ⟨hname, hnames⟩ := List.forall_mem_cons.mp hnames
    have ih := ih hnames
    refine ⟨by simpa using (by decide +kernel : Text.isWordChar ' ' = false), ?_, ?_⟩
    · intro c hc
      simp only [List.mem_cons, List.mem_append] at hc
      rcases hc with rfl | hc | rfl | rfl | hc | rfl | hc
      · decide
      · exact ⟨Markup.ne_of_isAlpha (hname.letters c hc) (by decide),
          Markup.ne_of_isAlpha (hname.letters c hc) (by decide)⟩
      · decide
      · decide
      · exact first.not_mem c hc
      · decide
      · exact ih.unbroken c hc
    · have hsplit : ' ' :: (name.toList ++ '=' :: '"' :: (spelled ++ '"' :: written)) =
          ' ' :: (name.toList ++ '=' :: '"' :: spelled) ++ '"' :: written := by simp
      rw [hsplit, List.getLast?_append_of_ne_nil _ (List.cons_ne_nil _ _)]
      cases written with
      | nil => decide
      | cons c written => simpa using ih.unclosed

/-- However an element is written, it is cut out of a comment whole and read back. -/
theorem Writes.exists_fragment {element : DocElement} {written : List Char}
    (h : Writes element written) (hwritable : IsWritable element) :
    ∃ fragment, fragment.toElement = element ∧ ∀ between left, '<' ∉ between →
      Fragment.ofText (between ++ written ++ left) = fragment :: Fragment.ofText left := by
  have hescaped := h.escapeBare_eq hwritable
  obtain @⟨attributes, content, hnamed, hsaid⟩ := h
  have hnames : ∀ a ∈ element.attributes, IsLetters a.1 := fun a ha => (hwritable.names a ha).1
  have hne : element.tag.toList ≠ [] := fun heq =>
    hwritable.tag.nonempty (String.toList_eq_nil_iff.mp heq)
  have hword : ∀ c ∈ element.tag.toList, Text.isWordChar c = true :=
    fun c hc => Markup.isWordChar_of_isAlpha (hwritable.tag.letters c hc)
  have hclosing : ¬ closingStart element.tag.toList <:+: content :=
    fun hblock => (hsaid.not_mem '<' (hblock.subset List.mem_cons_self)).1 rfl
  refine ⟨_, ?_, fun between left hbetween =>
    Fragment.ofText_text left hbetween hne hword (hnamed.inTag hnames) hclosing⟩
  obtain ⟨nodes, hnode, hspoken⟩ := Markup.Node.exists_ofChars?_elementText hwritable.tag
    hwritable.names hwritable.distinct
    (fun a ha c hc => allowed_of_value (hwritable.values a ha c hc))
    (fun c hc => allowed_of_text (hwritable.text c hc))
  rw [Fragment.toElement, Fragment.ofParts, hescaped, hnode]
  simp only [hspoken, String.ofList_toList]

/-- The elements of a comment are those that are written in it. -/
theorem WritesAll.toElement_ofText {elements : List DocElement} {body : List Char}
    (h : WritesAll elements body) (hwritable : ∀ e ∈ elements, IsWritable e) :
    (Fragment.ofText body).map Fragment.toElement = elements := by
  induction h with
  | nil plain => rw [Fragment.ofText_of_not_mem plain, List.map_nil]
  | cons plain first _ ih =>
    obtain ⟨hfirst, hrest⟩ := List.forall_mem_cons.mp hwritable
    obtain ⟨fragment, helement, hcut⟩ := first.exists_fragment hfirst
    rw [hcut _ _ plain, List.map_cons, helement, ih hrest]

/-- Reading the lines of a comment gives back the elements that are written in it, in order, with
their attributes and their texts, however their ampersands are written and whatever stands around
them. -/
theorem elements?_commentLines {elements : List DocElement} {body : List Char}
    (written : WritesAll elements body) (writable : ∀ e ∈ elements, IsWritable e) :
    elements? (commentLines body) = some elements := by
  have hlines : (commentLines body).isEmpty = false := by
    rw [List.isEmpty_eq_false_iff, commentLines]
    exact fun h => Text.splitWhere_ne_nil _ _ (List.map_eq_nil_iff.mp h)
  rw [elements?, hlines, if_neg (by decide), bodyOf_commentLines,
    written.toElement_ofText writable]

/-- A text may always be written with references only. -/
theorem Spells.escaped (after text : List Char) : Spells after text (escaped text) := by
  induction text with
  | nil => exact .nil
  | cons c text ih => exact .char c ih

/-- Two texts that are written one after the other are written together. -/
theorem Spells.append {after first second before behind : List Char}
    (hfirst : Spells (behind ++ after) first before) (hsecond : Spells after second behind) :
    Spells after (first ++ second) (before ++ behind) := by
  induction hfirst with
  | nil => exact hsecond
  | char c _ ih => simpa using Spells.char c ih
  | bare halone _ ih => exact .bare (by simpa using halone) ih

/-- A summary with all the characters of markup in it and a description of a parameter whose name
holds an ampersand. -/
def writtenElements : List DocElement :=
  [{ tag := "summary", text := "Q & A, \"R&D;\"\n<now>" },
    { tag := "param", attributes := [("name", "a&b")] }]

/-- Of three ampersands two are left bare, and the third one has to be written as a reference. -/
theorem elements?_commentLines_written :
    ∃ body, WritesAll writtenElements body ∧ (∀ e ∈ writtenElements, IsWritable e) ∧
      commentLines body = ["/// Asks & tells > all", "/// <summary>Q & A, &quot;R&amp;D;&quot;",
        "/// &lt;now&gt;</summary>; <param name=\"a&b\"></param>"] ∧
      elements? (commentLines body) = some writtenElements := by
  have hsummary : Writes writtenElements[0]
      (Fragment.text "summary".toList [] ("Q ".toList ++ '&' ::
        escaped " A, \"R&D;\"\n<now>".toList)) := by
    have hsaid : Spells (closingTag "summary".toList)
        ("Q ".toList ++ '&' :: " A, \"R&D;\"\n<now>".toList) _ :=
      (Spells.escaped _ "Q ".toList).append (.bare (by decide +kernel) (.escaped _ _))
    exact .mk .nil hsaid
  have hparam : Writes writtenElements[1] (Fragment.text "param".toList
      (' ' :: ("name".toList ++ '=' :: '"' :: ("a&b".toList ++ ['"']))) []) := by
    have hvalue : Spells ('"' :: '>' :: closingTag "param".toList)
        ("a".toList ++ '&' :: "b".toList) ("a".toList ++ '&' :: "b".toList) :=
      (Spells.escaped _ "a".toList).append (.bare (by decide +kernel) (.escaped _ "b".toList))
    have hnamed : SpellsAttributes ('>' :: closingTag "param".toList) [("name", "a&b")] _ :=
      .cons hvalue .nil
    exact .mk hnamed .nil
  have hfirst : '<' ∉ "Asks & tells > all\n".toList := by decide
  have hsecond : '<' ∉ "; ".toList := by decide
  have written : WritesAll writtenElements _ :=
    .cons hfirst hsummary (.cons hsecond hparam (.nil List.not_mem_nil))
  have writable : ∀ e ∈ writtenElements, IsWritable e := by decide
  exact ⟨_, written, writable, by decide, elements?_commentLines written writable⟩

end ClientGen.DocComment

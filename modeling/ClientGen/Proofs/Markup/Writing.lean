import ClientGen.Markup.Token
import ClientGen.Proofs.Text.Cutting
import ClientGen.Text.Letter

/-!
# Written markup

How a tag, an attribute and a text are written, with the four characters that markup is made of
replaced by references. Reading what is written gives back the names, the values and the text, and
goes on with what follows.
-/

namespace ClientGen.Markup

/-- The characters that are written as references, each with the name of its reference. -/
def references : List (Char × String) :=
  [('<', "lt"), ('>', "gt"), ('&', "amp"), ('"', "quot")]

/-- A character as it is written in markup. -/
def escapedChar (c : Char) : List Char :=
  match references.lookup c with
  | some name => '&' :: (name.toList ++ [';'])
  | none => [c]

/-- A text as it is written in markup. -/
def escaped (cs : List Char) : List Char :=
  cs.flatMap escapedChar

/-- The attributes of a tag as they are written, each after a space. -/
def attributesText (attributes : List (String × String)) : List Char :=
  attributes.flatMap fun (name, value) =>
    ' ' :: (name.toList ++ '=' :: '"' :: (escaped value.toList ++ ['"']))

/-- An element with text in it as it is written. -/
def elementText (tag : String) (attributes : List (String × String)) (cs : List Char) : List Char :=
  '<' :: (tag.toList ++ (attributesText attributes ++
    '>' :: (escaped cs ++ '<' :: '/' :: (tag.toList ++ ['>']))))

/-- How a tag ends, by whether it closes itself. -/
def tagEnding (isEmpty : Bool) : List Char :=
  if isEmpty then ['/', '>'] else ['>']

/-- The name of a tag or of an attribute that is made of letters. -/
structure IsLetters (name : String) : Prop where
  /-- There are letters in it. -/
  nonempty : name ≠ ""
  /-- There is nothing else in it. -/
  letters : ∀ c ∈ name.toList, c.isAlpha = true

/-- It is decidable whether a name is made of letters. -/
instance : DecidablePred IsLetters :=
  fun name => decidable_of_iff (name ≠ "" ∧ name.toList.all Char.isAlpha = true)
    ⟨fun h => ⟨h.1, List.all_eq_true.mp h.2⟩, fun h => ⟨h.nonempty, List.all_eq_true.mpr h.letters⟩⟩

/-- A text does not go on with a name. -/
def EndsName (rest : List Char) : Prop :=
  ∀ c ∈ rest.head?, isNameChar c = false ∧ c ≠ ':'

/-! ### Letters -/

/-- A code point between the ends of a range is in the ranges. -/
theorem inRanges_of_mem {ranges : List (Nat × Nat)} {first last code : Nat}
    (hmem : (first, last) ∈ ranges) (hfirst : first ≤ code) (hlast : code ≤ last) :
    Text.inRanges ranges code = true :=
  List.any_eq_true.mpr ⟨_, hmem, by simp [hfirst, hlast]⟩

/-- The code points of letters. -/
theorem code_of_isAlpha {c : Char} (h : c.isAlpha = true) :
    0x41 ≤ c.toNat ∧ c.toNat ≤ 0x5a ∨ 0x61 ≤ c.toNat ∧ c.toNat ≤ 0x7a := by
  delta Char.isAlpha Char.isUpper Char.isLower at h
  simp only [Bool.or_eq_true, Bool.and_eq_true, decide_eq_true_eq, UInt32.le_iff_toNat_le] at h
  exact h

/-- A letter may start a name. -/
theorem isNameStart_of_isAlpha {c : Char} (h : c.isAlpha = true) : isNameStart c = true := by
  rcases code_of_isAlpha h with ⟨hfirst, hlast⟩ | ⟨hfirst, hlast⟩
  · exact inRanges_of_mem (.head _) hfirst hlast
  · exact inRanges_of_mem (.tail _ (.tail _ (.head _))) hfirst hlast

/-- A letter is a word character. -/
theorem isWordChar_of_isAlpha {c : Char} (h : c.isAlpha = true) : Text.isWordChar c = true := by
  rcases code_of_isAlpha h with ⟨hfirst, hlast⟩ | ⟨hfirst, hlast⟩
  · exact inRanges_of_mem (.tail _ (.head _)) hfirst hlast
  · exact inRanges_of_mem (.tail _ (.tail _ (.tail _ (.head _)))) hfirst hlast

/-- A letter is not a character that is none. -/
theorem ne_of_isAlpha {c d : Char} (h : c.isAlpha = true) (hd : d.isAlpha = false) : c ≠ d := by
  rintro rfl
  rw [h] at hd
  cases hd

/-- A letter is no white space. -/
theorem isSpace_of_isAlpha {c : Char} (h : c.isAlpha = true) : isSpace c = false := by
  have hne (d : Char) (hd : d.isAlpha = false) : (c == d) = false :=
    beq_eq_false_iff_ne.mpr (ne_of_isAlpha h hd)
  rw [isSpace, hne ' ' (by decide), hne '\t' (by decide), hne '\n' (by decide), hne '\r' (by decide)]
  rfl

/-- A character that is no letter is not in a name of letters. -/
theorem IsLetters.not_mem {name : String} (h : IsLetters name) {c : Char}
    (hc : c.isAlpha = false) : c ∉ name.toList :=
  fun hmem => ne_of_isAlpha (h.letters c hmem) hc rfl

/-- A name of letters begins with one. -/
theorem IsLetters.exists_cons {name : String} (h : IsLetters name) :
    ∃ first others, name.toList = first :: others ∧ first.isAlpha = true := by
  cases hname : name.toList with
  | nil => exact absurd (String.toList_eq_nil_iff.mp hname) h.nonempty
  | cons first others => exact ⟨first, others, rfl, h.letters first (by simp [hname])⟩

/-- A name of letters is read up to its end. -/
theorem IsLetters.part? {name : String} (h : IsLetters name) {rest : List Char}
    (hrest : EndsName rest) : QName.part? (name.toList ++ rest) = some (name, rest) := by
  obtain ⟨first, others, hname, hfirst⟩ := h.exists_cons
  have hothers : ∀ c ∈ others, isNameChar c = true := fun c hc => by
    rw [isNameChar, isNameStart_of_isAlpha (h.letters c (by simp [hname, hc])), Bool.true_or]
  have hend : ∀ c ∈ rest.head?, isNameChar c = false := fun c hc => (hrest c hc).1
  rw [hname, List.cons_append, QName.part?, if_pos (isNameStart_of_isAlpha hfirst),
    Text.takeWhile_append_of_head? hothers hend, Text.dropWhile_append_of_head? hothers hend,
    ← hname, String.ofList_toList]

/-- A name of letters is read without a qualifier. -/
theorem IsLetters.read? {name : String} (h : IsLetters name) {rest : List Char}
    (hrest : EndsName rest) : QName.read? (name.toList ++ rest) = some (⟨none, name⟩, rest) := by
  simp only [QName.read?, h.part? hrest, Option.bind_eq_bind, Option.bind_some]
  split
  · exact absurd rfl (hrest ':' (by simp)).2
  · rfl

/-! ### References -/

/-- The names of references are made of letters. -/
theorem isLetters_of_mem_references {mark : Char × String} (h : mark ∈ references) :
    IsLetters mark.2 := by
  have hall : ∀ mark ∈ references, IsLetters mark.2 := by decide
  exact hall mark h

/-- A character is written as itself, or as its reference. -/
theorem escapedChar_cases (c : Char) :
    (∃ name, (c, name) ∈ references ∧ escapedChar c = '&' :: (name.toList ++ [';'])) ∨
      ((∀ mark ∈ references, c ≠ mark.1) ∧ escapedChar c = [c]) := by
  rw [escapedChar]
  split
  · next name hlookup =>
    obtain ⟨before, after, hsplit, -⟩ := List.lookup_eq_some_iff.mp hlookup
    exact .inl ⟨name, by simp [hsplit], rfl⟩
  · next hlookup =>
    refine .inr ⟨fun mark hmark heq => ?_, rfl⟩
    have hne := List.lookup_eq_none_iff.mp hlookup mark hmark
    simp [heq] at hne

namespace Token

/-- The reference that a character is written as stands for that character. -/
theorem reference?_name (entities : Entities) {c : Char} {name : String}
    (h : (c, name) ∈ references) (rest : List Char) :
    reference? entities (name.toList ++ ';' :: rest) = some (.data [c], name.toList.length + 1) := by
  have htake (cs : List Char) (hcs : ∀ d ∈ cs, (d != ';') = true) :
      (cs ++ ';' :: rest).takeWhile (· != ';') = cs :=
    Text.takeWhile_append_of_head? hcs (by simp)
  simp only [references, List.mem_cons, Prod.mk.injEq, List.not_mem_nil, or_false] at h
  rcases h with ⟨rfl, rfl⟩ | ⟨rfl, rfl⟩ | ⟨rfl, rfl⟩ | ⟨rfl, rfl⟩
  all_goals
    rw [reference?, htake _ (by simp)]
    rfl

/-- What is left after the reference that a character is written as. -/
theorem drop_name (name rest : List Char) :
    (name ++ ';' :: rest).drop (name.length + 1) = rest := by
  rw [← List.drop_drop, List.drop_left]
  rfl

/-! ### Attributes -/

/-- A value between quotes is read back when its only white space is spaces. -/
theorem attributeValue?_escaped (entities : Entities) {value : List Char} (rest : List Char)
    (hvalue : ∀ c ∈ value, isAllowed c = true ∧ (isSpace c = true → c = ' ')) :
    attributeValue? entities (some '"') (escaped value ++ '"' :: rest) = some (value, rest) := by
  induction value with
  | nil =>
    rw [escaped, List.flatMap_nil, List.nil_append, attributeValue?, if_pos rfl]
  | cons c value ih =>
    obtain ⟨⟨hallowed, hspace⟩, hvalue⟩ := List.forall_mem_cons.mp hvalue
    have ih := ih hvalue
    rw [escaped, List.flatMap_cons, List.append_assoc]
    rw [escaped] at ih
    rcases escapedChar_cases c with ⟨name, hname, hchar⟩ | ⟨hplain, hchar⟩
    · have hcut : name.toList ++ [';'] ++ (value.flatMap escapedChar ++ '"' :: rest) =
          name.toList ++ ';' :: (value.flatMap escapedChar ++ '"' :: rest) := by simp
      rw [hchar, List.cons_append, hcut, attributeValue?, if_neg (by decide), if_neg (by decide),
        if_pos rfl, reference?_name entities hname]
      simp only [Option.bind_eq_bind, Option.bind_some, drop_name, ih]
      rfl
    · have hne (d : Char) (hd : d ∈ references.map (·.1)) : c ≠ d := by
        obtain ⟨mark, hmark, rfl⟩ := List.mem_map.mp hd
        exact hplain mark hmark
      have hquote : ¬ some '"' = some c := fun heq => hne '"' (by decide) (Option.some.inj heq).symm
      have hreturn : ¬ (c = '\r' ∧ (value.flatMap escapedChar ++ '"' :: rest).head? = some '\n') := by
        rintro ⟨rfl, -⟩
        exact absurd (hspace (by decide)) (by decide)
      have hspaced : (if isSpace c then ' ' else c) = c := by
        split
        · next h => exact (hspace h).symm
        · rfl
      rw [hchar, List.singleton_append, attributeValue?, if_neg hquote, if_neg (hne '<' (by decide)),
        if_neg (hne '&' (by decide)), if_pos hallowed]
      simp only [if_neg hreturn, Option.bind_eq_bind, ih, Option.bind_some, hspaced]

/-- An equals sign and a value between quotes are read back. -/
theorem assigned?_escaped (entities : Entities) {value : String} (rest : List Char)
    (hvalue : ∀ c ∈ value.toList, isAllowed c = true ∧ (isSpace c = true → c = ' ')) :
    assigned? entities ('=' :: '"' :: (escaped value.toList ++ '"' :: rest)) = some (value, rest) := by
  have hequals (cs : List Char) : ('=' :: cs).dropWhile isSpace = '=' :: cs :=
    List.dropWhile_cons_of_neg (by decide)
  have hquote (cs : List Char) : ('"' :: cs).dropWhile isSpace = '"' :: cs :=
    List.dropWhile_cons_of_neg (by decide)
  simp only [assigned?, hequals, hquote, true_or, if_true, Option.bind_eq_bind, Option.bind_some,
    attributeValue?_escaped entities rest hvalue, String.ofList_toList]
  rfl

/-- No attribute is read from the end of a tag. -/
theorem attributes?_tagEnding (entities : Entities) (isEmpty : Bool) (rest : List Char) :
    attributes? entities (tagEnding isEmpty ++ rest) = some ([], isEmpty, rest) := by
  cases isEmpty with
  | false =>
    rw [tagEnding, if_neg (by decide), List.singleton_append, attributes?,
      List.dropWhile_cons_of_neg (by decide)]
    rfl
  | true =>
    rw [tagEnding, if_pos rfl, List.cons_append, attributes?,
      List.dropWhile_cons_of_neg (by decide)]
    rfl

/-- The attributes of an opening tag are read back up to its end. -/
theorem attributes?_attributesText (entities : Entities) {attributes : List (String × String)}
    (isEmpty : Bool) (rest : List Char) (hnames : ∀ a ∈ attributes, IsLetters a.1)
    (hvalues : ∀ a ∈ attributes, ∀ c ∈ a.2.toList,
      isAllowed c = true ∧ (isSpace c = true → c = ' ')) :
    attributes? entities (attributesText attributes ++ (tagEnding isEmpty ++ rest)) =
      some (attributes.map fun a => (⟨none, a.1⟩, a.2), isEmpty, rest) := by
  induction attributes with
  | nil =>
    rw [attributesText, List.flatMap_nil, List.nil_append, attributes?_tagEnding, List.map_nil]
  | cons a attributes ih =>
    obtain ⟨name, value⟩ := a
    obtain ⟨hname, hnames⟩ := List.forall_mem_cons.mp hnames
    obtain ⟨hvalue, hvalues⟩ := List.forall_mem_cons.mp hvalues
    let more := attributesText attributes ++ (tagEnding isEmpty ++ rest)
    have hmore : attributes? entities more =
        some (attributes.map fun a => (⟨none, a.1⟩, a.2), isEmpty, rest) := ih hnames hvalues
    let assigned := '=' :: '"' :: (escaped value.toList ++ '"' :: more)
    have htext : attributesText ((name, value) :: attributes) ++ (tagEnding isEmpty ++ rest) =
        ' ' :: (name.toList ++ assigned) := by
      simp [attributesText, assigned, more]
    obtain ⟨first, others, hfirst, halpha⟩ := hname.exists_cons
    have hstart : (' ' :: (name.toList ++ assigned)).dropWhile isSpace = name.toList ++ assigned := by
      rw [List.dropWhile_cons_of_pos (by decide), hfirst, List.cons_append,
        List.dropWhile_cons_of_neg (by simp [isSpace_of_isAlpha halpha])]
    have hread : QName.read? (name.toList ++ assigned) = some (⟨none, name⟩, assigned) :=
      hname.read? (by simp [EndsName, assigned]; decide)
    have hassigned : assigned? entities assigned = some (value, more) :=
      assigned?_escaped entities more hvalue
    have hlength : more.length < (' ' :: (name.toList ++ assigned)).length := by
      simp only [assigned, List.length_cons, List.length_append]
      omega
    rw [htext, attributes?, hstart]
    split
    · next hend =>
      rw [hfirst, List.cons_append] at hend
      exact absurd (List.cons.inj hend).1 (ne_of_isAlpha halpha (by decide))
    · next hend =>
      rw [hfirst, List.cons_append] at hend
      exact absurd (List.cons.inj hend).1 (ne_of_isAlpha halpha (by decide))
    · rw [if_pos (by simp)]
      simp only [hread, hassigned, hmore, if_pos hlength, Option.bind_eq_bind, Option.bind_some]
      rfl

/-! ### Tags -/

/-- An opening tag is read back up to its end. -/
theorem markup?_opening (entities : Entities) {tag : String}
    {attributes : List (String × String)} (isEmpty : Bool) (rest : List Char)
    (htag : IsLetters tag) (hnames : ∀ a ∈ attributes, IsLetters a.1)
    (hvalues : ∀ a ∈ attributes, ∀ c ∈ a.2.toList,
      isAllowed c = true ∧ (isSpace c = true → c = ' ')) :
    markup? entities (tag.toList ++ (attributesText attributes ++ (tagEnding isEmpty ++ rest))) =
      some (some (.opening ⟨none, tag⟩ (attributes.map fun a => (⟨none, a.1⟩, a.2)) isEmpty),
        rest) := by
  have hends : EndsName (attributesText attributes ++ (tagEnding isEmpty ++ rest)) := by
    cases attributes with
    | nil => cases isEmpty <;> simpa [EndsName, attributesText, tagEnding] using by decide
    | cons a _ => simpa [EndsName, attributesText] using by decide
  obtain ⟨first, others, hfirst, halpha⟩ := htag.exists_cons
  have hne (d : Char) (hd : d.isAlpha = false) : first ≠ d := ne_of_isAlpha halpha hd
  have hread := htag.read? hends
  rw [hfirst, List.cons_append] at hread ⊢
  unfold markup?
  split
  · next heq => exact absurd (List.cons.inj heq).1 (hne '/' (by decide))
  · next heq => exact absurd (List.cons.inj heq).1 (hne '?' (by decide))
  · next heq => exact absurd (List.cons.inj heq).1 (hne '!' (by decide))
  · next heq => exact absurd (List.cons.inj heq).1 (hne '!' (by decide))
  · simp only [hread, attributes?_attributesText entities isEmpty rest hnames hvalues,
      Option.bind_eq_bind, Option.bind_some]
    rfl

/-- A closing tag is read back up to its end. -/
theorem markup?_closing (entities : Entities) {tag : String} (rest : List Char)
    (htag : IsLetters tag) :
    markup? entities ('/' :: (tag.toList ++ '>' :: rest)) =
      some (some (.closing ⟨none, tag⟩), rest) := by
  have hends : EndsName ('>' :: rest) := by simpa [EndsName] using by decide
  have hspace : ('>' :: rest).dropWhile isSpace = '>' :: rest :=
    List.dropWhile_cons_of_neg (by decide)
  simp only [markup?, htag.read? hends, hspace, Option.bind_eq_bind, Option.bind_some]
  rfl

/-- A document that begins with a tag goes on after it. -/
theorem ofChars?_markup {entities : Entities} {cs left : List Char} {token : Option Token}
    (h : markup? entities cs = some (token, left)) (hlength : left.length ≤ cs.length) :
    ofChars? entities ('<' :: cs) = (ofChars? entities left).map (token.toList ++ ·) := by
  rw [ofChars?, if_pos rfl, h]
  simp only [Option.bind_eq_bind, Option.bind_some, if_pos hlength]
  cases ofChars? entities left <;> rfl

/-! ### Text -/

/-- A document that begins with a reference goes on after it. -/
theorem ofChars?_reference (entities : Entities) {c : Char} {name : String}
    (h : (c, name) ∈ references) (rest : List Char) :
    ofChars? entities ('&' :: (name.toList ++ ';' :: rest)) =
      (ofChars? entities rest).map (.data [c] :: ·) := by
  rw [ofChars?, if_neg (by decide), if_pos rfl, reference?_name entities h]
  simp only [Option.bind_eq_bind, Option.bind_some, drop_name]
  cases ofChars? entities rest <;> rfl

/-- Text in which no character is written as a reference and no line ends in a carriage return. -/
def IsPlain (cs : List Char) : Prop :=
  ∀ c ∈ cs, isAllowed c = true ∧ c ≠ '\r' ∧ ∀ mark ∈ references, c ≠ mark.1

/-- It is decidable whether text is plain. -/
instance : DecidablePred IsPlain :=
  fun cs => decidable_of_iff
    (cs.all fun c => isAllowed c && c != '\r' && references.all (c != ·.1)) <| by
      simp [IsPlain, and_assoc]

/-- Plain text has no line ends to change. -/
theorem normalised?_of_isPlain {cs : List Char} (h : IsPlain cs) : normalised? cs = some cs := by
  induction cs with
  | nil => rfl
  | cons c cs ih =>
    obtain ⟨⟨hallowed, hreturn, -⟩, hcs⟩ := List.forall_mem_cons.mp h
    rw [normalised?, if_pos hallowed, ih hcs]
    · rfl
    · exact fun _ hc _ => hreturn hc
    · exact hreturn

/-- Plain text does not hold the end of a section. -/
theorem plainText?_of_isPlain {cs : List Char} (h : IsPlain cs) : plainText? cs = some cs := by
  have hend : ¬ Text.occursIn [']', ']', '>'] cs = true := by
    rw [Text.occursIn_iff]
    intro hblock
    exact (h '>' (hblock.subset (by decide))).2.2 ('>', "gt") (by decide) rfl
  rw [plainText?, if_neg hend, normalised?_of_isPlain h]

/-- Plain text up to the next tag or reference is one token. -/
theorem ofChars?_plain (entities : Entities) {run rest : List Char} (hne : run ≠ [])
    (hrun : IsPlain run) (hrest : ∀ c ∈ rest.head?, endsText c = true) :
    ofChars? entities (run ++ rest) = (ofChars? entities rest).map (.text run :: ·) := by
  have hnot : ∀ c ∈ run, (!endsText c) = true := by
    intro c hc
    have hmarks := (hrun c hc).2.2
    have hopen : c ≠ '<' := hmarks ('<', "lt") (by decide)
    have hamp : c ≠ '&' := hmarks ('&', "amp") (by decide)
    simp [endsText, hopen, hamp]
  have hends : ∀ c ∈ rest.head?, (!endsText c) = false := fun c hc => by simp [hrest c hc]
  obtain ⟨c, run, rfl⟩ := List.exists_cons_of_ne_nil hne
  obtain ⟨hc, htail⟩ := List.forall_mem_cons.mp hnot
  have hmarks := (hrun c List.mem_cons_self).2.2
  rw [List.cons_append, ofChars?, if_neg (hmarks ('<', "lt") (by decide)),
    if_neg (hmarks ('&', "amp") (by decide)), Text.takeWhile_append_of_head? htail hends,
    Text.dropWhile_append_of_head? htail hends, plainText?_of_isPlain hrun]
  simp only [Option.bind_eq_bind, Option.bind_some]
  cases ofChars? entities rest <;> rfl

/-- Some tokens are text, and this is what they say together. -/
inductive Says : List Token → List Char → Prop
  /-- No tokens say nothing. -/
  | nil : Says [] []
  /-- Text as it stands. -/
  | text {value cs : List Char} {tokens : List Token} (rest : Says tokens cs) :
    Says (.text value :: tokens) (value ++ cs)
  /-- Text from a reference. -/
  | data {value cs : List Char} {tokens : List Token} (rest : Says tokens cs) :
    Says (.data value :: tokens) (value ++ cs)

/-- The plain text at the beginning of a document says itself. -/
theorem exists_says_plain (entities : Entities) {run rest : List Char} (hrun : IsPlain run)
    (hrest : ∀ c ∈ rest.head?, endsText c = true) :
    ∃ tokens, Says tokens run ∧
      ofChars? entities (run ++ rest) = (ofChars? entities rest).map (tokens ++ ·) := by
  by_cases hne : run = []
  · subst hne
    exact ⟨[], .nil, by simp⟩
  · refine ⟨[.text run], ?_, ofChars?_plain entities hne hrun hrest⟩
    have hsays : Says [.text run] (run ++ []) := .text .nil
    rwa [List.append_nil] at hsays

/-- Text that says one thing and text that says another thing after it say both. -/
theorem Says.append {before after : List Token} {cs ds : List Char} (h : Says before cs)
    (hafter : Says after ds) : Says (before ++ after) (cs ++ ds) := by
  induction h with
  | nil => exact hafter
  | text _ ih => simpa using Says.text ih
  | data _ ih => simpa using Says.data ih

/-- A written text is read back up to the next tag, after plain text that stands before it. -/
theorem exists_says_escaped (entities : Entities) {run cs : List Char} (rest : List Char)
    (hrun : IsPlain run) (hcs : ∀ c ∈ cs, isAllowed c = true ∧ c ≠ '\r') :
    ∃ tokens, Says tokens (run ++ cs) ∧
      ofChars? entities (run ++ (escaped cs ++ '<' :: rest)) =
        (ofChars? entities ('<' :: rest)).map (tokens ++ ·) := by
  induction cs generalizing run with
  | nil =>
    have hopen : ∀ c ∈ ('<' :: rest).head?, endsText c = true := by simp [endsText]
    simpa [escaped] using exists_says_plain entities hrun hopen
  | cons c cs ih =>
    obtain ⟨⟨hallowed, hreturn⟩, hcs⟩ := List.forall_mem_cons.mp hcs
    rcases escapedChar_cases c with ⟨name, hname, hchar⟩ | ⟨hmarks, hchar⟩
    · -- A reference ends the run before it, and the text goes on with an empty one.
      let reference := '&' :: (name.toList ++ ';' :: (escaped cs ++ '<' :: rest))
      have hamp : ∀ c ∈ reference.head?, endsText c = true := by simp [reference, endsText]
      have hempty : IsPlain [] := by simp [IsPlain]
      obtain ⟨before, hbefore, hfirst⟩ := exists_says_plain entities hrun hamp
      obtain ⟨after, hafter, hlast⟩ := ih hempty hcs
      rw [List.nil_append] at hafter hlast
      refine ⟨before ++ .data [c] :: after, hbefore.append (.data hafter), ?_⟩
      have htext : escaped (c :: cs) ++ '<' :: rest = reference := by
        simp [escaped, hchar, reference]
      rw [htext, hfirst, ofChars?_reference entities hname, hlast]
      cases ofChars? entities ('<' :: rest) <;> simp
    · have hgrown : IsPlain (run ++ [c]) := by
        refine List.forall_mem_append.mpr ⟨hrun, List.forall_mem_singleton.mpr ?_⟩
        exact ⟨hallowed, hreturn, hmarks⟩
      obtain ⟨tokens, hsays, htokens⟩ := ih hgrown hcs
      refine ⟨tokens, by simpa using hsays, ?_⟩
      simpa [escaped, hchar] using htokens

end Token

end ClientGen.Markup

import ClientGen.Markup.Node
import ClientGen.Proofs.Markup.Writing

/-!
# Tokens as they are written

Tags, runs of plain text and the references of the four characters of markup are read back one
after the other. A token is read back in front of any rest, only a run of text must not go on with
more text. So tokens in which no two runs of text are neighbours are what their own writing is read
into.
-/

namespace ClientGen.Markup

/-- A name of letters without a qualifier. -/
structure QName.IsSimple (name : QName) : Prop where
  /-- There is no qualifier. -/
  unqualified : name.qualifier = none
  /-- The name itself is made of letters. -/
  letters : IsLetters name.name

/-- It is decidable whether a name is simple. -/
instance : DecidablePred QName.IsSimple :=
  fun name => decidable_of_iff (name.qualifier = none ∧ IsLetters name.name)
    ⟨fun h => ⟨h.1, h.2⟩, fun h => ⟨h.unqualified, h.letters⟩⟩

/-- A simple name is told by its letters. -/
theorem QName.IsSimple.eq {name : QName} (h : name.IsSimple) : ⟨none, name.name⟩ = name := by
  rw [← h.unqualified]

/-- How a character of markup is written. -/
theorem escapedChar_of_mem {mark : Char × String} (h : mark ∈ references) :
    escapedChar mark.1 = '&' :: (mark.2.toList ++ [';']) := by
  have hall : ∀ mark ∈ references, escapedChar mark.1 = '&' :: (mark.2.toList ++ [';']) := by decide
  exact hall mark h

namespace Token

/-- A token as it is written. -/
def written : Token → List Char
  | .text value => value
  | .data value => escaped value
  | .opening name attributes isEmpty =>
    '<' :: (name.name.toList ++ (attributesText (attributes.map fun a => (a.1.name, a.2)) ++
      tagEnding isEmpty))
  | .closing name => '<' :: '/' :: (name.name.toList ++ ['>'])

/-- A token that is read back from its writing. -/
def IsWritable : Token → Prop
  | .text value => value ≠ [] ∧ IsPlain value
  | .data value => ∃ mark ∈ references, value = [mark.1]
  | .opening name attributes _ => name.IsSimple ∧ ∀ a ∈ attributes, a.1.IsSimple ∧
      ∀ c ∈ a.2.toList, isAllowed c = true ∧ (isSpace c = true → c = ' ')
  | .closing name => name.IsSimple

/-- It is decidable whether a token is read back from its writing. -/
instance : DecidablePred IsWritable
  | .text value => inferInstanceAs (Decidable (value ≠ [] ∧ IsPlain value))
  | .data value => inferInstanceAs (Decidable (∃ mark ∈ references, value = [mark.1]))
  | .opening name attributes _ => decidable_of_iff
      (name.IsSimple ∧ ∀ a ∈ attributes, a.1.IsSimple ∧
        a.2.toList.all fun c => isAllowed c && (!isSpace c || c == ' ')) <| by
          simp [IsWritable, ← Bool.not_eq_true, imp_iff_not_or]
  | .closing name => inferInstanceAs (Decidable name.IsSimple)

/-- Is a token a run of text? -/
def isText : Token → Bool
  | .text _ => true
  | _ => false

/-- Two neighbours are not both runs of text. -/
def Apart (first second : Token) : Prop :=
  first.isText = true → second.isText = false

/-- It is decidable whether two neighbours are apart. -/
instance : DecidableRel Apart :=
  fun first second => inferInstanceAs (Decidable (first.isText = true → second.isText = false))

/-- A token that is no text ends a run of text before it. -/
theorem endsText_of_head?_written {token : Token} (h : token.IsWritable)
    (hmarkup : token.isText = false) (rest : List Char) :
    ∀ c ∈ (token.written ++ rest).head?, endsText c = true := by
  cases token with
  | text _ => cases hmarkup
  | data value =>
    obtain ⟨mark, hmark, rfl⟩ := h
    simp [written, escaped, escapedChar_of_mem hmark, endsText]
  | opening _ _ _ => simp [written, endsText]
  | closing _ => simp [written, endsText]

/-- An opening tag is read back with its attributes up to its end. -/
theorem markup?_opening_written (entities : Entities) {name : QName}
    {attributes : List (QName × String)} {isEmpty : Bool}
    (h : (opening name attributes isEmpty).IsWritable) (rest : List Char) :
    markup? entities (name.name.toList ++
        (attributesText (attributes.map fun a => (a.1.name, a.2)) ++ (tagEnding isEmpty ++ rest))) =
      some (some (.opening name attributes isEmpty), rest) := by
  obtain ⟨hname, hattributes⟩ := h
  let named := attributes.map fun a => (a.1.name, a.2)
  have hnamed : named.map (fun a => ((⟨none, a.1⟩ : QName), a.2)) = attributes := by
    rw [List.map_map]
    refine (List.map_congr_left fun a ha => ?_).trans (List.map_id attributes)
    exact Prod.ext (hattributes a ha).1.eq rfl
  have hnames : ∀ a ∈ named, IsLetters a.1 :=
    List.forall_mem_map.mpr fun a ha => (hattributes a ha).1.letters
  have hvalues : ∀ a ∈ named, ∀ c ∈ a.2.toList,
      isAllowed c = true ∧ (isSpace c = true → c = ' ') :=
    List.forall_mem_map.mpr fun a ha => (hattributes a ha).2
  rw [markup?_opening entities isEmpty rest hname.letters hnames hvalues, hnamed, hname.eq]

/-- A token is read back, and the reading goes on with what follows. -/
theorem ofChars?_written (entities : Entities) {token : Token} (h : token.IsWritable)
    {rest : List Char} (hrest : token.isText = true → ∀ c ∈ rest.head?, endsText c = true) :
    ofChars? entities (token.written ++ rest) = (ofChars? entities rest).map (token :: ·) := by
  cases token with
  | text value => exact ofChars?_plain entities h.1 h.2 (hrest rfl)
  | data value =>
    obtain ⟨mark, hmark, rfl⟩ := h
    have htext : (data [mark.1]).written ++ rest = '&' :: (mark.2.toList ++ ';' :: rest) := by
      simp [written, escaped, escapedChar_of_mem hmark]
    rw [htext, ofChars?_reference entities hmark]
  | opening name attributes isEmpty =>
    have hread := markup?_opening_written entities h rest
    have htext : (opening name attributes isEmpty).written ++ rest = '<' :: (name.name.toList ++
        (attributesText (attributes.map fun a => (a.1.name, a.2)) ++
          (tagEnding isEmpty ++ rest))) := by simp [written]
    rw [htext, ofChars?_markup hread (by simp only [List.length_append]; omega)]
    rfl
  | closing name =>
    have htext : (closing name).written ++ rest =
        '<' :: '/' :: (name.name.toList ++ '>' :: rest) := by simp [written]
    have hread := markup?_closing entities rest h.letters
    rw [h.eq] at hread
    rw [htext, ofChars?_markup hread (by simp; omega)]
    rfl

/-- Tokens in which no two runs of text are neighbours are what their writing is read into. -/
theorem ofChars?_flatMap_written (entities : Entities) {tokens : List Token}
    (hwritable : ∀ token ∈ tokens, token.IsWritable) (hapart : tokens.IsChain Apart) :
    ofChars? entities (tokens.flatMap written) = some tokens := by
  induction tokens with
  | nil => rw [List.flatMap_nil, ofChars?]
  | cons token tokens ih =>
    obtain ⟨htoken, htokens⟩ := List.forall_mem_cons.mp hwritable
    have hends : token.isText = true →
        ∀ c ∈ (tokens.flatMap written).head?, endsText c = true := by
      intro htext
      cases tokens with
      | nil => simp
      | cons next others =>
        have hnext : next.isText = false := (List.isChain_cons_cons.mp hapart).1 htext
        rw [List.flatMap_cons]
        exact endsText_of_head?_written (htokens next List.mem_cons_self) hnext _
    rw [List.flatMap_cons, ofChars?_written entities htoken hends, ih htokens hapart.of_cons,
      Option.map_some]

end Token

/-- What tokens make up is what their writing is read into. -/
theorem Node.ofChars?_flatMap_written {tokens : List Token}
    (hwritable : ∀ token ∈ tokens, token.IsWritable) (hapart : tokens.IsChain Token.Apart) :
    Node.ofChars? (tokens.flatMap Token.written) = Node.ofTokensAfter? [] none tokens := by
  rw [Node.ofChars?, Token.ofChars?_flatMap_written [] hwritable hapart, Option.bind_eq_bind,
    Option.bind_some]

end ClientGen.Markup

import ClientGen.DocComment.Fragment
import ClientGen.Proofs.Text.Cutting
import ClientGen.Proofs.Text.Words
import Mathlib.Data.List.TakeWhile

/-!
# Where the elements of a comment begin and end

The search for elements passes over everything before the first `<`. An element that begins there
with a word and an opening tag reaches to the first closing tag of that word, so its content may be
any text in which `</` and the word do not stand together. What follows the element plays no part in
where it ends, and is searched on its own.
-/

namespace ClientGen.DocComment

/-- The beginning of a closing tag. -/
def closingStart (tag : List Char) : List Char :=
  '<' :: '/' :: tag

/-- A closing tag. -/
def closingTag (tag : List Char) : List Char :=
  closingStart tag ++ ['>']

namespace Fragment

variable {tag attributes content : List Char}

/-- A closing tag is passed over as a whole. -/
theorem afterClosing?_closingTag (tag left : List Char) :
    afterClosing? tag (closingTag tag ++ left) = some left := by
  have hdrop : Text.dropStart? ('<' :: '/' :: tag) (closingTag tag ++ left) = some ('>' :: left) :=
    Text.dropStart?_eq_some_iff.mpr (List.append_assoc (closingStart tag) ['>'] left)
  have hblank : ('>' :: left).dropWhile Text.isBlank = '>' :: left :=
    List.dropWhile_cons_of_neg (by decide)
  rw [afterClosing?, hdrop, Option.bind_eq_bind, Option.bind_some, hblank]
  rfl

/-- No closing tag starts in a text without the beginning of one, even when a `<` follows. -/
theorem afterClosing?_append_eq_none {c : Char} {cs : List Char} (left : List Char)
    (htag : '<' ∉ tag) (h : ¬ closingStart tag <:+: c :: cs) :
    afterClosing? tag (c :: cs ++ '<' :: left) = none := by
  have hdrop : Text.dropStart? ('<' :: '/' :: tag) (c :: cs ++ '<' :: left) = none := by
    rw [← Option.not_isSome_iff_eq_none, Text.isSome_dropStart?_iff, List.cons_append,
      List.cons_prefix_cons]
    -- A `<` stands only at the beginning, so the rest of it ends before the next `<`.
    rintro ⟨rfl, hprefix⟩
    have hslash : '<' ∉ '/' :: tag := by simp [htag]
    rw [Text.prefix_append_cons_iff _ _ hslash] at hprefix
    exact h (List.cons_prefix_cons.mpr ⟨rfl, hprefix⟩).isInfix
  rw [afterClosing?, hdrop]
  rfl

/-- The content of an element ends at the first closing tag. -/
theorem upToClosing?_append (left : List Char) (htag : '<' ∉ tag)
    (h : ¬ closingStart tag <:+: content) :
    upToClosing? tag (content ++ (closingTag tag ++ left)) = some (content, left) := by
  induction content with
  | nil =>
    have hclosing := afterClosing?_closingTag tag left
    rw [closingTag, closingStart] at hclosing ⊢
    simp only [List.nil_append, List.cons_append] at hclosing ⊢
    rw [upToClosing?, hclosing]
  | cons c content ih =>
    have hrest : ¬ closingStart tag <:+: content := fun hin => h (List.infix_cons_iff.mpr (.inr hin))
    have hnone : afterClosing? tag (c :: content ++ (closingTag tag ++ left)) = none :=
      afterClosing?_append_eq_none _ htag h
    rw [List.cons_append] at hnone ⊢
    rw [upToClosing?, hnone, ih hrest]
    rfl

/-- The text of an element with an opening and a closing tag. -/
def text (tag attributes content : List Char) : List Char :=
  '<' :: (tag ++ attributes ++ '>' :: (content ++ closingTag tag))

/-- An element with an opening and a closing tag. -/
def ofParts (tag attributes content : List Char) : Fragment :=
  ⟨tag, attributes, some content, text tag attributes content⟩

/-- The text between the name in an opening tag and its end does not go on with the name, holds no
angle brackets, and does not close the element. -/
structure InTag (attributes : List Char) : Prop where
  /-- The name ends before it. -/
  parted : ∀ c ∈ attributes.head?, Text.isWordChar c = false
  /-- It holds no angle brackets. -/
  unbroken : ∀ c ∈ attributes, c ≠ '<' ∧ c ≠ '>'
  /-- It does not end in a slash. -/
  unclosed : attributes.getLast? ≠ some '/'

/-- Nothing between the name and the end of an opening tag. -/
theorem InTag.nil : InTag [] where
  parted := by simp
  unbroken := by simp
  unclosed := by simp

/-- What stands between the name in an opening tag and its end is taken whole. -/
theorem InTag.takeWhile (h : InTag attributes) (rest : List Char) :
    (attributes ++ '>' :: rest).takeWhile (fun c => c != '<' && c != '>') = attributes ∧
      (attributes ++ '>' :: rest).dropWhile (fun c => c != '<' && c != '>') = '>' :: rest := by
  have hrun : ∀ c ∈ attributes, (c != '<' && c != '>') = true := by simpa using h.unbroken
  have hend : ∀ c ∈ ('>' :: rest).head?, (c != '<' && c != '>') = false := by simp
  exact ⟨Text.takeWhile_append_of_head? hrun hend, Text.dropWhile_append_of_head? hrun hend⟩

/-- The name in an opening tag is taken whole. -/
theorem InTag.takeWhile_tag (h : InTag attributes) (rest : List Char)
    (htag : ∀ c ∈ tag, Text.isWordChar c = true) :
    (tag ++ (attributes ++ '>' :: rest)).takeWhile Text.isWordChar = tag ∧
      (tag ++ (attributes ++ '>' :: rest)).dropWhile Text.isWordChar =
        attributes ++ '>' :: rest := by
  have hend : ∀ c ∈ (attributes ++ '>' :: rest).head?, Text.isWordChar c = false := by
    have hparted := h.parted
    cases attributes with
    | nil => simpa using (by decide +kernel : Text.isWordChar '>' = false)
    | cons a _ => simpa using hparted
  exact ⟨Text.takeWhile_append_of_head? htag hend, Text.dropWhile_append_of_head? htag hend⟩

/-- An element is read up to its closing tag, whatever follows. -/
theorem read?_text (left : List Char) (hne : tag ≠ []) (htag : ∀ c ∈ tag, Text.isWordChar c = true)
    (hattributes : InTag attributes) (hcontent : ¬ closingStart tag <:+: content) :
    read? (tag ++ attributes ++ '>' :: (content ++ closingTag tag) ++ left) =
      some (ofParts tag attributes content, left) := by
  have hopen : '<' ∉ tag := fun hmem => by
    have hword := htag _ hmem
    revert hword
    decide +kernel
  obtain ⟨count, hcount⟩ : ∃ count, tag.length = count + 1 :=
    ⟨tag.length - 1, by have := List.length_pos_iff.mpr hne; omega⟩
  let inner := tag ++ attributes ++ '>' :: (content ++ closingTag tag)
  have hinner : inner ++ left = tag ++ (attributes ++ '>' :: (content ++ (closingTag tag ++ left))) := by
    simp [inner]
  have hwhole : (inner ++ left).take ((inner ++ left).length - left.length) = inner := by
    rw [List.length_append, Nat.add_sub_cancel]
    exact List.take_left
  have hclosed : closed? tag attributes (content ++ (closingTag tag ++ left)) tag.length =
      some (tag, attributes, content, left) := by
    have htake : tag.take (count + 1) = tag := hcount ▸ List.take_length
    have hdrop : tag.drop (count + 1) = [] := hcount ▸ List.drop_length
    rw [hcount, closed?, htake, hdrop, upToClosing?_append left hopen hcontent]
    rfl
  obtain ⟨hword, hafter⟩ :=
    hattributes.takeWhile_tag (content ++ (closingTag tag ++ left)) htag
  obtain ⟨hmiddle, hrest⟩ := hattributes.takeWhile (content ++ (closingTag tag ++ left))
  have hempty : ¬ tag.isEmpty = true := by simpa using hne
  change read? (inner ++ left) = some (_, left)
  rw [hinner]
  simp only [read?, hword, hafter, hmiddle, hrest, if_neg hempty, if_neg hattributes.unclosed,
    hclosed, Option.map_some]
  rw [← hinner, hwhole]
  rfl

/-- No element begins before the first `<`. -/
theorem ofText_append {before : List Char} (cs : List Char) (h : '<' ∉ before) :
    ofText (before ++ cs) = ofText cs := by
  induction before with
  | nil => rfl
  | cons c before ih =>
    have hc : c ≠ '<' := fun heq => h (heq ▸ List.mem_cons_self)
    rw [List.cons_append, ofText, if_neg hc]
    exact ih fun hmem => h (List.mem_cons_of_mem c hmem)

/-- A text without a `<` holds no elements. -/
theorem ofText_of_not_mem {cs : List Char} (h : '<' ∉ cs) : ofText cs = [] := by
  have happend := ofText_append [] h
  rwa [List.append_nil, ofText] at happend

/-- The first element of a comment ends at its first closing tag, and the others are those of what
follows. -/
theorem ofText_text {before : List Char} (left : List Char) (hbefore : '<' ∉ before)
    (hne : tag ≠ []) (htag : ∀ c ∈ tag, Text.isWordChar c = true)
    (hattributes : InTag attributes) (hcontent : ¬ closingStart tag <:+: content) :
    ofText (before ++ text tag attributes content ++ left) =
      ofParts tag attributes content :: ofText left := by
  rw [List.append_assoc, ofText_append _ hbefore, text, List.cons_append, ofText, if_pos rfl,
    read?_text left hne htag hattributes hcontent]
  refine if_pos ?_
  simp only [List.length_append, List.length_cons]
  omega

end Fragment

end ClientGen.DocComment

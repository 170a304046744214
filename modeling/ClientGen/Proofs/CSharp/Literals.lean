import ClientGen.CSharp.AttributeSyntax
import Mathlib.Data.Nat.Digits.Lemmas

/-!
# String literals that are written and read

A regular literal writes a text character by character: as itself, by a backslash and a letter, or by a
backslash and the number of the character. Reading the literal gives these characters back, whatever
items stand side by side. What an item stands for is never read as a part of another one, and a quote
or a backslash inside the literal never ends it. The one thing to watch is a number that may have more
digits: the shorter forms of `\x` need a neighbour that is no digit. A verbatim literal writes every
character as itself, and quotes twice.

A line break may not stand in a regular literal of a source. Nothing depends on that here.
-/

namespace ClientGen.CSharp.Literal

/-! ### Literals as they are written -/

/-- A hexadecimal digit, in one of its two cases. -/
structure HexDigit where
  /-- The value. -/
  value : Fin 16
  /-- Is it a capital letter, if it is one? -/
  isUpper : Bool := false
deriving Repr, DecidableEq

/-- The character of a hexadecimal digit. -/
def HexDigit.char (digit : HexDigit) : Char :=
  (if digit.isUpper then "0123456789ABCDEF" else "0123456789abcdef").toList.getD digit.value '0'

/-- The number that hexadecimal digits write, the last digit being that of the ones. -/
def hexValue (digits : List HexDigit) : Nat :=
  Nat.ofDigits 16 (digits.map fun digit => digit.value.val).reverse

/-- The characters that may follow a backslash, each with the character they stand for together. -/
def letterEscapes : List (Char × Char) :=
  [('0', '\x00'), ('a', '\x07'), ('b', '\x08'), ('f', '\x0c'), ('n', '\n'), ('r', '\r'), ('t', '\t'),
   ('v', '\x0b'), ('\\', '\\'), ('"', '"'), ('\'', '\'')]

/-- The letters that announce the number of a character, each with how many digits may follow. -/
def numberForms : List (Char × Nat) :=
  [('u', 4), ('U', 8), ('x', 1), ('x', 2), ('x', 3), ('x', 4)]

/-- An item of a regular literal. -/
inductive Item where
  /-- A character that stands for itself. -/
  | plain (c : Char) (isPlain : c ≠ '\\' ∧ c ≠ '"')
  /-- A backslash and a letter. -/
  | simple (letter c : Char) (isKnown : (letter, c) ∈ letterEscapes)
  /-- A backslash, a letter and the number of a character. -/
  | number (letter : Char) (digits : List HexDigit) (c : Char)
    (isForm : (letter, digits.length) ∈ numberForms) (isNumber : hexValue digits = c.toNat)

namespace Item

/-- An item as it is written. -/
def text : Item → List Char
  | .plain c _ => [c]
  | .simple letter _ _ => ['\\', letter]
  | .number letter digits _ _ _ => '\\' :: letter :: digits.map HexDigit.char

/-- The character an item stands for. -/
def char : Item → Char
  | .plain c _ => c
  | .simple _ c _ => c
  | .number _ _ c _ _ => c

/-- A text may follow an item: no hexadecimal digit follows a number of fewer than four digits after
an `x`. -/
def MayPrecede (rest : List Char) : Item → Prop
  | .number letter digits _ _ _ =>
    letter = 'x' → digits.length < 4 → ∀ digit : HexDigit, rest.head? ≠ some digit.char
  | _ => True

end Item

/-- Items as they are written, one after the other. -/
def written (items : List Item) : List Char :=
  items.flatMap Item.text

/-- Every item may stand before those that follow it. -/
def Fits : List Item → Prop
  | [] => True
  | item :: rest => item.MayPrecede (written rest) ∧ Fits rest

/-- A regular literal with the given items. -/
def quoted (items : List Item) : List Char :=
  '"' :: (written items ++ ['"'])

/-- A character of a verbatim literal, the quote twice. -/
def doubled (c : Char) : List Char :=
  if c = '"' then ['"', '"'] else [c]

/-- The verbatim literal of a text. -/
def verbatimQuoted (s : String) : List Char :=
  '@' :: '"' :: (s.toList.flatMap doubled ++ ['"'])

/-- The value of the argument that consists of a text. -/
def argumentValue (text : List Char) : Except SourceFault (Option (Option String)) :=
  (ArgumentSyntax.ofTrees (Tree.ofSource (text.map some))).value

/-! ### Numbers -/

/-- A hexadecimal digit has its value, in both cases. -/
theorem digit?_char (digit : HexDigit) : Text.digit? 16 digit.char = some digit.value.val := by
  have hall : ∀ (value : Fin 16) (isUpper : Bool),
      Text.digit? 16 (HexDigit.char ⟨value, isUpper⟩) = some value.val := by decide
  exact hall digit.value digit.isUpper

/-- No hexadecimal digit is a backslash or a quote. -/
theorem char_ne (digit : HexDigit) : digit.char ≠ '\\' ∧ digit.char ≠ '"' := by
  have hall : ∀ (value : Fin 16) (isUpper : Bool), HexDigit.char ⟨value, isUpper⟩ ≠ '\\' ∧
      HexDigit.char ⟨value, isUpper⟩ ≠ '"' := by decide
  exact hall digit.value digit.isUpper

/-- Only hexadecimal digits have a value. -/
theorem exists_char_of_digit? {c : Char} {value : Nat} (h : Text.digit? 16 c = some value) :
    ∃ digit : HexDigit, c = digit.char := by
  have hascii : c.toNat < 128 := by
    simp only [Text.digit?, Char.le_def, UInt32.le_iff_toNat_le] at h
    split at h
    · next hdecimal => exact Nat.lt_of_le_of_lt hdecimal.2 (by decide)
    · split at h
      · next hsmall => exact Nat.lt_of_le_of_lt hsmall.2 (by decide)
      · split at h
        · next hcapital => exact Nat.lt_of_le_of_lt hcapital.2 (by decide)
        · simp at h
  have hall : ∀ n < 128, Text.digit? 16 (Char.ofNat n) = none ∨
      ∃ (value : Fin 16) (isUpper : Bool), Char.ofNat n = HexDigit.char ⟨value, isUpper⟩ := by
    decide +kernel
  have hc := hall c.toNat hascii
  rw [Char.ofNat_toNat, h] at hc
  obtain ⟨value, isUpper, hchar⟩ := hc.resolve_left (Option.some_ne_none value)
  exact ⟨⟨value, isUpper⟩, hchar⟩

/-- The digits of a number are read up to the most that may follow, or up to what is no digit. -/
theorem hexDigits_append {most : Nat} {digits : List HexDigit} {rest : List Char}
    (hlength : digits.length ≤ most)
    (hrest : digits.length < most → ∀ digit : HexDigit, rest.head? ≠ some digit.char) :
    hexDigits most (digits.map HexDigit.char ++ rest) = digits.map fun digit => digit.value.val := by
  induction digits generalizing most with
  | nil =>
    cases most with
    | zero => simp [hexDigits]
    | succ most =>
      cases rest with
      | nil => rfl
      | cons c rest =>
        have hnone : Text.digit? 16 c = none := by
          cases hvalue : Text.digit? 16 c with
          | none => rfl
          | some value =>
            obtain ⟨digit, rfl⟩ := exists_char_of_digit? hvalue
            exact absurd rfl (hrest (Nat.succ_pos most) digit)
        simp [hexDigits, hnone]
  | cons digit digits ih =>
    cases most with
    | zero => simp at hlength
    | succ most =>
      have hlength' : digits.length ≤ most := by simpa using hlength
      have hrest' : digits.length < most → ∀ digit : HexDigit, rest.head? ≠ some digit.char :=
        fun h => hrest (by simpa using h)
      simp [hexDigits, digit?_char, ih hlength' hrest']

/-- The number of some digits is read from the first one on. -/
theorem hexNumber_map_value (digits : List HexDigit) :
    hexNumber (digits.map fun digit => digit.value.val) = hexValue digits := by
  rw [hexNumber, hexValue, Nat.ofDigits_eq_foldr, List.foldr_reverse]
  congr 1
  funext number digit
  simp only [Nat.cast_id]
  omega

/-! ### Items -/

/-- The letters of an escape without a number stand for the characters of the table. -/
theorem escape_letter {letter c : Char} (h : (letter, c) ∈ letterEscapes) (rest : List Char) :
    escape letter rest = (c.toNat, 0) := by
  have hall : ∀ pair ∈ letterEscapes,
      hexWidth? pair.1 = none ∧ simpleEscape pair.1 = pair.2 := by decide
  obtain ⟨hwidth, hsimple⟩ := hall (letter, c) h
  simp [escape, hwidth, hsimple]

/-- A number of one of the forms stands for itself, and its digits belong to it. -/
theorem escape_number {letter : Char} {digits : List HexDigit} {rest : List Char}
    (h : (letter, digits.length) ∈ numberForms)
    (hrest : letter = 'x' → digits.length < 4 → ∀ digit : HexDigit, rest.head? ≠ some digit.char) :
    escape letter (digits.map HexDigit.char ++ rest) = (hexValue digits, digits.length) := by
  have hall : ∀ form ∈ numberForms, (hexWidth? form.1).any fun width =>
      decide (width.1 ≤ form.2 ∧ form.2 ≤ width.2 ∧
        (form.2 < width.2 → form.1 = 'x' ∧ form.2 < 4)) := by
    decide
  obtain ⟨⟨fewest, most⟩, hwidth, hform⟩ := (Option.any_eq_true _ _).mp (hall _ h)
  obtain ⟨hfewest, hmost, hshort⟩ := of_decide_eq_true hform
  have hdigits := hexDigits_append hmost fun hlt => hrest (hshort hlt).1 (hshort hlt).2
  simp only at hwidth hfewest
  simp [escape, hwidth, hdigits, hexNumber_map_value, hfewest]

/-- An item is read as the character it stands for, and reading goes on behind it. -/
theorem codes_text_append {item : Item} {rest : List Char} (h : item.MayPrecede rest) :
    codes (item.text ++ rest) = item.char.toNat :: codes rest := by
  cases item with
  | plain c isPlain =>
    simp [Item.text, Item.char, codes, isPlain.1]
  | simple letter c isKnown =>
    simp [Item.text, Item.char, codes, escape_letter isKnown]
  | number letter digits c isForm isNumber =>
    simp [Item.text, Item.char, codes, escape_number isForm h, isNumber]

/-- Items that fit are read as the characters they stand for. -/
theorem codes_written {items : List Item} (h : Fits items) :
    codes (written items) = items.map fun item => item.char.toNat := by
  induction items with
  | nil => simp [written, codes]
  | cons item rest ih =>
    have hitem := codes_text_append h.1
    rw [written, List.flatMap_cons, ← written, hitem, ih h.2, List.map_cons]

/-- The code values of a text make up that text. -/
theorem ofCodes_map_toNat (cs : List Char) :
    ofCodes (cs.map Char.toNat) = .ok (some (String.ofList cs)) := by
  have hvalid (c : Char) : c.toNat.isValidChar := c.valid
  have hfind : (cs.map Char.toNat).find? (0x10ffff < ·) = none := by
    rw [List.find?_eq_none, List.forall_mem_map]
    intro c _ hbeyond
    have hbound := hvalid c
    simp only [Nat.isValidChar] at hbound
    simp only [decide_eq_true_eq] at hbeyond
    omega
  have hall : (cs.map Char.toNat).all fun value => decide value.isValidChar := by
    rw [List.all_eq_true, List.forall_mem_map]
    exact fun c _ => decide_eq_true (hvalid c)
  have hback : (cs.map Char.toNat).map Char.ofNat = cs := by
    rw [List.map_map]
    exact List.map_id'' Char.ofNat_toNat cs
  rw [ofCodes, hfind, hback]
  exact if_pos hall

/-- A regular literal has the value that its items stand for. -/
theorem regular_quoted {items : List Item} (h : Fits items) :
    regular (quoted items) = .ok (some (String.ofList (items.map Item.char))) := by
  have hinner : ((quoted items).drop 1).dropLast = written items := by
    rw [quoted, List.drop_one, List.tail_cons, List.dropLast_concat]
  have hvalues : items.map (fun item => item.char.toNat) = (items.map Item.char).map Char.toNat := by
    rw [List.map_map]
    rfl
  rw [regular, hinner, codes_written h, hvalues, ofCodes_map_toNat]

/-- Doubled quotes are made single again. -/
theorem undouble_flatMap_doubled (cs : List Char) : undouble (cs.flatMap doubled) = cs := by
  induction cs with
  | nil => rfl
  | cons c cs ih =>
    by_cases hc : c = '"'
    · simp [doubled, hc, undouble, ih]
    · simp [doubled, hc, undouble, ih]

/-- A verbatim literal has the text that it was made from as its value. -/
theorem verbatim_verbatimQuoted (s : String) : verbatim (verbatimQuoted s) = s := by
  have hinner : ((verbatimQuoted s).drop 2).dropLast = s.toList.flatMap doubled := by
    rw [verbatimQuoted, List.drop_succ_cons, List.drop_succ_cons, List.drop_zero,
      List.dropLast_concat]
  rw [verbatim, hinner, undouble_flatMap_doubled, String.ofList_toList]

/-! ### Where a literal ends -/

/-- A character that is no quote and no backslash is passed over. -/
theorem escapedLength_cons {c : Char} {rest : Source} (hc : c ≠ '\\' ∧ c ≠ '"') (hrest : rest ≠ []) :
    Lexeme.escapedLength '"' (some c :: rest) = Lexeme.escapedLength '"' rest + 1 := by
  cases rest with
  | nil => contradiction
  | cons next rest => simp [Lexeme.escapedLength, hc.1, hc.2]

/-- The digits of a number are passed over. -/
theorem escapedLength_digits (digits : List HexDigit) {rest : Source} (hrest : rest ≠ []) :
    Lexeme.escapedLength '"' ((digits.map HexDigit.char).map some ++ rest) =
      Lexeme.escapedLength '"' rest + digits.length := by
  induction digits with
  | nil => rfl
  | cons digit digits ih =>
    have hne : (digits.map HexDigit.char).map some ++ rest ≠ [] := by simp [hrest]
    rw [List.map_cons, List.map_cons, List.cons_append, escapedLength_cons (char_ne digit) hne, ih,
      List.length_cons]
    omega

/-- An item is passed over as a whole, a quote or a backslash in it too. -/
theorem escapedLength_text (item : Item) {rest : Source} (hrest : rest ≠ []) :
    Lexeme.escapedLength '"' (item.text.map some ++ rest) =
      Lexeme.escapedLength '"' rest + item.text.length := by
  cases item with
  | plain c isPlain => exact escapedLength_cons isPlain hrest
  | simple letter c isKnown => simp [Item.text, Lexeme.escapedLength]
  | number letter digits c isForm isNumber =>
    have hdigits := escapedLength_digits digits hrest
    simp only [List.map_map] at hdigits
    simp [Item.text, Lexeme.escapedLength, hdigits, Nat.add_assoc]

/-- All items are passed over, up to the closing quote. -/
theorem escapedLength_written (items : List Item) :
    Lexeme.escapedLength '"' ((written items ++ ['"']).map some) = (written items).length + 1 := by
  induction items with
  | nil => rfl
  | cons item rest ih =>
    have hne : (written rest ++ ['"']).map some ≠ [] := by simp
    rw [written, List.flatMap_cons, ← written, List.append_assoc, List.map_append,
      escapedLength_text item hne, ih, List.length_append]
    omega

/-- Doubled quotes are passed over, up to the closing quote. -/
theorem doubledLength_flatMap (cs : List Char) :
    Lexeme.doubledLength ((cs.flatMap doubled ++ ['"']).map some) =
      (cs.flatMap doubled).length + 1 := by
  induction cs with
  | nil => rfl
  | cons c cs ih =>
    by_cases hc : c = '"'
    · simpa [doubled, hc, Lexeme.doubledLength] using ih
    · simpa [doubled, hc, Lexeme.doubledLength] using ih

/-- At most two quotes begin a regular literal: those of one without items. -/
theorem runLength_quoted (items : List Item) :
    0 < Source.runLength '"' ((quoted items).map some) ∧
      Source.runLength '"' ((quoted items).map some) < 3 := by
  cases items with
  | nil => decide
  | cons item rest =>
    cases item with
    | plain c isPlain => simp [quoted, written, Item.text, Source.runLength, isPlain.2]
    | simple letter c isKnown => simp [quoted, written, Item.text, Source.runLength]
    | number letter digits c isForm isNumber => simp [quoted, written, Item.text, Source.runLength]

/-- A text is one lexeme when its opening and its body, with no suffix after it, make up all of it. -/
theorem atStart_of_body {text : List Char} {kind : TokenKind} {body : Source → Nat} {length : Nat}
    (hcomment : Lexeme.commentLength? (text.map some) = none)
    (hopening : Lexeme.opening? (text.map some) =
      some (.plain kind (fun s => body s + Lexeme.suffixLength (s.drop (body s))), length))
    (hlength : length + body ((text.map some).drop length) = text.length) :
    Lexeme.atStart (text.map some) = (.token kind, text.length) := by
  have hleft : ((text.map some).drop length).drop (body ((text.map some).drop length)) = [] := by
    rw [List.drop_drop, hlength, List.drop_eq_nil_iff, List.length_map]
  have hsuffix : Lexeme.suffixLength [] = 0 := rfl
  rw [Lexeme.atStart, hcomment, hopening]
  simp only [hleft, hsuffix, Nat.add_zero, hlength]

/-- A regular literal is one lexeme. -/
theorem atStart_quoted (items : List Item) :
    Lexeme.atStart ((quoted items).map some) = (.token .regularString, (quoted items).length) := by
  obtain ⟨hsome, hfew⟩ := runLength_quoted items
  have hcomment : Lexeme.commentLength? ((quoted items).map some) = none := by
    simp [Lexeme.commentLength?, quoted, Source.hasStart, Source.ofText]
  have hopening : Lexeme.opening? ((quoted items).map some) = some (.plain .regularString
      (fun s => Lexeme.escapedLength '"' s + Lexeme.suffixLength (s.drop (Lexeme.escapedLength '"' s))),
      1) := by
    rw [Lexeme.opening?, if_neg (Nat.not_le.mpr hfew), if_pos hsome]
  have hbody : Lexeme.escapedLength '"' (((quoted items).map some).drop 1) =
      (written items).length + 1 := escapedLength_written items
  refine atStart_of_body hcomment hopening ?_
  rw [hbody, quoted, List.length_cons, List.length_append, List.length_singleton, Nat.add_comm]

/-- A verbatim literal is one lexeme. -/
theorem atStart_verbatimQuoted (s : String) :
    Lexeme.atStart ((verbatimQuoted s).map some) =
      (.token .verbatimString, (verbatimQuoted s).length) := by
  have hcomment : Lexeme.commentLength? ((verbatimQuoted s).map some) = none := by
    simp [Lexeme.commentLength?, verbatimQuoted, Source.hasStart, Source.ofText]
  have hopening : Lexeme.opening? ((verbatimQuoted s).map some) = some (.plain .verbatimString
      (fun s => Lexeme.doubledLength s + Lexeme.suffixLength (s.drop (Lexeme.doubledLength s))), 2) :=
    rfl
  have hbody : Lexeme.doubledLength (((verbatimQuoted s).map some).drop 2) =
      (s.toList.flatMap doubled).length + 1 := doubledLength_flatMap s.toList
  refine atStart_of_body hcomment hopening ?_
  rw [hbody, verbatimQuoted, List.length_cons, List.length_cons, List.length_append,
    List.length_singleton, Nat.add_comm]

/-- A text that is one token, and no symbol, is one leaf. -/
theorem ofSource_eq_leaf {text : List Char} {kind : TokenKind} (hne : text ≠ [])
    (hkind : kind ≠ .symbol) (h : Lexeme.atStart (text.map some) = (.token kind, text.length)) :
    Tree.ofSource (text.map some) = [.leaf ⟨[], kind, text.map some⟩] := by
  have hlexemes : Lexeme.ofSource (text.map some) = [⟨.token kind, text.map some⟩] := by
    cases text with
    | nil => contradiction
    | cons c rest =>
      rw [List.map_cons] at h
      have hrest : (rest.map some).drop rest.length = [] := List.drop_eq_nil_of_le (by simp)
      simp [Lexeme.ofSource, h, hrest]
  have htokens : Token.ofSource (text.map some) = [⟨[], kind, text.map some⟩] := by
    simp [Token.ofSource, hlexemes, Token.ofLexemesAfter, Token.depthAfter]
  simp [Tree.ofSource, htokens, Tree.ofTokensAfter, Token.isSymbolIn, hkind]

/-! ### Literals as arguments -/

/-- An argument that is a regular literal has the value that its items stand for. -/
theorem argumentValue_quoted {items : List Item} (h : Fits items) :
    argumentValue (quoted items) = .ok (some (some (String.ofList (items.map Item.char)))) := by
  have hne : quoted items ≠ [] := List.cons_ne_nil _ _
  have hkind : TokenKind.regularString ≠ .symbol := by decide
  rw [argumentValue, ofSource_eq_leaf hne hkind (atStart_quoted items)]
  simp only [ArgumentSyntax.ofTrees, ArgumentSyntax.withoutName, ArgumentSyntax.value,
    Source.chars?_map_some, regular_quoted h]
  rfl

/-- An argument that is a verbatim literal has the text that the literal was made from as its value. -/
theorem argumentValue_verbatimQuoted (s : String) :
    argumentValue (verbatimQuoted s) = .ok (some (some s)) := by
  have hne : verbatimQuoted s ≠ [] := List.cons_ne_nil _ _
  have hkind : TokenKind.verbatimString ≠ .symbol := by decide
  rw [argumentValue, ofSource_eq_leaf hne hkind (atStart_verbatimQuoted s)]
  simp only [ArgumentSyntax.ofTrees, ArgumentSyntax.withoutName, ArgumentSyntax.value,
    Source.chars?_map_some, verbatim_verbatimQuoted]
  rfl

/-- Reading a literal inverts writing it. A regular literal stands for the characters that its items
stand for, one after the other, whenever no short number after an `x` is followed by another digit; a
verbatim literal stands for the text that it was made from. -/
theorem argumentValue_literal :
    (∀ items, Fits items →
      argumentValue (quoted items) = .ok (some (some (String.ofList (items.map Item.char))))) ∧
      ∀ s, argumentValue (verbatimQuoted s) = .ok (some (some s)) :=
  ⟨fun _ h => argumentValue_quoted h, argumentValue_verbatimQuoted⟩

/-- Items whose neighbours could be taken for parts of them: an escaped backslash before an `x` and a
digit, and a short number before another one and before an escaped quote. -/
def neighbours : List Item :=
  [.simple '\\' '\\' (by decide), .plain 'x' (by decide), .plain '4' (by decide),
   .number 'x' [⟨4, false⟩, ⟨1, false⟩] 'A' (by decide) (by decide),
   .number 'u' [⟨0, false⟩, ⟨0, false⟩, ⟨14, true⟩, ⟨9, false⟩] 'é' (by decide) (by decide),
   .number 'x' [⟨9, false⟩] '\t' (by decide) (by decide), .simple '"' '"' (by decide)]

/-- They are read one by one, and a verbatim literal keeps its backslashes. -/
theorem argumentValue_neighbours :
    Fits neighbours ∧ quoted neighbours = "\"\\\\x4\\x41\\u00E9\\x9\\\"\"".toList ∧
      argumentValue (quoted neighbours) = .ok (some (some "\\x4Aé\t\"")) ∧
      argumentValue "@\"files\\\"\"\x7bname\x7d\"".toList = .ok (some (some "files\\\"\x7bname\x7d")) := by
  have hslash (digit : HexDigit) : some '\\' ≠ some digit.char := fun h =>
    (char_ne digit).1 (Option.some.inj h).symm
  have hfits : Fits neighbours :=
    ⟨trivial, trivial, trivial, fun _ _ => hslash, fun h => absurd h (by decide), fun _ _ => hslash,
      trivial, trivial⟩
  have hvalue := argumentValue_literal.1 neighbours hfits
  have hverbatim := argumentValue_literal.2 "files\\\"\x7bname\x7d"
  exact ⟨hfits, by decide, hvalue.trans (by decide), hverbatim⟩

end ClientGen.CSharp.Literal

import ClientGen.DocComment.Element
import ClientGen.Proofs.Markup.Writing
import Mathlib.Data.List.TakeWhile

/-!
# Bare ampersands

Before an element of a comment is read as markup, every ampersand that what follows makes no
reference is written as one. A reference that stands there already stays, and so does all other
text.
-/

namespace ClientGen.DocComment

open Markup (references)

/-- What follows an ampersand makes it a reference: word characters, perhaps after a number sign,
and a semicolon. -/
def NamesReference (after : List Char) : Prop :=
  ∃ name rest, name ≠ [] ∧ (∀ c ∈ name, Text.isWordChar c = true) ∧
    (after = name ++ ';' :: rest ∨ after = '#' :: (name ++ ';' :: rest))

/-- Word characters and a semicolon stand at the beginning of a text exactly when its longest run of
word characters ends there. -/
theorem startsName_iff {cs : List Char} :
    (!(cs.takeWhile Text.isWordChar).isEmpty &&
        (cs.dropWhile Text.isWordChar).head? == some ';') = true ↔
      ∃ name rest, name ≠ [] ∧ (∀ c ∈ name, Text.isWordChar c = true) ∧ cs = name ++ ';' :: rest := by
  rw [Bool.and_eq_true, Bool.not_eq_true', List.isEmpty_eq_false_iff, beq_iff_eq]
  constructor
  · rintro ⟨hne, hhead⟩
    obtain ⟨rest, hrest⟩ := List.head?_eq_some_iff.mp hhead
    refine ⟨_, rest, hne, fun c hc => List.mem_takeWhile_imp hc, ?_⟩
    rw [← hrest, List.takeWhile_append_dropWhile]
  · rintro ⟨name, rest, hne, hname, rfl⟩
    have hend : ∀ c ∈ (';' :: rest).head?, Text.isWordChar c = false := by
      simpa using (by decide +kernel : Text.isWordChar ';' = false)
    rw [Text.takeWhile_append_of_head? hname hend, Text.dropWhile_append_of_head? hname hend]
    exact ⟨hne, rfl⟩

/-- An ampersand is taken for the beginning of a reference exactly when what follows makes it one. -/
theorem isReference_iff {after : List Char} : isReference after = true ↔ NamesReference after := by
  unfold isReference
  split
  · next rest =>
    rw [startsName_iff]
    constructor
    · rintro ⟨name, left, hne, hname, rfl⟩
      exact ⟨name, left, hne, hname, .inr rfl⟩
    · rintro ⟨name, left, hne, hname, hsplit | hsplit⟩
      · obtain ⟨first, others, rfl⟩ := List.exists_cons_of_ne_nil hne
        obtain ⟨rfl, -⟩ := List.cons.inj hsplit
        have hsign : Text.isWordChar '#' = false := by decide +kernel
        rw [hname '#' List.mem_cons_self] at hsign
        cases hsign
      · exact ⟨name, left, hne, hname, (List.cons.inj hsplit).2⟩
  · next hsign =>
    rw [startsName_iff]
    constructor
    · rintro ⟨name, left, hne, hname, hsplit⟩
      exact ⟨name, left, hne, hname, .inl hsplit⟩
    · rintro ⟨name, left, hne, hname, hsplit | hsplit⟩
      · exact ⟨name, left, hne, hname, hsplit⟩
      · exact absurd hsplit (hsign _)

/-- It is decidable whether what follows an ampersand makes it a reference. -/
instance : DecidablePred NamesReference :=
  fun _ => decidable_of_iff _ isReference_iff

/-- A text without ampersands stays as it is. -/
theorem escapeBare_append {cs : List Char} (rest : List Char) (h : '&' ∉ cs) :
    escapeBare (cs ++ rest) = cs ++ escapeBare rest := by
  induction cs with
  | nil => rfl
  | cons c cs ih =>
    have hc : c ≠ '&' := fun heq => h (heq ▸ List.mem_cons_self)
    rw [List.cons_append, escapeBare, if_neg fun hand => hc hand.1,
      ih fun hmem => h (List.mem_cons_of_mem c hmem), List.cons_append]

/-- A text without ampersands stays as it is at the end too. -/
theorem escapeBare_of_not_mem {cs : List Char} (h : '&' ∉ cs) : escapeBare cs = cs := by
  have happend := escapeBare_append [] h
  rwa [List.append_nil, escapeBare, List.append_nil] at happend

/-- An ampersand that begins no reference is written as one. -/
theorem escapeBare_bare {after : List Char} (h : ¬ NamesReference after) :
    escapeBare ('&' :: after) = "&amp;".toList ++ escapeBare after := by
  have hbare : (!isReference after) = true := by
    rw [Bool.not_eq_true', Bool.eq_false_iff]
    exact fun href => h (isReference_iff.mp href)
  rw [escapeBare, if_pos ⟨rfl, hbare⟩]
  rfl

/-- An ampersand that begins a reference stays as it is, and so does the rest of the reference. -/
theorem escapeBare_reference {c : Char} {name : String} (h : (c, name) ∈ references)
    (rest : List Char) :
    escapeBare ('&' :: (name.toList ++ [';']) ++ rest) =
      '&' :: (name.toList ++ [';']) ++ escapeBare rest := by
  have hletters : Markup.IsLetters name := Markup.isLetters_of_mem_references h
  have hname : NamesReference (name.toList ++ [';'] ++ rest) :=
    ⟨name.toList, rest, fun heq => hletters.nonempty (String.toList_eq_nil_iff.mp heq),
      fun d hd => Markup.isWordChar_of_isAlpha (hletters.letters d hd), .inl (by simp)⟩
  have hplain : '&' ∉ name.toList ++ [';'] := by
    rw [List.mem_append, not_or]
    exact ⟨hletters.not_mem (by decide), by decide⟩
  rw [List.cons_append, escapeBare, if_neg fun hand => ?_, escapeBare_append _ hplain]
  · rfl
  · rw [isReference_iff.mpr hname] at hand
    simp at hand

end ClientGen.DocComment

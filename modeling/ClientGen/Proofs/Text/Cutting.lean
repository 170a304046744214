import ClientGen.Text.Basic
import Mathlib.Data.List.Infix

/-!
# Beginnings, endings and parts of a text

The cutting functions against the list relations that say what they look for: a beginning is
stripped exactly when the text is that beginning followed by the rest, an ending likewise, and a
text contains another exactly when the other is a contiguous block of it. Stripping the characters
of a class takes what is of that class at an end, and nothing else.
-/

namespace ClientGen.Text

/-- Stripping a beginning succeeds exactly on that beginning followed by what remains. -/
theorem dropStart?_eq_some_iff {start cs rest : List Char} :
    dropStart? start cs = some rest ↔ cs = start ++ rest := by
  induction start generalizing cs with
  | nil => simp [dropStart?]
  | cons a start ih =>
    cases cs with
    | nil => simp [dropStart?]
    | cons c cs =>
      by_cases h : a = c
      · subst h
        rw [dropStart?, if_pos rfl, ih, List.cons_append, List.cons_inj_right]
      · rw [dropStart?, if_neg h]
        simp [Ne.symm h]

/-- A beginning can be stripped exactly when the text has it. -/
theorem isSome_dropStart?_iff {start cs : List Char} :
    (dropStart? start cs).isSome = true ↔ start <+: cs := by
  rw [Option.isSome_iff_exists]
  exact exists_congr fun rest => dropStart?_eq_some_iff.trans eq_comm

/-- A beginning without a separator is stripped from what comes before the separator. -/
theorem dropStart?_append_cons {start : List Char} {sep : Char} (before after : List Char)
    (h : sep ∉ start) :
    dropStart? start (before ++ sep :: after) =
      (dropStart? start before).map (· ++ sep :: after) := by
  induction start generalizing before with
  | nil => simp [dropStart?]
  | cons a start ih =>
    have hne : a ≠ sep := fun heq => h (heq ▸ List.mem_cons_self)
    cases before with
    | nil => simp [dropStart?, hne]
    | cons b before =>
      rw [List.cons_append, dropStart?, dropStart?,
        ih before fun hmem => h (List.mem_cons_of_mem a hmem)]
      split <;> rfl

/-- A text begins with another exactly when the other's characters are a prefix of its own. -/
theorem hasStart_iff {start s : String} : hasStart start s = true ↔ start.toList <+: s.toList :=
  isSome_dropStart?_iff

/-- A text ends with another exactly when the other's characters are a suffix of its own. -/
theorem hasEnd_iff {ending s : String} : hasEnd ending s = true ↔ ending.toList <:+ s.toList := by
  rw [hasEnd, isSome_dropStart?_iff, List.reverse_prefix]

/-- A known ending is stripped exactly when the text is what remains followed by it. -/
theorem dropEnd?_eq_some_iff {ending s rest : String} :
    dropEnd? ending s = some rest ↔ s = rest ++ ending := by
  have reversed (left : List Char) :
      s.toList.reverse = ending.toList.reverse ++ left ↔ s.toList = left.reverse ++ ending.toList := by
    rw [← List.reverse_inj, List.reverse_reverse, List.reverse_append, List.reverse_reverse]
  simp only [dropEnd?, Option.map_eq_some_iff, dropStart?_eq_some_iff, reversed]
  constructor
  · rintro ⟨left, hs, rfl⟩
    rw [← String.toList_inj, String.toList_append, String.toList_ofList, hs]
  · rintro rfl
    exact ⟨rest.toList.reverse, by rw [String.toList_append, List.reverse_reverse],
      by rw [List.reverse_reverse, String.ofList_toList]⟩

/-- The longest run of a class at the beginning of a text ends before a character outside it. -/
theorem takeWhile_append_of_head? {p : Char → Bool} {run rest : List Char}
    (hrun : ∀ c ∈ run, p c = true) (hrest : ∀ c ∈ rest.head?, p c = false) :
    (run ++ rest).takeWhile p = run := by
  have hnone : rest.takeWhile p = [] := by
    cases rest with
    | nil => rfl
    | cons c rest => exact List.takeWhile_cons_of_neg (by simp [hrest c rfl])
  rw [List.takeWhile_append_of_pos hrun, hnone, List.append_nil]

/-- What is left after the longest run of a class begins with a character outside it. -/
theorem dropWhile_append_of_head? {p : Char → Bool} {run rest : List Char}
    (hrun : ∀ c ∈ run, p c = true) (hrest : ∀ c ∈ rest.head?, p c = false) :
    (run ++ rest).dropWhile p = rest := by
  rw [List.dropWhile_append_of_pos hrun]
  cases rest with
  | nil => rfl
  | cons c rest => exact List.dropWhile_cons_of_neg (by simp [hrest c rfl])

/-- Nothing follows a separator that does not occur. -/
theorem afterFirstChars?_of_not_mem {sep : Char} {cs : List Char} (h : sep ∉ cs) :
    afterFirstChars? sep cs = none := by
  induction cs with
  | nil => rfl
  | cons c cs ih =>
    have hne : c ≠ sep := fun heq => h (heq ▸ List.mem_cons_self)
    rw [afterFirstChars?, if_neg hne, ih fun hmem => h (List.mem_cons_of_mem c hmem)]

/-- What is after the last separator is part of the list. -/
theorem afterLastChars_suffix (sep : Char) (cs : List Char) : afterLastChars sep cs <:+ cs :=
  List.reverse_prefix.mp (by
    rw [afterLastChars, List.reverse_reverse]
    exact List.takeWhile_prefix _)

/-- A list that does not end in a separator ends as what is after its last separator does. -/
theorem getLast?_afterLastChars {sep : Char} {cs : List Char} (h : cs.getLast? ≠ some sep) :
    (afterLastChars sep cs).getLast? = cs.getLast? := by
  rw [← List.head?_reverse] at h
  rw [afterLastChars, List.getLast?_reverse, ← List.head?_reverse]
  cases hcs : cs.reverse with
  | nil => rfl
  | cons c rest =>
    have hc : c ≠ sep := by simpa [hcs] using h
    rw [List.takeWhile_cons_of_pos (by simpa using hc)]
    rfl

/-- What is after the last separator does not depend on what stands before another one. -/
theorem afterLast_append (sep : Char) (before s : String) :
    afterLast sep (before ++ String.singleton sep ++ s) = afterLast sep s := by
  have hcut : (s.toList.reverse ++ sep :: before.toList.reverse).takeWhile (· != sep) =
      s.toList.reverse.takeWhile (· != sep) := by
    rw [List.takeWhile_append, List.takeWhile_cons_of_neg (by simp), List.append_nil]
    split
    · next hall => exact (List.takeWhile_prefix _).eq_of_length hall |>.symm
    · rfl
  rw [afterLast, afterLast, afterLastChars, afterLastChars, String.toList_append,
    String.toList_append, String.toList_singleton, List.reverse_append, List.reverse_append,
    List.reverse_singleton, List.singleton_append, hcut]

/-- Nothing is dropped at the end of a list that ends in a character to keep. -/
theorem dropTrailing_of_getLast? {drop : Char → Bool} {cs : List Char}
    (h : ∀ c ∈ cs.getLast?, drop c = false) : dropTrailing drop cs = cs := by
  have hreverse : cs.reverse.dropWhile drop = cs.reverse := by
    rw [← List.head?_reverse] at h
    cases hcs : cs.reverse with
    | nil => rfl
    | cons c rest => exact List.dropWhile_cons_of_neg (by simp [h c (by simp [hcs])])
  rw [dropTrailing, hreverse, List.reverse_reverse]

/-- Characters to drop at the end of a list make no difference. -/
theorem dropTrailing_append {drop : Char → Bool} (cs : List Char) {tail : List Char}
    (h : ∀ c ∈ tail, drop c = true) : dropTrailing drop (cs ++ tail) = dropTrailing drop cs := by
  have htail : ∀ c ∈ tail.reverse, drop c = true := fun c hc => h c (List.mem_reverse.mp hc)
  rw [dropTrailing, List.reverse_append, List.dropWhile_append_of_pos htail, dropTrailing]

/-- Nothing is trimmed of a list with characters to keep at both ends. -/
theorem trimChars_of_ends {drop : Char → Bool} {cs : List Char}
    (hhead : ∀ c ∈ cs.head?, drop c = false) (hlast : ∀ c ∈ cs.getLast?, drop c = false) :
    trimChars drop cs = cs := by
  have hdrop : cs.dropWhile drop = cs := by
    cases cs with
    | nil => rfl
    | cons c rest => exact List.dropWhile_cons_of_neg (by simp [hhead c rfl])
  rw [trimChars, hdrop, dropTrailing_of_getLast? hlast]

/-- A block occurs in a list of characters exactly when it is an infix of it. -/
theorem occursIn_iff {part cs : List Char} : occursIn part cs = true ↔ part <:+: cs := by
  induction cs with
  | nil => rw [occursIn, List.isEmpty_iff, List.infix_nil]
  | cons c rest ih =>
    rw [occursIn, Bool.or_eq_true, isSome_dropStart?_iff, ih, List.infix_cons_iff]

/-- A text contains another exactly when the other's characters are an infix of its own. -/
theorem contains_iff {part s : String} : contains part s = true ↔ part.toList <:+: s.toList :=
  occursIn_iff

end ClientGen.Text

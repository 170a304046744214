import Mathlib.Data.List.Infix
import Mathlib.Data.String.Basic

/-!
# Template literals

Between the backticks of a template literal a backslash escapes the character after it, a backtick
ends the literal and a dollar sign before an opening brace begins a substitution. Text that is
written there as it is, with nothing escaped, is read as it is meant exactly when it has no
backslash, no backtick and no dollar sign before an opening brace; otherwise the literal ends early,
loses characters, or has a substitution where text should be or text where a substitution should be.
-/

namespace ClientGen.TypeScript

/-- A part of a template literal. -/
inductive TemplatePart where
  /-- A character of the text. -/
  | text (c : Char)
  /-- The value of a variable. -/
  | substitution (name : String)
deriving Repr, DecidableEq

namespace TemplatePart

/-- A part as it is written when nothing is escaped. -/
def chars : TemplatePart → List Char
  | text c => [c]
  | substitution name => '$' :: '\x7b' :: (name.toList ++ ['\x7d'])

/-- The name that a part substitutes. -/
def name? : TemplatePart → Option String
  | text _ => none
  | substitution name => some name

end TemplatePart

/-- Read the rest of a template literal. With `some name`, a substitution has been begun and `name`
read; what it holds is taken to end at the first closing brace, as it does when it is a name. There
is no reading when the literal ends before its text does, or in the middle of an escape or of a
substitution. -/
def readTemplateAfter : Option (List Char) → List Char → Option (List TemplatePart)
  | none, [] => some []
  | some _, [] => none
  | none, '\\' :: c :: rest => (readTemplateAfter none rest).map (.text c :: ·)
  | none, '$' :: '\x7b' :: rest => readTemplateAfter (some []) rest
  | none, c :: rest =>
    if c = '`' ∨ c = '\\' then none else (readTemplateAfter none rest).map (.text c :: ·)
  | some name, c :: rest =>
    if c = '\x7d' then
      (readTemplateAfter none rest).map (.substitution (String.ofList name) :: ·)
    else readTemplateAfter (some (name ++ [c])) rest

/-- Read what stands between the backticks of a template literal. -/
def readTemplate (cs : List Char) : Option (List TemplatePart) :=
  readTemplateAfter none cs

/-- The text among the parts has no character with a meaning of its own in template literals. -/
structure Unmarked (parts : List TemplatePart) : Prop where
  /-- No character ends the literal or escapes another. -/
  plain : ∀ c, .text c ∈ parts → c ≠ '`' ∧ c ≠ '\\'
  /-- No two characters begin a substitution. -/
  closed : ¬ [.text '$', .text '\x7b'] <:+: parts

/-! ### Reading what was written without escapes -/

/-- What is read is not longer than its source when it is written down again. -/
theorem length_readTemplateAfter {pending : Option (List Char)} {cs : List Char}
    {parts : List TemplatePart} (h : readTemplateAfter pending cs = some parts) :
    (parts.flatMap TemplatePart.chars).length ≤
      cs.length + (pending.map (·.length + 2)).getD 0 := by
  fun_induction readTemplateAfter pending cs generalizing parts with
  | case1 =>
    cases h
    exact Nat.le_refl _
  | case2 => cases h
  | case3 c rest ih =>
    obtain ⟨later, hlater, rfl⟩ := Option.map_eq_some_iff.mp h
    have hle := ih hlater
    simp [TemplatePart.chars] at hle ⊢
    omega
  | case4 rest ih =>
    have hle := ih h
    simpa using hle
  | case5 => cases h
  | case6 c rest _ _ _ ih =>
    obtain ⟨later, hlater, rfl⟩ := Option.map_eq_some_iff.mp h
    have hle := ih hlater
    simp [TemplatePart.chars] at hle ⊢
    omega
  | case7 name rest ih =>
    obtain ⟨later, hlater, rfl⟩ := Option.map_eq_some_iff.mp h
    have hle := ih hlater
    simp [TemplatePart.chars] at hle ⊢
    omega
  | case8 name c rest _ ih =>
    have hle := ih h
    simp at hle ⊢
    omega

/-- A reading that goes on in a substitution begins with it. -/
theorem exists_substitution_of_read {name cs : List Char} {parts : List TemplatePart}
    (h : readTemplateAfter (some name) cs = some parts) :
    ∃ inserted rest, parts = .substitution inserted :: rest := by
  induction cs generalizing name with
  | nil => cases h
  | cons c rest ih =>
    rw [readTemplateAfter] at h
    split at h
    · obtain ⟨later, -, rfl⟩ := Option.map_eq_some_iff.mp h
      exact ⟨_, later, rfl⟩
    · exact ih h

/-- A name without a closing brace is read up to the brace that follows it. -/
theorem readTemplateAfter_name (start name rest : List Char) (hname : '\x7d' ∉ name) :
    readTemplateAfter (some start) (name ++ '\x7d' :: rest) =
      (readTemplate rest).map (.substitution (String.ofList (start ++ name)) :: ·) := by
  induction name generalizing start with
  | nil => simp [readTemplateAfter, readTemplate]
  | cons c name ih =>
    obtain ⟨hc, hrest⟩ := not_or.mp (mt List.mem_cons.mpr hname)
    rw [List.cons_append, readTemplateAfter, if_neg (Ne.symm hc), ih _ hrest, List.append_assoc,
      List.singleton_append]

/-- A character without a meaning of its own is read as itself. -/
theorem readTemplate_text {c : Char} {rest : List Char} (hc : c ≠ '`' ∧ c ≠ '\\')
    (hopen : ¬ (c = '$' ∧ rest.head? = some '\x7b')) :
    readTemplate (c :: rest) = (readTemplate rest).map (.text c :: ·) := by
  rw [readTemplate, readTemplateAfter]
  · rw [if_neg (not_or.mpr hc)]
    rfl
  · rintro d others rfl -
    exact hc.2 rfl
  · rintro others rfl rfl
    exact hopen ⟨rfl, rfl⟩

/-- A backslash is never read as itself: when the character that it escapes is a backslash too, what
is left is too short for the rest. -/
theorem readTemplate_backslash_ne {rest : List Char} {parts : List TemplatePart}
    (hrest : rest = parts.flatMap TemplatePart.chars) :
    readTemplate ('\\' :: rest) ≠ some (.text '\\' :: parts) := by
  intro h
  cases rest with
  | nil => simp [readTemplate, readTemplateAfter] at h
  | cons d rest =>
    rw [readTemplate, readTemplateAfter] at h
    obtain ⟨later, hlater, hparts⟩ := Option.map_eq_some_iff.mp h
    obtain rfl := (List.cons.inj hparts).2
    have hshort := length_readTemplateAfter hlater
    rw [← hrest] at hshort
    simp at hshort

/-- Parts that are written with an opening brace first begin with it as text. -/
theorem head?_of_head?_chars {parts : List TemplatePart}
    (h : (parts.flatMap TemplatePart.chars).head? = some '\x7b') :
    parts.head? = some (.text '\x7b') := by
  cases parts with
  | nil => cases h
  | cons part rest =>
    cases part with
    | text c => simpa [TemplatePart.chars] using h
    | substitution name => simp [TemplatePart.chars] at h

/-- A substitution does not matter for the text. -/
theorem unmarked_substitution_iff {name : String} {parts : List TemplatePart} :
    Unmarked (.substitution name :: parts) ↔ Unmarked parts := by
  constructor
  · intro h
    exact ⟨fun c hc => h.plain c (List.mem_cons_of_mem _ hc),
      fun hopen => h.closed (List.infix_cons hopen)⟩
  · intro h
    refine ⟨fun c hc => h.plain c (by simpa using hc), fun hopen => ?_⟩
    rcases List.infix_cons_iff.mp hopen with hstart | hinner
    · cases (List.cons_prefix_cons.mp hstart).1
    · exact h.closed hinner

/-- A character matters for the text by itself and together with the one after it. -/
theorem unmarked_text_iff {c : Char} {parts : List TemplatePart} :
    Unmarked (.text c :: parts) ↔
      (c ≠ '`' ∧ c ≠ '\\') ∧ ¬ (c = '$' ∧ parts.head? = some (.text '\x7b')) ∧
        Unmarked parts := by
  have hstart : [TemplatePart.text '$', .text '\x7b'] <+: .text c :: parts ↔
      c = '$' ∧ parts.head? = some (.text '\x7b') := by
    cases parts <;> simp [List.cons_prefix_cons, @eq_comm _ '$', @eq_comm _ (TemplatePart.text '\x7b')]
  constructor
  · intro h
    exact ⟨h.plain c List.mem_cons_self,
      fun hopen => h.closed (List.infix_cons_iff.mpr (.inl (hstart.mpr hopen))),
      fun d hd => h.plain d (List.mem_cons_of_mem _ hd),
      fun hinner => h.closed (List.infix_cons hinner)⟩
  · rintro ⟨hc, hopen, hrest⟩
    refine ⟨fun d hd => ?_, fun hinfix => ?_⟩
    · rcases List.mem_cons.mp hd with hd | hd
      · obtain rfl := TemplatePart.text.inj hd
        exact hc
      · exact hrest.plain d hd
    · rcases List.infix_cons_iff.mp hinfix with hfirst | hinner
      · exact hopen (hstart.mp hfirst)
      · exact hrest.closed hinner

/-- Parts that are written without escapes are read back exactly when their text is unmarked. -/
theorem readTemplate_chars_iff {parts : List TemplatePart}
    (hnames : ∀ name, .substitution name ∈ parts → '\x7d' ∉ name.toList) :
    readTemplate (parts.flatMap TemplatePart.chars) = some parts ↔ Unmarked parts := by
  induction parts with
  | nil => exact iff_of_true rfl ⟨by simp, by simp⟩
  | cons part parts ih =>
    have hrest := ih fun name h => hnames name (List.mem_cons_of_mem _ h)
    have hcons (read : Option (List TemplatePart)) :
        read.map (part :: ·) = some (part :: parts) ↔ read = some parts := by
      cases read <;> simp
    cases part with
    | substitution name =>
      have hsource : (TemplatePart.substitution name :: parts).flatMap TemplatePart.chars =
          '$' :: '\x7b' :: (name.toList ++ '\x7d' :: parts.flatMap TemplatePart.chars) := by
        simp [TemplatePart.chars]
      have hread := readTemplateAfter_name [] name.toList (parts.flatMap TemplatePart.chars)
        (hnames name List.mem_cons_self)
      rw [List.nil_append, String.ofList_toList] at hread
      rw [hsource, readTemplate, readTemplateAfter, hread, hcons, hrest, unmarked_substitution_iff]
    | text c =>
      rw [List.flatMap_cons, TemplatePart.chars, List.singleton_append, unmarked_text_iff]
      by_cases hslash : c = '\\'
      · subst hslash
        exact iff_of_false (readTemplate_backslash_ne rfl) fun h => h.1.2 rfl
      by_cases htick : c = '`'
      · subst htick
        exact iff_of_false (by simp [readTemplate, readTemplateAfter]) fun h => h.1.1 rfl
      by_cases hopen : c = '$' ∧ (parts.flatMap TemplatePart.chars).head? = some '\x7b'
      · refine iff_of_false (fun h => ?_) fun h => h.2.1 ⟨hopen.1, head?_of_head?_chars hopen.2⟩
        obtain ⟨rfl, hhead⟩ := hopen
        obtain ⟨rest, hchars⟩ := List.head?_eq_some_iff.mp hhead
        rw [hchars, readTemplate, readTemplateAfter] at h
        obtain ⟨inserted, later, hparts⟩ := exists_substitution_of_read h
        cases hparts
      · have hkept : ¬ (c = '$' ∧ parts.head? = some (.text '\x7b')) := by
          rintro ⟨rfl, hhead⟩
          obtain ⟨rest, rfl⟩ := List.head?_eq_some_iff.mp hhead
          exact hopen ⟨rfl, by simp [TemplatePart.chars]⟩
        rw [readTemplate_text ⟨htick, hslash⟩ hopen, hcons, hrest]
        exact (and_iff_right ⟨htick, hslash⟩).trans (and_iff_right hkept) |>.symm

end ClientGen.TypeScript

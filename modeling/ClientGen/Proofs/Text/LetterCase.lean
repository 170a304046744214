import ClientGen.Proofs.Text.Cutting
import ClientGen.Proofs.Text.LowerCase

/-!
# Words in any letter case

Names of files are compared with fixed words after both have been lower-cased. The lower case of a
text is that of all Unicode, and it maps more than the ASCII capitals to ASCII: the Kelvin sign has a
`k` as its lower case, and the capital I with a dot above has an `i` with a dot behind it. For a word
without a `k` neither matters. A text has such a word as its lower case, or ends with it there,
exactly when it is that word, or ends with it, but for the letter case of ASCII letters.
-/

namespace ClientGen.Text

/-- A text is a word of small letters and other characters in any letter case. -/
def InAnyCase (word s : String) : Prop :=
  s.toList.map Char.toLower = word.toList

/-- It is decidable whether a text is a word in any letter case. -/
instance (word s : String) : Decidable (InAnyCase word s) :=
  inferInstanceAs (Decidable (_ = _))

/-- An ASCII character that is the lower case of none but ASCII characters. -/
def isPlain (c : Char) : Bool :=
  decide (c.toNat < 0x80) && c != 'k'

/-! ### Characters -/

/-- The lower case of an ASCII character is the usual one. -/
theorem lowerChar_eq_toLower {c : Char} (h : c.toNat < 0x80) : lowerChar c = c.toLower := by
  have hall : ∀ code < 0x80, Char.ofNat (if 0x41 ≤ code ∧ code ≤ 0x5a then code + 32 else code) =
      (Char.ofNat code).toLower := by
    decide +kernel
  have hc := hall c.toNat h
  rwa [← lowerCode_of_lt h, Char.ofNat_toNat] at hc

/-- The lower case of a character is plain only for an ASCII character. -/
theorem lt_of_isPlain_lowerChar {c : Char} (h : isPlain (lowerChar c) = true) : c.toNat < 0x80 := by
  obtain ⟨hascii, hk⟩ := Bool.and_eq_true_iff.mp h
  by_contra hbig
  rcases lowerCode_of_le (Nat.le_of_not_lt hbig) with hlower | hlower
  · have hsmall := of_decide_eq_true hascii
    rw [toNat_lowerChar] at hsmall
    omega
  · have hsmall : lowerChar c = 'k' := by rw [lowerChar, hlower]
    rw [hsmall] at hk
    cases hk

/-- A character whose usual lower case is in ASCII is in ASCII itself. -/
theorem lt_of_toLower_lt {c : Char} (h : c.toLower.toNat < 0x80) : c.toNat < 0x80 := by
  unfold Char.toLower at h
  split at h
  · next hupper => exact lt_of_le_of_lt (UInt32.le_iff_toNat_le.mp hupper.2) (by decide)
  · exact h

/-- Where a character at its place in a text has plain lower case at the end, it is an ASCII character
and that is its usual lower case. -/
theorem eq_toLower_of_lowerAt {before after front last : List Char} {c : Char}
    (h : lowerAt before c after = front ++ last) (hne : last ≠ [])
    (plain : ∀ d ∈ last, isPlain d = true) : last = [c.toLower] := by
  have hsingle {d : Char} (hd : [d] = front ++ last) : last = [d] := by
    rcases List.append_eq_singleton_iff.mp hd.symm with ⟨-, hlast⟩ | ⟨-, hlast⟩
    · exact hlast
    · exact absurd hlast hne
  unfold lowerAt at h
  split at h
  · have hsigma := hsingle h
    have hplain := plain _ (hsigma ▸ List.mem_singleton_self _)
    split at hplain <;> cases hplain
  · split at h
    · -- the dot over the letter comes last
      have hdot : '\u0307' ∈ last := by
        have hlast : (front ++ last).getLast? = some '\u0307' := by rw [← h]; rfl
        rw [List.getLast?_append_of_ne_nil _ hne] at hlast
        exact List.mem_of_getLast? hlast
      cases plain _ hdot
    · have hlower := hsingle h
      have hplain := plain _ (hlower ▸ List.mem_singleton_self _)
      rw [hlower, lowerChar_eq_toLower (lt_of_isPlain_lowerChar hplain)]

/-! ### Texts -/

/-- The lower case of ASCII characters is the usual one. -/
theorem lowerAfter_of_ascii {before cs : List Char} (h : ∀ c ∈ cs, c.toNat < 0x80) :
    lowerAfter before cs = cs.map Char.toLower := by
  induction cs generalizing before with
  | nil => rfl
  | cons c rest ih =>
    obtain ⟨hc, hrest⟩ := List.forall_mem_cons.mp h
    have hsigma : c ≠ 'Σ' := by
      rintro rfl
      exact absurd hc (by decide)
    have hdotted : c ≠ 'İ' := by
      rintro rfl
      exact absurd hc (by decide)
    rw [lowerAfter, lowerAt, if_neg hsigma, if_neg hdotted, ih hrest, lowerChar_eq_toLower hc]
    rfl

/-- A lower case that is plain is the usual one. -/
theorem lowerAfter_of_isPlain {before cs : List Char}
    (plain : ∀ c ∈ lowerAfter before cs, isPlain c = true) :
    lowerAfter before cs = cs.map Char.toLower := by
  induction cs generalizing before with
  | nil => rfl
  | cons c rest ih =>
    rw [lowerAfter] at plain ⊢
    obtain ⟨hc, hrest⟩ := List.forall_mem_append.mp plain
    rw [ih hrest,
      eq_toLower_of_lowerAt (List.nil_append _).symm (lowerAt_ne_nil before c rest) hc]
    rfl

/-- What is plain at the end of the lower case of a text comes from the end of the text. -/
theorem exists_of_lowerAfter_eq_append {before cs front last : List Char}
    (h : lowerAfter before cs = front ++ last) (plain : ∀ c ∈ last, isPlain c = true) :
    ∃ ending, ending <:+ cs ∧ ending.map Char.toLower = last := by
  induction cs generalizing before front with
  | nil =>
    obtain ⟨-, rfl⟩ := List.append_eq_nil_iff.mp h.symm
    exact ⟨[], List.suffix_rfl, rfl⟩
  | cons c rest ih =>
    rw [lowerAfter] at h
    rcases List.append_eq_append_iff.mp h with ⟨front', -, hrest⟩ | ⟨first, hfirst, hlast⟩
    · obtain ⟨ending, hending, hlower⟩ := ih hrest
      exact ⟨ending, hending.trans (List.suffix_cons c rest), hlower⟩
    · -- the lower case of the rest is plain as a whole
      subst hlast
      obtain ⟨hplain, hplain'⟩ := List.forall_mem_append.mp plain
      rw [lowerAfter_of_isPlain hplain']
      by_cases hne : first = []
      · rw [hne]
        exact ⟨rest, List.suffix_cons c rest, rfl⟩
      · rw [eq_toLower_of_lowerAt hfirst hne hplain]
        exact ⟨c :: rest, List.suffix_rfl, rfl⟩

/-- The lower case of what comes last in a text comes last in its lower case. -/
theorem lowerAfter_append (before cs ending : List Char) :
    ∃ front, lowerAfter before (cs ++ ending) =
      front ++ lowerAfter (cs.reverse ++ before) ending := by
  induction cs generalizing before with
  | nil => exact ⟨[], rfl⟩
  | cons c rest ih =>
    obtain ⟨front, hfront⟩ := ih (c :: before)
    refine ⟨lowerAt before c (rest ++ ending) ++ front, ?_⟩
    rw [List.cons_append, lowerAfter, hfront, List.append_assoc, List.reverse_cons,
      List.append_assoc, List.singleton_append]

/-- A text with a usual lower case of plain characters is in ASCII. -/
theorem lt_of_map_toLower {cs word : List Char} (h : cs.map Char.toLower = word)
    (plain : ∀ c ∈ word, isPlain c = true) : ∀ c ∈ cs, c.toNat < 0x80 := by
  intro c hc
  have hplain := plain c.toLower (h ▸ List.mem_map_of_mem hc)
  exact lt_of_toLower_lt (of_decide_eq_true (Bool.and_eq_true_iff.mp hplain).1)

/-- The lower case of a text is a word of plain characters exactly when the text is that word in any
letter case. -/
theorem lower_eq_iff {word s : String} (plain : ∀ c ∈ word.toList, isPlain c = true) :
    lower s = word ↔ InAnyCase word s := by
  rw [InAnyCase, lower, ← String.toList_inj, String.toList_ofList]
  constructor
  · intro h
    rw [← h] at plain
    rw [← lowerAfter_of_isPlain plain, h]
  · intro h
    rw [lowerAfter_of_ascii (lt_of_map_toLower h plain), h]

/-- The lower case of a text ends with a word of plain characters exactly when the text ends with that
word in any letter case. -/
theorem hasEnd_lower_iff {ending s : String} (plain : ∀ c ∈ ending.toList, isPlain c = true) :
    hasEnd ending (lower s) = true ↔ ∃ start last, s = start ++ last ∧ InAnyCase ending last := by
  rw [hasEnd_iff, lower, String.toList_ofList]
  constructor
  · rintro ⟨front, hfront⟩
    obtain ⟨last, ⟨start, hsplit⟩, hlower⟩ := exists_of_lowerAfter_eq_append hfront.symm plain
    refine ⟨String.ofList start, String.ofList last, ?_, ?_⟩
    · rw [← String.ofList_append, hsplit, String.ofList_toList]
    · rw [InAnyCase, String.toList_ofList, hlower]
  · rintro ⟨start, last, rfl, hlast⟩
    rw [String.toList_append]
    obtain ⟨front, hfront⟩ := lowerAfter_append [] start.toList last.toList
    rw [hfront, lowerAfter_of_ascii (lt_of_map_toLower hlast plain), hlast]
    exact List.suffix_append front ending.toList

end ClientGen.Text

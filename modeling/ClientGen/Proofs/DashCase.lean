import ClientGen.Proofs.Text.LowerCase

/-!
# What dash case leaves alone

Dash case changes letters, turns underscores into dashes and puts dashes between words. The marks
and digits before the capital A are none of these: they stay as they are and where they are, and no
letter becomes one of them, whatever its lower case is in Unicode. So a name has a slash exactly when
its dash case has one, and only two dots have the dash case of two dots. The NUL character does not
come from any other either.
-/

namespace ClientGen

/-- A mark or a digit that dash case leaves alone. -/
def isMark (c : Char) : Bool :=
  c != '\x00' && c != '-' && decide (c.toNat < 0x41)

/-- The capital A and the characters behind it are no marks. -/
theorem isMark_of_le {c : Char} (h : 0x41 ≤ c.toNat) : isMark c = false := by
  rw [isMark, decide_eq_false (Nat.not_lt.mpr h), Bool.and_false]

/-- A dash is no mark: dash case makes some. -/
theorem isMark_dash : isMark '-' = false := by
  simp [isMark]

/-- A text becomes another with the same marks in the same order, and with something other than a
mark exactly when it has such a thing itself. -/
structure KeepsMarks (cs ds : List Char) : Prop where
  /-- The marks are the same. -/
  filter : ds.filter isMark = cs.filter isMark
  /-- Marks alone come from marks alone. -/
  all : ds.all isMark = cs.all isMark

namespace KeepsMarks

/-- A text that stays as it is keeps its marks. -/
theorem refl (cs : List Char) : KeepsMarks cs cs :=
  ⟨rfl, rfl⟩

/-- Marks that are kept twice are kept. -/
theorem trans {cs ds es : List Char} (h : KeepsMarks cs ds) (h' : KeepsMarks ds es) :
    KeepsMarks cs es :=
  ⟨h'.filter.trans h.filter, h'.all.trans h.all⟩

/-- Texts that follow one another keep their marks together. -/
theorem append {cs ds cs' ds' : List Char} (h : KeepsMarks cs ds) (h' : KeepsMarks cs' ds') :
    KeepsMarks (cs ++ cs') (ds ++ ds') where
  filter := by rw [List.filter_append, List.filter_append, h.filter, h'.filter]
  all := by rw [List.all_append, List.all_append, h.all, h'.all]

/-- A character that is no mark becomes one or more that are none either. -/
theorem of_not_isMark {c d : Char} {ds : List Char} (hc : isMark c = false)
    (hds : ∀ e ∈ d :: ds, isMark e = false) : KeepsMarks [c] (d :: ds) where
  filter := by
    rw [List.filter_cons_of_neg (Bool.eq_false_iff.mp hc), List.filter_nil]
    exact List.filter_eq_nil_iff.mpr fun e he => Bool.eq_false_iff.mp (hds e he)
  all := by
    rw [List.all_cons, List.all_cons, hc, hds d List.mem_cons_self, Bool.false_and, Bool.false_and]

/-- A mark is in a text exactly when it was in the text that this comes from. -/
theorem mem_iff {cs ds : List Char} (h : KeepsMarks cs ds) {c : Char} (hc : isMark c = true) :
    c ∈ ds ↔ c ∈ cs := by
  have hkept {es : List Char} : c ∈ es ↔ c ∈ es.filter isMark := by
    rw [List.mem_filter, and_iff_left hc]
  rw [hkept, h.filter, ← hkept]

/-- Marks alone come from the same marks alone. -/
theorem eq_of_all {cs ds : List Char} (h : KeepsMarks cs ds) (hds : ds.all isMark = true) :
    cs = ds := by
  have hcs : cs.all isMark = true := h.all ▸ hds
  rw [← List.filter_eq_self.mpr (List.all_eq_true.mp hcs), ← h.filter,
    List.filter_eq_self.mpr (List.all_eq_true.mp hds)]

end KeepsMarks

/-! ### Lower case -/

namespace Text

/-- The character of a code point at or behind the capital A is no mark. -/
theorem isMark_ofNat {code : Nat} (h : 0x41 ≤ code) : isMark (Char.ofNat code) = false := by
  by_cases hvalid : code.isValidChar
  · have hcode : (Char.ofNat code).toNat = code := by
      rw [Char.ofNat, dif_pos hvalid]
      rfl
    apply isMark_of_le
    rwa [hcode]
  · rw [Char.ofNat, dif_neg hvalid]
    rfl

/-- The lower case of a character keeps marks. -/
theorem keepsMarks_lowerChar (c : Char) : KeepsMarks [c] [lowerChar c] := by
  rw [lowerChar]
  rcases lowerCode_cases c.toNat with hsame | ⟨hbig, hlower⟩
  · rw [hsame, Char.ofNat_toNat]
    exact .refl [c]
  · have hc := isMark_ofNat hbig
    rw [Char.ofNat_toNat] at hc
    exact .of_not_isMark hc (List.forall_mem_singleton.mpr (isMark_ofNat hlower))

/-- The lower case of a character at its place in a text keeps marks. -/
theorem keepsMarks_lowerAt (before : List Char) (c : Char) (after : List Char) :
    KeepsMarks [c] (lowerAt before c after) := by
  unfold lowerAt
  split
  · next hsigma =>
    subst hsigma
    split
    · exact .of_not_isMark (by simp [isMark]) (by simp [isMark])
    · exact .of_not_isMark (by simp [isMark]) (by simp [isMark])
  · split
    · next hdotted =>
      subst hdotted
      exact .of_not_isMark (by simp [isMark]) (by simp [isMark])
    · exact keepsMarks_lowerChar c

/-- The lower case of a text keeps marks, whatever comes before it. -/
theorem keepsMarks_lowerAfter (before cs : List Char) : KeepsMarks cs (lowerAfter before cs) := by
  induction cs generalizing before with
  | nil => exact .refl []
  | cons c rest ih =>
    rw [lowerAfter]
    exact (keepsMarks_lowerAt before c rest).append (ih (c :: before))

end Text

/-! ### Dash case -/

/-- Dashes between words are no marks, and the capitals behind them are none either. -/
theorem keepsMarks_dashWordsAfter (before : Char) (cs : List Char) :
    KeepsMarks cs (dashWordsAfter before cs) := by
  induction cs generalizing before with
  | nil => exact .refl []
  | cons c rest ih =>
    rw [dashWordsAfter]
    split
    · next hword =>
      have hupper : isAsciiUpper c = true := (Bool.and_eq_true_iff.mp hword).1
      have hc : isMark c = false :=
        isMark_of_le (of_decide_eq_true (Bool.and_eq_true_iff.mp hupper).1)
      have hdash : ∀ d ∈ ['-', c], isMark d = false :=
        List.forall_mem_cons.mpr ⟨isMark_dash, List.forall_mem_singleton.mpr hc⟩
      exact (KeepsMarks.of_not_isMark hc hdash).append (ih c)
    · exact KeepsMarks.append (.refl [c]) (ih c)

/-- Underscores that become dashes are no marks before or after. -/
theorem keepsMarks_replaceUnderscore (cs : List Char) :
    KeepsMarks cs (cs.map fun c => if c = '_' then '-' else c) := by
  induction cs with
  | nil => exact .refl []
  | cons c rest ih =>
    rw [List.map_cons]
    split
    · next hunderscore =>
      subst hunderscore
      have hdash : KeepsMarks ['_'] ['-'] :=
        .of_not_isMark (by simp [isMark]) (List.forall_mem_singleton.mpr isMark_dash)
      exact hdash.append ih
    · exact KeepsMarks.append (.refl [c]) ih

/-- Dash case keeps marks. -/
theorem keepsMarks_dashCase (name : String) : KeepsMarks name.toList (dashCase name).toList := by
  have hwords : KeepsMarks name.toList (dashWords name.toList) := by
    cases name.toList with
    | nil => exact .refl []
    | cons c rest => exact KeepsMarks.append (.refl [c]) (keepsMarks_dashWordsAfter c rest)
  rw [dashCase, Text.lower, Text.replaceChar, String.toList_ofList, String.toList_ofList,
    String.toList_ofList]
  exact (hwords.trans (keepsMarks_replaceUnderscore _)).trans (Text.keepsMarks_lowerAfter [] _)

/-- A mark is in the dash case of a name exactly when it is in the name. -/
theorem mem_dashCase_iff {name : String} {c : Char} (hc : isMark c = true) :
    c ∈ (dashCase name).toList ↔ c ∈ name.toList :=
  (keepsMarks_dashCase name).mem_iff hc

/-- Marks alone are the dash case of themselves alone. -/
theorem eq_of_dashCase_eq {name marks : String} (hmarks : marks.toList.all isMark = true)
    (h : dashCase name = marks) : name = marks := by
  subst h
  exact String.toList_inj.mp ((keepsMarks_dashCase name).eq_of_all hmarks)

/-! ### The NUL character -/

/-- Dashes are all that is put between the words of a name. -/
theorem mem_of_mem_dashWordsAfter {before c : Char} {cs : List Char} (hc : c ≠ '-')
    (h : c ∈ dashWordsAfter before cs) : c ∈ cs := by
  induction cs generalizing before with
  | nil => exact absurd h List.not_mem_nil
  | cons d rest ih =>
    rw [dashWordsAfter] at h
    split at h
    · simp only [List.mem_cons, hc, false_or] at h
      exact List.mem_cons.mpr (h.imp_right ih)
    · exact List.mem_cons.mpr ((List.mem_cons.mp h).imp_right ih)

/-- The dash case of a name has no NUL character that the name has not. -/
theorem nul_mem_of_dashCase {name : String} (h : '\x00' ∈ (dashCase name).toList) :
    '\x00' ∈ name.toList := by
  rw [dashCase, Text.lower, Text.replaceChar, String.toList_ofList, String.toList_ofList,
    String.toList_ofList] at h
  obtain ⟨c, hwords, hc⟩ := List.mem_map.mp (Text.mem_of_mem_lowerAfter (by decide) h)
  have hnul : c = '\x00' := by
    split at hc
    · cases hc
    · exact hc
  rw [hnul] at hwords
  cases hname : name.toList with
  | nil =>
    rw [hname] at hwords
    exact hwords
  | cons first rest =>
    rw [hname, dashWords] at hwords
    exact List.mem_cons.mpr
      ((List.mem_cons.mp hwords).imp_right (mem_of_mem_dashWordsAfter (by decide)))

end ClientGen

import ClientGen.DashCase
import Mathlib.Data.List.Infix

/-!
# Lower case

The lower case of a character is read from a table of ranges, and what is said of it here is checked
range by range. What is in lower case stays as it is, and no character before the small letters is the
lower case of another one.

The rest is about where a text can be cut so that its parts have their lower case on their own. Only
the capital sigma looks at what is around it, over all that case ignores, for a cased letter. A dash
is neither, so nothing looks past it: a text can be cut at every dash. Between two letters or digits
of ASCII nothing looks past either of them, so a text can be cut there too, and it makes no difference
whether a dash is put between them.
-/

namespace ClientGen.Text

/-! ### The lower case of a character -/

/-- Does a range of letters `(first, last, step, shift)` hold a code point? -/
def Holds (range : Nat × Nat × Nat × Int) (code : Nat) : Prop :=
  range.1 ≤ code ∧ code ≤ range.2.1 ∧ (code - range.1) % range.2.2.1 = 0

/-- A code point is moved by the shift of a range that holds it, or left alone when there is none. -/
theorem lowerCode_outcome (code : Nat) :
    (lowerCode code = code ∧ ∀ entry ∈ lowerShifts, ¬Holds entry code) ∨
      ∃ entry ∈ lowerShifts, Holds entry code ∧ lowerCode code = (code + entry.2.2.2).toNat := by
  unfold lowerCode
  split
  · next first last step shift hfind =>
    have hrange := List.find?_some hfind
    simp only [Bool.and_eq_true, decide_eq_true_eq, beq_iff_eq] at hrange
    exact .inr ⟨_, List.mem_of_find?_eq_some hfind, ⟨hrange.1.1, hrange.1.2, hrange.2⟩, rfl⟩
  · next hfind =>
    refine .inl ⟨rfl, fun entry hentry hholds => List.find?_eq_none.mp hfind entry hentry ?_⟩
    simpa [Holds, and_assoc] using hholds

/-- Of all letters with another lower case, only the capitals are in ASCII, and of the others only the
Kelvin sign has one in ASCII. -/
theorem lowerShifts_ascii :
    ∀ entry ∈ lowerShifts, entry = (0x41, 0x5a, 1, 32) ∨
      0x80 ≤ entry.1 ∧ (entry = (0x212a, 0x212a, 1, -8383) ∨
        (0x80 : Int) ≤ entry.1 + entry.2.2.2) := by
  decide +kernel

/-- Every range of letters with another lower case begins at or behind the capital A, and so do the
letters that it is mapped to. -/
theorem lowerShifts_bounds :
    ∀ entry ∈ lowerShifts, 0x41 ≤ entry.1 ∧ (0x41 : Int) ≤ entry.1 + entry.2.2.2 := by
  intro entry hentry
  rcases lowerShifts_ascii entry hentry with rfl | ⟨hbig, rfl | hshift⟩
  · decide
  · decide
  · omega

/-- A code point is its own lower case, unless both are at or behind the capital A. -/
theorem lowerCode_cases (code : Nat) :
    lowerCode code = code ∨ 0x41 ≤ code ∧ 0x41 ≤ lowerCode code := by
  rcases lowerCode_outcome code with ⟨hsame, -⟩ | ⟨entry, hentry, ⟨hfirst, -, -⟩, hlower⟩
  · exact .inl hsame
  · obtain ⟨hbig, hshift⟩ := lowerShifts_bounds entry hentry
    right
    omega

/-- Every range of letters is mapped to code points of characters, none of them the NUL character. -/
theorem lowerShifts_valid :
    ∀ entry ∈ lowerShifts, (0 : Int) < entry.1 + entry.2.2.2 ∧
      (entry.2.1 + entry.2.2.2 < (0xd800 : Int) ∨
        (0xdfff : Int) < entry.1 + entry.2.2.2 ∧ entry.2.1 + entry.2.2.2 < (0x110000 : Int)) := by
  decide +kernel

/-- The lower case of the code point of a character is the code point of a character. -/
theorem isValidChar_lowerCode {code : Nat} (h : code.isValidChar) :
    (lowerCode code).isValidChar := by
  rcases lowerCode_outcome code with ⟨hsame, -⟩ | ⟨entry, hentry, ⟨hfirst, hlast, -⟩, hlower⟩
  · rwa [hsame]
  · obtain ⟨hpos, hvalid⟩ := lowerShifts_valid entry hentry
    unfold Nat.isValidChar
    omega

/-- The code point of a character's lower case is the lower case of its code point. -/
theorem toNat_lowerChar (c : Char) : (lowerChar c).toNat = lowerCode c.toNat := by
  have hvalid : (lowerCode c.toNat).isValidChar := isValidChar_lowerCode c.valid
  rw [lowerChar, Char.ofNat, dif_pos hvalid]
  rfl

/-- The lower case of a code point beyond ASCII is beyond ASCII too, or a small `k`. -/
theorem lowerCode_of_le {code : Nat} (h : 0x80 ≤ code) :
    0x80 ≤ lowerCode code ∨ lowerCode code = 0x6b := by
  rcases lowerCode_outcome code with ⟨hsame, -⟩ | ⟨entry, hentry, ⟨hfirst, hlast, -⟩, hlower⟩
  · rw [hsame]
    exact .inl h
  · rcases lowerShifts_ascii entry hentry with rfl | ⟨-, rfl | hbig⟩
    · simp only at hlast
      omega
    · simp only at hfirst hlast hlower
      omega
    · omega

/-- In ASCII, the lower case of a capital is 32 code points behind it. -/
theorem lowerCode_of_lt {code : Nat} (h : code < 0x80) :
    lowerCode code = if 0x41 ≤ code ∧ code ≤ 0x5a then code + 32 else code := by
  rcases lowerCode_outcome code with ⟨hsame, hnone⟩ | ⟨entry, hentry, ⟨hfirst, hlast, -⟩, hlower⟩
  · have hcapitals : (0x41, 0x5a, 1, 32) ∈ lowerShifts := List.mem_cons_self
    have hother : ¬(0x41 ≤ code ∧ code ≤ 0x5a) := fun ⟨hle, hge⟩ =>
      hnone _ hcapitals ⟨hle, hge, Nat.mod_one _⟩
    rw [hsame, if_neg hother]
  · rcases lowerShifts_ascii entry hentry with rfl | ⟨hbig, -⟩
    · rw [hlower, if_pos ⟨hfirst, hlast⟩]
      rfl
    · omega

/-! ### What is in lower case -/

/-- The ranges of all letters with another lower case. The capital I with a dot above has two characters
as its lower case, so the table of shifts leaves it out. -/
def capitalRanges : List (Nat × Nat × Nat × Int) :=
  (0x130, 0x130, 1, 0) :: lowerShifts

/-- The first multiples of a number, as the bits of a number. -/
def multiples (step : Nat) : Nat → Nat
  | 0 => 0
  | count + 1 => multiples step count <<< step ||| 1

/-- The first multiples are among these bits. -/
theorem testBit_multiples (step : Nat) {count k : Nat} (h : k < count) :
    (multiples step count).testBit (step * k) = true := by
  induction count generalizing k with
  | zero => contradiction
  | succ count ih =>
    rw [multiples, Nat.testBit_or, Nat.testBit_shiftLeft]
    cases k with
    | zero => simp
    | succ k =>
      have hle : step ≤ step * (k + 1) := Nat.le_mul_of_pos_right step (Nat.succ_pos k)
      rw [Nat.mul_succ, Nat.add_sub_cancel, ih (Nat.lt_of_succ_lt_succ h)]
      simp

/-- The code points that some ranges hold, each range moved to a new start, as the bits of a number.
Whole tables are compared at once in this form. -/
def bitsAt (start : Nat × Nat × Nat × Int → Nat) (ranges : List (Nat × Nat × Nat × Int)) : Nat :=
  ranges.foldr (fun range bits =>
    bits ||| multiples range.2.2.1 ((range.2.1 - range.1) / range.2.2.1 + 1) <<< start range) 0

/-- What a range holds is among the bits, as far behind the new start as it is behind the old one. -/
theorem testBit_bitsAt (start : Nat × Nat × Nat × Int → Nat)
    {ranges : List (Nat × Nat × Nat × Int)} {range : Nat × Nat × Nat × Int} {code : Nat}
    (hrange : range ∈ ranges) (h : Holds range code) :
    (bitsAt start ranges).testBit (start range + (code - range.1)) = true := by
  induction ranges with
  | nil => contradiction
  | cons first rest ih =>
    rw [bitsAt, List.foldr_cons, ← bitsAt, Nat.testBit_or]
    rcases List.mem_cons.mp hrange with rfl | hrest
    · obtain ⟨hfirst, hlast, hstep⟩ := h
      have hcount : (code - range.1) / range.2.2.1 < (range.2.1 - range.1) / range.2.2.1 + 1 :=
        Nat.lt_succ_of_le (Nat.div_le_div_right (Nat.sub_le_sub_right hlast _))
      have hbit := testBit_multiples range.2.2.1 hcount
      rw [Nat.mul_div_cancel' (Nat.dvd_of_mod_eq_zero hstep)] at hbit
      rw [Nat.testBit_shiftLeft, Nat.add_sub_cancel_left, hbit]
      simp
    · rw [ih hrest, Bool.true_or]

/-- No letter with another lower case is the lower case of a letter. -/
theorem disjoint_lowerShifts :
    bitsAt (fun entry => (entry.1 + entry.2.2.2).toNat) lowerShifts &&&
      bitsAt (·.1) capitalRanges = 0 := by
  decide +kernel

/-- The lower case of a letter is in no range of letters with another lower case. -/
theorem not_holds_lowerCode {code : Nat} (h : code ≠ 0x130) :
    ∀ range ∈ capitalRanges, ¬Holds range (lowerCode code) := by
  intro range hrange
  rcases lowerCode_outcome code with ⟨hsame, hnone⟩ | ⟨entry, hentry, hold, hlower⟩
  · rw [hsame]
    rcases List.mem_cons.mp hrange with rfl | hrange
    · rintro ⟨hle, hge, -⟩
      exact h (Nat.le_antisymm hge hle)
    · exact hnone range hrange
  · intro hholds
    obtain ⟨-, hbig⟩ := lowerShifts_bounds entry hentry
    have hfirst : entry.1 ≤ code := hold.1
    have hmoved : (entry.1 + entry.2.2.2).toNat + (code - entry.1) = lowerCode code := by omega
    have hsame : range.1 + (lowerCode code - range.1) = lowerCode code :=
      Nat.add_sub_cancel' hholds.1
    have hsmall := testBit_bitsAt (fun entry => (entry.1 + entry.2.2.2).toNat) hentry hold
    have hcapital := testBit_bitsAt (·.1) hrange hholds
    rw [hmoved] at hsmall
    rw [hsame] at hcapital
    have hboth := congrArg (Nat.testBit · (lowerCode code)) disjoint_lowerShifts
    simp [hsmall, hcapital] at hboth

/-- A character is in lower case: it is its own lower case, and it is not the capital I with a dot above,
which has two characters. -/
def IsLowered (c : Char) : Prop :=
  c ≠ 'İ' ∧ lowerChar c = c

/-- The lower case of a character is in lower case. -/
theorem isLowered_lowerChar {c : Char} (h : c ≠ 'İ') : IsLowered (lowerChar c) := by
  have hcode : c.toNat ≠ 0x130 := fun heq => h (Char.toNat_inj.mp heq)
  have hnone := not_holds_lowerCode hcode
  rw [← toNat_lowerChar] at hnone
  constructor
  · intro hdotted
    refine hnone _ List.mem_cons_self ?_
    rw [hdotted]
    exact ⟨Nat.le_refl _, Nat.le_refl _, rfl⟩
  · rcases lowerCode_outcome (lowerChar c).toNat with ⟨hsame, -⟩ | ⟨entry, hentry, hholds, -⟩
    · rw [lowerChar, hsame, Char.ofNat_toNat]
    · exact absurd hholds (hnone entry (List.mem_cons_of_mem _ hentry))

/-- Every character has some lower case. -/
theorem lowerAt_ne_nil (before : List Char) (c : Char) (after : List Char) :
    lowerAt before c after ≠ [] := by
  unfold lowerAt
  split
  · exact List.cons_ne_nil _ _
  · split <;> exact List.cons_ne_nil _ _

/-- The code points of the two small sigmas, of the small i and the dot above it, and of the dash. -/
def specialCodes : List Nat :=
  [0x3c3, 0x3c2, 0x69, 0x307, 0x2d]

/-- They are their own lower case, and the capital sigma is not. -/
theorem lowerCode_special :
    (∀ code ∈ specialCodes, lowerCode code = code) ∧ lowerCode 0x3a3 ≠ 0x3a3 := by
  decide

/-- The characters with these code points are in lower case. -/
theorem isLowered_special {c : Char} (h : c.toNat ∈ specialCodes) : IsLowered c := by
  constructor
  · rintro rfl
    exact absurd h (by decide)
  · rw [lowerChar, lowerCode_special.1 c.toNat h, Char.ofNat_toNat]

/-- The lower case of a character at its place in a text is in lower case. -/
theorem isLowered_of_mem_lowerAt {before after : List Char} {c d : Char}
    (h : d ∈ lowerAt before c after) : IsLowered d := by
  unfold lowerAt at h
  split at h
  · split at h <;> (rw [List.mem_singleton.mp h]; exact isLowered_special (by decide))
  · split at h
    · rcases List.mem_pair.mp h with rfl | rfl <;> exact isLowered_special (by decide)
    · next hdotted =>
      rw [List.mem_singleton.mp h]
      exact isLowered_lowerChar hdotted

/-- The lower case of a text is in lower case. -/
theorem isLowered_of_mem_lowerAfter {before cs : List Char} {d : Char}
    (h : d ∈ lowerAfter before cs) : IsLowered d := by
  induction cs generalizing before with
  | nil => exact absurd h List.not_mem_nil
  | cons c rest ih =>
    rw [lowerAfter, List.mem_append] at h
    exact h.elim isLowered_of_mem_lowerAt ih

/-- What is in lower case stays as it is at its place in a text. -/
theorem IsLowered.lowerAt {c : Char} (h : IsLowered c) (before after : List Char) :
    lowerAt before c after = [c] := by
  have hsigma : c ≠ 'Σ' := by
    rintro rfl
    have hcode := toNat_lowerChar 'Σ'
    rw [h.2] at hcode
    exact lowerCode_special.2 hcode.symm
  rw [Text.lowerAt, if_neg hsigma, if_neg h.1, h.2]

/-- A text in lower case stays as it is. -/
theorem lowerAfter_of_isLowered {before cs : List Char} (h : ∀ c ∈ cs, IsLowered c) :
    lowerAfter before cs = cs := by
  induction cs generalizing before with
  | nil => rfl
  | cons c rest ih =>
    obtain ⟨hc, hrest⟩ := List.forall_mem_cons.mp h
    rw [lowerAfter, hc.lowerAt, ih hrest]
    rfl

/-- No ASCII capital is in lower case. -/
theorem IsLowered.not_isAsciiUpper {c : Char} (h : IsLowered c) : isAsciiUpper c = false := by
  by_contra hupper
  obtain ⟨hlow, hhigh⟩ := Bool.and_eq_true_iff.mp (Bool.not_eq_false _ ▸ hupper)
  have hlow : 0x41 ≤ c.toNat := of_decide_eq_true hlow
  have hhigh : c.toNat ≤ 0x5a := of_decide_eq_true hhigh
  have hcode := toNat_lowerChar c
  rw [h.2, lowerCode_of_lt (by omega), if_pos ⟨hlow, hhigh⟩] at hcode
  omega

/-- No character before the small letters is the lower case of another one. -/
theorem eq_of_lowerChar_eq {c d : Char} (hd : d.toNat < 0x61) (h : lowerChar c = d) : c = d := by
  have hcode := toNat_lowerChar c
  rw [h] at hcode
  have hascii : c.toNat < 0x80 := by
    by_contra hbig
    have := lowerCode_of_le (Nat.le_of_not_lt hbig)
    omega
  rw [lowerCode_of_lt hascii] at hcode
  split at hcode
  · omega
  · exact (Char.toNat_inj.mp hcode).symm

/-- A character before the small letters comes from itself. -/
theorem eq_of_mem_lowerAt {before after : List Char} {c d : Char} (hd : d.toNat < 0x61)
    (h : d ∈ lowerAt before c after) : c = d := by
  unfold lowerAt at h
  split at h
  · split at h <;> (rw [List.mem_singleton.mp h] at hd; exact absurd hd (by decide))
  · split at h
    · rcases List.mem_pair.mp h with rfl | rfl <;> exact absurd hd (by decide)
    · exact eq_of_lowerChar_eq hd (List.mem_singleton.mp h).symm

/-- The lower case of a text has no character before the small letters that the text has not. -/
theorem mem_of_mem_lowerAfter {before cs : List Char} {d : Char} (hd : d.toNat < 0x61)
    (h : d ∈ lowerAfter before cs) : d ∈ cs := by
  induction cs generalizing before with
  | nil => exact absurd h List.not_mem_nil
  | cons c rest ih =>
    rw [lowerAfter, List.mem_append] at h
    rcases h with h | h
    · exact List.mem_cons.mpr (.inl (eq_of_mem_lowerAt hd h).symm)
    · exact List.mem_cons_of_mem c (ih h)

/-! ### Where a text can be cut -/

/-- Does case ignore a character when it looks for letters around a sigma? -/
def isIgnored (c : Char) : Bool :=
  inRanges caseIgnorableRanges c.toNat

/-- A letter or a digit of ASCII. -/
def isAsciiWord (c : Char) : Bool :=
  isAsciiLower c || isAsciiUpper c || isAsciiDigit c

/-- Of the ASCII characters, case ignores only marks. -/
theorem caseIgnorableRanges_ascii :
    ∀ range ∈ caseIgnorableRanges, range.1 = range.2 ∧ range.1 ∈ [0x27, 0x2e, 0x3a, 0x5e, 0x60] ∨
      0x80 ≤ range.1 := by
  decide +kernel

/-- The code points of the letters and digits of ASCII. -/
theorem code_of_isAsciiWord {c : Char} (h : isAsciiWord c = true) :
    0x30 ≤ c.toNat ∧ c.toNat ≤ 0x39 ∨ 0x41 ≤ c.toNat ∧ c.toNat ≤ 0x5a ∨
      0x61 ≤ c.toNat ∧ c.toNat ≤ 0x7a := by
  simp only [isAsciiWord, isAsciiLower, isAsciiUpper, isAsciiDigit, Bool.or_eq_true,
    Bool.and_eq_true, decide_eq_true_eq] at h
  rcases h with (hlower | hupper) | hdigit
  · exact .inr (.inr hlower)
  · exact .inr (.inl hupper)
  · exact .inl hdigit

/-- Case does not ignore the other ASCII characters. -/
theorem isIgnored_of_lt {c : Char} (h : c.toNat < 0x80)
    (hmark : c.toNat ∉ [0x27, 0x2e, 0x3a, 0x5e, 0x60]) : isIgnored c = false := by
  by_contra hignored
  obtain ⟨range, hrange, hin⟩ := List.any_eq_true.mp (Bool.not_eq_false _ ▸ hignored)
  simp only [Bool.and_eq_true, decide_eq_true_eq] at hin
  rcases caseIgnorableRanges_ascii range hrange with ⟨hone, hmem⟩ | hbig
  · have hsame : c.toNat = range.1 := by omega
    exact hmark (hsame ▸ hmem)
  · omega

/-- Case does not ignore the letters and digits of ASCII. -/
theorem isIgnored_of_isAsciiWord {c : Char} (h : isAsciiWord c = true) : isIgnored c = false := by
  have hcode := code_of_isAsciiWord h
  refine isIgnored_of_lt (by omega) ?_
  simp only [List.mem_cons, List.not_mem_nil, or_false]
  omega

/-- The capital sigma is none of them. -/
theorem ne_sigma_of_isAsciiWord {c : Char} (h : isAsciiWord c = true) : c ≠ 'Σ' := by
  rintro rfl
  exact absurd h (by decide)

/-- The search for a cased letter stops at the first character that is not ignored. -/
theorem nextIsCased_cons (c : Char) (cs : List Char) :
    nextIsCased (c :: cs) =
      if isIgnored c then nextIsCased cs else inRanges casedRanges c.toNat := by
  unfold nextIsCased isIgnored
  rw [List.dropWhile_cons]
  by_cases h : inRanges caseIgnorableRanges c.toNat = true
  · rw [if_pos h, if_pos h]
  · rw [if_neg h, if_neg h]

/-- The search does not get past what is not ignored. -/
theorem nextIsCased_append_of_mem {cs ds : List Char} (h : ∃ c ∈ cs, isIgnored c = false) :
    nextIsCased (cs ++ ds) = nextIsCased cs := by
  induction cs with
  | nil =>
    obtain ⟨c, hc, -⟩ := h
    exact absurd hc List.not_mem_nil
  | cons c rest ih =>
    rw [List.cons_append, nextIsCased_cons, nextIsCased_cons]
    cases hc : isIgnored c with
    | false => rfl
    | true =>
      obtain ⟨d, hd, hstop⟩ := h
      have hrest : d ∈ rest := (List.mem_cons.mp hd).resolve_left fun heq => by simp_all
      exact ih ⟨d, hrest, hstop⟩

/-- Where the search would find nothing, the text may as well end. -/
theorem nextIsCased_append_of_eq_false {cs ds : List Char} (h : nextIsCased ds = false) :
    nextIsCased (cs ++ ds) = nextIsCased cs := by
  induction cs with
  | nil => exact h
  | cons c rest ih => rw [List.cons_append, nextIsCased_cons, nextIsCased_cons, ih]

/-- What comes before a text matters only by the search from its end. -/
theorem lowerAfter_congr {before before' : List Char} (cs : List Char)
    (h : nextIsCased before = nextIsCased before') :
    lowerAfter before cs = lowerAfter before' cs := by
  induction cs generalizing before before' with
  | nil => rfl
  | cons c rest ih =>
    have hcons : nextIsCased (c :: before) = nextIsCased (c :: before') := by
      rw [nextIsCased_cons, nextIsCased_cons, h]
    rw [lowerAfter, lowerAfter, ih hcons, lowerAt, lowerAt, h]

/-- A text has its lower case on its own when the search does not go on from a sigma in it to what
follows. -/
theorem lowerAfter_append_of_forall {before cs ds : List Char}
    (h : ∀ rest, 'Σ' :: rest <:+ cs → nextIsCased (rest ++ ds) = nextIsCased rest) :
    lowerAfter before (cs ++ ds) =
      lowerAfter before cs ++ lowerAfter (cs.reverse ++ before) ds := by
  induction cs generalizing before with
  | nil => rfl
  | cons c rest ih =>
    have hc : lowerAt before c (rest ++ ds) = lowerAt before c rest := by
      by_cases hsigma : c = 'Σ'
      · rw [lowerAt, lowerAt, h rest (hsigma ▸ List.suffix_rfl)]
      · rw [lowerAt, lowerAt, if_neg hsigma, if_neg hsigma]
    rw [List.cons_append, lowerAfter, lowerAfter, hc,
      ih fun rest' hrest => h rest' (hrest.trans (List.suffix_cons c rest)),
      List.reverse_cons, List.append_assoc, List.append_assoc, List.singleton_append]

/-- A dash is in lower case. -/
theorem isLowered_dash : IsLowered '-' :=
  isLowered_special (by decide)

/-- Behind a dash no cased letter is found. -/
theorem nextIsCased_dash (cs : List Char) : nextIsCased ('-' :: cs) = nextIsCased [] := by
  have hignored : isIgnored '-' = false := isIgnored_of_lt (by decide) (by decide)
  have hcased : inRanges casedRanges '-'.toNat = false := by decide
  rw [nextIsCased_cons, hignored, hcased]
  rfl

/-- A text has its lower case on its own before a dash, and another one behind it. -/
theorem lowerAfter_append_dash (before cs ds : List Char) :
    lowerAfter before (cs ++ '-' :: ds) = lowerAfter before cs ++ '-' :: lowerAfter [] ds := by
  rw [lowerAfter_append_of_forall fun rest _ => nextIsCased_append_of_eq_false (nextIsCased_dash ds),
    lowerAfter, lowerAfter_congr ds (nextIsCased_dash _), isLowered_dash.lowerAt]
  rfl

/-- Every dash in the lower case of a text cuts the text. -/
theorem exists_of_lowerAfter_eq_append_dash {before cs start rest : List Char}
    (h : lowerAfter before cs = start ++ '-' :: rest) :
    ∃ first second, cs = first ++ '-' :: second ∧ lowerAfter before first = start ∧
      lowerAfter [] second = rest := by
  induction cs generalizing before start with
  | nil => simp [lowerAfter] at h
  | cons c cs ih =>
    rw [lowerAfter] at h
    have hlater (start' : List Char) (hcs : lowerAfter (c :: before) cs = start' ++ '-' :: rest) :
        ∃ first second, c :: cs = first ++ '-' :: second ∧ lowerAfter before first = start ∧
          lowerAfter [] second = rest := by
      obtain ⟨first, second, rfl, -, hsecond⟩ := ih hcs
      refine ⟨c :: first, second, rfl, ?_, hsecond⟩
      -- both stand before the same rest
      have hcut := lowerAfter_append_dash before (c :: first) second
      rw [List.cons_append, lowerAfter, h, hsecond] at hcut
      exact (List.append_cancel_right hcut).symm
    rcases List.append_eq_append_iff.mp h with ⟨start', -, hcs⟩ | ⟨last, hc, hcs⟩
    · exact hlater start' hcs
    · cases last with
      | nil => exact hlater [] hcs.symm
      | cons d last =>
        rw [List.cons_append] at hcs
        obtain ⟨rfl, hrest⟩ := List.cons_eq_cons.mp hcs
        have hdash : c = '-' :=
          eq_of_mem_lowerAt (by decide) (hc ▸ List.mem_append_right start List.mem_cons_self)
        rw [hdash, isLowered_dash.lowerAt, List.singleton_eq_append_iff] at hc
        obtain ⟨rfl, hlast⟩ : start = [] ∧ '-' :: last = ['-'] :=
          hc.resolve_right fun hnil => List.cons_ne_nil _ _ hnil.2
        obtain rfl : last = [] := (List.cons_eq_cons.mp hlast).2
        refine ⟨[], cs, by rw [hdash, List.nil_append], rfl, ?_⟩
        rw [hrest, hdash, List.nil_append, lowerAfter_congr cs (nextIsCased_dash before)]

/-- Two letters or digits of ASCII that follow one another: a text has its lower case on its own up to
between them, and so has what follows. -/
theorem lowerAfter_append_of_isAsciiWord {before cs ds : List Char} {c d : Char}
    (hc : isAsciiWord c = true) (hd : isAsciiWord d = true) :
    lowerAfter before (cs ++ c :: d :: ds) =
      lowerAfter before (cs ++ [c]) ++ lowerAfter [] (d :: ds) := by
  have hstop (rest : List Char) (hrest : 'Σ' :: rest <:+ cs ++ [c]) :
      nextIsCased (rest ++ d :: ds) = nextIsCased rest := by
    obtain ⟨front, hfront⟩ := hrest
    have hlast : ('Σ' :: rest).getLast? = some c := by
      rw [← List.getLast?_append_of_ne_nil front (List.cons_ne_nil _ _), hfront,
        List.getLast?_append_of_ne_nil cs (List.cons_ne_nil _ _), List.getLast?_singleton]
    have hmem : c ∈ rest :=
      (List.mem_cons.mp (List.mem_of_getLast? hlast)).resolve_left (ne_sigma_of_isAsciiWord hc)
    exact nextIsCased_append_of_mem ⟨c, hmem, isIgnored_of_isAsciiWord hc⟩
  have hstart (before' : List Char) : lowerAfter before' (d :: ds) = lowerAfter [] (d :: ds) := by
    have hback : nextIsCased (d :: before') = nextIsCased [d] := by
      rw [nextIsCased_cons, nextIsCased_cons, isIgnored_of_isAsciiWord hd]
      rfl
    rw [lowerAfter, lowerAfter, lowerAfter_congr ds hback, lowerAt, lowerAt,
      if_neg (ne_sigma_of_isAsciiWord hd), if_neg (ne_sigma_of_isAsciiWord hd)]
  rw [List.append_cons, lowerAfter_append_of_forall hstop, hstart]

end ClientGen.Text

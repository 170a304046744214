import ClientGen.Proofs.Text.LowerCase

/-!
# Where dash case has dashes

A name is cut in two at a dash or an underscore, which goes, and before a capital that starts a word,
where nothing goes. The dash case of a name has a dash exactly where the name is cut, between the dash
cases of the two parts: no part looks into the other one, neither for the start of a word nor for the
lower case of a sigma. What is known of the dashes follows from this. They are all that dash case adds,
and two of them stand together only where the name has two dashes or underscores together.
-/

namespace ClientGen

open Text

/-- A dash or an underscore: both part words already. -/
def isSeparator (c : Char) : Bool :=
  c == '-' || c == '_'

/-- A text that follows the character `before` is cut in two at a separator or before a word. -/
inductive Cut (before : Char) : List Char → List Char → List Char → Prop where
  /-- At a separator, which is in neither part. -/
  | separator (first second : List Char) {c : Char} (hc : isSeparator c = true) :
    Cut before (first ++ c :: second) first second
  /-- Before a word. -/
  | word (first second : List Char) {c : Char}
    (hc : startsWord (first.getLastD before) c second.head? = true) :
    Cut before (first ++ c :: second) first (c :: second)

/-- A text with dashes in the place of underscores. -/
def withDashes (cs : List Char) : List Char :=
  cs.map fun c => if c = '_' then '-' else c

/-- The characters of a name in dash case. -/
def dashed (cs : List Char) : List Char :=
  lowerAfter [] (withDashes (dashWords cs))

/-- A name in dash case consists of these characters. -/
theorem toList_dashCase (name : String) : (dashCase name).toList = dashed name.toList := by
  rw [dashCase, lower, replaceChar, String.toList_ofList, String.toList_ofList,
    String.toList_ofList, dashed, withDashes]

/-! ### Separators and words -/

/-- A separator is no letter and no digit. -/
theorem not_isAsciiWord_of_isSeparator {c : Char} (h : isSeparator c = true) :
    isAsciiWord c = false := by
  simp only [isSeparator, Bool.or_eq_true, beq_iff_eq] at h
  rcases h with rfl | rfl <;> decide

/-- Separators are what there is a dash for. -/
theorem isSeparator_iff {c : Char} : isSeparator c = true ↔ (if c = '_' then '-' else c) = '-' := by
  rw [isSeparator, Bool.or_eq_true, beq_iff_eq, beq_iff_eq]
  split
  · simp_all
  · simp_all

/-- A word starts between two letters or digits, the second one a capital. -/
theorem of_startsWord {before c : Char} {after : Option Char}
    (h : startsWord before c after = true) :
    isAsciiWord before = true ∧ isAsciiWord c = true ∧ isAsciiUpper c = true := by
  simp only [startsWord, isAsciiWord, Bool.and_eq_true, Bool.or_eq_true] at h ⊢
  tauto

/-- What starts a word is no small letter. -/
theorem not_isAsciiLower_of_startsWord {before c : Char} {after : Option Char}
    (h : startsWord before c after = true) : isAsciiLower c = false := by
  by_contra hlower
  have hupper := Bool.and_eq_true_iff.mp (of_startsWord h).2.2
  have hlower := Bool.and_eq_true_iff.mp (Bool.not_eq_false _ ▸ hlower)
  have hlast : c.toNat ≤ 0x5a := of_decide_eq_true hupper.2
  have hfirst : 0x61 ≤ c.toNat := of_decide_eq_true hlower.1
  omega

/-- What starts a word is no separator. -/
theorem not_isSeparator_of_startsWord {before c : Char} {after : Option Char}
    (h : startsWord before c after = true) : isSeparator c = false := by
  by_contra hc
  rw [Bool.not_eq_false] at hc
  have hword := (of_startsWord h).2.1
  rw [not_isAsciiWord_of_isSeparator hc] at hword
  cases hword

/-- No word starts behind what is no letter and no digit. -/
theorem startsWord_of_not_isAsciiWord {before : Char} (h : isAsciiWord before = false) (c : Char)
    (after : Option Char) : startsWord before c after = false := by
  by_contra hword
  rw [Bool.not_eq_false] at hword
  rw [(of_startsWord hword).1] at h
  cases h

/-- No word starts behind a dash. -/
theorem startsWord_dash (c : Char) (after : Option Char) : startsWord '-' c after = false :=
  startsWord_of_not_isAsciiWord (by decide) c after

/-- What comes later matters for the start of a word only when it is a small letter. -/
theorem startsWord_append (before c : Char) (cs ds : List Char) {d : Char}
    (hd : isAsciiLower d = false) :
    startsWord before c (cs ++ d :: ds).head? = startsWord before c cs.head? := by
  cases cs with
  | nil => simp [startsWord, hd]
  | cons e cs => rfl

/-! ### Words and separators of a cut text -/

/-- Behind what is no letter and no digit the words are those of a new name. -/
theorem dashWordsAfter_of_not_isAsciiWord {before : Char} (h : isAsciiWord before = false)
    (cs : List Char) : dashWordsAfter before cs = dashWords cs := by
  cases cs with
  | nil => rfl
  | cons c rest =>
    rw [dashWordsAfter, startsWord_of_not_isAsciiWord h, if_neg Bool.false_ne_true, dashWords]

/-- The words up to a character that is no small letter do not depend on it. -/
theorem dashWordsAfter_append (before : Char) (cs ds : List Char) {d : Char}
    (hd : isAsciiLower d = false) :
    dashWordsAfter before (cs ++ d :: ds) =
      dashWordsAfter before cs ++ dashWordsAfter (cs.getLastD before) (d :: ds) := by
  induction cs generalizing before with
  | nil => rfl
  | cons c rest ih =>
    rw [List.cons_append, dashWordsAfter, dashWordsAfter, startsWord_append before c rest ds hd, ih,
      List.getLastD_cons]
    split <;> rfl

namespace Cut

variable {before : Char} {cs first second : List Char}

/-- A text is cut like what it ends with. -/
theorem cons {c : Char} (h : Cut c cs first second) : Cut before (c :: cs) (c :: first) second := by
  cases h with
  | separator first second hd => exact .separator (c :: first) second hd
  | word first second hd =>
    refine .word (c :: first) second ?_
    rwa [List.getLastD_cons]

/-- A cut text has a dash where it is cut, between the words of its parts. -/
theorem withDashes_dashWordsAfter (h : Cut before cs first second) :
    withDashes (dashWordsAfter before cs) =
      withDashes (dashWordsAfter before first) ++ '-' :: withDashes (dashWords second) := by
  cases h with
  | @separator first second c hc =>
    have hword := not_isAsciiWord_of_isSeparator hc
    have hlower : isAsciiLower c = false := by
      simp only [isAsciiWord, Bool.or_eq_false_iff] at hword
      exact hword.1.1
    have hstart (last : Char) : ¬startsWord last c second.head? = true := fun hstart => by
      rw [not_isSeparator_of_startsWord hstart] at hc
      cases hc
    rw [dashWordsAfter_append before first second hlower, dashWordsAfter, if_neg (hstart _),
      dashWordsAfter_of_not_isAsciiWord hword, withDashes, List.map_append, List.map_cons,
      isSeparator_iff.mp hc]
    rfl
  | word first second hc =>
    rw [dashWordsAfter_append before first second (not_isAsciiLower_of_startsWord hc),
      dashWordsAfter, if_pos hc, withDashes, List.map_append]
    rfl

end Cut

/-- Every dash between the words of a text cuts the text. -/
theorem exists_cut_of_dashWordsAfter {before : Char} {cs start rest : List Char}
    (h : withDashes (dashWordsAfter before cs) = start ++ '-' :: rest) :
    ∃ first second, Cut before cs first second ∧
      withDashes (dashWordsAfter before first) = start ∧ withDashes (dashWords second) = rest := by
  induction cs generalizing before start with
  | nil => simp [dashWordsAfter, withDashes] at h
  | cons c cs ih =>
    have hlater (start' : List Char)
        (hcs : withDashes (dashWordsAfter c cs) = start' ++ '-' :: rest) :
        ∃ first second, Cut before (c :: cs) first second ∧
          withDashes (dashWordsAfter before first) = start ∧
          withDashes (dashWords second) = rest := by
      obtain ⟨first, second, hcut, -, hsecond⟩ := ih hcs
      have hcut : Cut before (c :: cs) (c :: first) second := hcut.cons
      refine ⟨c :: first, second, hcut, ?_, hsecond⟩
      -- both stand before the same rest
      have hwhole := hcut.withDashes_dashWordsAfter
      rw [h, hsecond] at hwhole
      exact (List.append_cancel_right hwhole).symm
    rw [dashWordsAfter] at h
    split at h
    · next hword =>
      have hc : (if c = '_' then '-' else c) ≠ '-' := fun hdash => by
        have hsep := isSeparator_iff.mpr hdash
        rw [not_isSeparator_of_startsWord hword] at hsep
        cases hsep
      rw [withDashes, List.map_cons, List.map_cons] at h
      rcases List.cons_eq_append_iff.mp h with ⟨rfl, hrest⟩ | ⟨start', -, h⟩
      · refine ⟨[], c :: cs, .word [] cs hword, rfl, ?_⟩
        rw [List.cons_eq_cons] at hrest
        exact hrest.2.symm
      · rcases List.cons_eq_append_iff.mp h with ⟨-, hrest⟩ | ⟨start', -, h⟩
        · exact absurd (List.cons_eq_cons.mp hrest).1.symm hc
        · exact hlater start' h
    · rw [withDashes, List.map_cons] at h
      rcases List.cons_eq_append_iff.mp h with ⟨rfl, hrest⟩ | ⟨start', -, h⟩
      · obtain ⟨hdash, hrest⟩ := List.cons_eq_cons.mp hrest
        have hsep : isSeparator c = true := isSeparator_iff.mpr hdash.symm
        refine ⟨[], cs, .separator [] cs hsep, rfl, ?_⟩
        rw [hrest, dashWordsAfter_of_not_isAsciiWord (not_isAsciiWord_of_isSeparator hsep)]
        rfl
      · exact hlater start' h

/-! ### Dash case of a cut name -/

/-- A name is cut as if a dash stood before it. -/
theorem dashWordsAfter_dash (cs : List Char) : dashWordsAfter '-' cs = dashWords cs :=
  dashWordsAfter_of_not_isAsciiWord (by decide) cs

/-- A cut name has the dash cases of its parts with a dash between them. -/
theorem Cut.dashed_eq {cs first second : List Char} (h : Cut '-' cs first second) :
    dashed cs = dashed first ++ '-' :: dashed second := by
  have hwords := h.withDashes_dashWordsAfter
  rw [dashWordsAfter_dash, dashWordsAfter_dash] at hwords
  rw [dashed, hwords, lowerAfter_append_dash]
  rfl

/-- The dash case of a name has a dash exactly where the name is cut. -/
theorem dashed_eq_append_iff {cs start rest : List Char} :
    dashed cs = start ++ '-' :: rest ↔
      ∃ first second, Cut '-' cs first second ∧ dashed first = start ∧ dashed second = rest := by
  constructor
  · intro h
    obtain ⟨front, back, hwords, rfl, rfl⟩ := exists_of_lowerAfter_eq_append_dash h
    rw [← dashWordsAfter_dash] at hwords
    obtain ⟨first, second, hcut, rfl, rfl⟩ := exists_cut_of_dashWordsAfter hwords
    exact ⟨first, second, hcut, by rw [dashed, dashWordsAfter_dash], rfl⟩
  · rintro ⟨first, second, hcut, rfl, rfl⟩
    exact hcut.dashed_eq

/-- Only an empty name has an empty dash case. -/
theorem dashed_eq_nil_iff {cs : List Char} : dashed cs = [] ↔ cs = [] := by
  constructor
  · intro h
    cases cs with
    | nil => rfl
    | cons c rest =>
      rw [dashed, dashWords, withDashes, List.map_cons, lowerAfter] at h
      exact absurd (List.append_eq_nil_iff.mp h).1 (lowerAt_ne_nil _ _ _)
  · rintro rfl
    rfl

/-- Two dashes stand together in the dash case of a name exactly where two separators stand together in
the name. -/
theorem dashed_eq_append_dashes_iff {cs start rest : List Char} :
    dashed cs = start ++ '-' :: '-' :: rest ↔
      ∃ first c d second, cs = first ++ c :: d :: second ∧
        isSeparator c = true ∧ isSeparator d = true ∧ dashed first = start ∧ dashed second = rest := by
  constructor
  · intro h
    obtain ⟨first, back, hcut, rfl, hback⟩ := dashed_eq_append_iff.mp h
    have hback : dashed back = [] ++ '-' :: rest := hback
    obtain ⟨between, second, hcut', hbetween, rfl⟩ := dashed_eq_append_iff.mp hback
    obtain rfl := dashed_eq_nil_iff.mp hbetween
    -- nothing is between the dashes, so no word starts at either of them
    cases hcut' with
    | @separator _ _ d hd =>
      cases hcut with
      | @separator _ _ c hc => exact ⟨first, c, d, second, rfl, hc, hd, rfl, rfl⟩
      | word _ _ hword =>
        rw [not_isSeparator_of_startsWord hword] at hd
        cases hd
    | word _ _ hword =>
      rw [List.getLastD_nil, startsWord_dash] at hword
      cases hword
  · rintro ⟨first, c, d, second, rfl, hc, hd, rfl, rfl⟩
    have hback : dashed (d :: second) = '-' :: dashed second :=
      (Cut.separator [] second hd).dashed_eq
    rw [(Cut.separator first (d :: second) hc).dashed_eq, hback]

/-! ### What dash case leaves alone -/

/-- Texts that follow one another have their dashes in the place of underscores. -/
theorem withDashes_append (cs ds : List Char) :
    withDashes (cs ++ ds) = withDashes cs ++ withDashes ds :=
  List.map_append

/-- A letter or a digit has no dash in its place. -/
theorem withDashes_cons_of_isAsciiWord {c : Char} (h : isAsciiWord c = true) (cs : List Char) :
    withDashes (c :: cs) = c :: withDashes cs := by
  have hc : c ≠ '_' := by
    rintro rfl
    exact absurd h (by decide)
  rw [withDashes, List.map_cons, if_neg hc]
  rfl

/-- The words after a character are parted by dashes, or nothing is added. -/
theorem dashWordsAfter_eq_or_mem (before : Char) (cs : List Char) :
    dashWordsAfter before cs = cs ∨ '-' ∈ dashWordsAfter before cs := by
  induction cs generalizing before with
  | nil => exact .inl rfl
  | cons c rest ih =>
    rw [dashWordsAfter]
    split
    · exact .inr List.mem_cons_self
    · exact (ih c).imp (congrArg (c :: ·)) (List.mem_cons_of_mem c)

/-- A name without a dash in its dash case has no words to part. -/
theorem dashWords_of_not_mem_dashed {cs : List Char} (h : '-' ∉ dashed cs) : dashWords cs = cs := by
  rw [← dashWordsAfter_dash]
  refine (dashWordsAfter_eq_or_mem '-' cs).resolve_right fun hdash => h ?_
  obtain ⟨start, rest, hsplit⟩ := List.append_of_mem hdash
  rw [dashed, ← dashWordsAfter_dash, hsplit, withDashes, List.map_append, List.map_cons,
    if_neg (by decide), lowerAfter_append_dash]
  exact List.mem_append_right _ List.mem_cons_self

/-- The parts of a cut name are shorter. -/
theorem Cut.length_lt {cs first second : List Char} (h : Cut '-' cs first second) :
    first.length < cs.length ∧ second.length < cs.length := by
  cases h with
  | separator first second hc =>
    simp only [List.length_append, List.length_cons]
    omega
  | word first second hc =>
    have hne : first ≠ [] := by
      rintro rfl
      rw [List.getLastD_nil, startsWord_dash] at hc
      cases hc
    have hpos := List.length_pos_of_ne_nil hne
    simp only [List.length_append, List.length_cons]
    omega

/-- A cut name has the lower cases of its parts, but for dashes. -/
theorem Cut.filter_lowerAfter {cs first second : List Char} (h : Cut '-' cs first second) :
    (lowerAfter [] (withDashes cs)).filter (· != '-') =
      (lowerAfter [] (withDashes first)).filter (· != '-') ++
        (lowerAfter [] (withDashes second)).filter (· != '-') := by
  cases h with
  | separator first second hc =>
    rw [withDashes, List.map_append, List.map_cons, isSeparator_iff.mp hc, lowerAfter_append_dash,
      List.filter_append]
    rfl
  | @word first second c hc =>
    rcases List.eq_nil_or_concat first with rfl | ⟨front, b, rfl⟩
    · rw [List.getLastD_nil, startsWord_dash] at hc
      cases hc
    · rw [List.concat_eq_append, List.getLastD_concat] at hc
      obtain ⟨hb, hc, -⟩ := of_startsWord hc
      rw [List.concat_eq_append, List.append_assoc, List.singleton_append, withDashes_append,
        withDashes_append, withDashes_cons_of_isAsciiWord hb, withDashes_cons_of_isAsciiWord hc,
        withDashes_cons_of_isAsciiWord hb, lowerAfter_append_of_isAsciiWord hb hc,
        List.filter_append]
      rfl

/-- Dashes aside, dash case is lower case with dashes in the place of underscores. -/
theorem filter_dashed (cs : List Char) :
    (dashed cs).filter (· != '-') = (lowerAfter [] (withDashes cs)).filter (· != '-') := by
  induction hlength : cs.length using Nat.strong_induction_on generalizing cs with
  | _ length ih =>
    subst hlength
    by_cases hdash : '-' ∈ dashed cs
    · obtain ⟨start, rest, hsplit⟩ := List.append_of_mem hdash
      obtain ⟨first, second, hcut, -, -⟩ := dashed_eq_append_iff.mp hsplit
      obtain ⟨hfirst, hsecond⟩ := hcut.length_lt
      calc (dashed cs).filter (· != '-')
          = (dashed first).filter (· != '-') ++ (dashed second).filter (· != '-') := by
            rw [hcut.dashed_eq, List.filter_append]
            rfl
        _ = (lowerAfter [] (withDashes first)).filter (· != '-') ++
              (lowerAfter [] (withDashes second)).filter (· != '-') := by
            rw [ih _ hfirst first rfl, ih _ hsecond second rfl]
        _ = (lowerAfter [] (withDashes cs)).filter (· != '-') := hcut.filter_lowerAfter.symm
    · rw [dashed, dashWords_of_not_mem_dashed hdash]

/-! ### Dash case of what is in dash case -/

/-- There are no underscores in dash case. -/
theorem underscore_not_mem_dashed (cs : List Char) : '_' ∉ dashed cs := by
  intro h
  obtain ⟨c, -, hc⟩ := List.mem_map.mp (mem_of_mem_lowerAfter (by decide) h)
  split at hc
  · exact absurd hc (by decide)
  · next hother => exact hother hc

/-- There are no ASCII capitals in dash case. -/
theorem not_isAsciiUpper_of_mem_dashed {c : Char} {cs : List Char} (h : c ∈ dashed cs) :
    isAsciiUpper c = false :=
  (isLowered_of_mem_lowerAfter h).not_isAsciiUpper

/-- Without ASCII capitals no word starts. -/
theorem dashWordsAfter_of_forall {before : Char} {cs : List Char}
    (h : ∀ c ∈ cs, isAsciiUpper c = false) : dashWordsAfter before cs = cs := by
  induction cs generalizing before with
  | nil => rfl
  | cons c rest ih =>
    obtain ⟨hc, hrest⟩ := List.forall_mem_cons.mp h
    rw [dashWordsAfter, startsWord, hc, Bool.false_and, if_neg Bool.false_ne_true, ih hrest]

/-- Without underscores there is nothing to put dashes in the place of. -/
theorem withDashes_of_not_mem {cs : List Char} (h : '_' ∉ cs) : withDashes cs = cs := by
  have hsame : ∀ c ∈ cs, (if c = '_' then '-' else c) = id c := fun c hc =>
    if_neg (ne_of_mem_of_not_mem hc h)
  rw [withDashes, List.map_congr_left hsame, List.map_id]

/-- What is in dash case stays as it is. -/
theorem dashed_dashed (cs : List Char) : dashed (dashed cs) = dashed cs := by
  have hwords : dashWords (dashed cs) = dashed cs := by
    rw [← dashWordsAfter_dash]
    exact dashWordsAfter_of_forall fun c => not_isAsciiUpper_of_mem_dashed
  rw [dashed, hwords, withDashes_of_not_mem (underscore_not_mem_dashed cs)]
  exact lowerAfter_of_isLowered fun c => isLowered_of_mem_lowerAfter

/-! ### Names -/

/-- A text without its dashes. -/
def withoutDashes (s : String) : String :=
  String.ofList (s.toList.filter (· != '-'))

/-- Dash case of a name in dash case changes nothing; it has no underscore and no ASCII capital; without
its dashes it is the lower case of the name, with dashes for underscores, without its dashes; and two
dashes stand together in it exactly where two dashes or underscores stand together in the name. -/
theorem dashCase_separates (name : String) :
    dashCase (dashCase name) = dashCase name ∧
      (∀ c ∈ (dashCase name).toList, c ≠ '_' ∧ isAsciiUpper c = false) ∧
      withoutDashes (dashCase name) = withoutDashes (lower (replaceChar '_' '-' name)) ∧
      ∀ start rest, dashCase name = start ++ "--" ++ rest ↔
        ∃ first c d second, name = first ++ String.ofList [c, d] ++ second ∧
          isSeparator c = true ∧ isSeparator d = true ∧
          dashCase first = start ∧ dashCase second = rest := by
  refine ⟨?_, ?_, ?_, ?_⟩
  · rw [← String.toList_inj, toList_dashCase, toList_dashCase, dashed_dashed]
  · intro c hc
    rw [toList_dashCase] at hc
    refine ⟨?_, not_isAsciiUpper_of_mem_dashed hc⟩
    rintro rfl
    exact underscore_not_mem_dashed _ hc
  · rw [withoutDashes, toList_dashCase, filter_dashed, withoutDashes, lower, replaceChar,
      String.toList_ofList, String.toList_ofList, withDashes]
  · intro start rest
    have hchars : dashCase name = start ++ "--" ++ rest ↔
        dashed name.toList = start.toList ++ '-' :: '-' :: rest.toList := by
      rw [← String.toList_inj, toList_dashCase, String.toList_append, String.toList_append,
        List.append_assoc]
      rfl
    rw [hchars, dashed_eq_append_dashes_iff]
    constructor
    · rintro ⟨first, c, d, second, hname, hc, hd, hfirst, hsecond⟩
      refine ⟨String.ofList first, c, d, String.ofList second, ?_, hc, hd, ?_, ?_⟩
      · rw [← String.toList_inj, hname]
        simp
      · rw [← String.toList_inj, toList_dashCase, String.toList_ofList, hfirst]
      · rw [← String.toList_inj, toList_dashCase, String.toList_ofList, hsecond]
    · rintro ⟨first, c, d, second, rfl, hc, hd, rfl, rfl⟩
      refine ⟨first.toList, c, d, second.toList, ?_, hc, hd, ?_, ?_⟩
      · simp
      · rw [toList_dashCase]
      · rw [toList_dashCase]

end ClientGen

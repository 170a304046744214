import ClientGen.Route
import Mathlib.Data.List.Infix

/-!
# The pieces of a route template

Reading a template into pieces loses nothing. The braces of a template are balanced when, from left
to right, they are a repetition of an opening and a closing one; exactly then no brace is left over.
Wherever braces enclose text without braces, the reading finds that placeholder, whatever stands
before and after it.
-/

namespace ClientGen.Route

namespace Piece

/-- A piece without a stray brace: a plain character is none, and a body holds none. -/
def Proper : Piece → Prop
  | plain c => isBrace c = false
  | placeholder body => ∀ c ∈ body, isBrace c = false

/-- The name that a placeholder binds, which may be empty. -/
def name? : Piece → Option String
  | plain _ => none
  | placeholder body => some (String.ofList (placeholderChars body))

end Piece

/-- A text of so many pairs of braces. -/
def bracePairs (count : Nat) : List Char :=
  (List.replicate count ['\x7b', '\x7d']).flatten

/-- The braces of a template are balanced and not nested. -/
def Balanced (cs : List Char) : Prop :=
  ∃ count, cs.filter isBrace = bracePairs count

/-- At a position of a template, braces enclose a body without braces. -/
def Encloses (cs : List Char) (position : Nat) (body : List Char) : Prop :=
  (∀ c ∈ body, isBrace c = false) ∧
    ∃ before after, cs = before ++ '\x7b' :: (body ++ '\x7d' :: after) ∧ before.length = position

/-- The text read since the opening brace that waits, that brace included. -/
def waiting : Option (List Char) → List Char
  | none => []
  | some body => '\x7b' :: body

/-- Text that turned out not to be a placeholder is kept as it was. -/
theorem flatMap_chars_leftOver (pending : Option (List Char)) :
    (leftOver pending).flatMap Piece.chars = waiting pending := by
  cases pending with
  | none => rfl
  | some body =>
    have hbody : (body.map Piece.plain).flatMap Piece.chars = body := by
      induction body with
      | nil => rfl
      | cons c body ih => simp only [List.map_cons, List.flatMap_cons, Piece.chars, ih, List.singleton_append]
    rw [leftOver, List.flatMap_cons, hbody]
    rfl

/-- Reading on loses nothing of what was read before or comes after. -/
theorem flatMap_chars_piecesAfter (pending : Option (List Char)) (cs : List Char) :
    (piecesAfter pending cs).flatMap Piece.chars = waiting pending ++ cs := by
  fun_induction piecesAfter pending cs with
  | case1 pending => rw [flatMap_chars_leftOver, List.append_nil]
  | case2 rest ih => rw [ih]; rfl
  | case3 c rest hc ih => rw [List.flatMap_cons, ih]; rfl
  | case4 body rest ih => simp [ih, Piece.chars, waiting]
  | case5 body rest hc ih =>
    rw [List.flatMap_append, flatMap_chars_leftOver, ih]
    simp [waiting]
  | case6 body c rest hc ho ih => simp [ih, waiting]

/-- The pieces of a template, written down one after the other, are the template. -/
theorem flatMap_chars_pieces (cs : List Char) : (pieces cs).flatMap Piece.chars = cs :=
  flatMap_chars_piecesAfter none cs

/-- The braces among the text that turned out not to be a placeholder: its opening brace. -/
theorem any_isStrayBrace_leftOver (body : List Char) :
    (leftOver (some body)).any isStrayBrace = true := by
  rw [leftOver, List.any_cons]
  rfl

/-- A piece that is read is a stray brace or proper. -/
theorem proper_of_mem_piecesAfter {pending : Option (List Char)} {cs : List Char}
    (hpending : ∀ c ∈ pending.getD [], isBrace c = false) {piece : Piece}
    (hpiece : piece ∈ piecesAfter pending cs) (hstray : isStrayBrace piece = false) :
    piece.Proper := by
  have plain (c : Char) (h : piece = .plain c) : piece.Proper := by
    subst h
    exact hstray
  have left (body : List Char) (h : piece ∈ leftOver (some body)) : piece.Proper := by
    rcases List.mem_cons.mp h with h | h
    · exact plain _ h
    · obtain ⟨c, _, h⟩ := List.mem_map.mp h
      exact plain c h.symm
  fun_induction piecesAfter pending cs with
  | case1 pending =>
    cases pending with
    | none => simp [leftOver] at hpiece
    | some body => exact left body hpiece
  | case2 rest ih => exact ih (by simp) hpiece
  | case3 c rest hc ih =>
    rcases List.mem_cons.mp hpiece with h | h
    · exact plain c h
    · exact ih (by simp) h
  | case4 body rest ih =>
    rcases List.mem_cons.mp hpiece with h | h
    · subst h
      exact hpending
    · exact ih (by simp) h
  | case5 body rest hc ih =>
    rcases List.mem_append.mp hpiece with h | h
    · exact left body h
    · exact ih (by simp) h
  | case6 body c rest hc ho ih =>
    refine ih ?_ hpiece
    intro d hd
    rcases List.mem_append.mp hd with hd | hd
    · exact hpending d hd
    · rw [List.mem_singleton.mp hd]
      simp [isBrace, hc, ho]

/-- The pieces of a template without stray braces are proper. -/
theorem proper_of_mem_pieces {cs : List Char} (hstray : (pieces cs).any isStrayBrace = false)
    {piece : Piece} (hpiece : piece ∈ pieces cs) : piece.Proper :=
  proper_of_mem_piecesAfter (by simp) hpiece (by simpa using List.any_eq_false.mp hstray piece hpiece)

/-- The body of a placeholder that is read holds no brace. -/
theorem body_of_mem_pieces {cs body : List Char} (h : .placeholder body ∈ pieces cs) :
    ∀ c ∈ body, isBrace c = false :=
  proper_of_mem_piecesAfter (by simp) h rfl

/-! ### Balanced braces -/

@[simp] theorem bracePairs_zero : bracePairs 0 = [] := rfl

@[simp] theorem bracePairs_succ (count : Nat) :
    bracePairs (count + 1) = '\x7b' :: '\x7d' :: bracePairs count := rfl

/-- With an opening brace waiting, no brace is left over exactly when all braces, the waiting one
included, make up pairs. -/
theorem any_isStrayBrace_piecesAfter (pending : Option (List Char)) (cs : List Char) :
    (piecesAfter pending cs).any isStrayBrace = false ↔
      ∃ count, (if pending.isSome then ['\x7b'] else []) ++ cs.filter isBrace = bracePairs count := by
  fun_induction piecesAfter pending cs with
  | case1 pending =>
    cases pending with
    | none => exact iff_of_true rfl ⟨0, rfl⟩
    | some body =>
      rw [any_isStrayBrace_leftOver]
      refine iff_of_false (by simp) ?_
      rintro ⟨_ | count, h⟩ <;> simp at h
  | case2 rest ih => simpa [isBrace] using ih
  | case3 c rest hc ih =>
    rw [List.any_cons, Bool.or_eq_false_iff, ih]
    by_cases hbrace : isBrace c = true
    · have hclose : c = '\x7d' := by simpa [isBrace, hc] using hbrace
      subst hclose
      refine iff_of_false (fun h => by simp [isStrayBrace, isBrace] at h) ?_
      rintro ⟨_ | count, h⟩ <;> simp [isBrace] at h
    · simp [isStrayBrace, hbrace]
  | case4 body rest ih =>
    rw [List.any_cons, isStrayBrace, Bool.false_or, ih]
    constructor
    · rintro ⟨count, h⟩
      exact ⟨count + 1, by simpa [isBrace] using h⟩
    · rintro ⟨_ | count, h⟩
      · simp at h
      · exact ⟨count, by simpa [isBrace] using h⟩
  | case5 body rest hc ih =>
    rw [List.any_append, any_isStrayBrace_leftOver]
    refine iff_of_false (by simp) ?_
    rintro ⟨_ | count, h⟩ <;> simp [isBrace] at h
  | case6 body c rest hc ho ih =>
    rw [ih]
    simp [isBrace, hc, ho]

/-- No brace of a template is left over exactly when its braces are balanced. -/
theorem any_isStrayBrace_pieces (cs : List Char) :
    (pieces cs).any isStrayBrace = false ↔ Balanced cs := by
  rw [pieces, any_isStrayBrace_piecesAfter]
  rfl

/-! ### Reading what was written -/

/-- An opening brace settles what came before it. -/
theorem piecesAfter_append_open (pending : Option (List Char)) (before rest : List Char) :
    piecesAfter pending (before ++ '\x7b' :: rest) =
      piecesAfter pending before ++ piecesAfter (some []) rest := by
  fun_induction piecesAfter pending before with
  | case1 pending => cases pending <;> simp [piecesAfter, leftOver]
  | case2 before ih => simpa [piecesAfter] using ih
  | case3 c before hc ih => simpa [piecesAfter, hc] using ih
  | case4 body before ih => simpa [piecesAfter] using ih
  | case5 body before hc ih => simpa [piecesAfter] using ih
  | case6 body c before hc ho ih => simpa [piecesAfter, hc, ho] using ih

/-- A body without braces and a closing brace complete the placeholder that was begun. -/
theorem piecesAfter_body_close (start body rest : List Char) (hbody : ∀ c ∈ body, isBrace c = false) :
    piecesAfter (some start) (body ++ '\x7d' :: rest) =
      .placeholder (start ++ body) :: piecesAfter none rest := by
  induction body generalizing start with
  | nil => simp [piecesAfter]
  | cons c body ih =>
    have hc := hbody c List.mem_cons_self
    simp only [isBrace, Bool.or_eq_false_iff, beq_eq_false_iff_ne] at hc
    rw [List.cons_append, piecesAfter, if_neg hc.2, if_neg hc.1,
      ih (start ++ [c]) (fun d hd => hbody d (List.mem_cons_of_mem _ hd)), List.append_assoc,
      List.singleton_append]

/-- Braces around a body without braces are read as a placeholder, whatever is around them. -/
theorem pieces_append_placeholder (before body after : List Char)
    (hbody : ∀ c ∈ body, isBrace c = false) :
    pieces (before ++ '\x7b' :: (body ++ '\x7d' :: after)) =
      pieces before ++ .placeholder body :: pieces after := by
  rw [pieces, piecesAfter_append_open, piecesAfter_body_close _ _ _ hbody, List.nil_append]
  rfl

/-- A character that is no brace is a piece of its own. -/
theorem pieces_cons_plain {c : Char} (hc : isBrace c = false) (rest : List Char) :
    pieces (c :: rest) = .plain c :: pieces rest := by
  simp only [isBrace, Bool.or_eq_false_iff, beq_eq_false_iff_ne] at hc
  rw [pieces, piecesAfter, if_neg hc.1]
  rfl

/-- Braces enclose a body at a position exactly when the reading has that placeholder there. -/
theorem encloses_iff {cs body : List Char} {position : Nat} :
    Encloses cs position body ↔
      ∃ before after, pieces cs = before ++ .placeholder body :: after ∧
        (before.flatMap Piece.chars).length = position := by
  constructor
  · rintro ⟨hbody, before, after, rfl, rfl⟩
    exact ⟨pieces before, pieces after, pieces_append_placeholder before body after hbody,
      by rw [flatMap_chars_pieces]⟩
  · rintro ⟨before, after, hpieces, rfl⟩
    have hmem : .placeholder body ∈ pieces cs := by simp [hpieces]
    refine ⟨body_of_mem_pieces hmem, before.flatMap Piece.chars, after.flatMap Piece.chars, ?_, rfl⟩
    rw [← flatMap_chars_pieces cs, hpieces]
    simp [Piece.chars]

end ClientGen.Route

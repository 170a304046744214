import ClientGen.Path
import ClientGen.Proofs.Text.Splitting

/-!
# Paths and their texts

A part of a path names something and holds no slash. A relative path of such parts is read back
from its text, and texts that are such parts join to the path that lists them. The text of a path is
never shorter than that of its parent.
-/

namespace ClientGen.Path

/-- A text is one part of a path: it names something and holds no slash. -/
def IsPart (s : String) : Prop :=
  s ≠ "" ∧ s ≠ "." ∧ '/' ∉ s.toList

/-- It is decidable whether a text is one part. -/
instance : DecidablePred IsPart :=
  fun s => inferInstanceAs (Decidable (s ≠ "" ∧ s ≠ "." ∧ '/' ∉ s.toList))

/-- A list that does not begin with a slash has no anchor. -/
theorem anchorOf_eq_empty {cs : List Char} (h : cs.head? ≠ some '/') : anchorOf cs = "" := by
  unfold anchorOf
  split
  · exact absurd rfl h
  · exact absurd rfl h
  · exact absurd rfl h
  · rfl

/-- The parts of a text that joins parts by slashes are these parts. -/
theorem partsOf_intercalate {parts : List String} (h : ∀ part ∈ parts, IsPart part) :
    partsOf ("/".intercalate parts) = parts := by
  cases parts with
  | nil => rfl
  | cons first rest =>
    have hslash : "/" = String.singleton '/' := rfl
    rw [partsOf, hslash, Text.split_intercalate fun part hpart => (h part hpart).2.2,
      List.filter_eq_self]
    intro part hpart
    obtain ⟨hempty, hdot, -⟩ := h part hpart
    rw [Bool.and_eq_true, bne_iff_ne, bne_iff_ne]
    exact ⟨hempty, hdot⟩

/-- A text of joined parts begins with the first of them. -/
theorem intercalate_cons (first : String) (rest : List String) :
    ∃ tail, "/".intercalate (first :: rest) = first ++ tail := by
  cases rest with
  | nil => exact ⟨"", by rw [String.intercalate_singleton, String.append_empty]⟩
  | cons next rest =>
    exact ⟨"/" ++ "/".intercalate (next :: rest), by
      rw [String.intercalate_cons_cons, String.append_assoc]⟩

/-- A text of joined parts has no anchor. -/
theorem anchorOf_intercalate {parts : List String} (h : ∀ part ∈ parts, IsPart part) :
    anchorOf ("/".intercalate parts).toList = "" := by
  cases parts with
  | nil => rfl
  | cons first rest =>
    obtain ⟨hempty, -, hslash⟩ := h first List.mem_cons_self
    obtain ⟨tail, htail⟩ := intercalate_cons first rest
    rw [htail, String.toList_append]
    apply anchorOf_eq_empty
    cases hchars : first.toList with
    | nil => exact absurd (String.toList_eq_nil_iff.mp hchars) hempty
    | cons c cs =>
      rw [List.cons_append, List.head?_cons]
      intro heq
      rw [hchars, Option.some.inj heq] at hslash
      exact hslash List.mem_cons_self

/-- A text of joined parts is empty only when there are none. -/
theorem intercalate_ne_empty {first : String} (rest : List String) (h : IsPart first) :
    "/".intercalate (first :: rest) ≠ "" := by
  obtain ⟨tail, htail⟩ := intercalate_cons first rest
  rw [htail]
  exact fun heq => h.1 (String.append_eq_empty_iff.mp heq).1

/-- A relative path is read back from its text. -/
theorem ofText_text {parts : List String} (h : ∀ part ∈ parts, IsPart part) :
    ofText (text ⟨"", parts⟩) = ⟨"", parts⟩ := by
  cases parts with
  | nil => rfl
  | cons first rest =>
    have hne := intercalate_ne_empty rest (h first List.mem_cons_self)
    have htext : text ⟨"", first :: rest⟩ = "/".intercalate (first :: rest) := by
      rw [text, String.empty_append, if_neg hne]
    rw [htext, ofText, anchorOf_intercalate h, partsOf_intercalate h]

/-- Does a text without slashes name something? -/
def isNamed (s : String) : Bool :=
  s != "" && s != "."

/-- One part is a text without slashes that names something. -/
theorem isPart_iff {s : String} : IsPart s ↔ isNamed s = true ∧ '/' ∉ s.toList := by
  rw [IsPart, isNamed, Bool.and_eq_true, bne_iff_ne, bne_iff_ne, and_assoc]

/-- A text without slashes is read as one part, or as none when it names nothing. -/
theorem ofText_of_not_mem {s : String} (h : '/' ∉ s.toList) :
    ofText s = ⟨"", [s].filter isNamed⟩ := by
  have hanchor : anchorOf s.toList = "" :=
    anchorOf_eq_empty fun hhead => h (List.mem_of_mem_head? hhead)
  rw [ofText, hanchor, partsOf, Text.split_of_not_mem h]
  rfl

/-- Texts without slashes that are joined to a relative path are appended to it, but for those that
name nothing. -/
theorem foldl_join_of_not_mem {segments : List String} (before : List String)
    (h : ∀ s ∈ segments, '/' ∉ s.toList) :
    segments.foldl (fun (path : Path) segment => path.join (ofText segment)) ⟨"", before⟩ =
      ⟨"", before ++ segments.filter isNamed⟩ := by
  induction segments generalizing before with
  | nil => rw [List.foldl_nil, List.filter_nil, List.append_nil]
  | cons s rest ih =>
    obtain ⟨hs, hrest⟩ := List.forall_mem_cons.mp h
    have hjoin : join ⟨"", before⟩ ⟨"", [s].filter isNamed⟩ =
        ⟨"", before ++ [s].filter isNamed⟩ := rfl
    rw [List.foldl_cons, ofText_of_not_mem hs, hjoin, ih _ hrest, List.append_assoc,
      ← List.filter_append, List.singleton_append]

/-- Texts without slashes join to the path that lists those that name something. -/
theorem ofTexts_of_not_mem {segments : List String} (h : ∀ s ∈ segments, '/' ∉ s.toList) :
    ofTexts segments = ⟨"", segments.filter isNamed⟩ :=
  foldl_join_of_not_mem [] h

/-- Parts join to the path that lists them. -/
theorem ofTexts_of_isPart {parts : List String} (h : ∀ part ∈ parts, IsPart part) :
    ofTexts parts = ⟨"", parts⟩ := by
  rw [ofTexts_of_not_mem fun part hpart => (h part hpart).2.2,
    List.filter_eq_self.mpr fun part hpart => (isPart_iff.mp (h part hpart)).1]

/-! ### The length of a text -/

/-- Parts without the last one are not longer when joined. -/
theorem utf8ByteSize_intercalate_dropLast_le (parts : List String) :
    ("/".intercalate parts.dropLast).utf8ByteSize ≤ ("/".intercalate parts).utf8ByteSize := by
  induction parts with
  | nil => exact Nat.le_refl _
  | cons first rest ih =>
    cases rest with
    | nil => exact Nat.zero_le _
    | cons next rest =>
      rw [List.dropLast_cons_cons, String.intercalate_cons_cons, String.utf8ByteSize_append]
      cases hrest : (next :: rest).dropLast with
      | nil =>
        rw [String.intercalate_singleton, String.utf8ByteSize_append]
        omega
      | cons second others =>
        rw [hrest] at ih
        rw [String.intercalate_cons_cons, String.utf8ByteSize_append]
        exact Nat.add_le_add_left ih _

/-- The text of a path is as long as its joined parts, and not empty. -/
theorem utf8ByteSize_text (path : Path) :
    path.text.utf8ByteSize = max 1 (path.anchor ++ "/".intercalate path.parts).utf8ByteSize := by
  rw [text]
  by_cases hempty : path.anchor ++ "/".intercalate path.parts = ""
  · rw [if_pos hempty, hempty]
    rfl
  · rw [if_neg hempty]
    have hpos : (path.anchor ++ "/".intercalate path.parts).utf8ByteSize ≠ 0 :=
      mt String.utf8ByteSize_eq_zero_iff.mp hempty
    omega

/-- The text of a path is not shorter than that of its parent. -/
theorem utf8ByteSize_text_parent_le (path : Path) :
    path.parent.text.utf8ByteSize ≤ path.text.utf8ByteSize := by
  have hparts := utf8ByteSize_intercalate_dropLast_le path.parts
  rw [utf8ByteSize_text, utf8ByteSize_text, String.utf8ByteSize_append, String.utf8ByteSize_append]
  change max 1 (path.anchor.utf8ByteSize + ("/".intercalate path.parts.dropLast).utf8ByteSize) ≤ _
  omega

end ClientGen.Path

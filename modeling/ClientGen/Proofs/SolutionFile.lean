import ClientGen.Proofs.Text.Cutting
import ClientGen.Proofs.Text.LetterCase
import ClientGen.Proofs.Text.Words
import ClientGen.SolutionFile

/-!
# Solution files that are written and read

A solution file is written line by line. Some lines are entries, and each of the others may hold
anything but the beginning of an entry; every line ends as it likes. Reading the file finds exactly
the entries, in order: an entry is read to the end of its path, what is left of its line has no entry,
and so has no other line. The search goes on behind a path and takes an entry at the beginning of a
line only, so it never starts within one. White space in the pattern of an entry might stand for a
line end, but in a line that is written it never does.
-/

namespace ClientGen.SolutionFile

/-- A project as a solution file lists it. -/
structure Entry where
  /-- The identifier of its kind. -/
  kind : String
  /-- The name. -/
  name : String
  /-- The path of the project file. -/
  path : String
  /-- The identifier of the project. -/
  identifier : String
deriving Repr, DecidableEq

/-- A line of a solution file. -/
inductive Line where
  /-- An entry. -/
  | entry (e : Entry)
  /-- Anything else. -/
  | other (text : String)
deriving Repr, DecidableEq

/-- How a line ends. -/
inductive LineEnd where
  | lineFeed | returnAndLineFeed
deriving Repr, DecidableEq

/-- The characters that end a line. -/
def LineEnd.text : LineEnd → String
  | lineFeed => "\n"
  | returnAndLineFeed => "\r\n"

namespace Entry

/-- The line of an entry up to the end of its path. -/
def head (e : Entry) : String :=
  "Project(\"\x7b" ++ e.kind ++ "\x7d\")" ++ " = \"" ++ e.name ++ "\", \"" ++ e.path ++ "\""

/-- What follows in the line. -/
def tail (e : Entry) : String :=
  ", \"\x7b" ++ e.identifier ++ "\x7d\""

/-- The line of an entry. -/
def text (e : Entry) : String :=
  e.head ++ e.tail

/-- The parts of an entry stay apart when it is written. A line break in its kind, its name or its path
would do no harm. -/
structure IsWritable (e : Entry) : Prop where
  /-- The kind is not empty and does not close the braces around it. -/
  kind : e.kind ≠ "" ∧ '\x7d' ∉ e.kind.toList
  /-- The name is not empty and does not close the quotes around it. -/
  name : e.name ≠ "" ∧ '"' ∉ e.name.toList
  /-- The path is not empty and does not close the quotes around it. -/
  path : e.path ≠ "" ∧ '"' ∉ e.path.toList
  /-- The identifier does not end the line. -/
  identifier : '\n' ∉ e.identifier.toList

/-- The path of a C# project file ends like one, in any letter case. -/
def IsCSharp (e : Entry) : Prop :=
  ∃ start last, e.path = start ++ last ∧ Text.InAnyCase projectEnding last

end Entry

/-- It is decidable whether an entry can be written. -/
instance : DecidablePred Entry.IsWritable :=
  fun e => decidable_of_iff
    ((e.kind ≠ "" ∧ '\x7d' ∉ e.kind.toList) ∧ (e.name ≠ "" ∧ '"' ∉ e.name.toList) ∧
      (e.path ≠ "" ∧ '"' ∉ e.path.toList) ∧ '\n' ∉ e.identifier.toList)
    ⟨fun h => ⟨h.1, h.2.1, h.2.2.1, h.2.2.2⟩, fun h => ⟨h.kind, h.name, h.path, h.identifier⟩⟩

namespace Line

/-- The text of a line. -/
def text : Line → String
  | entry e => e.text
  | other text => text

/-- The entry in a line, if it is one. -/
def listed? : Line → Option Entry
  | entry e => some e
  | other _ => none

/-- A line that is no entry is unbroken and does not begin like one. -/
def IsWritable : Line → Prop
  | entry e => e.IsWritable
  | other text => '\n' ∉ text.toList ∧ ¬ "Project(".toList <+: text.toList

/-- It is decidable whether a line can be written. -/
instance : DecidablePred IsWritable
  | entry e => inferInstanceAs (Decidable e.IsWritable)
  | other _ => inferInstanceAs (Decidable (_ ∧ _))

end Line

/-- The text of some lines with their ends, and of a last line without one. -/
def textOf (lines : List (Line × LineEnd)) (last : Line) : String :=
  String.join (lines.map fun (line, lineEnd) => line.text ++ lineEnd.text) ++ last.text

/-! ### Reading an entry -/

/-- A text in quotes is read up to its closing quote. -/
theorem quoted?_append {value : List Char} (hne : value ≠ []) (h : '"' ∉ value) (rest : List Char) :
    quoted? ('"' :: (value ++ '"' :: rest)) = some (value, rest) := by
  have hrun : ∀ c ∈ value, (c != '"') = true := fun c hc => bne_iff_ne.mpr fun heq => h (heq ▸ hc)
  have hquote : ∀ c ∈ ('"' :: rest).head?, (c != '"') = false := by simp
  rw [quoted?, Text.takeWhile_append_of_head? hrun hquote, Text.dropWhile_append_of_head? hrun hquote]
  simp [hne]

/-- A kind in braces is read up to what stands behind it. -/
theorem afterKind?_append {kind : List Char} (hne : kind ≠ []) (h : '\x7d' ∉ kind) (rest : List Char) :
    afterKind? ("Project(\"\x7b".toList ++ (kind ++ ("\x7d\")".toList ++ rest))) = some rest := by
  have hclosing : "\x7d\")".toList = ['\x7d', '"', ')'] := rfl
  have hrun : ∀ c ∈ kind, (c != '\x7d') = true := fun c hc => bne_iff_ne.mpr fun heq => h (heq ▸ hc)
  have hbrace : ∀ c ∈ ("\x7d\")".toList ++ rest).head?, (c != '\x7d') = false := by
    simp [hclosing]
  rw [afterKind?, Text.dropStart?_eq_some_iff.mpr rfl]
  change (if ((kind ++ ("\x7d\")".toList ++ rest)).takeWhile (· != '\x7d')).isEmpty = true then none
    else _) = _
  rw [Text.takeWhile_append_of_head? hrun hbrace, if_neg (by simpa using hne),
    Text.dropWhile_append_of_head? hrun hbrace, Text.dropStart?_eq_some_iff]

/-- An equality sign with a blank on either side is read up to the quote behind it. -/
theorem afterSign?_equals (rest : List Char) :
    afterSign? '=' (" = \"".toList ++ rest) = some ('"' :: rest) := rfl

/-- The head of an entry is read, and nothing of what follows. -/
theorem entry?_head {e : Entry} (h : e.IsWritable) (rest : List Char) :
    entry? (e.head.toList ++ rest) = some (e.name.toList, e.path.toList, rest) := by
  have hne {s : String} (hs : s ≠ "") : s.toList ≠ [] := mt String.toList_eq_nil_iff.mp hs
  have htext : e.head.toList ++ rest = "Project(\"\x7b".toList ++ (e.kind.toList ++
      ("\x7d\")".toList ++ (" = \"".toList ++ (e.name.toList ++
        '"' :: ',' :: ' ' :: '"' :: (e.path.toList ++ '"' :: rest))))) := by
    unfold Entry.head
    simp only [String.toList_append, List.append_assoc]
    rfl
  have hblank : (' ' :: '"' :: (e.path.toList ++ '"' :: rest)).dropWhile Text.isBlank =
      '"' :: (e.path.toList ++ '"' :: rest) := rfl
  simp only [htext, entry?, afterKind?_append (hne h.kind.1) h.kind.2, afterSign?_equals,
    quoted?_append (hne h.name.1) h.name.2, hblank, quoted?_append (hne h.path.1) h.path.2,
    Option.bind_eq_bind, Option.bind_some]
  rfl

/-- What does not begin like an entry is none. -/
theorem entry?_eq_none {cs : List Char} (h : ¬ "Project(".toList <+: cs) : entry? cs = none := by
  rw [Option.eq_none_iff_forall_ne_some]
  intro found hfound
  obtain ⟨rest, hrest, -⟩ := Option.bind_eq_some_iff.mp hfound
  obtain ⟨left, hleft, -⟩ := Option.bind_eq_some_iff.mp hrest
  rw [Text.dropStart?_eq_some_iff.mp hleft] at h
  exact h ⟨"\"\x7b".toList ++ left, rfl⟩

/-! ### Looking for entries -/

/-- Where no entry begins, it makes no difference that a line does. -/
theorem entriesAfter_of_entry?_eq_none {cs : List Char} (h : entry? cs = none) :
    entriesAfter true cs = entriesAfter false cs := by
  cases cs with
  | nil => rw [entriesAfter, entriesAfter]
  | cons c rest =>
    rw [entriesAfter, entriesAfter]
    simp [h]

/-- The rest of a line has no entry. -/
theorem entriesAfter_append_lineFeed {cs : List Char} (h : '\n' ∉ cs) (rest : List Char) :
    entriesAfter false (cs ++ '\n' :: rest) = entriesAfter true rest := by
  induction cs with
  | nil =>
    rw [List.nil_append, entriesAfter]
    simp
  | cons c cs ih =>
    have hc : (c == '\n') = false :=
      beq_eq_false_iff_ne.mpr fun heq => h (heq ▸ List.mem_cons_self)
    rw [List.cons_append, entriesAfter]
    simp only [Bool.false_eq_true, if_false, hc]
    exact ih fun hmem => h (List.mem_cons_of_mem c hmem)

/-- That is so however the line ends. -/
theorem entriesAfter_append_lineEnd {cs : List Char} (h : '\n' ∉ cs) (lineEnd : LineEnd)
    (rest : List Char) :
    entriesAfter false (cs ++ (lineEnd.text.toList ++ rest)) = entriesAfter true rest := by
  cases lineEnd with
  | lineFeed => exact entriesAfter_append_lineFeed h rest
  | returnAndLineFeed =>
    have hreturn : '\n' ∉ cs ++ ['\r'] := by simp [h]
    have htext : cs ++ ("\r\n".toList ++ rest) = (cs ++ ['\r']) ++ '\n' :: rest := by
      rw [List.append_assoc]
      rfl
    rw [LineEnd.text, htext, entriesAfter_append_lineFeed hreturn]

/-- Nor has the rest of the last line. -/
theorem entriesAfter_of_not_mem {cs : List Char} (h : '\n' ∉ cs) : entriesAfter false cs = [] := by
  induction cs with
  | nil => rw [entriesAfter]
  | cons c cs ih =>
    have hc : (c == '\n') = false :=
      beq_eq_false_iff_ne.mpr fun heq => h (heq ▸ List.mem_cons_self)
    rw [entriesAfter]
    simp only [Bool.false_eq_true, if_false, hc]
    exact ih fun hmem => h (List.mem_cons_of_mem c hmem)

/-- An entry at the beginning of a line is found, and the search goes on behind its path. -/
theorem entriesAfter_head {e : Entry} (h : e.IsWritable) (rest : List Char) :
    entriesAfter true (e.head.toList ++ rest) =
      (e.name.toList, e.path.toList) :: entriesAfter false rest := by
  have hread := entry?_head h rest
  have hne : e.head.toList ≠ [] := by
    unfold Entry.head
    simp
  obtain ⟨c, cs, hhead⟩ := List.exists_cons_of_ne_nil hne
  rw [hhead, List.cons_append] at hread
  rw [hhead, List.cons_append, entriesAfter]
  simp [hread]

/-! ### Lines -/

/-- The tail of an entry is unbroken. -/
theorem Entry.IsWritable.lineFeed_not_mem_tail {e : Entry} (h : e.IsWritable) :
    '\n' ∉ e.tail.toList := by
  have hclosing : "\x7d\"".toList = ['\x7d', '"'] := rfl
  unfold Entry.tail
  simp [hclosing, h.identifier]

namespace Line

/-- What is found in a line: the name and the path of its entry. -/
def found (line : Line) : List (List Char × List Char) :=
  line.listed?.toList.map fun e => (e.name.toList, e.path.toList)

/-- What stands in a line with its end is found, and the search goes on at the beginning of the next
line. -/
theorem entriesAfter_text {line : Line} (h : line.IsWritable) (lineEnd : LineEnd)
    (rest : List Char) :
    entriesAfter true (line.text.toList ++ (lineEnd.text.toList ++ rest)) =
      line.found ++ entriesAfter true rest := by
  cases line with
  | entry e =>
    rw [text, Entry.text, String.toList_append, List.append_assoc, entriesAfter_head h,
      entriesAfter_append_lineEnd h.lineFeed_not_mem_tail]
    rfl
  | other text =>
    -- the beginning of an entry does not reach into the line end
    have hnone : entry? (text.toList ++ (lineEnd.text.toList ++ rest)) = none := by
      cases lineEnd with
      | lineFeed =>
        exact entry?_eq_none ((Text.prefix_append_cons_iff text.toList rest (by decide)).not.mpr h.2)
      | returnAndLineFeed =>
        exact entry?_eq_none
          ((Text.prefix_append_cons_iff text.toList ('\n' :: rest) (by decide)).not.mpr h.2)
    rw [Line.text, entriesAfter_of_entry?_eq_none hnone, entriesAfter_append_lineEnd h.1]
    rfl

/-- What stands in the last line is found. -/
theorem entriesAfter_last {line : Line} (h : line.IsWritable) :
    entriesAfter true line.text.toList = line.found := by
  cases line with
  | entry e =>
    rw [text, Entry.text, String.toList_append, entriesAfter_head h,
      entriesAfter_of_not_mem h.lineFeed_not_mem_tail]
    rfl
  | other text =>
    rw [Line.text, entriesAfter_of_entry?_eq_none (entry?_eq_none h.2), entriesAfter_of_not_mem h.1]
    rfl

end Line

/-- The entries of a file, in order. -/
def entriesOf (lines : List (Line × LineEnd)) (last : Line) : List Entry :=
  (lines.map (·.1) ++ [last]).filterMap Line.listed?

/-- In a file, the names and paths of its entries are found, in order. -/
theorem entriesAfter_textOf {lines : List (Line × LineEnd)} {last : Line}
    (hlines : ∀ line ∈ lines, line.1.IsWritable) (hlast : last.IsWritable) :
    entriesAfter true (textOf lines last).toList =
      (entriesOf lines last).map fun e => (e.name.toList, e.path.toList) := by
  induction lines with
  | nil =>
    have htext : textOf [] last = last.text := String.empty_append
    rw [htext, Line.entriesAfter_last hlast]
    cases last <;> rfl
  | cons line rest ih =>
    obtain ⟨hline, hrest⟩ := List.forall_mem_cons.mp hlines
    have htext : (textOf (line :: rest) last).toList =
        line.1.text.toList ++ (line.2.text.toList ++ (textOf rest last).toList) := by
      simp [textOf]
    rw [htext, Line.entriesAfter_text hline, ih hrest]
    obtain ⟨_ | _, lineEnd⟩ := line <;> rfl

namespace Entry

/-- The ending of project files is made of small letters and a dot, none of them a `k`. -/
theorem isPlain_projectEnding : ∀ c ∈ projectEnding.toList, Text.isPlain c = true :=
  List.all_eq_true.mp (by decide)

/-- The path of an entry is that of a C# project file exactly when its lower case ends like one. -/
theorem isCSharp_iff {e : Entry} :
    e.IsCSharp ↔ Text.hasEnd projectEnding (Text.lower e.path) = true :=
  (Text.hasEnd_lower_iff isPlain_projectEnding).symm

/-- It is decidable whether an entry is that of a C# project. -/
instance : DecidablePred IsCSharp :=
  fun _ => decidable_of_iff _ isCSharp_iff.symm

end Entry

/-- Reading a solution file that was written line by line gives the names of the C# projects among its
entries, with the paths of their project files, in order. -/
theorem projects_textOf {lines : List (Line × LineEnd)} {last : Line}
    (hlines : ∀ line ∈ lines, line.1.IsWritable) (hlast : last.IsWritable) :
    projects (textOf lines last) =
      ((entriesOf lines last).filter fun e => decide e.IsCSharp).map
        fun e => (e.name, WindowsPath.posixText e.path) := by
  have hlisted (e : Entry) : (if Text.hasEnd projectEnding (Text.lower e.path) then
      some (e.name, WindowsPath.posixText e.path) else none) =
      (Option.guard (fun e : Entry => decide e.IsCSharp) e).map
        fun e => (e.name, WindowsPath.posixText e.path) := by
    by_cases h : e.IsCSharp
    · rw [if_pos (Entry.isCSharp_iff.mp h), Option.guard, if_pos (decide_eq_true h)]
      rfl
    · rw [if_neg (mt Entry.isCSharp_iff.mpr h), Option.guard, if_neg (by simpa using h)]
      rfl
  rw [projects, entriesAfter_textOf hlines hlast, List.map_map, List.filterMap_map,
    ← List.filterMap_eq_filter, List.map_filterMap]
  refine List.filterMap_congr fun e _ => ?_
  simp only [Function.comp_apply, String.ofList_toList]
  exact hlisted e

/-- The lines of a file with a solution folder and two projects, one of them under a name that looks
like an entry. -/
def lodgeLines : List (Line × LineEnd) :=
  [(.other "Microsoft Visual Studio Solution File, Format Version 12.00", .returnAndLineFeed),
    (.entry ⟨"2150E333", "docs", "docs", "A1"⟩, .returnAndLineFeed),
    (.other "EndProject", .lineFeed),
    (.entry ⟨"FAE04EC0", "Lodge = Project(", "..\\Lodge\\.\\Lodge.CsProj", "B2"⟩, .lineFeed),
    (.other "\tProject(\"\x7bFAE04EC0\x7d\") = \"Cellar\", \"Cellar.csproj\"", .returnAndLineFeed)]

/-- Of these lines, and a last one that does not end, the C# projects are found. -/
theorem projects_textOf_lodge :
    let last : Line := .entry ⟨"FAE04EC0", "Attic", "Attic.csproj", "C3"⟩
    (∀ line ∈ lodgeLines, line.1.IsWritable) ∧ last.IsWritable ∧
      projects (textOf lodgeLines last) =
        [("Lodge = Project(", "../Lodge/Lodge.CsProj"), ("Attic", "Attic.csproj")] := by
  have hlines : ∀ line ∈ lodgeLines, line.1.IsWritable := by decide
  have hlast : (Line.entry ⟨"FAE04EC0", "Attic", "Attic.csproj", "C3"⟩).IsWritable := by decide
  exact ⟨hlines, hlast, (projects_textOf hlines hlast).trans (by decide +kernel)⟩

end ClientGen.SolutionFile

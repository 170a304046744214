import ClientGen.Proofs.Lookup
import ClientGen.Proofs.Service.Outcome
import ClientGen.Proofs.Text.Splitting
import ClientGen.TypeScript.Module

/-!
# The lines of a documentation comment

The comment of a service has one line for its summary and one line for each parameter that its method
describes, in the order of the signature, whatever the order of the descriptions. All white space of a
text is turned into single spaces before the text is written, so no text breaks its line, by any
character that any reader may take for a line break. Of several descriptions of a parameter the first
one is written, and a description of something that is no parameter is not.

A `param` element without a name counts as one with an empty name. It describes a parameter whose name
is empty, and no other one.
-/

namespace ClientGen

/-! ### Lines -/

namespace Text

/-- A class of characters that break lines: the line feed is one of them, the space is not, and all of
them are white space. -/
structure BreaksLines (isBreak : Char → Bool) : Prop where
  /-- The line feed breaks a line. -/
  feed : isBreak '\n' = true
  /-- A space breaks no line. -/
  space : isBreak ' ' = false
  /-- What breaks a line is white space. -/
  blank : ∀ c, isBreak c = true → isBlank c = true

/-- No character of a text breaks a line. -/
def Unbroken (isBreak : Char → Bool) (s : String) : Prop :=
  ∀ c ∈ s.toList, isBreak c = false

instance (isBreak : Char → Bool) : DecidablePred (Unbroken isBreak) :=
  fun s => List.decidableBAll (fun c => isBreak c = false) s.toList

/-- A text made of lines, each with a line feed at its end. -/
def ofLines (lines : List String) : String :=
  String.join (lines.map (· ++ "\n"))

/-- A text whose only white space is the space. -/
def IsFlat (s : String) : Prop :=
  ∀ c ∈ s.toList, c = ' ' ∨ isBlank c = false

-- The characters of the text are looked through, not all that there are.
instance : DecidablePred IsFlat :=
  fun s => List.decidableBAll (fun c => c = ' ' ∨ isBlank c = false) s.toList

variable {isBreak : Char → Bool}

/-- No line breaks in a text whose only white space is the space. -/
theorem IsFlat.unbroken {s : String} (h : IsFlat s) (breaks : BreaksLines isBreak) :
    Unbroken isBreak s := by
  intro c hc
  rcases h c hc with rfl | hblank
  · exact breaks.space
  · cases hbreak : isBreak c with
    | false => rfl
    | true =>
      rw [breaks.blank c hbreak] at hblank
      cases hblank

/-- Two texts without a break in them have none together. -/
theorem Unbroken.append {s t : String} (hs : Unbroken isBreak s) (ht : Unbroken isBreak t) :
    Unbroken isBreak (s ++ t) := by
  intro c hc
  rw [String.toList_append, List.mem_append] at hc
  exact hc.elim (hs c) (ht c)

/-- A word has no white space in it. -/
theorem isBlank_of_mem_words {s word : String} (h : word ∈ words s) :
    ∀ c ∈ word.toList, isBlank c = false := by
  obtain ⟨chars, hchars, rfl⟩ := List.mem_map.mp h
  intro c hc
  rw [String.toList_ofList] at hc
  exact (of_mem_splitWhere (List.mem_filter.mp hchars).1 c hc).2

/-- Words with spaces between them hold no other white space. -/
theorem isFlat_collapse (s : String) : IsFlat (collapse s) := by
  intro c hc
  rw [collapse] at hc
  generalize hwords : words s = found at hc
  have hall : ∀ word ∈ found, ∀ c ∈ word.toList, isBlank c = false :=
    fun word hword => isBlank_of_mem_words (hwords ▸ hword)
  clear hwords
  induction found with
  | nil => exact nomatch hc
  | cons first rest ih =>
    obtain ⟨hfirst, hrest⟩ := List.forall_mem_cons.mp hall
    cases rest with
    | nil =>
      rw [String.intercalate_singleton] at hc
      exact .inr (hfirst c hc)
    | cons second rest =>
      rw [String.intercalate_cons_cons, String.toList_append, String.toList_append, List.mem_append,
        List.mem_append] at hc
      rcases hc with (hc | hc) | hc
      · exact .inr (hfirst c hc)
      · exact .inl (List.mem_singleton.mp hc)
      · exact ih hc hrest

/-- Lines without a break in them are what a text made of them is split into. Nothing follows the last
line feed. -/
theorem splitWhere_ofLines {lines : List String} (breaks : BreaksLines isBreak)
    (h : ∀ line ∈ lines, Unbroken isBreak line) :
    (splitWhere isBreak (ofLines lines).toList).map String.ofList = lines ++ [""] := by
  induction lines with
  | nil => rfl
  | cons line rest ih =>
    obtain ⟨hline, hrest⟩ := List.forall_mem_cons.mp h
    have hlines : (ofLines (line :: rest)).toList = line.toList ++ '\n' :: (ofLines rest).toList := by
      simp [ofLines, String.toList_append]
    rw [hlines, splitWhere_append_cons hline breaks.feed, List.map_cons, ih hrest,
      String.ofList_toList, List.cons_append]

end Text

/-! ### Descriptions of parameters -/

/-- An element describes the parameter of a name: it is a `param` element under that name, and one
without a name has the empty name. -/
def DocElement.Describes (e : DocElement) (name : String) : Prop :=
  e.tag = "param" ∧ (e.value? "name" = some name ∨ e.value? "name" = none ∧ name = "")

instance (e : DocElement) (name : String) : Decidable (e.Describes name) :=
  inferInstanceAs (Decidable (_ ∧ _))

/-- The description of a parameter is the text of the first element that describes it. -/
theorem Documentation.lookup_descriptions (elements : List DocElement) (name : String) :
    (descriptions elements).lookup name =
      (elements.find? fun e => decide (e.Describes name)).map (·.text) := by
  induction elements with
  | nil => rfl
  | cons e rest ih =>
    rw [descriptions] at ih ⊢
    by_cases htag : e.tag = "param"
    · have hdescribes : e.Describes name ↔ name = (e.value? "name").getD "" := by
        cases hvalue : e.value? "name" with
        | none => simp [DocElement.Describes, htag, hvalue]
        | some value => simp [DocElement.Describes, htag, hvalue, eq_comm]
      rw [List.filter_cons_of_pos (by simpa using htag), List.map_cons, lookup_cons_eq_ite, ih,
        List.find?_cons]
      by_cases hname : name = (e.value? "name").getD ""
      · rw [if_pos hname, decide_eq_true (hdescribes.mpr hname)]
        rfl
      · rw [if_neg hname, decide_eq_false (mt hdescribes.mp hname)]
    · have hnot : ¬ e.Describes name := fun h => htag h.1
      rw [List.filter_cons_of_neg (by simpa using htag), ih,
        List.find?_cons_of_neg (by simpa using hnot)]

/-! ### The lines of a comment -/

namespace TypeScript

/-- The line of a parameter in a comment, if one of the elements describes the parameter. -/
def paramLine? (elements : List DocElement) (p : MethodParameter) : Option String :=
  (elements.find? fun e => decide (e.Describes p.name)).map fun e =>
    " * @param " ++ p.name ++ " " ++ Text.collapse e.text

/-- The lines of the comment on a method with a given summary. -/
def commentLines (method : Method) (summary : String) : List String :=
  ["/**", " * " ++ Text.collapse summary] ++
    method.parameters.filterMap (paramLine? (method.documentation.getD [])) ++
    [" * @param options Fetch options.", " */"]

/-- The line of a parameter of a service is that of the parameter of its method. -/
theorem paramLine_eq {documentation : Documentation} {elements : List DocElement}
    (h : documentation.parameters = Documentation.descriptions elements) {solution : Solution}
    (p : MethodParameter) :
    paramLine documentation (p.toService solution) =
      String.join ((paramLine? elements p).toList.map (· ++ "\n")) := by
  have hname : (p.toService solution).name = p.name := rfl
  rw [paramLine, hname, Documentation.descriptionFor, h, Documentation.lookup_descriptions, paramLine?]
  cases elements.find? fun e => decide (e.Describes p.name) <;> rfl

/-- The lines of the parameters of a service are those of the described parameters of its method. -/
theorem join_paramLine {documentation : Documentation} {elements : List DocElement}
    (h : documentation.parameters = Documentation.descriptions elements) (solution : Solution)
    (parameters : List MethodParameter) :
    String.join ((parameters.map (·.toService solution)).map (paramLine documentation)) =
      Text.ofLines (parameters.filterMap (paramLine? elements)) := by
  induction parameters with
  | nil => rfl
  | cons p rest ih =>
    rw [List.map_cons, List.map_cons, String.join_cons, ih, paramLine_eq h, Text.ofLines]
    cases hline : paramLine? elements p with
    | none => simp [hline, Text.ofLines]
    | some line => simp [hline, Text.ofLines]

/-- A comment is made of the line that opens it, those of the summary and of the described parameters,
that of the options and the one that closes it. -/
theorem comment_eq_ofLines {solution : Solution} {method : Method} {service : Service}
    (made : method.toService solution = .ok (some service)) :
    ∃ summary, (method.documentation.getD []).find? (·.tag == "summary") = some summary ∧
      comment service = Text.ofLines (commentLines method summary.text) := by
  obtain ⟨summary, hfind, hdocumentation⟩ := Method.documentation_of_toService made
  have hparameters := (Method.parameters_of_toService made).1
  refine ⟨summary, hfind, ?_⟩
  have hdescriptions : service.documentation.parameters =
      Documentation.descriptions (method.documentation.getD []) := by
    rw [hdocumentation]
  have hlines := join_paramLine hdescriptions solution method.parameters
  rw [comment, hparameters, hlines, hdocumentation, commentLines, ← String.toList_inj]
  simp [Text.ofLines, String.toList_append]

/-- No line of a comment breaks when no name of a parameter does. -/
theorem unbroken_of_mem_commentLines {isBreak : Char → Bool} (breaks : Text.BreaksLines isBreak)
    {method : Method} (names : ∀ p ∈ method.parameters, Text.Unbroken isBreak p.name)
    (summary : String) : ∀ line ∈ commentLines method summary, Text.Unbroken isBreak line := by
  have hflat {s : String} (h : Text.IsFlat s) := h.unbroken breaks
  have hcollapse (s : String) := hflat (Text.isFlat_collapse s)
  intro line hline
  simp only [commentLines, List.mem_append, List.mem_cons, List.not_mem_nil, or_false,
    List.mem_filterMap] at hline
  rcases hline with ((rfl | rfl) | ⟨p, hp, hline⟩) | rfl | rfl
  · exact hflat (by decide)
  · exact (hflat (by decide)).append (hcollapse summary)
  · obtain ⟨e, -, rfl⟩ := Option.map_eq_some_iff.mp hline
    have hmark : Text.Unbroken isBreak " * @param " := hflat (by decide)
    have hspace : Text.Unbroken isBreak " " := hflat (by decide)
    exact ((hmark.append (names p hp)).append hspace).append (hcollapse e.text)
  · exact hflat (by decide)
  · exact hflat (by decide)

/-- Split at its line breaks, whatever characters count as such, the comment of a service gives its
lines and nothing else: the one that opens it, one with the summary of the method, one for each
described parameter in the order of the signature, with the first element that describes it, the one of
the options and the one that closes it. -/
theorem splitWhere_comment {solution : Solution} {method : Method} {service : Service}
    (made : method.toService solution = .ok (some service)) {isBreak : Char → Bool}
    (breaks : Text.BreaksLines isBreak)
    (names : ∀ p ∈ method.parameters, Text.Unbroken isBreak p.name) :
    ∃ summary, (method.documentation.getD []).find? (·.tag == "summary") = some summary ∧
      (Text.splitWhere isBreak (comment service).toList).map String.ofList =
        commentLines method summary.text ++ [""] := by
  obtain ⟨summary, hfind, hcomment⟩ := comment_eq_ofLines made
  have hlines := Text.splitWhere_ofLines breaks
    (unbroken_of_mem_commentLines breaks names summary.text)
  exact ⟨summary, hfind, by rw [hcomment, hlines]⟩

/-- The line terminators of the language that the comment is written in. -/
def isLineTerminator (c : Char) : Bool :=
  ['\n', '\r', '\u2028', '\u2029'].contains c

/-- A method whose descriptions are stale, reordered and repeated, with breaks of all kinds in them. -/
def searchOrders : Method where
  name := "Search"
  returnType := { name := "string" }
  parameters := [{ name := "id", type := { name := "int" } }, { name := "page", type := { name := "int" } },
    { name := "status", type := { name := "string" } }]
  attributes := [⟨"HttpGet", [some "orders"]⟩]
  documentation := some [
    { tag := "param", attributes := [("name", "status")], text := "Expected\u2028  status." },
    { tag := "param", attributes := [("name", "removed")], text := "Stale entry." },
    { tag := "summary", text := "\r\n Searches\u2029orders. " },
    { tag := "param", text := "Nameless entry." },
    { tag := "param", attributes := [("name", "id")], text := "\tOrder id.\x0b" },
    { tag := "param", attributes := [("name", "status")], text := "Second entry." }]

/-- The comment on it has two lines for parameters, in the order of the signature. -/
theorem splitWhere_comment_searchOrders :
    Text.BreaksLines isLineTerminator ∧
      (∀ p ∈ searchOrders.parameters, Text.Unbroken isLineTerminator p.name) ∧
      ∃ service, searchOrders.toService (.ofProjects []) = .ok (some service) ∧
        (Text.splitWhere isLineTerminator (comment service).toList).map String.ofList =
          ["/**", " * Searches orders.", " * @param id Order id.", " * @param status Expected status.",
            " * @param options Fetch options.", " */", ""] := by
  have breaks : Text.BreaksLines isLineTerminator := {
    feed := by decide
    space := by decide
    blank := by
      intro c hc
      have hall : ['\n', '\r', '\u2028', '\u2029'].all Text.isBlank = true := by decide
      exact List.all_eq_true.mp hall c (List.contains_iff_mem.mp hc) }
  have names : ∀ p ∈ searchOrders.parameters, Text.Unbroken isLineTerminator p.name := by decide
  have facts : (searchOrders.toService (.ofProjects [])).map Option.isSome = .ok true := by decide
  obtain ⟨made?, made, hsome⟩ := map_eq_ok_iff.mp facts
  obtain ⟨service, rfl⟩ := Option.isSome_iff_exists.mp hsome
  obtain ⟨summary, hfind, hlines⟩ := splitWhere_comment made breaks names
  have htext : some summary.text = some "\r\n Searches\u2029orders. " :=
    (congrArg (Option.map DocElement.text) hfind).symm.trans (by decide)
  rw [Option.some.inj htext] at hlines
  exact ⟨breaks, names, service, made, hlines.trans (by decide)⟩

/-- A method with a parameter of the empty name and a description that names no parameter. -/
def callNameless : Method where
  name := "Call"
  returnType := { name := "string" }
  parameters := [{ name := "", type := { name := "int" } }]
  attributes := [⟨"HttpGet", [some "calls"]⟩]
  modifiers := ["public"]
  documentation := some [{ tag := "summary", text := "Calls." },
    { tag := "param", text := "Stray entry." }]

/-- The comment on it has a line for the parameter, although no element has the name of the parameter
as its own. -/
theorem not_named_callNameless :
    (∀ e ∈ callNameless.documentation.getD [], e.value? "name" = none) ∧
      ∃ service, callNameless.toService (.ofProjects []) = .ok (some service) ∧
        comment service = "/**\n * Calls.\n * @param  Stray entry.\n" ++
          " * @param options Fetch options.\n */\n" := by
  have facts : (callNameless.toService (.ofProjects [])).map (fun made? => made?.map comment) =
      .ok (some ("/**\n * Calls.\n * @param  Stray entry.\n" ++
        " * @param options Fetch options.\n */\n")) := by decide
  obtain ⟨made?, made, hcomment⟩ := map_eq_ok_iff.mp facts
  obtain ⟨service, rfl, htext⟩ := Option.map_eq_some_iff.mp hcomment
  exact ⟨by decide, service, made, htext⟩

end TypeScript

end ClientGen

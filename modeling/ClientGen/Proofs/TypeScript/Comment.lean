import ClientGen.Proofs.Service.Outcome
import ClientGen.Proofs.Text.Cutting
import ClientGen.Proofs.Text.Words
import ClientGen.TypeScript.Module

/-!
# Where a documentation comment ends

A comment of a client module ends where its first `*/` ends, so it ends on its own last line exactly
when there is no other one in it. The comment of a service repeats the summary of its method and the
descriptions of its parameters with nothing escaped. Every other part of it is free of `*/`, no two
parts meet in one, and collapsing white space makes none; so the comment ends where it should
exactly when none of the repeated texts holds one.
-/

namespace ClientGen

/-- The texts that the comment of a service repeats: the first summary of its method, and the
description of every parameter that has one. -/
def Method.repeatedTexts (method : Method) : List String :=
  let elements := method.documentation.getD []
  ((elements.find? (·.tag == "summary")).map (·.text)).toList ++
    method.parameters.filterMap fun p => (Documentation.descriptions elements).lookup p.name

namespace TypeScript

/-- The end of a comment. -/
def commentEnd : List Char := ['*', '/']

/-- A text holds the end of a comment. -/
def HoldsEnd (cs : List Char) : Prop :=
  commentEnd <:+: cs

/-- It is decidable whether a text holds the end of a comment. -/
instance : DecidablePred HoldsEnd :=
  fun cs => inferInstanceAs (Decidable (commentEnd <:+: cs))

/-- What follows each end of a comment in a text, in order. -/
def afterEnds (cs : List Char) : List (List Char) :=
  cs.tails.filterMap (Text.dropStart? commentEnd)

/-- The only end of a comment in a text is the one on its last line. -/
def ClosesOnce (text : String) : Prop :=
  afterEnds text.toList = [['\n']]

/-- It is decidable whether a comment ends on its last line. -/
instance : DecidablePred ClosesOnce :=
  fun text => inferInstanceAs (Decidable (afterEnds text.toList = [['\n']]))

/-! ### The ends of comments in a text -/

/-- Nothing follows an end exactly when there is no end. -/
theorem afterEnds_eq_nil_iff {cs : List Char} : afterEnds cs = [] ↔ ¬ HoldsEnd cs := by
  rw [afterEnds, List.filterMap_eq_nil_iff, HoldsEnd, List.infix_iff_prefix_suffix]
  constructor
  · rintro h ⟨rest, hstart, hrest⟩
    have hsome := Text.isSome_dropStart?_iff.mpr hstart
    rw [h rest ((List.mem_tails rest cs).mpr hrest)] at hsome
    cases hsome
  · intro h rest hrest
    by_contra hsome
    have hstart := Text.isSome_dropStart?_iff.mp (Option.isSome_iff_ne_none.mpr hsome)
    exact h ⟨rest, hstart, (List.mem_tails rest cs).mp hrest⟩

/-- A character that is in no end of a comment parts the ends before it from those after it. -/
theorem afterEnds_append_cons {c : Char} (before after : List Char) (h : c ∉ commentEnd) :
    afterEnds (before ++ c :: after) =
      (afterEnds before).map (· ++ c :: after) ++ afterEnds after := by
  have hnone : Text.dropStart? commentEnd (c :: after) = none :=
    Text.dropStart?_append_cons [] after h
  induction before with
  | nil =>
    rw [List.nil_append, afterEnds, List.tails_cons, List.filterMap_cons_none hnone]
    rfl
  | cons b before ih =>
    have hcut := Text.dropStart?_append_cons (b :: before) after h
    rw [afterEnds, afterEnds] at ih
    rw [afterEnds, afterEnds, List.cons_append, List.tails_cons, List.tails_cons,
      List.filterMap_cons, List.filterMap_cons, ← List.cons_append, hcut, ih]
    cases Text.dropStart? commentEnd (b :: before) <;> rfl

/-- A character that is in no end of a comment parts a text in two that are looked at apart. -/
theorem holdsEnd_append_cons {c : Char} (before after : List Char) (h : c ∉ commentEnd) :
    HoldsEnd (before ++ c :: after) ↔ HoldsEnd before ∨ HoldsEnd after :=
  Text.infix_append_cons_iff before after h

/-- Collapsing white space keeps the ends of comments in a text and makes no new one. -/
theorem holdsEnd_collapse (s : String) : HoldsEnd (Text.collapse s).toList ↔ HoldsEnd s.toList := by
  have hblank : ∀ c ∈ commentEnd, Text.isBlank c = false :=
    List.forall_mem_cons.mpr ⟨by decide, List.forall_mem_singleton.mpr (by decide)⟩
  exact Text.infix_collapse_iff s (by decide) hblank

/-- A text without an asterisk holds no end of a comment. -/
theorem not_holdsEnd_of_not_mem {cs : List Char} (h : '*' ∉ cs) : ¬ HoldsEnd cs :=
  fun hend => h (hend.subset List.mem_cons_self)

/-! ### The comment of a service -/

/-- The line of a parameter holds an end when its description does, whatever lines follow. -/
theorem holdsEnd_paramLine_append {documentation : Documentation} {p : ServiceParameter}
    (rest : List Char) (h : '*' ∉ p.name.toList) :
    HoldsEnd ((paramLine documentation p).toList ++ rest) ↔
      (∃ description ∈ documentation.descriptionFor p.name, HoldsEnd description.toList) ∨
        HoldsEnd rest := by
  rw [paramLine]
  cases documentation.descriptionFor p.name with
  | none => simp
  | some description =>
    have hline :
        (" * @param " ++ p.name ++ " " ++ Text.collapse description ++ "\n").toList ++ rest =
        " * @param".toList ++ ' ' :: (p.name.toList ++
          ' ' :: ((Text.collapse description).toList ++ '\n' :: rest)) := by
      simp [String.toList_append]
    have hmark : ¬ HoldsEnd " * @param".toList := by decide
    rw [hline, holdsEnd_append_cons _ _ (by decide), holdsEnd_append_cons _ _ (by decide),
      holdsEnd_append_cons _ _ (by decide), holdsEnd_collapse, or_iff_right hmark,
      or_iff_right (not_holdsEnd_of_not_mem h)]
    simp

/-- The lines of the parameters hold an end when one of the descriptions does. -/
theorem holdsEnd_paramLines_append {documentation : Documentation}
    {parameters : List ServiceParameter} {rest : List Char}
    (names : ∀ p ∈ parameters, '*' ∉ p.name.toList) (hrest : ¬ HoldsEnd rest) :
    HoldsEnd ((String.join (parameters.map (paramLine documentation))).toList ++ rest) ↔
      ∃ p ∈ parameters, ∃ description ∈ documentation.descriptionFor p.name,
        HoldsEnd description.toList := by
  induction parameters with
  | nil => simpa using hrest
  | cons p parameters ih =>
    obtain ⟨hname, hnames⟩ := List.forall_mem_cons.mp names
    rw [List.map_cons, String.join_cons, String.toList_append, List.append_assoc,
      holdsEnd_paramLine_append _ hname, ih hnames, List.exists_mem_cons_iff]

/-- A comment ends on its last line exactly when neither its summary nor a description of one of its
parameters holds the end of a comment. -/
theorem closesOnce_comment_iff {service : Service}
    (names : ∀ p ∈ service.parameters, '*' ∉ p.name.toList) :
    ClosesOnce (comment service) ↔
      ¬ HoldsEnd service.documentation.summary.toList ∧
        ¬ ∃ p ∈ service.parameters, ∃ description ∈ service.documentation.descriptionFor p.name,
          HoldsEnd description.toList := by
  let lines := String.join (service.parameters.map (paramLine service.documentation))
  let inner := "/**\n *".toList ++ ' ' :: (service.documentation.summary.toList ++
    '\n' :: (lines.toList ++ " * @param options Fetch options.".toList))
  have hcomment : (comment service).toList = inner ++ '\n' :: " */\n".toList := by
    simp [comment, String.toList_append, inner, lines]
  have hlast : afterEnds " */\n".toList = [['\n']] := by decide
  have hopen : ¬ HoldsEnd "/**\n *".toList := by decide
  have hinner : HoldsEnd inner ↔ HoldsEnd service.documentation.summary.toList ∨
      ∃ p ∈ service.parameters, ∃ description ∈ service.documentation.descriptionFor p.name,
        HoldsEnd description.toList := by
    rw [holdsEnd_append_cons _ _ (by decide), holdsEnd_append_cons _ _ (by decide),
      holdsEnd_paramLines_append names (by decide), or_iff_right hopen]
  rw [ClosesOnce, hcomment, afterEnds_append_cons _ _ (by decide), hlast, List.append_left_eq_self,
    List.map_eq_nil_iff, afterEnds_eq_nil_iff, hinner, not_or]

/-- The comment of a service ends on its last line exactly when no text that it repeats from the
method holds the end of a comment, before white space is collapsed. -/
theorem closesOnce_comment_iff_repeatedTexts {solution : Solution} {method : Method}
    {service : Service} (made : method.toService solution = .ok (some service))
    (names : ∀ p ∈ method.parameters, '*' ∉ p.name.toList) :
    ClosesOnce (comment service) ↔ ∀ text ∈ method.repeatedTexts, ¬ HoldsEnd text.toList := by
  obtain ⟨element, hfind, hdocumentation⟩ := Method.documentation_of_toService made
  have hparameters := (Method.parameters_of_toService made).1
  have hnames : ∀ p ∈ service.parameters, '*' ∉ p.name.toList := by
    rw [hparameters]
    exact List.forall_mem_map.mpr names
  have hsummary : service.documentation.summary = Text.collapse element.text := by
    rw [hdocumentation]
  have hdescriptions : service.documentation.parameters =
      Documentation.descriptions (method.documentation.getD []) := by
    rw [hdocumentation]
  have hrepeated (text : String) : text ∈ method.repeatedTexts ↔ text = element.text ∨
      ∃ p ∈ service.parameters, text ∈ service.documentation.descriptionFor p.name := by
    rw [Method.repeatedTexts, hfind, hparameters]
    simp [MethodParameter.toService, Documentation.descriptionFor, hdescriptions]
  rw [closesOnce_comment_iff hnames, hsummary, holdsEnd_collapse]
  constructor
  · rintro ⟨hsummaryEnd, hnone⟩ text htext hend
    obtain rfl | ⟨p, hp, hdescription⟩ := (hrepeated text).mp htext
    · exact hsummaryEnd hend
    · exact hnone ⟨p, hp, text, hdescription, hend⟩
  · intro hno
    refine ⟨hno _ ((hrepeated _).mpr (.inl rfl)), ?_⟩
    rintro ⟨p, hp, text, hdescription, hend⟩
    exact hno text ((hrepeated text).mpr (.inr ⟨p, hp, hdescription⟩)) hend

/-- A module repeats the comment of every service in front of its function. Each comment ends on its
own last line exactly when no summary and no description that it repeats holds the end of a comment;
names of parameters without an asterisk never end one. -/
theorem comments_close_iff {solution : Solution} {methods : List Method} {services : List Service}
    (made : List.Forall₂ (fun method service => method.toService solution = .ok (some service))
      methods services)
    (names : ∀ method ∈ methods, ∀ p ∈ method.parameters, '*' ∉ p.name.toList)
    (productName : String) (folderCount : Int) :
    (∃ start, render productName folderCount services =
      start ++ String.join (services.map fun service =>
        "\n" ++ comment service ++ functionText service)) ∧
      List.Forall₂ (fun method service =>
        ClosesOnce (comment service) ↔ ∀ text ∈ method.repeatedTexts, ¬ HoldsEnd text.toList)
        methods services := by
  refine ⟨⟨_, rfl⟩, ?_⟩
  induction made with
  | nil => exact .nil
  | cons made _ ih =>
    obtain ⟨hname, hnames⟩ := List.forall_mem_cons.mp names
    exact .cons (closesOnce_comment_iff_repeatedTexts made hname) (ih hnames)

/-- A method with one described parameter. -/
def listMethod (summary description : String) : Method where
  name := "List"
  returnType := { name := "string" }
  parameters := [{ name := "pattern", type := { name := "string" } }]
  attributes := [⟨"HttpGet", [some "files"]⟩]
  modifiers := ["public"]
  documentation := some [{ tag := "summary", text := summary },
    { tag := "param", attributes := [("name", "pattern")], text := description }]

/-- An asterisk that white space parts from a slash ends no comment, whatever that collapses to. -/
theorem comments_close_spaced :
    ∃ service, (listMethod "Lists all * files." "Stars *\n / strokes").toService (.ofProjects []) =
        .ok (some service) ∧
      ClosesOnce (comment service) := by
  have facts : ((listMethod "Lists all * files." "Stars *\n / strokes").toService
      (.ofProjects [])).map Option.isSome = .ok true := by decide
  obtain ⟨made?, made, hsome⟩ := map_eq_ok_iff.mp facts
  obtain ⟨service, rfl⟩ := Option.isSome_iff_exists.mp hsome
  obtain ⟨-, hclose⟩ := comments_close_iff (.cons made .nil) (by decide) "Files" 0
  cases hclose with
  | cons hclose _ => exact ⟨service, made, hclose.mpr (by decide)⟩

/-- A summary that quotes a pattern of paths ends its comment in the middle of the sentence. -/
theorem not_comments_close_pattern :
    ∃ service, (listMethod "Lists src/*/index.ts files." "A pattern.").toService (.ofProjects []) =
        .ok (some service) ∧
      ¬ ClosesOnce (comment service) := by
  have facts : ((listMethod "Lists src/*/index.ts files." "A pattern.").toService
      (.ofProjects [])).map (fun made? => made?.map comment) =
        .ok (some ("/**\n * Lists src/*/index.ts files.\n * @param pattern A pattern.\n" ++
          " * @param options Fetch options.\n */\n")) := by decide
  obtain ⟨made?, made, hcomment⟩ := map_eq_ok_iff.mp facts
  obtain ⟨service, rfl, htext⟩ := Option.map_eq_some_iff.mp hcomment
  exact ⟨service, made, by rw [htext]; decide⟩

end TypeScript

end ClientGen

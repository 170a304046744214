import ClientGen.Proofs.Text.Cutting
import ClientGen.Proofs.TypeScript.Call

/-!
# Decorated routes

A placeholder can be written with more than the name it binds: stars before the name, question
marks after it, and then a constraint after a colon or a default after an equals sign, which may
hold stars, question marks and separators of its own. Nothing that is derived from a route sees the
difference. A bare route and a decorated one list the same placeholders, so they divide parameters
in the same way, and they give the same address when every placeholder is bound, because a bound
placeholder is replaced together with its decorations.
-/

namespace ClientGen.Route

/-- The characters that a placeholder is decorated with, and the braces around it. -/
def decorationMarks : List Char := [':', '=', '*', '?', '\x7b', '\x7d']

/-- The body of a placeholder that is a name and nothing else. -/
structure IsBareName (name : List Char) : Prop where
  ne_nil : name ≠ []
  unmarked : ∀ c ∈ name, c ∉ decorationMarks
  head_not_blank : ∀ c ∈ name.head?, Text.isBlank c = false
  last_not_blank : ∀ c ∈ name.getLast?, Text.isBlank c = false

/-- Whether a body is a bare name can be computed. -/
instance : DecidablePred IsBareName := fun name =>
  decidable_of_iff (name ≠ [] ∧ (name.all fun c => decide (c ∉ decorationMarks)) = true ∧
      (name.head?.all fun c => !Text.isBlank c) = true ∧
      (name.getLast?.all fun c => !Text.isBlank c) = true) <| by
    simp only [List.all_eq_true, Option.all_eq_true, decide_eq_true_eq, Bool.not_eq_true']
    exact ⟨fun ⟨hne, hmarks, hhead, hlast⟩ => ⟨hne, hmarks, hhead, hlast⟩,
      fun h => ⟨h.ne_nil, h.unmarked, h.head_not_blank, h.last_not_blank⟩⟩

/-- What may follow a name and its question marks: a constraint, a default, or nothing. -/
inductive IsSuffix : List Char → Prop
  /-- Nothing follows. -/
  | nothing : IsSuffix []
  /-- A separator and any text without braces. -/
  | separated {sep : Char} {text : List Char} (separator : sep = ':' ∨ sep = '=')
    (closed : ∀ c ∈ text, isBrace c = false) : IsSuffix (sep :: text)

/-- A name with stars before it and question marks and a suffix after it. -/
def IsDecorated (name body : List Char) : Prop :=
  ∃ stars questions suffix, IsSuffix suffix ∧
    body = List.replicate stars '*' ++ (name ++ (List.replicate questions '?' ++ suffix))

/-- A bare route, and the same route with each of its placeholders decorated in some way. -/
inductive Decorates : List Char → List Char → Prop
  /-- Nothing is left to read. -/
  | done : Decorates [] []
  /-- A character around the placeholders is the same. -/
  | plain {c : Char} {bare decorated : List Char} (text : isBrace c = false)
    (rest : Decorates bare decorated) : Decorates (c :: bare) (c :: decorated)
  /-- A placeholder has the same name. -/
  | placeholder {name body bare decorated : List Char} (bareName : IsBareName name)
    (decoration : IsDecorated name body) (rest : Decorates bare decorated) :
    Decorates ('\x7b' :: (name ++ '\x7d' :: bare)) ('\x7b' :: (body ++ '\x7d' :: decorated))

/-! ### One placeholder -/

/-- A separator ends the part of a body that the name is taken from. -/
theorem IsSuffix.takeWhile {suffix : List Char} (h : IsSuffix suffix) :
    suffix.takeWhile (fun c => c != ':' && c != '=') = [] := by
  cases h with
  | nothing => rfl
  | separated separator closed => rcases separator with rfl | rfl <;> rfl

/-- A suffix holds no brace. -/
theorem IsSuffix.closed {suffix : List Char} (h : IsSuffix suffix) :
    ∀ c ∈ suffix, isBrace c = false := by
  cases h with
  | nothing => simp
  | separated separator closed =>
    refine List.forall_mem_cons.mpr ⟨?_, closed⟩
    rcases separator with rfl | rfl <;> rfl

/-- A name without decorations is one way to decorate it. -/
theorem IsDecorated.refl (name : List Char) : IsDecorated name name :=
  ⟨0, 0, [], .nothing, by simp⟩

namespace IsBareName

variable {name body : List Char}

/-- No character of a name is one that placeholders are decorated with. -/
theorem ne_of_mem (h : IsBareName name) {c : Char} (hc : c ∈ name) :
    c ≠ ':' ∧ c ≠ '=' ∧ c ≠ '*' ∧ c ≠ '?' ∧ c ≠ '\x7b' ∧ c ≠ '\x7d' := by
  simpa [decorationMarks] using h.unmarked c hc

/-- No character of a name is a brace. -/
theorem closed (h : IsBareName name) : ∀ c ∈ name, isBrace c = false := by
  intro c hc
  obtain ⟨-, -, -, -, hopen, hclose⟩ := h.ne_of_mem hc
  simp [isBrace, hopen, hclose]

/-- A name with its decorations holds no brace. -/
theorem closed_of_isDecorated (h : IsBareName name) (hbody : IsDecorated name body) :
    ∀ c ∈ body, isBrace c = false := by
  obtain ⟨stars, questions, suffix, hsuffix, rfl⟩ := hbody
  simp only [List.forall_mem_append, List.mem_replicate]
  refine ⟨?_, h.closed, ?_, hsuffix.closed⟩
  · rintro c ⟨_, rfl⟩
    rfl
  · rintro c ⟨_, rfl⟩
    rfl

/-- The stars before a name are left out, and nothing of the name. -/
theorem dropWhile_stars (h : IsBareName name) (stars : Nat) (rest : List Char) :
    (List.replicate stars '*' ++ (name ++ rest)).dropWhile (· == '*') = name ++ rest := by
  rw [List.dropWhile_append_of_pos (by simp [List.mem_replicate])]
  cases name with
  | nil => exact absurd rfl h.ne_nil
  | cons c rest =>
    obtain ⟨-, -, hstar, -⟩ := h.ne_of_mem List.mem_cons_self
    exact List.dropWhile_cons_of_neg (by simpa using hstar)

/-- The name and its question marks come before every separator. -/
theorem takeWhile_suffix (h : IsBareName name) (questions : Nat) {suffix : List Char}
    (hsuffix : IsSuffix suffix) :
    (name ++ (List.replicate questions '?' ++ suffix)).takeWhile (fun c => c != ':' && c != '=') =
      name ++ List.replicate questions '?' := by
  rw [List.takeWhile_append_of_pos, List.takeWhile_append_of_pos (by simp [List.mem_replicate]),
    hsuffix.takeWhile, List.append_nil]
  intro c hc
  obtain ⟨hcolon, hequals, -⟩ := h.ne_of_mem hc
  simp [hcolon, hequals]

/-- The question marks after a name are left out, and nothing of the name. -/
theorem dropTrailing_questions (h : IsBareName name) (questions : Nat) :
    Text.dropTrailing (· == '?') (name ++ List.replicate questions '?') = name := by
  rw [Text.dropTrailing_append _ (by simp [List.mem_replicate])]
  apply Text.dropTrailing_of_getLast?
  intro c hc
  obtain ⟨-, -, -, hquestion, -⟩ := h.ne_of_mem (List.mem_of_getLast? hc)
  simpa using hquestion

/-- The name that a decorated name binds is the name: the stars go first, then the suffix, then the
question marks, and the name itself has nothing to lose. -/
theorem placeholderChars_of_isDecorated (h : IsBareName name) (hbody : IsDecorated name body) :
    placeholderChars body = name := by
  obtain ⟨stars, questions, suffix, hsuffix, rfl⟩ := hbody
  rw [placeholderChars, h.dropWhile_stars, h.takeWhile_suffix questions hsuffix,
    h.dropTrailing_questions, Text.trimChars_of_ends h.head_not_blank h.last_not_blank]

end IsBareName

/-! ### All placeholders of a route -/

/-- Braces around a body at the beginning of a route are its first placeholder. -/
theorem pieces_placeholder {body : List Char} (hbody : ∀ c ∈ body, isBrace c = false)
    (rest : List Char) :
    pieces ('\x7b' :: (body ++ '\x7d' :: rest)) = .placeholder body :: pieces rest :=
  pieces_append_placeholder [] body rest hbody

namespace Decorates

variable {bare decorated : List Char}

/-- The bare route is one of the routes that decorate it. -/
theorem bare_bare (h : Decorates bare decorated) : Decorates bare bare := by
  induction h with
  | done => exact .done
  | plain text _ ih => exact .plain text ih
  | placeholder bareName _ _ ih => exact .placeholder bareName (.refl _) ih

/-- However a bare route is decorated, its braces stay balanced and its placeholders named. -/
theorem wellFormed (h : Decorates bare decorated) : WellFormed decorated := by
  rw [WellFormed, ← any_isStrayBrace_pieces, ← named_pieces_iff]
  induction h with
  | done => exact ⟨rfl, by simp [pieces, piecesAfter, leftOver]⟩
  | plain text _ ih =>
    rw [pieces_cons_plain text]
    exact ⟨by rw [List.any_cons, isStrayBrace, text, ih.1]; rfl, by simpa using ih.2⟩
  | placeholder bareName decoration _ ih =>
    rw [pieces_placeholder (bareName.closed_of_isDecorated decoration)]
    refine ⟨by rw [List.any_cons, isStrayBrace, ih.1]; rfl, fun body hbody => ?_⟩
    rcases List.mem_cons.mp hbody with hfirst | hrest
    · rw [Piece.placeholder.inj hfirst, bareName.placeholderChars_of_isDecorated decoration]
      exact bareName.ne_nil
    · exact ih.2 body hrest

/-- The placeholders of the two routes bind the same names. -/
theorem filterMap_name? (h : Decorates bare decorated) :
    (pieces decorated).filterMap Piece.name? = (pieces bare).filterMap Piece.name? := by
  induction h with
  | done => rfl
  | plain text _ ih =>
    rw [pieces_cons_plain text, pieces_cons_plain text, List.filterMap_cons_none rfl,
      List.filterMap_cons_none rfl, ih]
  | @placeholder name _ _ _ bareName decoration _ ih =>
    have hbare := IsDecorated.refl name
    rw [pieces_placeholder (bareName.closed_of_isDecorated decoration),
      pieces_placeholder bareName.closed]
    simp only [List.filterMap_cons, Piece.name?, ih,
      bareName.placeholderChars_of_isDecorated decoration,
      bareName.placeholderChars_of_isDecorated hbare]

/-- Leaving out the marks of an absolute route takes the same characters of both routes. -/
theorem dropWhile_mark (h : Decorates bare decorated) :
    Decorates (bare.dropWhile fun c => c == '~' || c == '/')
      (decorated.dropWhile fun c => c == '~' || c == '/') := by
  induction h with
  | done => exact .done
  | plain text rest ih =>
    rw [List.dropWhile_cons, List.dropWhile_cons]
    split
    · exact ih
    · exact .plain text rest
  | placeholder bareName decoration rest => exact .placeholder bareName decoration rest

/-- The texts of the two routes in an address agree when every placeholder is bound. -/
theorem flatMap_pieceText {bound : List String} (h : Decorates bare decorated)
    (hbound : ∀ name ∈ (pieces bare).filterMap Piece.name?, name ∈ bound) :
    (pieces decorated).flatMap (TypeScript.pieceText bound) =
      (pieces bare).flatMap (TypeScript.pieceText bound) := by
  induction h with
  | done => rfl
  | plain text _ ih =>
    rw [pieces_cons_plain text] at hbound
    rw [pieces_cons_plain text, pieces_cons_plain text, List.flatMap_cons, List.flatMap_cons,
      ih hbound]
  | @placeholder name _ _ _ bareName decoration _ ih =>
    have hname := bareName.placeholderChars_of_isDecorated (.refl name)
    rw [pieces_placeholder bareName.closed] at hbound
    rw [pieces_placeholder (bareName.closed_of_isDecorated decoration),
      pieces_placeholder bareName.closed, List.flatMap_cons, List.flatMap_cons]
    simp only [List.filterMap_cons, Piece.name?, hname, List.forall_mem_cons] at hbound
    simp only [TypeScript.pieceText, hname, bareName.placeholderChars_of_isDecorated decoration,
      List.contains_iff_mem.mpr hbound.1, if_true, ih hbound.2]

end Decorates

/-- To decorate nothing is one way to decorate a route with balanced braces in which every
placeholder is a bare name. -/
theorem decorates_self {bare : List Char} (hbalanced : Balanced bare)
    (hnames : ∀ body, .placeholder body ∈ pieces bare → IsBareName body) : Decorates bare bare := by
  have hstray := (any_isStrayBrace_pieces bare).mpr hbalanced
  rw [← flatMap_chars_pieces bare]
  generalize pieces bare = parts at hnames hstray
  induction parts with
  | nil => exact .done
  | cons piece parts ih =>
    rw [List.any_cons, Bool.or_eq_false_iff] at hstray
    have hrest := ih (fun body h => hnames body (List.mem_cons_of_mem _ h)) hstray.2
    cases piece with
    | plain c => exact .plain hstray.1 hrest
    | placeholder name =>
      have hname := hnames name List.mem_cons_self
      simpa [Piece.chars] using Decorates.placeholder hname (.refl name) hrest

/-- The routes that can be decorated are those with balanced braces in which every placeholder is a
bare name. -/
theorem exists_decorates_iff {bare : List Char} :
    (∃ decorated, Decorates bare decorated) ↔
      Balanced bare ∧ ∀ body, .placeholder body ∈ pieces bare → IsBareName body := by
  constructor
  · rintro ⟨decorated, hdecorates⟩
    refine ⟨hdecorates.bare_bare.wellFormed.1, ?_⟩
    induction hdecorates with
    | done => simp [pieces, piecesAfter, leftOver]
    | plain text _ ih =>
      rw [pieces_cons_plain text]
      simpa using ih
    | placeholder bareName _ _ ih =>
      rw [pieces_placeholder bareName.closed]
      simpa using ⟨bareName, ih⟩
  · rintro ⟨hbalanced, hnames⟩
    exact ⟨bare, decorates_self hbalanced hnames⟩

/-- A decorated route and its bare route list the same placeholders, divide every list of parameters
in the same way, and give the same address when every placeholder is bound in the path. -/
theorem decorations_ignored {bare decorated : String}
    (hdecorates : Decorates bare.toList decorated.toList) :
    ∃ names, placeholders bare = .ok names ∧ placeholders decorated = .ok names ∧
      (∀ parameters method,
        (Method.placeholders decorated method >>= (Method.bind parameters · method)) =
          (Method.placeholders bare method >>= (Method.bind parameters · method))) ∧
      ∀ service : Service, (∀ name ∈ names, name ∈ service.uriParameters.map (·.name)) →
        TypeScript.url { service with route := decorated } =
          TypeScript.url { service with route := bare } := by
  have hbare := placeholders_eq_ok_iff.mpr ⟨hdecorates.bare_bare.wellFormed, rfl⟩
  have hdecorated := placeholders_eq_ok_iff.mpr ⟨hdecorates.wellFormed, rfl⟩
  rw [hdecorates.filterMap_name?] at hdecorated
  refine ⟨_, hbare, hdecorated, fun parameters method => ?_, fun service hbound => ?_⟩
  · simp only [Method.placeholders, hbare, hdecorated]
  · -- The address is read from what is left of the route without its marks.
    obtain ⟨lead, _, _, hpieces⟩ := TypeScript.exists_lead bare
    have hleft (name : String)
        (hname : name ∈ (pieces (TypeScript.relativeRoute bare)).filterMap Piece.name?) :
        name ∈ service.uriParameters.map (·.name) := by
      refine hbound name ?_
      rw [hpieces, List.filterMap_append]
      exact List.mem_append_right _ hname
    have htext := hdecorates.dropWhile_mark.flatMap_pieceText hleft
    simp only [TypeScript.url, TypeScript.relativeRoute, htext]

/-- A service whose path parameters are an order and one of its pages. -/
def orderPage : Service :=
  let order : ServiceParameter := { name := "id", type := { name := "int" } }
  let page : ServiceParameter := { name := "page", type := { name := "int" } }
  { verb := .get
    route := "/\x7bid\x7d/\x7bpage\x7d"
    name := "Page"
    returnType := { name := "string" }
    parameters := [order, page]
    uriParameters := [order, page]
    queryParameters := []
    documentation := { summary := "Shows a page of an order." } }

/-- Stars, a constraint with a question mark of its own, and a default with a colon change neither
the placeholders of that route nor its address. -/
theorem decorations_ignored_orderPage :
    Decorates orderPage.route.toList "/\x7b**id?:int?\x7d/\x7bpage=1:2\x7d".toList ∧
      placeholders "/\x7b**id?:int?\x7d/\x7bpage=1:2\x7d" = .ok ["id", "page"] ∧
      TypeScript.url { orderPage with route := "/\x7b**id?:int?\x7d/\x7bpage=1:2\x7d" } =
        TypeScript.url orderPage := by
  have hid : IsBareName ['i', 'd'] := by decide +kernel
  have hpage : IsBareName ['p', 'a', 'g', 'e'] := by decide +kernel
  have hidBody : IsDecorated ['i', 'd'] ['*', '*', 'i', 'd', '?', ':', 'i', 'n', 't', '?'] :=
    ⟨2, 1, _, .separated (.inl rfl) (by simp [isBrace]), rfl⟩
  have hpageBody : IsDecorated ['p', 'a', 'g', 'e'] ['p', 'a', 'g', 'e', '=', '1', ':', '2'] :=
    ⟨0, 0, _, .separated (.inr rfl) (by simp [isBrace]), rfl⟩
  have hdecorates : Decorates orderPage.route.toList "/\x7b**id?:int?\x7d/\x7bpage=1:2\x7d".toList :=
    .plain rfl (.placeholder hid hidBody (.plain rfl (.placeholder hpage hpageBody .done)))
  obtain ⟨names, hbare, hdecorated, _, hurl⟩ := decorations_ignored hdecorates
  have hnames : placeholders orderPage.route = .ok ["id", "page"] := by decide +kernel
  obtain rfl : ["id", "page"] = names := Except.ok.inj (hnames.symm.trans hbare)
  exact ⟨hdecorates, hdecorated, hurl orderPage (by decide +kernel)⟩

end ClientGen.Route

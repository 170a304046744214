import ClientGen.Proofs.Service.Outcome
import ClientGen.TypeScript.Module
import Mathlib.Data.List.Nodup

/-!
# The names that a signature binds

The function of a service takes the parameters of its method and after them the options of the
request, which are always called `options`. Nothing keeps a method from having a parameter of that
name. So a signature binds each of its names once exactly when the names of the method are distinct
and `options` is none of them.
-/

namespace ClientGen.TypeScript

/-- A parameter as a signature declares it. -/
structure Binder where
  /-- The name that it binds. -/
  name : String
  /-- Is it marked as one that the caller may leave out? -/
  isOptional : Bool
  /-- The spelling of its type. -/
  type : String
  /-- The value it has when the caller leaves it out, if there is one. -/
  default? : Option String
deriving DecidableEq

namespace Binder

/-- The text of a parameter in a signature. -/
def text (b : Binder) : String :=
  b.name ++ (if b.isOptional then "?" else "") ++ ": " ++ b.type ++
    (match b.default? with
      | some value => " = " ++ value
      | none => "")

/-- A parameter of a service. -/
def ofParameter (p : ServiceParameter) : Binder :=
  ⟨p.name, p.isOptional, spell p.type, none⟩

/-- The options of the request, the last parameter of every signature. -/
def fetchOptions : Binder :=
  ⟨"options", false, "RequestInit", some "\x7b\x7d"⟩

end Binder

/-- The parameters of the function of a service, in order. -/
def binders (service : Service) : List Binder :=
  service.parameters.map Binder.ofParameter ++ [Binder.fetchOptions]

/-- The names that the function of a service binds, in order. -/
def boundNames (service : Service) : List String :=
  (binders service).map (·.name)

/-- A parameter of a service is written with a comma and a space after it. -/
theorem parameterText_eq (p : ServiceParameter) :
    parameterText p = (Binder.ofParameter p).text ++ ", " := by
  rw [parameterText, Binder.ofParameter, Binder.text, String.append_empty]

/-- Parameters that are each followed by a comma, and the options after them, are a list of
parameters with commas between them. -/
theorem join_parameterText (parameters : List ServiceParameter) :
    String.join (parameters.map parameterText) ++ Binder.fetchOptions.text =
      ", ".intercalate ((parameters.map Binder.ofParameter ++ [Binder.fetchOptions]).map Binder.text) := by
  induction parameters with
  | nil => rfl
  | cons p parameters ih =>
    rw [List.map_cons, String.join_cons, String.append_assoc, ih, parameterText_eq, List.map_cons,
      List.cons_append, List.map_cons, String.intercalate_cons_of_ne_nil (by simp)]

/-- The function of a service begins with its name and the parameters that it binds. -/
theorem functionText_eq (service : Service) :
    functionText service =
      "export function " ++ service.name ++ "(" ++
        ", ".intercalate ((binders service).map Binder.text) ++
        "): Promise<" ++ spell service.returnType ++ "> \x7b\n" ++ "    return fetch(\"" ++
        service.verb.text ++ "\", \x60" ++ url service ++ "\x60, " ++ requestInit service ++
        ", options);\n\x7d\n" := by
  have hoptions : "options: RequestInit = \x7b\x7d): Promise<" =
      Binder.fetchOptions.text ++ "): Promise<" := by decide
  unfold functionText
  rw [hoptions, binders, ← join_parameterText]
  simp only [String.append_assoc]

/-- A module holds the function of each of its services. -/
theorem exists_render_eq {service : Service} {services : List Service} (h : service ∈ services)
    (productName : String) (folderCount : Int) :
    ∃ before after, render productName folderCount services =
      before ++ functionText service ++ after := by
  obtain ⟨earlier, later, rfl⟩ := List.append_of_mem h
  refine ⟨notice productName ++
    importLines (rootPrefix folderCount) productName (earlier ++ service :: later) ++
    String.join (earlier.map serviceText) ++ "\n" ++ comment service,
    String.join (later.map serviceText), ?_⟩
  rw [render, List.map_append, List.map_cons, String.join_append, String.join_cons, serviceText]
  simp only [String.append_assoc]

/-- The signature of every service in a module binds the names of the parameters of its method and
then `options`. When the method has distinct names, the signature binds each name once exactly when
no parameter of the method is called `options`. -/
theorem boundNames_nodup_iff {solution : Solution} {method : Method} {service : Service}
    (made : method.toService solution = .ok (some service))
    (distinct : (method.parameters.map (·.name)).Nodup)
    {services : List Service} (rendered : service ∈ services)
    (productName : String) (folderCount : Int) :
    (∃ before after, render productName folderCount services =
      before ++ "export function " ++ service.name ++ "(" ++
        ", ".intercalate ((binders service).map Binder.text) ++ "): " ++ after) ∧
      boundNames service = method.parameters.map (·.name) ++ ["options"] ∧
      ((boundNames service).Nodup ↔ "options" ∉ method.parameters.map (·.name)) := by
  have hnames : boundNames service = method.parameters.map (·.name) ++ ["options"] := by
    rw [boundNames, binders, (Method.parameters_of_toService made).1, List.map_append, List.map_map,
      List.map_map]
    rfl
  refine ⟨?_, hnames, ?_⟩
  · obtain ⟨before, after, hrender⟩ := exists_render_eq rendered productName folderCount
    have hcolon : "): Promise<" = "): " ++ "Promise<" := by decide
    rw [functionText_eq, hcolon] at hrender
    exact ⟨before, _, hrender.trans (by simp only [String.append_assoc]; rfl)⟩
  · rw [hnames, List.nodup_append', List.disjoint_singleton]
    exact ⟨fun h => h.2.2, fun h => ⟨distinct, List.nodup_singleton _, h⟩⟩

/-- A method that finds files, with text parameters of these names. -/
def findMethod (names : List String) : Method where
  name := "Find"
  returnType := { name := "string" }
  parameters := names.map fun name => { name, type := { name := "string" } }
  attributes := [⟨"HttpGet", [some "files"]⟩]
  modifiers := ["public"]
  documentation := some [{ tag := "summary", text := "Finds files." }]

/-- A parameter that differs from `options` in a capital letter only leaves all names distinct. -/
theorem boundNames_nodup_capital :
    ∃ service, (findMethod ["pattern", "Options"]).toService (.ofProjects []) = .ok (some service) ∧
      ((findMethod ["pattern", "Options"]).parameters.map (·.name)).Nodup ∧
      boundNames service = ["pattern", "Options", "options"] ∧ (boundNames service).Nodup := by
  have facts : ((findMethod ["pattern", "Options"]).toService (.ofProjects [])).map Option.isSome =
      .ok true := by decide
  have distinct : ((findMethod ["pattern", "Options"]).parameters.map (·.name)).Nodup := by decide
  obtain ⟨made?, made, hsome⟩ := map_eq_ok_iff.mp facts
  obtain ⟨service, rfl⟩ := Option.isSome_iff_exists.mp hsome
  obtain ⟨-, hnames, hnodup⟩ :=
    boundNames_nodup_iff made distinct (List.mem_singleton_self service) "Files" 0
  exact ⟨service, made, distinct, hnames, hnodup.mpr (by decide)⟩

/-- The signature of a method with a parameter called `options` binds that name twice. -/
theorem not_boundNames_nodup_options :
    ∃ service, (findMethod ["options"]).toService (.ofProjects []) = .ok (some service) ∧
      ((findMethod ["options"]).parameters.map (·.name)).Nodup ∧
      (binders service).map Binder.text = ["options: string", "options: RequestInit = \x7b\x7d"] ∧
      ¬ (boundNames service).Nodup := by
  have facts : ((findMethod ["options"]).toService (.ofProjects [])).map
      (fun made? => made?.map fun service => ((binders service).map Binder.text, boundNames service)) =
        .ok (some (["options: string", "options: RequestInit = \x7b\x7d"], ["options", "options"])) := by
    decide
  obtain ⟨made?, made, hservice⟩ := map_eq_ok_iff.mp facts
  obtain ⟨service, rfl, hpair⟩ := Option.map_eq_some_iff.mp hservice
  obtain ⟨htexts, hnames⟩ := Prod.mk.inj hpair
  exact ⟨service, made, by decide, htexts, by rw [hnames]; decide⟩

end ClientGen.TypeScript

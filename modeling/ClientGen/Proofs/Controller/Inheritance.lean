import ClientGen.Controller
import ClientGen.Proofs.Failure
import Mathlib.Data.List.Chain

/-!
# The classes that a controller takes methods from

A controller has its own methods and those of the classes above it, up to a depth. The classes above
it are a chain in which each one is found by the base type of the one before. The chain ends at the
depth, or at a class that has no base type or one of the framework, whichever comes first; a base type
that is not found before that is an error. So a greater depth only adds to the end of a chain, and it
repairs no error. Nothing is assumed of the base types: classes that derive from each other in a circle
make the chain as long as the depth.
-/

namespace ClientGen

/-- Clients can call the method: it is public, and no attribute takes it out of routing. -/
def Method.IsOffered (method : Method) : Prop :=
  "public" ∈ method.modifiers ∧
    ∀ a ∈ method.attributes, a.shortName ≠ "NonAction" ∧ a.shortName ≠ "NonActionAttribute"

/-- It is decidable whether clients can call a method. -/
instance : DecidablePred Method.IsOffered :=
  fun _ => inferInstanceAs (Decidable (_ ∧ _))

/-- The methods that clients can call are public and not taken out of routing. -/
theorem Method.isAction_eq (method : Method) : method.isAction = decide method.IsOffered := by
  have hattributes : (!method.attributes.any fun a => nonActionAttributes.contains a.shortName) =
      decide (∀ a ∈ method.attributes,
        a.shortName ≠ "NonAction" ∧ a.shortName ≠ "NonActionAttribute") := by
    rw [Bool.eq_iff_iff]
    simp [nonActionAttributes]
  rw [isAction, hattributes, List.contains_eq_mem]
  exact (Bool.decide_and _ _).symm

namespace ClassDecl

/-- The methods that a class itself offers to clients, in order. -/
def offered (c : ClassDecl) : List Method :=
  c.methods.filter fun method => decide method.IsOffered

/-- The base type of a class, unless it is one of the framework. -/
def IsBelow (c : ClassDecl) (base : TypeRef) : Prop :=
  c.baseType = some base ∧ base.name ≠ "Controller" ∧ base.name ≠ "ControllerBase"

/-- A class has no base type, or one of the framework. -/
def IsTop (c : ClassDecl) : Prop :=
  ∀ base, ¬ c.IsBelow base

/-- A class is found by the base type of another. -/
def Derives (solution : Solution) (c above : ClassDecl) : Prop :=
  ∃ base, c.IsBelow base ∧ solution.findClass base = some above

/-- The classes above a controller at some depth: a chain of base classes that has the length of the
depth, or is shorter and goes up to the top. -/
structure Reaches (solution : Solution) (controller : ClassDecl) (depth : Nat)
    (above : List ClassDecl) : Prop where
  /-- Each class is found by the base type of the one before. -/
  hops : List.IsChain (Derives solution) (controller :: above)
  /-- There are not more hops than the depth allows. -/
  length_le : above.length ≤ depth
  /-- The chain is not broken off before the depth. -/
  ends : above.length = depth ∨ (above.getLastD controller).IsTop

/-- A base type above a controller, less than some depth away, that is not found. -/
def Misses (solution : Solution) (controller : ClassDecl) (depth : Nat) (base : TypeRef) : Prop :=
  ∃ above, List.IsChain (Derives solution) (controller :: above) ∧ above.length < depth ∧
    (above.getLastD controller).IsBelow base ∧ solution.findClass base = none

variable {solution : Solution} {c first controller : ClassDecl} {base : TypeRef}

/-! ### One hop -/

/-- The walk goes on with the base type unless it is one of the framework. -/
theorem nextBase?_eq_some_iff : c.nextBase? = some base ↔ c.IsBelow base := by
  rw [nextBase?, Option.filter_eq_some_iff, IsBelow]
  simp [rootControllers]

/-- The walk ends at the top. -/
theorem nextBase?_eq_none_iff : c.nextBase? = none ↔ c.IsTop := by
  rw [IsTop, Option.eq_none_iff_forall_ne_some]
  exact forall_congr' fun base => not_congr nextBase?_eq_some_iff

/-- A class is at the top, or its base type is not found, or it derives from a class. -/
theorem hop_cases (solution : Solution) (c : ClassDecl) :
    c.IsTop ∨ (∃ base, c.IsBelow base ∧ solution.findClass base = none) ∨
      ∃ first, c.Derives solution first := by
  cases hnext : c.nextBase? with
  | none => exact .inl (nextBase?_eq_none_iff.mp hnext)
  | some base =>
    have hbelow := nextBase?_eq_some_iff.mp hnext
    cases hfound : solution.findClass base with
    | none => exact .inr (.inl ⟨base, hbelow, hfound⟩)
    | some first => exact .inr (.inr ⟨first, base, hbelow, hfound⟩)

/-- A class has one base type at most. -/
theorem IsBelow.unique {other : TypeRef} (h : c.IsBelow base) (h' : c.IsBelow other) :
    base = other :=
  Option.some.inj (h.1.symm.trans h'.1)

/-- A class derives from one class at most. -/
theorem Derives.unique {other : ClassDecl} (h : c.Derives solution first)
    (h' : c.Derives solution other) : first = other := by
  obtain ⟨base, hbelow, hfound⟩ := h
  obtain ⟨_, hbelow', hfound'⟩ := h'
  obtain rfl := hbelow.unique hbelow'
  exact Option.some.inj (hfound.symm.trans hfound')

/-- A class at the top derives from none. -/
theorem IsTop.not_derives (h : c.IsTop) : ¬ c.Derives solution first :=
  fun ⟨base, hbelow, _⟩ => h base hbelow

/-- A class with a base type that is not found derives from none. -/
theorem IsBelow.not_derives (hbelow : c.IsBelow base) (hlost : solution.findClass base = none) :
    ¬ c.Derives solution first := by
  rintro ⟨_, hbelow', hfound⟩
  obtain rfl := hbelow.unique hbelow'
  cases hlost.symm.trans hfound

/-- A chain from a class goes on with the class that it derives from. -/
theorem Derives.isChain_cons_iff (h : c.Derives solution first) {next : ClassDecl}
    {rest : List ClassDecl} :
    List.IsChain (Derives solution) (c :: next :: rest) ↔
      next = first ∧ List.IsChain (Derives solution) (first :: rest) := by
  rw [List.isChain_cons_cons]
  constructor
  · rintro ⟨hnext, hrest⟩
    obtain rfl := hnext.unique h
    exact ⟨rfl, hrest⟩
  · rintro ⟨rfl, hrest⟩
    exact ⟨h, hrest⟩

/-- A chain from a class that derives from none has no other class. -/
theorem eq_nil_of_isChain (hnone : ∀ first, ¬ c.Derives solution first) {above : List ClassDecl}
    (h : List.IsChain (Derives solution) (c :: above)) : above = [] := by
  cases above with
  | nil => rfl
  | cons next rest => exact absurd (List.isChain_cons_cons.mp h).1 (hnone next)

/-! ### The walk -/

/-- At depth zero, no class counts. -/
theorem reaches_zero_iff {above : List ClassDecl} : c.Reaches solution 0 above ↔ above = [] := by
  constructor
  · exact fun h => List.length_eq_zero_iff.mp (Nat.le_zero.mp h.length_le)
  · rintro rfl
    exact ⟨List.isChain_singleton c, Nat.le_refl 0, .inl rfl⟩

/-- No class is above the top. -/
theorem IsTop.reaches_iff (h : c.IsTop) {depth : Nat} {above : List ClassDecl} :
    c.Reaches solution depth above ↔ above = [] := by
  constructor
  · exact fun hreaches => eq_nil_of_isChain (fun _ => h.not_derives) hreaches.hops
  · rintro rfl
    exact ⟨List.isChain_singleton c, Nat.zero_le depth, .inr h⟩

/-- The classes above a class are the one that it derives from and those above that one. -/
theorem Derives.reaches_succ_iff (h : c.Derives solution first) {depth : Nat}
    {above : List ClassDecl} :
    c.Reaches solution (depth + 1) above ↔
      ∃ others, first.Reaches solution depth others ∧ above = first :: others := by
  constructor
  · rintro ⟨hops, hlength, hends⟩
    cases above with
    | nil =>
      rcases hends with hends | hends
      · cases hends
      · exact absurd h hends.not_derives
    | cons next others =>
      obtain ⟨rfl, hops⟩ := h.isChain_cons_iff.mp hops
      rw [List.length_cons, Nat.add_right_cancel_iff, List.getLastD_cons] at hends
      exact ⟨others, ⟨hops, Nat.le_of_succ_le_succ hlength, hends⟩, rfl⟩
  · rintro ⟨others, ⟨hops, hlength, hends⟩, rfl⟩
    refine ⟨h.isChain_cons_iff.mpr ⟨rfl, hops⟩, Nat.succ_le_succ hlength, ?_⟩
    rwa [List.length_cons, Nat.add_right_cancel_iff, List.getLastD_cons]

/-- What is missing above a class is missing above the one that it derives from. -/
theorem Derives.misses_succ_iff (h : c.Derives solution first) {depth : Nat} :
    c.Misses solution (depth + 1) base ↔ first.Misses solution depth base := by
  constructor
  · rintro ⟨above, hops, hlength, hbelow, hlost⟩
    cases above with
    | nil => exact absurd h (hbelow.not_derives hlost)
    | cons next others =>
      obtain ⟨rfl, hops⟩ := h.isChain_cons_iff.mp hops
      rw [List.getLastD_cons] at hbelow
      exact ⟨others, hops, Nat.lt_of_succ_lt_succ hlength, hbelow, hlost⟩
  · rintro ⟨others, hops, hlength, hbelow, hlost⟩
    refine ⟨first :: others, h.isChain_cons_iff.mpr ⟨rfl, hops⟩, Nat.succ_lt_succ hlength, ?_, hlost⟩
    rwa [List.getLastD_cons]

/-- Nothing is missing above the top. -/
theorem IsTop.not_misses (h : c.IsTop) {depth : Nat} : ¬ c.Misses solution depth base := by
  rintro ⟨above, hops, -, hbelow, -⟩
  obtain rfl := eq_nil_of_isChain (fun _ => h.not_derives) hops
  exact h base hbelow

/-- A walk ends at the top, also before the depth. -/
theorem IsTop.ancestors_eq (h : c.IsTop) (solution : Solution) (name : String) (depth : Nat) :
    c.ancestors solution name (depth + 1) = .ok [] := by
  rw [ancestors, nextBase?_eq_none_iff.mpr h]

/-- A walk fails at a base type that is not found. -/
theorem IsBelow.ancestors_eq (hbelow : c.IsBelow base) (hlost : solution.findClass base = none)
    (name : String) (depth : Nat) :
    c.ancestors solution name (depth + 1) = .error (.unresolvableBase name base.text) := by
  simp only [ancestors, nextBase?_eq_some_iff.mpr hbelow, hlost]

/-- A walk goes on from the class that a class derives from. -/
theorem Derives.ancestors_eq (h : c.Derives solution first) (name : String) (depth : Nat) :
    c.ancestors solution name (depth + 1) =
      (first.ancestors solution name depth).map (first :: ·) := by
  obtain ⟨base, hbelow, hfound⟩ := h
  simp only [ancestors, nextBase?_eq_some_iff.mpr hbelow, hfound]
  rfl

/-- What a walk finds: the classes above a class, or the base type that is missing there. -/
theorem ancestors_outcome (solution : Solution) (name : String) (depth : Nat) (c : ClassDecl) :
    (∀ above, c.ancestors solution name depth = .ok above ↔ c.Reaches solution depth above) ∧
      ∀ e, c.ancestors solution name depth = .error e ↔
        ∃ base, c.Misses solution depth base ∧ e = .unresolvableBase name base.text := by
  induction depth generalizing c with
  | zero =>
    refine ⟨fun above => ?_, fun e => iff_of_false (fun h => nomatch h) ?_⟩
    · rw [reaches_zero_iff, ancestors, Except.ok.injEq]
      exact eq_comm
    · rintro ⟨base, ⟨_, _, hlength, _, _⟩, _⟩
      exact Nat.not_lt_zero _ hlength
  | succ depth ih =>
    rcases hop_cases solution c with htop | ⟨base, hbelow, hlost⟩ | ⟨first, hfirst⟩
    · -- at the top, where the walk ends before the depth
      have hwalk := htop.ancestors_eq solution name depth
      refine ⟨fun above => ?_, fun e => iff_of_false ?_ ?_⟩
      · rw [hwalk, htop.reaches_iff, Except.ok.injEq]
        exact eq_comm
      · exact ne_error_of_eq_ok hwalk e
      · exact fun ⟨base, hmisses, _⟩ => htop.not_misses hmisses
    · -- below a base type that is not found
      have hwalk := hbelow.ancestors_eq hlost name depth
      refine ⟨fun above => iff_of_false ?_ ?_, fun e => ?_⟩
      · exact fun h => ne_error_of_eq_ok h _ hwalk
      · rintro ⟨hops, -, hends⟩
        obtain rfl := eq_nil_of_isChain (fun _ => hbelow.not_derives hlost) hops
        rcases hends with hends | hends
        · cases hends
        · exact hends base hbelow
      · rw [hwalk, Except.error.injEq]
        constructor
        · rintro rfl
          exact ⟨base, ⟨[], List.isChain_singleton c, Nat.succ_pos depth, hbelow, hlost⟩, rfl⟩
        · rintro ⟨other, ⟨above, hops, -, hother, -⟩, rfl⟩
          obtain rfl := eq_nil_of_isChain (fun _ => hbelow.not_derives hlost) hops
          rw [hbelow.unique hother]
    · -- one hop further
      obtain ⟨hok, herror⟩ := ih first
      have hwalk := hfirst.ancestors_eq name depth
      refine ⟨fun above => ?_, fun e => ?_⟩
      · simp only [hwalk, map_eq_ok_iff, hfirst.reaches_succ_iff, hok, @eq_comm _ above]
      · simp only [hwalk, map_eq_error_iff, hfirst.misses_succ_iff, herror]

/-! ### The methods that are found -/

/-- The methods at a depth are those that the controller and the classes above it offer. -/
theorem actions_eq_ok_iff {depth : Nat} {methods : List Method} :
    controller.actions solution depth = .ok methods ↔
      ∃ above, controller.Reaches solution depth above ∧
        methods = (controller :: above).flatMap (·.offered) := by
  have hoffered (classes : List ClassDecl) :
      (classes.flatMap (·.methods)).filter (·.isAction) = classes.flatMap (·.offered) := by
    simp only [List.filter_flatMap, offered, Method.isAction_eq]
  rw [actions, bind_eq_ok_iff]
  refine exists_congr fun above => and_congr ((ancestors_outcome _ _ _ _).1 above) ?_
  rw [hoffered]
  exact ⟨fun h => (Except.ok.inj h).symm, fun h => h ▸ rfl⟩

/-- There are no methods at a depth when a base type is missing less than that depth away. -/
theorem actions_eq_error_iff {depth : Nat} {e : GenerationError} :
    controller.actions solution depth = .error e ↔
      ∃ base, controller.Misses solution depth base ∧
        e = .unresolvableBase controller.name base.text := by
  rw [← (ancestors_outcome solution controller.name depth controller).2, actions, bind_eq_error_iff]
  exact or_iff_left fun ⟨_, _, h⟩ => nomatch h

/-- The classes at a smaller depth are the first of those at a greater one. -/
theorem Reaches.take {d e : Nat} (hle : d ≤ e) {above : List ClassDecl}
    (h : controller.Reaches solution e above) : controller.Reaches solution d (above.take d) := by
  obtain ⟨hops, hlength, hends⟩ := h
  by_cases hd : d ≤ above.length
  · have htake : (above.take d).length = d := by rw [List.length_take, Nat.min_eq_left hd]
    exact ⟨(hops.take (d + 1) :), htake.le, .inl htake⟩
  · -- the chain goes up to the top already
    have hshort : above.length < d := Nat.lt_of_not_le hd
    rw [List.take_of_length_le hshort.le]
    exact ⟨hops, hshort.le, .inr (hends.resolve_left (hshort.trans_le hle).ne)⟩

/-- What is missing at a smaller depth is missing at a greater one. -/
theorem Misses.of_le {d e : Nat} (hle : d ≤ e) (h : controller.Misses solution d base) :
    controller.Misses solution e base := by
  obtain ⟨above, hops, hlength, hlost⟩ := h
  exact ⟨above, hops, hlength.trans_le hle, hlost⟩

/-- A smaller depth finds a beginning of what a greater one finds, and the error at a smaller depth, a
base type that is missing, is the error at a greater one. At every depth the methods are those that the
controller and then the classes above it offer. A negative depth is no depth at all. -/
theorem actions_mono (solution : Solution) (controller : ClassDecl) {d e : Int} (hle : d ≤ e) :
    (∀ methods, controller.actions solution e.toNat = .ok methods →
        ∃ fewer, controller.actions solution d.toNat = .ok fewer ∧ fewer <+: methods) ∧
      (∀ error, controller.actions solution d.toNat = .error error →
        controller.actions solution e.toNat = .error error ∧
          ∃ base, controller.Misses solution d.toNat base ∧
            error = .unresolvableBase controller.name base.text) ∧
      ∀ methods, controller.actions solution d.toNat = .ok methods ↔
        ∃ above, controller.Reaches solution d.toNat above ∧
          methods = (controller :: above).flatMap (·.offered) := by
  have hdepth : d.toNat ≤ e.toNat := Int.toNat_le_toNat hle
  refine ⟨fun methods h => ?_, fun error h => ?_, fun methods => actions_eq_ok_iff⟩
  · obtain ⟨above, hreaches, rfl⟩ := actions_eq_ok_iff.mp h
    have hsplit : controller :: above =
        (controller :: above.take d.toNat) ++ above.drop d.toNat := by
      rw [List.cons_append, List.take_append_drop]
    refine ⟨_, actions_eq_ok_iff.mpr ⟨_, hreaches.take hdepth, rfl⟩, ?_⟩
    rw [hsplit, List.flatMap_append]
    exact List.prefix_append _ _
  · obtain ⟨base, hmisses, rfl⟩ := actions_eq_error_iff.mp h
    exact ⟨actions_eq_error_iff.mpr ⟨base, hmisses.of_le hdepth, rfl⟩, base, hmisses, rfl⟩

/-- A class with one method that clients can call, on top of another class. -/
def birdController (name base method : String) : ClassDecl where
  name := name
  baseType := some { name := base }
  methods := [{ name := method, returnType := { name := "void" }, modifiers := ["public"] }]

/-- A solution with two classes that derive from each other. -/
def coop : Solution :=
  .ofProjects [{
    name := "Coop.FrontEnd"
    documents := [{
      name := "Birds.cs"
      classes := [birdController "HenController" "EggController" "Lay",
        birdController "EggController" "HenController" "Hatch"] }] }]

/-- A class that is above itself is found again and again, as often as the depth allows. -/
theorem actions_mono_coop :
    (1 : Int) ≤ 4 ∧ ∃ fewer methods,
      (birdController "HenController" "EggController" "Lay").actions coop 1 = .ok fewer ∧
      (birdController "HenController" "EggController" "Lay").actions coop 4 = .ok methods ∧
      fewer <+: methods ∧ methods.map (·.name) = ["Lay", "Hatch", "Lay", "Hatch", "Lay"] := by
  have facts : ((birdController "HenController" "EggController" "Lay").actions coop 4).map
      (fun methods => methods.map (·.name)) = .ok ["Lay", "Hatch", "Lay", "Hatch", "Lay"] := by
    decide
  obtain ⟨methods, made, hnames⟩ := map_eq_ok_iff.mp facts
  have hle : (1 : Int) ≤ 4 := by decide
  obtain ⟨fewer, hfewer, hprefix⟩ := (actions_mono coop _ hle).1 methods made
  exact ⟨hle, fewer, methods, hfewer, made, hprefix, hnames⟩

end ClassDecl

end ClientGen

import Mathlib.Data.List.Forall2

/-!
# Computations that can fail

A computation of two steps succeeds when both do, and fails with the error of the first step that
fails. The statements invert a whole computation, so that proofs about several steps never have to
split on the first one.
-/

namespace ClientGen

variable {ε α β : Type}

/-- Two steps succeed exactly when the first does and the second does on its result. -/
theorem bind_eq_ok_iff {first : Except ε α} {second : α → Except ε β} {result : β} :
    first >>= second = .ok result ↔ ∃ a, first = .ok a ∧ second a = .ok result := by
  cases first with
  | error e => exact iff_of_false (fun h => nomatch h) fun ⟨_, h, _⟩ => nomatch h
  | ok a =>
    constructor
    · exact fun h => ⟨a, rfl, h⟩
    · rintro ⟨_, ⟨⟩, h⟩
      exact h

/-- Two steps fail with the error of the first one, or of the second one when the first succeeds. -/
theorem bind_eq_error_iff {first : Except ε α} {second : α → Except ε β} {e : ε} :
    first >>= second = .error e ↔
      first = .error e ∨ ∃ a, first = .ok a ∧ second a = .error e := by
  cases first with
  | error d =>
    constructor
    · exact fun h => .inl (Except.error.inj h ▸ rfl)
    · rintro (h | ⟨_, h, _⟩)
      · exact Except.error.inj h ▸ rfl
      · nomatch h
  | ok a =>
    constructor
    · exact fun h => .inr ⟨a, rfl, h⟩
    · rintro (h | ⟨_, ⟨⟩, h⟩)
      · nomatch h
      · exact h

/-- When the first step fails, so do the two, with its error. -/
theorem bind_error_of_first {first : Except ε α} {second : α → Except ε β} {e : ε}
    (h : first = .error e) : first >>= second = .error e :=
  bind_eq_error_iff.mpr (.inl h)

/-- When the second step fails on the result of the first, so do the two, with its error. -/
theorem bind_error_of_second {first : Except ε α} {second : α → Except ε β} {a : α} {e : ε}
    (hfirst : first = .ok a) (h : second a = .error e) : first >>= second = .error e :=
  bind_eq_error_iff.mpr (.inr ⟨a, hfirst, h⟩)

/-- Changing every member of a list fails with the error of the first member that fails. -/
theorem mapM_eq_error_iff {change : α → Except ε β} {values : List α} {e : ε} :
    values.mapM change = .error e ↔
      ∃ before value after, values = before ++ value :: after ∧
        (∀ earlier ∈ before, ∃ result, change earlier = .ok result) ∧ change value = .error e := by
  induction values with
  | nil => exact iff_of_false (fun h => nomatch h) (by simp)
  | cons first rest ih =>
    rw [List.mapM_cons, bind_eq_error_iff]
    constructor
    · rintro (h | ⟨result, hfirst, h⟩)
      · exact ⟨[], first, rest, rfl, by simp, h⟩
      · rcases bind_eq_error_iff.mp h with h | ⟨_, _, h⟩
        · obtain ⟨before, value, after, rfl, hbefore, hvalue⟩ := ih.mp h
          refine ⟨first :: before, value, after, rfl, fun earlier h => ?_, hvalue⟩
          rcases List.mem_cons.mp h with rfl | h
          · exact ⟨result, hfirst⟩
          · exact hbefore earlier h
        · nomatch h
    · rintro ⟨before, value, after, hvalues, hbefore, hvalue⟩
      cases before with
      | nil =>
        obtain ⟨rfl, rfl⟩ := List.cons.inj hvalues
        exact .inl hvalue
      | cons earlier before =>
        obtain ⟨rfl, rfl⟩ := List.cons.inj hvalues
        obtain ⟨result, hfirst⟩ := hbefore first List.mem_cons_self
        have hrest := ih.mpr
          ⟨before, value, after, rfl, fun other h => hbefore other (List.mem_cons_of_mem _ h), hvalue⟩
        exact .inr ⟨result, hfirst, bind_error_of_first hrest⟩

/-- Two changes that agree on every member of a list have the same outcome on the list. -/
theorem mapM_congr_left {first second : α → Except ε β} {values : List α}
    (h : ∀ value ∈ values, first value = second value) :
    values.mapM first = values.mapM second := by
  induction values with
  | nil => rfl
  | cons value rest ih =>
    rw [List.forall_mem_cons] at h
    rw [List.mapM_cons, List.mapM_cons, h.1, ih h.2]

/-- Changing every member of a list succeeds exactly when it does for each member. -/
theorem exists_mapM_eq_ok_iff {change : α → Except ε β} {values : List α} :
    (∃ results, values.mapM change = .ok results) ↔
      ∀ value ∈ values, ∃ result, change value = .ok result := by
  induction values with
  | nil => exact iff_of_true ⟨[], rfl⟩ (by simp)
  | cons first rest ih =>
    rw [List.forall_mem_cons, ← ih]
    constructor
    · rintro ⟨results, h⟩
      rw [List.mapM_cons] at h
      obtain ⟨result, hfirst, h⟩ := bind_eq_ok_iff.mp h
      obtain ⟨others, hrest, -⟩ := bind_eq_ok_iff.mp h
      exact ⟨⟨result, hfirst⟩, others, hrest⟩
    · rintro ⟨⟨result, hfirst⟩, others, hrest⟩
      exact ⟨result :: others, by rw [List.mapM_cons, hfirst, hrest]; rfl⟩

/-- Changing every member of a list succeeds with the results of its members, in order. -/
theorem mapM_eq_ok_iff {change : α → Except ε β} {values : List α} {results : List β} :
    values.mapM change = .ok results ↔
      List.Forall₂ (fun value result => change value = .ok result) values results := by
  induction values generalizing results with
  | nil =>
    rw [List.mapM_nil, List.forall₂_nil_left_iff]
    constructor
    · intro h
      exact (Except.ok.inj h).symm
    · rintro rfl
      rfl
  | cons value rest ih =>
    rw [List.mapM_cons, List.forall₂_cons_left_iff]
    constructor
    · intro h
      obtain ⟨result, hvalue, h⟩ := bind_eq_ok_iff.mp h
      obtain ⟨others, hrest, h⟩ := bind_eq_ok_iff.mp h
      exact ⟨result, others, hvalue, ih.mp hrest, (Except.ok.inj h).symm⟩
    · rintro ⟨result, others, hvalue, hrest, rfl⟩
      rw [hvalue, ih.mpr hrest]
      rfl

/-- Every result of changing the members of a list comes from one of them. -/
theorem exists_of_mem_mapM {change : α → Except ε β} {values : List α} {results : List β}
    (h : values.mapM change = .ok results) {result : β} (hresult : result ∈ results) :
    ∃ value ∈ values, change value = .ok result := by
  have hall := mapM_eq_ok_iff.mp h
  clear h
  induction hall with
  | nil => nomatch hresult
  | cons hfirst _ ih =>
    rcases List.mem_cons.mp hresult with rfl | hresult
    · exact ⟨_, List.mem_cons_self, hfirst⟩
    · obtain ⟨value, hvalue, hmade⟩ := ih hresult
      exact ⟨value, List.mem_cons_of_mem _ hvalue, hmade⟩

/-- A step that succeeds does not fail. -/
theorem ne_error_of_eq_ok {first : Except ε α} {a : α} (h : first = .ok a) (e : ε) :
    first ≠ .error e := by
  intro hfailed
  cases h.symm.trans hfailed

/-- Changing the result of a computation keeps its success. -/
theorem map_eq_ok_iff {first : Except ε α} {change : α → β} {result : β} :
    first.map change = .ok result ↔ ∃ a, first = .ok a ∧ change a = result := by
  cases first <;> simp [Except.map]

/-- Changing the result of a computation keeps its error. -/
theorem map_eq_error_iff {first : Except ε α} {change : α → β} {e : ε} :
    first.map change = .error e ↔ first = .error e := by
  cases first <;> simp [Except.map]

/-- Changing the error of a computation keeps its result. -/
theorem mapError_eq_ok_iff {δ : Type} {first : Except ε α} {change : ε → δ} {result : α} :
    first.mapError change = .ok result ↔ first = .ok result := by
  cases first with
  | error e => exact iff_of_false (fun h => nomatch h) fun h => nomatch h
  | ok a =>
    constructor
    · exact fun h => Except.ok.inj h ▸ rfl
    · exact fun h => Except.ok.inj h ▸ rfl

end ClientGen

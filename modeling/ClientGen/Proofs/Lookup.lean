import Mathlib.Data.List.Induction
import Mathlib.Data.List.Nodup

/-!
# Lists of keys with values

Several tables are lists of keys with values in which the first entry of a key counts. Setting the
value of a key replaces the value of its first entry, or adds an entry at the end; after several
settings the last value of a key counts, and the keys stand in the order in which they first
occurred. Setting what is there already changes nothing.
-/

namespace ClientGen

/-- A key that is added at the end occurs first there, or it has occurred before. -/
theorem eraseDups_append_singleton {κ : Type} [BEq κ] [LawfulBEq κ] (keys : List κ) (key : κ) :
    (keys ++ [key]).eraseDups = if key ∈ keys then keys.eraseDups else keys.eraseDups ++ [key] := by
  have hnew : [key].removeAll keys = if key ∈ keys then [] else [key] := by
    by_cases h : key ∈ keys <;> simp [List.removeAll, h]
  rw [List.eraseDups_append, hnew]
  by_cases h : key ∈ keys
  · rw [if_pos h, if_pos h]
    exact List.append_nil _
  · rw [if_neg h, if_neg h]
    rfl

/-- Some keys are as many as their first occurrences exactly when none of them occurs again; else they
are more. -/
theorem length_eraseDups {κ : Type} [BEq κ] [LawfulBEq κ] (keys : List κ) :
    keys.eraseDups.length ≤ keys.length ∧ (keys.eraseDups.length = keys.length ↔ keys.Nodup) := by
  induction keys using List.reverseRecOn with
  | nil => simp
  | append_singleton keys key ih =>
    obtain ⟨hle, heq⟩ := ih
    have hnodup : (keys ++ [key]).Nodup ↔ key ∉ keys ∧ keys.Nodup := by
      rw [← List.concat_eq_append, List.nodup_concat]
    rw [eraseDups_append_singleton, hnodup, List.length_append, List.length_singleton]
    by_cases h : key ∈ keys
    · rw [if_pos h]
      exact ⟨by omega, iff_of_false (by omega) fun hnew => hnew.1 h⟩
    · rw [if_neg h, List.length_append, List.length_singleton, ← heq]
      exact ⟨by omega, by simp [h]⟩

variable {κ α : Type} [BEq κ] [LawfulBEq κ] [DecidableEq κ]

/-- The value of a key is that of the first entry, or else the one in the rest. -/
theorem lookup_cons_eq_ite (key : κ) (entry : κ × α) (rest : List (κ × α)) :
    (entry :: rest).lookup key = if key = entry.1 then some entry.2 else rest.lookup key := by
  rw [List.lookup_cons]
  by_cases h : key = entry.1
  · rw [if_pos h, beq_iff_eq.mpr h]
  · rw [if_neg h, beq_eq_false_iff_ne.mpr h]

omit [DecidableEq κ] in
/-- When no key has two entries, the value of a key is that of its entry. -/
theorem lookup_eq_some_iff_mem {key : κ} {value : α} {entries : List (κ × α)}
    (distinct : (entries.map (·.1)).Nodup) :
    entries.lookup key = some value ↔ (key, value) ∈ entries := by
  constructor
  · intro h
    obtain ⟨before, after, rfl, -⟩ := List.lookup_eq_some_iff.mp h
    exact List.mem_append_cons_self
  · intro h
    obtain ⟨before, after, rfl⟩ := List.append_of_mem h
    rw [List.map_append, List.map_cons, List.nodup_middle, List.nodup_cons] at distinct
    refine List.lookup_eq_some_iff.mpr ⟨before, after, rfl, fun entry hentry => ?_⟩
    refine bne_iff_ne.mpr fun heq => distinct.1 (List.mem_append_left _ ?_)
    exact List.mem_map.mpr ⟨entry, hentry, heq.symm⟩

/-- The entry of another key does not matter for the value of a key. -/
theorem lookup_filter_ne {key other : κ} (entries : List (κ × α)) (h : key ≠ other) :
    (entries.filter fun entry => decide (entry.1 ≠ other)).lookup key = entries.lookup key := by
  induction entries with
  | nil => rfl
  | cons entry rest ih =>
    by_cases hentry : entry.1 = other
    · rw [List.filter_cons_of_neg (by simpa using hentry), ih, lookup_cons_eq_ite,
        if_neg (hentry ▸ h)]
    · rw [List.filter_cons_of_pos (by simpa using hentry), lookup_cons_eq_ite, lookup_cons_eq_ite,
        ih]

/-! ### Setting values -/

/-- Set the value of a key: its first entry gets the value, or a new entry comes last. -/
def assign (key : κ) (value : α) : List (κ × α) → List (κ × α)
  | [] => [(key, value)]
  | (k, old) :: rest => if k = key then (k, value) :: rest else (k, old) :: assign key value rest

/-- Set the values of several keys, one after the other. -/
def assignAll (settings entries : List (κ × α)) : List (κ × α) :=
  settings.foldl (fun entries setting => assign setting.1 setting.2 entries) entries

/-- Setting a value changes the value of its key only. -/
theorem lookup_assign (key other : κ) (value : α) (entries : List (κ × α)) :
    (assign key value entries).lookup other =
      if other = key then some value else entries.lookup other := by
  induction entries with
  | nil => exact lookup_cons_eq_ite other (key, value) []
  | cons entry rest ih =>
    rw [assign]
    by_cases hkey : entry.1 = key
    · rw [if_pos hkey, lookup_cons_eq_ite, lookup_cons_eq_ite, hkey]
      by_cases h : other = key
      · rw [if_pos h, if_pos h]
      · rw [if_neg h, if_neg h, if_neg h]
    · rw [if_neg hkey, lookup_cons_eq_ite, lookup_cons_eq_ite, ih]
      by_cases h : other = entry.1
      · rw [if_pos h, if_pos h, if_neg (h ▸ hkey)]
      · rw [if_neg h, if_neg h]

omit [BEq κ] [LawfulBEq κ] in
/-- Settings are made after those before them. -/
theorem assignAll_append (earlier later entries : List (κ × α)) :
    assignAll (earlier ++ later) entries = assignAll later (assignAll earlier entries) :=
  List.foldl_append

/-- Of several values of a key the last one counts. -/
theorem lookup_assignAll (settings entries : List (κ × α)) (key : κ) :
    (assignAll settings entries).lookup key =
      (settings.reverse.lookup key).or (entries.lookup key) := by
  induction settings generalizing entries with
  | nil => rfl
  | cons setting rest ih =>
    have hlast : [setting].lookup key = if key = setting.1 then some setting.2 else none :=
      lookup_cons_eq_ite key setting []
    rw [assignAll, List.foldl_cons, ← assignAll, ih, lookup_assign, List.reverse_cons,
      List.lookup_append, hlast, Option.or_assoc]
    congr 1
    split <;> rfl

/-- Setting a value adds its key at the end when it is new. -/
theorem keys_assign (key : κ) (value : α) (entries : List (κ × α)) :
    (assign key value entries).map (·.1) =
      if key ∈ entries.map (·.1) then entries.map (·.1) else entries.map (·.1) ++ [key] := by
  induction entries with
  | nil => rfl
  | cons entry rest ih =>
    rw [assign]
    by_cases hkey : entry.1 = key
    · simp [hkey]
    · rw [if_neg hkey, List.map_cons, List.map_cons, ih]
      have hmem : key ∈ entry.1 :: rest.map (·.1) ↔ key ∈ rest.map (·.1) :=
        List.mem_cons.trans (or_iff_right fun h => hkey h.symm)
      by_cases h : key ∈ rest.map (·.1)
      · rw [if_pos h, if_pos (hmem.mpr h)]
      · rw [if_neg h, if_neg (mt hmem.mp h), List.cons_append]

/-- The keys that are set in an empty table stand in the order in which they first occurred. -/
theorem keys_assignAll_nil (settings : List (κ × α)) :
    (assignAll settings []).map (·.1) = (settings.map (·.1)).eraseDups := by
  induction settings using List.reverseRecOn with
  | nil => rfl
  | append_singleton earlier setting ih =>
    have hlast : assignAll (earlier ++ [setting]) ([] : List (κ × α)) =
        assign setting.1 setting.2 (assignAll earlier []) := assignAll_append earlier [setting] []
    rw [hlast, keys_assign, ih, List.map_append, List.map_singleton, eraseDups_append_singleton]
    simp only [List.mem_eraseDups]

/-- A table that was empty is so after settings exactly when there are none. -/
theorem assignAll_nil_eq_nil_iff {settings : List (κ × α)} :
    assignAll settings [] = [] ↔ settings = [] := by
  constructor
  · intro h
    have hkeys := keys_assignAll_nil settings
    cases settings with
    | nil => rfl
    | cons setting rest =>
      have hmem : setting.1 ∈ ((setting :: rest).map (·.1)).eraseDups :=
        List.mem_eraseDups.mpr List.mem_cons_self
      rw [← hkeys, h] at hmem
      cases hmem
  · rintro rfl
    rfl

/-- Of several settings, those of the first entry's key decide on its value, and the others are for
the rest. -/
theorem assignAll_cons (settings : List (κ × α)) (entry : κ × α) (rest : List (κ × α)) :
    assignAll settings (entry :: rest) =
      (entry.1, (settings.reverse.lookup entry.1).getD entry.2) ::
        assignAll (settings.filter fun setting => decide (setting.1 ≠ entry.1)) rest := by
  induction settings generalizing entry rest with
  | nil => rfl
  | cons setting later ih =>
    have hlast : [setting].lookup entry.1 = if entry.1 = setting.1 then some setting.2 else none :=
      lookup_cons_eq_ite entry.1 setting []
    rw [assignAll, List.foldl_cons, ← assignAll, assign, List.reverse_cons, List.lookup_append, hlast]
    by_cases h : entry.1 = setting.1
    · rw [if_pos h, if_pos h, ih, List.filter_cons_of_neg (by simpa using h.symm)]
      cases later.reverse.lookup entry.1 <;> rfl
    · rw [if_neg h, if_neg h, ih, List.filter_cons_of_pos (by simpa using Ne.symm h), Option.or_none]
      rfl

/-- Settings whose last values are there already change nothing. -/
theorem assignAll_eq_self {settings entries : List (κ × α)}
    (h : ∀ key value, settings.reverse.lookup key = some value → entries.lookup key = some value) :
    assignAll settings entries = entries := by
  induction entries generalizing settings with
  | nil =>
    have hnone : settings = [] := by
      cases hlast : settings.reverse with
      | nil => exact List.reverse_eq_nil_iff.mp hlast
      | cons setting earlier =>
        have hvalue := h setting.1 setting.2 (by rw [hlast, lookup_cons_eq_ite, if_pos rfl])
        cases hvalue
    rw [hnone]
    rfl
  | cons entry rest ih =>
    have hfirst : (settings.reverse.lookup entry.1).getD entry.2 = entry.2 := by
      cases hlast : settings.reverse.lookup entry.1 with
      | none => rfl
      | some value =>
        have hvalue := h entry.1 value hlast
        rw [lookup_cons_eq_ite, if_pos rfl] at hvalue
        exact (Option.some.inj hvalue).symm
    rw [assignAll_cons, hfirst, ih]
    intro key value hlast
    rw [← List.filter_reverse] at hlast
    by_cases hkey : key = entry.1
    · -- no setting of that key is left
      exfalso
      have hnone : (settings.reverse.filter fun setting => decide (setting.1 ≠ entry.1)).lookup key =
          none := by
        rw [List.lookup_eq_none_iff]
        intro setting hsetting
        have hne := of_decide_eq_true (List.mem_filter.mp hsetting).2
        exact bne_iff_ne.mpr fun heq => hne (heq ▸ hkey)
      cases hnone.symm.trans hlast
    · rw [lookup_filter_ne _ hkey] at hlast
      have hvalue := h key value hlast
      rwa [lookup_cons_eq_ite, if_neg hkey] at hvalue

end ClientGen

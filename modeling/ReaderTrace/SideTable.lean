/-!
Data attached to things that the table does not own.

A key has at most one entry; associating again replaces it. The table is
looked at through `lookup` only, so the order of its entries means nothing.
-/

namespace ReaderTrace

structure SideTable (κ δ : Type) where
  entries : List (κ × δ)

namespace SideTable

variable {κ δ : Type} [DecidableEq κ]

def empty : SideTable κ δ :=
  { entries := [] }

def lookup (table : SideTable κ δ) (key : κ) : Option δ :=
  (table.entries.find? fun entry => entry.1 = key).map (·.2)

def has (table : SideTable κ δ) (key : κ) : Bool :=
  (table.lookup key).isSome

def clear (table : SideTable κ δ) (key : κ) : SideTable κ δ :=
  { entries := table.entries.filter fun entry => entry.1 ≠ key }

def associate (table : SideTable κ δ) (key : κ) (data : δ) : SideTable κ δ :=
  { entries := (key, data) :: (table.clear key).entries }

@[simp] theorem lookup_empty (key : κ) : (empty : SideTable κ δ).lookup key = none :=
  rfl

private theorem find?_filter_other (entries : List (κ × δ)) {key other : κ}
    (different : other ≠ key) :
    (entries.filter fun entry => entry.1 ≠ key).find? (fun entry => entry.1 = other) =
      entries.find? fun entry => entry.1 = other := by
  induction entries with
  | nil => rfl
  | cons entry rest ih =>
    by_cases same : entry.1 = key
    · rw [List.filter_cons_of_neg (by simp [same]),
        List.find?_cons_of_neg (by simp [same, different.symm])]
      exact ih
    · rw [List.filter_cons_of_pos (by simp [same])]
      by_cases found : entry.1 = other
      · rw [List.find?_cons_of_pos (by simp [found]), List.find?_cons_of_pos (by simp [found])]
      · rw [List.find?_cons_of_neg (by simp [found]), List.find?_cons_of_neg (by simp [found])]
        exact ih

theorem lookup_clear (table : SideTable κ δ) (key other : κ) :
    (table.clear key).lookup other = if other = key then none else table.lookup other := by
  unfold lookup clear
  split
  · next same =>
    subst same
    simp
  · next different =>
    rw [find?_filter_other table.entries different]

theorem lookup_associate (table : SideTable κ δ) (key other : κ) (data : δ) :
    (table.associate key data).lookup other =
      if other = key then some data else table.lookup other := by
  by_cases same : other = key
  · subst same
    simp [associate, lookup]
  · have behind : (table.associate key data).lookup other = (table.clear key).lookup other := by
      simp [associate, lookup, Ne.symm same]
    rw [behind, lookup_clear, if_neg same, if_neg same]

theorem clear_of_lookup_eq_none {table : SideTable κ δ} {key : κ}
    (absent : table.lookup key = none) : table.clear key = table := by
  have noEntry : ∀ entry ∈ table.entries, entry.1 ≠ key := by
    intro entry member same
    have missing := Option.map_eq_none_iff.mp absent
    rw [List.find?_eq_none] at missing
    exact missing entry member (by simp [same])
  unfold clear
  rw [List.filter_eq_self.mpr fun entry member => by simpa using noEntry entry member]

end SideTable

end ReaderTrace

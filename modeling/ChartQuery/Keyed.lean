/-!
# Ordered maps as lists of pairs

A map whose order shows in the output is a list of pairs.  `insert` keeps the
place of a key that is already there and appends a new one, so `ofList` gives a
repeated key its first place and its last value.  Nothing here forces keys to
be distinct; `Distinct` says that they are, and `ofList` always produces it.
-/

namespace ChartQuery

/-- A map with a visible order: pairs of a key and a value. -/
abbrev Keyed (κ : Type) (α : Type) := List (κ × α)

namespace Keyed

variable {κ α : Type} [DecidableEq κ]

/-- The value under `key`; of several, the first. -/
def get? (key : κ) : Keyed κ α → Option α
  | [] => none
  | (name, value) :: rest => if name = key then some value else get? key rest

/-- Whether `key` has a value. -/
def has (key : κ) : Keyed κ α → Bool
  | [] => false
  | (name, _) :: rest => name = key || has key rest

/-- The keys in order. -/
def keys (entries : Keyed κ α) : List κ := entries.map Prod.fst

/-- Give `key` a value: in its place if the key is there, else at the end. -/
def insert (key : κ) (value : α) : Keyed κ α → Keyed κ α
  | [] => [(key, value)]
  | (name, old) :: rest =>
      if name = key then (name, value) :: rest
      else (name, old) :: insert key value rest

/-- Insert the pairs of a list one after the other. -/
def ofList (entries : List (κ × α)) : Keyed κ α :=
  entries.foldl (fun map entry => insert entry.1 entry.2 map) []

/-- No key occurs twice. -/
def Distinct (entries : Keyed κ α) : Prop := (keys entries).Nodup

instance (entries : Keyed κ α) : Decidable (Distinct entries) :=
  inferInstanceAs (Decidable (List.Nodup _))

/-! ## Laws of `insert` -/

@[simp]
theorem get?_insert_self (key : κ) (value : α) (entries : Keyed κ α) :
    get? key (insert key value entries) = some value := by
  induction entries with
  | nil => simp [insert, get?]
  | cons entry rest ih =>
      by_cases same : entry.1 = key <;> simp [insert, get?, same, ih]

theorem get?_insert_of_ne
    {key other : κ} (different : other ≠ key) (value : α)
    (entries : Keyed κ α) :
    get? other (insert key value entries) = get? other entries := by
  induction entries with
  | nil => simp [insert, get?, Ne.symm different]
  | cons entry rest ih =>
      by_cases same : entry.1 = key
      · subst same
        simp [insert, get?, Ne.symm different]
      · simp [insert, get?, same, ih]

theorem get?_eq_none_iff (key : κ) (entries : Keyed κ α) :
    get? key entries = none ↔ key ∉ keys entries := by
  induction entries with
  | nil => simp [get?, keys]
  | cons entry rest ih =>
      by_cases same : entry.1 = key
      · simp [get?, keys, same]
      · simp only [get?, same, if_false, ih, keys, List.map_cons, List.mem_cons]
        simp [Ne.symm same]

theorem has_eq_isSome (key : κ) (entries : Keyed κ α) :
    has key entries = (get? key entries).isSome := by
  induction entries with
  | nil => rfl
  | cons entry rest ih =>
      by_cases same : entry.1 = key <;> simp [has, get?, same, ih]

/-- Inserting adds no key but its own, and that one at the end. -/
theorem keys_insert (key : κ) (value : α) (entries : Keyed κ α) :
    keys (insert key value entries) =
      if key ∈ keys entries then keys entries else keys entries ++ [key] := by
  induction entries with
  | nil => simp [insert, keys]
  | cons entry rest ih =>
      by_cases same : entry.1 = key
      · simp [insert, keys, same]
      · simp only [keys] at ih
        simp only [insert, same, if_false, keys, List.map_cons, ih,
          List.mem_cons, Ne.symm same, false_or]
        split <;> simp [*]

theorem Distinct.insert
    {entries : Keyed κ α} (distinct : Distinct entries) (key : κ) (value : α) :
    Distinct (Keyed.insert key value entries) := by
  unfold Distinct at *
  rw [keys_insert]
  split
  · exact distinct
  · rename_i absent
    rw [List.nodup_append]
    exact ⟨distinct, by simp, by
      intro name member other isKey equal
      simp only [List.mem_singleton] at isKey
      subst isKey equal
      exact absent member⟩

/-- What `ofList` builds has no key twice. -/
theorem distinct_ofList (entries : List (κ × α)) : Distinct (ofList entries) := by
  have step : ∀ (more : List (κ × α)) (map : Keyed κ α), Distinct map →
      Distinct (more.foldl (fun map entry => Keyed.insert entry.1 entry.2 map) map) := by
    intro more
    induction more with
    | nil => exact fun _ distinct => distinct
    | cons entry rest ih => exact fun _ distinct => ih _ (distinct.insert _ _)
  exact step entries [] (by simp [Distinct, keys])

end Keyed

end ChartQuery

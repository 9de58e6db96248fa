import Mathlib
import ChartQuery.Keyed

/-!
# Ordered maps: looking up and building

Further laws of `ChartQuery.Keyed`.  Looking up agrees with membership when no
key occurs twice, and goes to the same place in maps with the same keys.
Inserting a list of pairs with distinct keys gives every one of these keys its
own value and leaves the others alone; building a map from a list drops or
replaces pairs but never invents one, and changes nothing exactly when the keys
were distinct already.
-/

namespace ChartQuery.Keyed

variable {κ α : Type} [DecidableEq κ]

/-! ## Looking up -/

omit [DecidableEq κ] in
theorem mem_keys {key : κ} {value : α} {entries : Keyed κ α}
    (member : (key, value) ∈ entries) : key ∈ keys entries :=
  List.mem_map_of_mem member

/-- With distinct keys a pair of the map is what is found under its key. -/
theorem get?_of_mem {key : κ} {value : α} {entries : Keyed κ α}
    (distinct : Distinct entries) (member : (key, value) ∈ entries) :
    get? key entries = some value := by
  induction entries with
  | nil => simp at member
  | cons entry rest ih =>
      have parts : entry.1 ∉ keys rest ∧ Distinct rest := by
        simpa [Distinct, keys] using distinct
      rcases List.mem_cons.mp member with head | tail
      · simp [← head, get?]
      · have different : entry.1 ≠ key := by
          intro same
          exact parts.1 (same ▸ mem_keys tail)
        simpa [get?, different] using ih parts.2 tail

/-- What is found under a key is a pair of the map. -/
theorem mem_of_get? {key : κ} {value : α} {entries : Keyed κ α}
    (found : get? key entries = some value) : (key, value) ∈ entries := by
  induction entries with
  | nil => cases found
  | cons entry rest ih =>
      rcases entry with ⟨name, first⟩
      by_cases same : name = key
      · subst same
        have equal : first = value := by simpa [get?] using found
        rw [equal]
        exact List.mem_cons_self
      · exact List.mem_cons_of_mem _ (ih (by simpa [get?, same] using found))

theorem get?_eq_some_iff {key : κ} {value : α} {entries : Keyed κ α}
    (distinct : Distinct entries) :
    get? key entries = some value ↔ (key, value) ∈ entries :=
  ⟨mem_of_get?, get?_of_mem distinct⟩

/-- With distinct keys the order does not matter for what is found. -/
theorem get?_perm {left right : Keyed κ α} (distinct : Distinct left)
    (perm : left.Perm right) (key : κ) : get? key left = get? key right := by
  have permuted : Distinct right := (perm.map Prod.fst).nodup distinct
  apply Option.ext
  intro value
  rw [get?_eq_some_iff distinct, get?_eq_some_iff permuted, perm.mem_iff]

/-- Of two maps side by side the first one is looked at first. -/
theorem get?_append (key : κ) (entries more : Keyed κ α) :
    get? key (entries ++ more) = (get? key entries).or (get? key more) := by
  induction entries with
  | nil => rfl
  | cons entry rest ih =>
      by_cases same : entry.1 = key
      · simp [get?, same]
      · simpa [get?, same] using ih

/-- Changing all values changes what is found. -/
theorem get?_map {β : Type} (change : α → β) (key : κ) (entries : Keyed κ α) :
    get? key (entries.map fun entry => (entry.1, change entry.2)) =
      (get? key entries).map change := by
  induction entries with
  | nil => rfl
  | cons entry rest ih =>
      by_cases same : entry.1 = key
      · simp [get?, same]
      · simpa [get?, same] using ih

/-- Dropping other keys does not change what is found. -/
theorem get?_filter (keep : κ → Bool) {key : κ} (kept : keep key = true)
    (entries : Keyed κ α) :
    get? key (entries.filter fun entry => keep entry.1) = get? key entries := by
  induction entries with
  | nil => rfl
  | cons entry rest ih =>
      by_cases same : entry.1 = key
      · simp [get?, same, kept]
      · by_cases stays : keep entry.1 = true
        · simpa [get?, same, stays] using ih
        · simpa [get?, same, stays] using ih

/-- Of two maps with the same keys in the same places both have what one has. -/
theorem exists_get?_of_right {β : Type} (relation : κ → α → β → Prop)
    {lefts : Keyed κ α} {rights : Keyed κ β}
    (related : List.Forall₂
      (fun left right => right.1 = left.1 ∧ relation left.1 left.2 right.2)
      lefts rights)
    {key : κ} {right : β} (found : get? key rights = some right) :
    ∃ left, get? key lefts = some left ∧ relation key left right := by
  induction related with
  | nil => cases found
  | @cons first second _ _ here later ih =>
      rcases here with ⟨same, holds⟩
      by_cases this : first.1 = key
      · have equal : second.2 = right := by
          simpa [get?, same, this] using found
        exact ⟨first.2, by simp [get?, this], this ▸ equal ▸ holds⟩
      · have further := ih (by simpa [get?, same, this] using found)
        simpa [get?, this] using further

/-! ## Inserting -/

/-- A new key goes to the end. -/
theorem insert_of_not_mem {key : κ} {entries : Keyed κ α}
    (absent : key ∉ keys entries) (value : α) :
    insert key value entries = entries ++ [(key, value)] := by
  induction entries with
  | nil => rfl
  | cons entry rest ih =>
      have parts : ¬key = entry.1 ∧ key ∉ keys rest := by
        simpa [keys] using absent
      simp [insert, Ne.symm parts.1, ih parts.2]

theorem mem_insert {key : κ} {value : α} {entries : Keyed κ α} {entry : κ × α}
    (member : entry ∈ insert key value entries) :
    entry = (key, value) ∨ entry ∈ entries := by
  induction entries with
  | nil => exact Or.inl (by simpa [insert] using member)
  | cons first rest ih =>
      by_cases same : first.1 = key
      · rcases (by simpa [insert, same] using member) with head | tail
        · exact Or.inl head
        · exact Or.inr (List.mem_cons_of_mem _ tail)
      · rcases (by simpa [insert, same] using member) with head | tail
        · exact Or.inr (by rw [head]; exact List.mem_cons_self)
        · rcases ih tail with new | old
          · exact Or.inl new
          · exact Or.inr (List.mem_cons_of_mem _ old)

/-- Inserting pairs with distinct keys: each such key gets its value. -/
theorem get?_foldl_insert (key : κ) {entries : Keyed κ α}
    (distinct : Distinct entries) (start : Keyed κ α) :
    get? key
        (entries.foldl (fun map entry => insert entry.1 entry.2 map) start) =
      (get? key entries).or (get? key start) := by
  induction entries generalizing start with
  | nil => simp [get?]
  | cons entry rest ih =>
      have parts : entry.1 ∉ keys rest ∧ Distinct rest := by
        simpa [Distinct, keys] using distinct
      rw [List.foldl_cons, ih parts.2]
      by_cases same : entry.1 = key
      · have absent : get? key rest = none :=
          (get?_eq_none_iff key rest).mpr (same ▸ parts.1)
        simp [get?, same, absent]
      · rw [get?_insert_of_ne (Ne.symm same)]
        simp [get?, same]

/-- The first key of some kind is not affected by the places of repeated keys. -/
theorem find?_keys_insert (fits : κ → Bool) (key : κ) (value : α)
    (entries : Keyed κ α) :
    (keys (insert key value entries)).find? fits =
      (keys entries ++ [key]).find? fits := by
  rw [keys_insert]
  split
  · rename_i there
    rw [List.find?_append]
    cases found : (keys entries).find? fits with
    | some first => rfl
    | none =>
        have unfit := List.find?_eq_none.mp found key there
        simp [unfit]
  · rfl

theorem find?_keys_foldl_insert (fits : κ → Bool) (entries start : Keyed κ α) :
    (keys (entries.foldl (fun map entry => insert entry.1 entry.2 map)
        start)).find? fits =
      (keys start ++ keys entries).find? fits := by
  induction entries generalizing start with
  | nil => simp [keys]
  | cons entry rest ih =>
      rw [List.foldl_cons, ih, List.find?_append, find?_keys_insert,
        ← List.find?_append, List.append_assoc]
      rfl

/-! ## Building from a list -/

theorem mem_of_mem_ofList {entries : List (κ × α)} {entry : κ × α}
    (member : entry ∈ ofList entries) : entry ∈ entries := by
  have step : ∀ (more : List (κ × α)) (map : Keyed κ α),
      entry ∈ more.foldl (fun map item => insert item.1 item.2 map) map →
        entry ∈ more ∨ entry ∈ map := by
    intro more
    induction more with
    | nil => exact fun _ found => Or.inr found
    | cons item rest ih =>
        intro map found
        rcases ih _ found with later | inserted
        · exact Or.inl (List.mem_cons_of_mem _ later)
        · rcases mem_insert inserted with new | old
          · exact Or.inl (by rw [new]; exact List.mem_cons_self)
          · exact Or.inr old
  rcases step entries [] member with found | none
  · exact found
  · simp at none

theorem mem_keys_ofList {key : κ} {entries : List (κ × α)} :
    key ∈ keys (ofList entries) ↔ key ∈ keys entries := by
  have step : ∀ (more : List (κ × α)) (map : Keyed κ α),
      key ∈ keys (more.foldl (fun map item => insert item.1 item.2 map) map) ↔
        key ∈ keys map ∨ key ∈ keys more := by
    intro more
    induction more with
    | nil => exact fun map => (or_iff_left (by simp [keys])).symm
    | cons item rest ih =>
        intro map
        have parts : key ∈ keys (item :: rest) ↔
            key = item.1 ∨ key ∈ keys rest := List.mem_cons
        rw [List.foldl_cons, ih, keys_insert, parts]
        split
        · rename_i there
          constructor
          · rintro (old | later)
            · exact Or.inl old
            · exact Or.inr (Or.inr later)
          · rintro (old | rfl | later)
            · exact Or.inl old
            · exact Or.inl there
            · exact Or.inr later
        · rw [List.mem_append, List.mem_singleton, or_assoc]
  exact (step entries []).trans (or_iff_right (by simp [keys]))

/-- Pairs whose keys differ from each other and from those there go to the end. -/
theorem foldl_insert_of_distinct {entries : List (κ × α)} {start : Keyed κ α}
    (distinct : Distinct (start ++ entries)) :
    entries.foldl (fun map entry => insert entry.1 entry.2 map) start =
      start ++ entries := by
  induction entries generalizing start with
  | nil => simp
  | cons entry rest ih =>
      have absent : entry.1 ∉ keys start := by
        intro there
        have disjoint := (List.nodup_append.mp
          (by simpa [Distinct, keys] using distinct)).2.2
        exact disjoint entry.1 there entry.1 (by simp) rfl
      rw [List.foldl_cons, insert_of_not_mem absent,
        ih (by simpa using distinct)]
      simp

/-- Distinct keys are kept as they are. -/
theorem ofList_of_distinct {entries : List (κ × α)}
    (distinct : Distinct entries) : ofList entries = entries :=
  foldl_insert_of_distinct distinct

/-- Building loses a pair exactly when a key is repeated. -/
theorem length_ofList_eq_iff (entries : List (κ × α)) :
    (ofList entries).length = entries.length ↔ Distinct entries := by
  constructor
  · intro equal
    have included : keys (ofList entries) ⊆ keys entries := by
      intro key member
      rcases List.mem_map.mp member with ⟨entry, found, rfl⟩
      exact List.mem_map_of_mem (mem_of_mem_ofList found)
    have same : (keys (ofList entries)).Perm (keys entries) :=
      (List.Nodup.subperm (distinct_ofList entries) included).perm_of_length_le
        (by simp [keys, equal])
    exact same.nodup (distinct_ofList entries)
  · intro distinct
    rw [ofList_of_distinct distinct]

end ChartQuery.Keyed

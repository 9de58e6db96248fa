import ChartQuery.Proofs.Decoding.Conforming
import ChartQuery.Proofs.Decoding.Names
import ChartQuery.Slot.Levels

/-!
# Paths through a response

A slot map and a response are read level by level.  The grouping of a level is
its last main slot, and each bucket of the grouping leads to a level inside it:
the slots below the grouping, about the documents of the bucket.  A path is a
list of bucket numbers, followed from a level inwards.

A path that ends at a level without a grouping gives a row, made of the cells
that were met on the way.  `Visit.Lists` says that rows are those of all such
paths, in lexicographic order of the paths.  Nothing here goes by the order in
which a response is walked through.
-/

namespace ChartQuery

/-! ## Levels -/

/-- The slots of a level that are on an axis, in order. -/
def Slots.ofAxis (slots : Slots) (axis : Axis) : Slots :=
  slots.filter fun entry => entry.2.axis = axis

/-- The grouping of a level: its last main slot. -/
def Slots.grouping? (slots : Slots) : Option (String × Slot) :=
  (slots.ofAxis .main).getLast?

theorem Slots.mem_ofAxis {slots : Slots} {axis : Axis} {id : String}
    {slot : Slot} :
    (id, slot) ∈ slots.ofAxis axis ↔ (id, slot) ∈ slots ∧ slot.axis = axis := by
  simp [Slots.ofAxis]

theorem Slots.mem_of_grouping? {slots : Slots} {id : String} {slot : Slot}
    (grouped : slots.grouping? = some (id, slot)) :
    (id, slot) ∈ slots ∧ slot.axis = .main :=
  Slots.mem_ofAxis.mp (List.mem_of_getLast? grouped)

theorem Slots.values_eq_ofAxis (slots : Slots) :
    Slots.values slots =
      (slots.ofAxis .value).map fun entry => (entry.1, entry.2.position) := by
  induction slots with
  | nil => rfl
  | cons entry rest ih =>
      rcases entry with ⟨id, slot⟩
      unfold Slots.ofAxis at ih ⊢
      cases axis : slot.axis <;> simp [Slots.values, axis, ih]

theorem Slots.levelsBelow_eq (slot : Slot) :
    Slots.levelsBelow slot = Slots.levels slot.children := by
  cases slot
  rfl

/-- A later grouping comes before an earlier one. -/
theorem Slots.grouping?_cons (entry : String × Slot) (rest : Slots) :
    Slots.grouping? (entry :: rest) =
      rest.grouping?.or (if entry.2.axis = .main then some entry else none) := by
  unfold Slots.grouping? Slots.ofAxis
  by_cases main : entry.2.axis = .main
  · rw [List.filter_cons_of_pos (by simpa using main), List.getLast?_cons,
      if_pos main]
    cases (rest.filter fun entry => entry.2.axis = .main).getLast? <;> rfl
  · rw [List.filter_cons_of_neg (by simpa using main), if_neg main,
      Option.or_none]

theorem Slots.lastGrouping_eq (slots : Slots) :
    Slots.lastGrouping slots =
      slots.grouping?.map fun entry =>
        (entry.1, entry.2.position, Slots.levels entry.2.children) := by
  induction slots with
  | nil => rfl
  | cons entry rest ih =>
      rcases entry with ⟨id, slot⟩
      rw [Slots.lastGrouping, ih, Slots.grouping?_cons]
      cases Slots.grouping? rest with
      | some later => rfl
      | none => cases slot.axis <;> simp [Slots.levelsBelow_eq]

theorem Slots.grouping?_of_innermost {slots : Slots}
    {values : List (String × Nat)}
    (shape : Slots.levels slots = .innermost values) :
    slots.grouping? = none ∧ Slots.values slots = values := by
  rw [Slots.levels, Slots.lastGrouping_eq] at shape
  cases grouping : slots.grouping? with
  | none =>
      rw [grouping] at shape
      exact ⟨rfl, Levels.innermost.inj shape⟩
  | some entry =>
      rw [grouping] at shape
      cases shape

theorem Slots.grouping?_of_grouped {slots : Slots}
    {values : List (String × Nat)} {id : String} {position : Nat}
    {below : Levels}
    (shape : Slots.levels slots = .grouped values id position below) :
    ∃ slot, slots.grouping? = some (id, slot) ∧
      Slots.values slots = values ∧ slot.position = position ∧
      Slots.levels slot.children = below := by
  rw [Slots.levels, Slots.lastGrouping_eq] at shape
  cases grouping : slots.grouping? with
  | none =>
      rw [grouping] at shape
      cases shape
  | some entry =>
      rcases entry with ⟨name, slot⟩
      rw [grouping] at shape
      rcases Levels.grouped.inj shape with ⟨held, rfl, placed, deeper⟩
      exact ⟨slot, rfl, held, placed, deeper⟩

/-- The cells of the value slots of a level, in order. -/
def Slots.cells (slots : Slots) (scope : Scope) : List (String × Json) :=
  (slots.ofAxis .value).filterMap fun entry =>
    (scope.cell? entry.1).map fun cell =>
      (Axis.value.label entry.2.position, cell)

/-- All documents found; their number has to be a number. -/
def Scope.root (response : Json) : Scope :=
  ⟨outermost response, (Scope.whole response).size?.filter Json.isNumber⟩

/-- A level that is reached, and the cells that were met before it. -/
structure Visit where
  slots : Slots
  scope : Scope
  before : List (String × Json)

namespace Visit

/-- The outermost level. -/
def root (slots : Slots) (response : Json) : Visit :=
  ⟨slots, .root response, []⟩

/-- The cells that were met up to the end of the level. -/
def cells (visit : Visit) : List (String × Json) :=
  visit.before ++ visit.slots.cells visit.scope

/-- The level inside a bucket of a main slot, after the key of the bucket. -/
def branch (visit : Visit) (slot : Slot) (bucket : Json) : Visit where
  slots := slot.children
  scope := .ofBucket bucket
  before := visit.cells ++
    [(Axis.main.label slot.position, (bucket.member? "key").getD .null)]

/-- The levels that the buckets of the grouping lead to. -/
def branches (visit : Visit) : List Visit :=
  match visit.slots.grouping? with
  | none => []
  | some (id, slot) => (visit.scope.buckets id).map (visit.branch slot)

/-- The level at the end of a path of bucket numbers. -/
def follow? (visit : Visit) : List Nat → Option Visit
  | [] => some visit
  | number :: path =>
      visit.branches[number]?.bind fun branch => branch.follow? path

/-- Every value slot of the level has a cell. -/
def HasCells (visit : Visit) : Prop :=
  ∀ id slot, (id, slot) ∈ visit.slots.ofAxis .value →
    ∃ cell, visit.scope.cell? id = some cell

/-- What a level needs in order to be read, whatever is inside its buckets. -/
structure Readable (visit : Visit) : Prop where
  values : visit.HasCells
  /-- The grouping lists buckets, and they are well-formed. -/
  buckets : ∀ id slot, visit.slots.grouping? = some (id, slot) →
    ∃ buckets, visit.scope.listed? id = some buckets ∧
      ∀ bucket ∈ buckets, bucket.isBucket = true

/-- Every level that a path leads to can be read. -/
def AllReadable (visit : Visit) : Prop :=
  ∀ path last, visit.follow? path = some last → last.Readable

/-- A path ends at a level without a grouping, where its cells make a row. -/
def Gives (visit : Visit) (path : List Nat) (row : Row) : Prop :=
  ∃ last, visit.follow? path = some last ∧ last.slots.grouping? = none ∧
    row = Keyed.ofList last.cells

/-- Rows are those that paths give, in lexicographic order of the paths. -/
def Enumerates (gives : List Nat → Row → Prop) (rows : List Row) : Prop :=
  ∃ paths : List (List Nat), paths.Pairwise (· < ·) ∧
    (∀ path, path ∈ paths ↔ ∃ row, gives path row) ∧
    List.Forall₂ gives paths rows

/-- Rows are those of all paths, in lexicographic order. -/
def Lists (visit : Visit) (rows : List Row) : Prop :=
  Enumerates visit.Gives rows

/-! ## One step along a path -/

variable {visit : Visit}

theorem branches_of_innermost (innermost : visit.slots.grouping? = none) :
    visit.branches = [] := by
  simp [branches, innermost]

theorem branches_of_grouped {id : String} {slot : Slot} {buckets : List Json}
    (grouped : visit.slots.grouping? = some (id, slot))
    (listed : visit.scope.listed? id = some buckets) :
    visit.branches = buckets.map (visit.branch slot) := by
  simp [branches, grouped, Scope.buckets_of_listed listed]

theorem allReadable_iff :
    visit.AllReadable ↔
      visit.Readable ∧ ∀ branch ∈ visit.branches, branch.AllReadable := by
  constructor
  · intro all
    refine ⟨all [] visit rfl, ?_⟩
    intro branch member path last followed
    rcases List.mem_iff_getElem?.mp member with ⟨number, there⟩
    apply all (number :: path) last
    simpa [follow?, there] using followed
  · rintro ⟨here, inside⟩ path last followed
    cases path with
    | nil => exact Option.some.inj followed ▸ here
    | cons number path =>
        rcases Option.bind_eq_some_iff.mp followed with
          ⟨branch, there, deeper⟩
        exact inside branch (List.mem_of_getElem? there) path last deeper

/-- At the innermost level there is nothing but the empty path. -/
theorem lists_of_innermost (innermost : visit.slots.grouping? = none) :
    visit.Lists [Keyed.ofList visit.cells] := by
  refine ⟨[[]], List.pairwise_singleton _ _, ?_,
    .cons ⟨visit, rfl, innermost, rfl⟩ .nil⟩
  intro path
  rw [List.mem_singleton]
  constructor
  · rintro rfl
    exact ⟨_, visit, rfl, innermost, rfl⟩
  · rintro ⟨row, last, followed, _⟩
    cases path with
    | nil => rfl
    | cons number path =>
        simp [follow?, branches_of_innermost innermost] at followed

/-! ## Paths into numbered branches -/

/-- A path that starts with the number of a branch, counted from `first` on. -/
def GivesFrom (first : Nat) (branches : List Visit) (path : List Nat)
    (row : Row) : Prop :=
  ∃ number rest branch, path = (first + number) :: rest ∧
    branches[number]? = some branch ∧ branch.Gives rest row

/-- A level with a grouping gives what its branches give. -/
theorem gives_iff_of_grouped {entry : String × Slot}
    (grouped : visit.slots.grouping? = some entry) {path : List Nat}
    {row : Row} :
    visit.Gives path row ↔ GivesFrom 0 visit.branches path row := by
  constructor
  · rintro ⟨last, followed, innermost, made⟩
    cases path with
    | nil =>
        have same : visit = last := Option.some.inj followed
        rw [same, innermost] at grouped
        cases grouped
    | cons number path =>
        rcases Option.bind_eq_some_iff.mp followed with
          ⟨branch, there, deeper⟩
        exact ⟨number, path, branch, by rw [Nat.zero_add], there, last, deeper,
          innermost, made⟩
  · rintro ⟨number, rest, branch, rfl, there, last, deeper, innermost, made⟩
    refine ⟨last, ?_, innermost, made⟩
    simpa [follow?, there] using deeper

theorem givesFrom_cons {first : Nat} {branch : Visit} {rest : List Visit}
    {path : List Nat} {row : Row} :
    GivesFrom first (branch :: rest) path row ↔
      (∃ deeper, path = first :: deeper ∧ branch.Gives deeper row) ∨
        GivesFrom (first + 1) rest path row := by
  constructor
  · rintro ⟨number, deeper, found, rfl, there, given⟩
    cases number with
    | zero =>
        have same : branch = found := by simpa using there
        exact Or.inl ⟨deeper, rfl, same ▸ given⟩
    | succ number =>
        have later : rest[number]? = some found := by simpa using there
        exact Or.inr ⟨number, deeper, found,
          by rw [Nat.add_right_comm, Nat.add_assoc], later, given⟩
  · rintro (⟨deeper, rfl, given⟩ | ⟨number, deeper, found, rfl, there, given⟩)
    · exact ⟨0, deeper, branch, rfl, rfl, given⟩
    · exact ⟨number + 1, deeper, found,
        by rw [Nat.add_right_comm, Nat.add_assoc], by simpa using there, given⟩

/-- The rows of branches in a row are those of all paths into them. -/
theorem enumerates_flatten {branches : List Visit} {parts : List (List Row)}
    (each : List.Forall₂ Lists branches parts) (first : Nat) :
    Enumerates (GivesFrom first branches) parts.flatten := by
  induction each generalizing first with
  | nil =>
      refine ⟨[], List.Pairwise.nil, ?_, .nil⟩
      simp [GivesFrom]
  | @cons branch part branches parts listed _ ih =>
      rcases listed with ⟨paths, sorted, complete, given⟩
      rcases ih (first + 1) with ⟨more, laterSorted, laterComplete, laterGiven⟩
      refine ⟨paths.map (first :: ·) ++ more, ?_, ?_, ?_⟩
      · rw [List.pairwise_append]
        refine ⟨?_, laterSorted, ?_⟩
        · rw [List.pairwise_map]
          exact sorted.imp fun less => List.cons_lt_cons_iff.mpr
            (Or.inr ⟨rfl, less⟩)
        · -- The first number decides between this branch and a later one.
          intro left leftMember right rightMember
          rcases List.mem_map.mp leftMember with ⟨deeper, _, rfl⟩
          rcases (laterComplete right).mp rightMember with
            ⟨_, number, rest, _, rfl, _⟩
          exact List.cons_lt_cons_iff.mpr (Or.inl (by omega))
      · intro path
        simp only [List.mem_append, List.mem_map, laterComplete, complete,
          givesFrom_cons, exists_or]
        apply or_congr_left
        constructor
        · rintro ⟨deeper, ⟨row, gives⟩, rfl⟩
          exact ⟨row, deeper, rfl, gives⟩
        · rintro ⟨row, deeper, rfl, gives⟩
          exact ⟨deeper, ⟨row, gives⟩, rfl⟩
      · rw [List.flatten_cons]
        apply List.rel_append
        · rw [List.forall₂_map_left_iff]
          exact given.imp fun deeper row gives =>
            givesFrom_cons.mpr (Or.inl ⟨deeper, rfl, gives⟩)
        · exact laterGiven.imp fun path row gives =>
            givesFrom_cons.mpr (Or.inr gives)

/-- A level with a grouping has the rows of its branches, one after the other. -/
theorem lists_of_grouped {entry : String × Slot}
    (grouped : visit.slots.grouping? = some entry) {parts : List (List Row)}
    (each : List.Forall₂ Lists visit.branches parts) :
    visit.Lists parts.flatten := by
  have same : visit.Gives = GivesFrom 0 visit.branches := by
    funext path row
    exact propext (gives_iff_of_grouped grouped)
  rw [Lists, same]
  exact enumerates_flatten each 0

end Visit

end ChartQuery

import Mathlib

/-!
# Outcomes of steps

A computation that may fail is a chain of steps.  These lemmas take a chain
apart: it gives a result if every step does, and it fails with the error of the
first step that fails.  A check that is run over a list passes if it passes for
every member.  Where a list of results stands beside a list of inputs, every
member of the one has a partner in the other.

`Reports` compares a computation with the list of all that is wrong: the
computation fails with the first fault of the list, and gives a result when the
list is empty.  Chains and checks over lists report their parts in order.
`StopsAtFirst` says the same of faults that are told by their places, wherever
places have an order.  `Related` compares two computations with each other, step
by step.
-/

namespace ChartQuery.Outcome

variable {ε α β : Type}

/-- Two steps give a result when the first does and the second does from there. -/
theorem bind_eq_ok_iff
    {first : Except ε α} {next : α → Except ε β} {result : β} :
    first >>= next = .ok result ↔
      ∃ value, first = .ok value ∧ next value = .ok result := by
  cases first with
  | error failure => simp [bind, Except.bind]
  | ok value => simp [bind, Except.bind]

/-- Two steps fail when the first does, or when the second does from there. -/
theorem bind_eq_error_iff
    {first : Except ε α} {next : α → Except ε β} {failure : ε} :
    first >>= next = .error failure ↔
      first = .error failure ∨
        ∃ value, first = .ok value ∧ next value = .error failure := by
  cases first with
  | error other => simp [bind, Except.bind]
  | ok value => simp [bind, Except.bind]

theorem mapError_eq_ok_iff {φ : Type} {outcome : Except ε α} {wrap : ε → φ}
    {result : α} :
    outcome.mapError wrap = .ok result ↔ outcome = .ok result := by
  cases outcome <;> simp [Except.mapError]

theorem mapError_eq_error_iff {φ : Type} {outcome : Except ε α} {wrap : ε → φ}
    {failure : φ} :
    outcome.mapError wrap = .error failure ↔
      ∃ inner, outcome = .error inner ∧ failure = wrap inner := by
  cases outcome <;> simp [Except.mapError, eq_comm]

/-- A check and a step behind it give a result when both do. -/
theorem check_bind_eq_ok_iff
    {check : Except ε Unit} {next : Unit → Except ε β} {result : β} :
    check >>= next = .ok result ↔ check = .ok () ∧ next () = .ok result := by
  rw [bind_eq_ok_iff]
  constructor
  · rintro ⟨_, passes, later⟩
    exact ⟨passes, later⟩
  · rintro ⟨passes, later⟩
    exact ⟨(), passes, later⟩

/-- A check passes over a list when it passes for every member. -/
theorem forM_eq_ok_iff
    {check : α → Except ε Unit} {items : List α} :
    items.forM check = .ok () ↔ ∀ item ∈ items, check item = .ok () := by
  induction items with
  | nil =>
      simp [pure, Except.pure]
  | cons item rest ih =>
      have unfolded :
          (item :: rest).forM check =
            (check item >>= fun _ => rest.forM check) := rfl
      rw [unfolded, check_bind_eq_ok_iff, List.forall_mem_cons, ← ih]

/-- A check over a list fails at the first member that does not pass. -/
theorem forM_eq_error_iff
    {check : α → Except ε Unit} {items : List α} {failure : ε} :
    items.forM check = .error failure ↔
      ∃ earlier item later, items = earlier ++ item :: later ∧
        (∀ other ∈ earlier, check other = .ok ()) ∧
          check item = .error failure := by
  induction items with
  | nil => simp [pure, Except.pure]
  | cons first rest ih =>
      have unfolded :
          (first :: rest).forM check =
            (check first >>= fun _ => rest.forM check) := rfl
      rw [unfolded, bind_eq_error_iff, ih]
      constructor
      · rintro (here | ⟨_, passes, earlier, item, later, rfl, pass, fails⟩)
        · exact ⟨[], first, rest, rfl, by simp, here⟩
        · refine ⟨first :: earlier, item, later, rfl, ?_, fails⟩
          exact List.forall_mem_cons.mpr ⟨passes, pass⟩
      · rintro ⟨earlier, item, later, split, pass, fails⟩
        cases earlier with
        | nil =>
            cases split
            exact .inl fails
        | cons head earlier =>
            cases split
            rcases List.forall_mem_cons.mp pass with ⟨passes, others⟩
            exact .inr ⟨(), passes, earlier, item, later, rfl, others, fails⟩

/-- Checks that agree on the members of a list agree on the list. -/
theorem forM_congr {check other : α → Except ε Unit} {items : List α}
    (same : ∀ item ∈ items, check item = other item) :
    items.forM check = items.forM other := by
  induction items with
  | nil => rfl
  | cons item rest ih =>
      have here := same item List.mem_cons_self
      have later := ih fun member found =>
        same member (List.mem_cons_of_mem _ found)
      show (check item >>= fun _ => rest.forM check) =
        (other item >>= fun _ => rest.forM other)
      rw [here, later]

/-- An outcome that is no failure is a result. -/
theorem exists_ok_of_no_error
    {outcome : Except ε α}
    (noError : ∀ failure, outcome ≠ .error failure) :
    ∃ result, outcome = .ok result := by
  cases outcome with
  | error failure => exact (noError failure rfl).elim
  | ok result => exact ⟨result, rfl⟩

theorem exists_ok_of_toBool
    {outcome : Except ε α} (succeeds : outcome.toBool = true) :
    ∃ result, outcome = .ok result := by
  cases outcome with
  | error failure => cases succeeds
  | ok result => exact ⟨result, rfl⟩

theorem exists_ok_of_any
    {outcome : Except ε α} {property : α → Bool}
    (holds : outcome.toOption.any property = true) :
    ∃ result, outcome = .ok result ∧ property result = true := by
  cases outcome with
  | error failure => cases holds
  | ok result => exact ⟨result, rfl, holds⟩

theorem eq_ok_get_toOption
    {outcome : Except ε α} (succeeds : outcome.toOption.isSome = true) :
    outcome = .ok (outcome.toOption.get succeeds) := by
  cases outcome with
  | error failure => cases succeeds
  | ok result => rfl

/-! ## Faults in order -/

/-- A computation fails with the first of these faults, and only with that. -/
def Reports (outcome : Except ε α) (faults : List ε) : Prop :=
  ∀ failure, outcome = .error failure ↔ faults.head? = some failure

theorem Reports.exists_ok_iff {outcome : Except ε α} {faults : List ε}
    (reports : Reports outcome faults) :
    (∃ result, outcome = .ok result) ↔ faults = [] := by
  cases faults with
  | nil =>
      have succeeds : ∃ result, outcome = .ok result :=
        exists_ok_of_no_error fun failure failed => by
          cases (reports failure).mp failed
      exact iff_of_true succeeds rfl
  | cons fault rest =>
      have failed : outcome = .error fault := (reports fault).mpr rfl
      simp [failed]

/-- A check passes when there is no fault. -/
theorem Reports.passes_iff {check : Except ε Unit} {faults : List ε}
    (reports : Reports check faults) : check = .ok () ↔ faults = [] := by
  rw [← reports.exists_ok_iff]
  exact ⟨fun passes => ⟨(), passes⟩, fun ⟨_, passes⟩ => passes⟩

/-- The faults of a check decide how it ends. -/
theorem Reports.unique {left right : Except ε Unit} {faults : List ε}
    (first : Reports left faults) (second : Reports right faults) :
    left = right := by
  cases faults with
  | nil => rw [first.passes_iff.mpr rfl, second.passes_iff.mpr rfl]
  | cons fault rest =>
      rw [(first fault).mpr rfl, (second fault).mpr rfl]

theorem reports_ok (result : α) :
    Reports (.ok result : Except ε α) [] := by
  intro failure
  simp

theorem reports_error (fault : ε) (more : List ε) :
    Reports (.error fault : Except ε α) (fault :: more) := by
  intro failure
  simp

/-- The fault of one rule; nothing if the rule holds. -/
def faultUnless (rule : Prop) [Decidable rule] (fault : ε) : List ε :=
  if rule then [] else [fault]

theorem faultUnless_eq_nil_iff {rule : Prop} [Decidable rule] {fault : ε} :
    faultUnless rule fault = [] ↔ rule := by
  simp [faultUnless]

theorem reports_if (rule : Prop) [Decidable rule] (fault : ε) (result : α) :
    Reports (if rule then .ok result else .error fault)
      (faultUnless rule fault) := by
  unfold faultUnless
  split
  · exact reports_ok result
  · exact reports_error fault []

/-- A computation behind a rule is reached when the rule holds. -/
theorem Reports.guarded {rule : Prop} [Decidable rule] {fault : ε}
    {outcome : Except ε α} {more : List ε}
    (later : rule → Reports outcome more) :
    Reports (if rule then outcome else .error fault)
      (faultUnless rule fault ++ more) := by
  unfold faultUnless
  split
  · rename_i holds
    exact later holds
  · exact reports_error fault more

/-- A computation that needs a look-up is reached when something is found. -/
theorem Reports.lookedUp {found : Option α} {_ : Decidable (found ≠ none)}
    {fault : ε} {outcome : Except ε β} {more : List ε}
    (stops : found = none → outcome = .error fault)
    (later : ∀ value, found = some value → Reports outcome more) :
    Reports outcome (faultUnless (found ≠ none) fault ++ more) := by
  unfold faultUnless
  cases found with
  | none =>
      rw [if_neg (by simp), stops rfl]
      exact reports_error fault more
  | some value =>
      rw [if_pos (by simp)]
      exact later value rfl

/-- What comes behind a fault is not looked at. -/
theorem Reports.bind
    {first : Except ε α} {next : α → Except ε β} {faults more : List ε}
    (here : Reports first faults)
    (later : ∀ value, first = .ok value → Reports (next value) more) :
    Reports (first >>= next) (faults ++ more) := by
  intro failure
  cases faults with
  | nil =>
      rcases here.exists_ok_iff.mpr rfl with ⟨value, succeeds⟩
      have continues : first >>= next = next value := by
        rw [succeeds]
        rfl
      rw [continues, List.nil_append]
      exact later value succeeds failure
  | cons fault rest =>
      have stops : first >>= next = .error fault := by
        rw [(here fault).mpr rfl]
        rfl
      rw [stops, List.cons_append]
      exact reports_error fault (rest ++ more) failure

/-- A result that is only wrapped up reports the same. -/
theorem Reports.map {outcome : Except ε α} {faults : List ε}
    (reports : Reports outcome faults) (wrap : α → β) :
    Reports (outcome >>= fun value => .ok (wrap value)) faults := by
  rw [← List.append_nil faults]
  exact reports.bind fun value _ => reports_ok (wrap value)

theorem Reports.mapError {φ : Type} {outcome : Except ε α} {faults : List ε}
    (reports : Reports outcome faults) (wrap : ε → φ) :
    Reports (outcome.mapError wrap) (faults.map wrap) := by
  cases faults with
  | nil =>
      rcases reports.exists_ok_iff.mpr rfl with ⟨result, rfl⟩
      exact reports_ok result
  | cons fault rest =>
      rw [(reports fault).mpr rfl]
      exact reports_error (wrap fault) (rest.map wrap)

/-- A check that is run over a list reports the faults member by member. -/
theorem reports_forM
    {check : α → Except ε Unit} {faults : α → List ε} {items : List α}
    (each : ∀ item ∈ items, Reports (check item) (faults item)) :
    Reports (items.forM check) (items.flatMap faults) := by
  induction items with
  | nil => exact reports_ok ()
  | cons item rest ih =>
      have later : Reports (rest.forM check) (rest.flatMap faults) :=
        ih fun other member => each other (List.mem_cons_of_mem _ member)
      rw [List.flatMap_cons]
      exact (each item List.mem_cons_self).bind fun _ _ => later

/-! ## Faults by place -/

section Places

variable {ι : Type} {before : ι → ι → Prop}

/--
A computation gives a result when nothing is wrong anywhere; else it fails with
what is wrong at some place, and nothing is wrong before that place.
-/
structure StopsAtFirst (before : ι → ι → Prop) (outcome : Except ε α)
    (wrong : ι → ε → Prop) : Prop where
  succeeds : ∀ result, outcome = .ok result →
    ∀ place fault, ¬wrong place fault
  fails : ∀ failure, outcome = .error failure →
    ∃ place, wrong place failure ∧
      ∀ other fault, wrong other fault → ¬before other place

/-- A computation that looks at one place only. -/
theorem stopsAtFirst_at {outcome : Except ε α} {wrong : ε → Prop} {place : ι}
    (alone : ¬before place place)
    (fails : ∀ failure, outcome = .error failure ↔ wrong failure) :
    StopsAtFirst before outcome
      fun other failure => other = place ∧ wrong failure where
  succeeds := by
    rintro result rfl _ fault ⟨_, faulty⟩
    cases (fails fault).mpr faulty
  fails := by
    intro failure failed
    refine ⟨place, ⟨rfl, (fails failure).mp failed⟩, ?_⟩
    rintro _ _ ⟨rfl, _⟩
    exact alone

/-- What is looked at first comes before what is looked at behind it. -/
theorem StopsAtFirst.bind {first : Except ε α} {next : α → Except ε β}
    {here later : ι → ε → Prop}
    (stops : StopsAtFirst before first here)
    (continues : ∀ value, first = .ok value →
      StopsAtFirst before (next value) later)
    (ordered : ∀ place fault other another, here place fault →
      later other another → ¬before other place) :
    StopsAtFirst before (first >>= next)
      fun place failure => here place failure ∨ later place failure where
  succeeds := by
    rintro result succeeds place fault
    rcases bind_eq_ok_iff.mp succeeds with ⟨value, reached, done⟩
    exact not_or.mpr ⟨stops.succeeds value reached place fault,
      (continues value reached).succeeds result done place fault⟩
  fails := by
    intro failure failed
    rcases bind_eq_error_iff.mp failed with fault | ⟨value, reached, fault⟩
    · rcases stops.fails failure fault with ⟨place, wrong, least⟩
      refine ⟨place, Or.inl wrong, ?_⟩
      rintro other another (earlier | further)
      · exact least other another earlier
      · exact ordered place failure other another wrong further
    · rcases (continues value reached).fails failure fault with
        ⟨place, wrong, least⟩
      refine ⟨place, Or.inr wrong, ?_⟩
      rintro other another (earlier | further)
      · exact (stops.succeeds value reached other another earlier).elim
      · exact least other another further

/-- A result that is only wrapped up stops at the same place. -/
theorem StopsAtFirst.map {outcome : Except ε α} {wrong : ι → ε → Prop}
    (stops : StopsAtFirst before outcome wrong) (wrap : α → β) :
    StopsAtFirst before (outcome >>= fun value => .ok (wrap value)) wrong := by
  cases outcome with
  | ok value =>
      exact ⟨fun _ _ => stops.succeeds value rfl, nofun⟩
  | error failure =>
      refine ⟨nofun, fun other same => stops.fails other ?_⟩
      cases same
      rfl

theorem StopsAtFirst.congr {outcome : Except ε α} {wrong other : ι → ε → Prop}
    (stops : StopsAtFirst before outcome wrong)
    (same : ∀ place fault, other place fault ↔ wrong place fault) :
    StopsAtFirst before outcome other := by
  have equal : other = wrong :=
    funext fun place => funext fun fault => propext (same place fault)
  exact equal ▸ stops

/-- Places that are all moved in the same way stay in order. -/
theorem StopsAtFirst.move {outcome : Except ε α} {wrong : ι → ε → Prop}
    (stops : StopsAtFirst before outcome wrong) (move : ι → ι)
    (kept : ∀ left right, before (move left) (move right) →
      before left right) :
    StopsAtFirst before outcome
      fun place failure => ∃ inner, place = move inner ∧
        wrong inner failure where
  succeeds := by
    rintro result succeeds _ fault ⟨inner, rfl, faulty⟩
    exact stops.succeeds result succeeds inner fault faulty
  fails := by
    intro failure failed
    rcases stops.fails failure failed with ⟨inner, wrong, least⟩
    refine ⟨move inner, ⟨inner, rfl, wrong⟩, ?_⟩
    rintro _ fault ⟨other, rfl, faulty⟩ earlier
    exact least other fault faulty (kept other inner earlier)

end Places

/-! ## Two computations -/

/-- Two computations fail with the same error, or give results that are related. -/
inductive Related (relation : α → β → Prop) :
    Except ε α → Except ε β → Prop where
  | ok {left : α} {right : β} (holds : relation left right) :
      Related relation (.ok left) (.ok right)
  | error (failure : ε) : Related relation (.error failure) (.error failure)

theorem related_self (outcome : Except ε α) : Related Eq outcome outcome := by
  cases outcome with
  | error failure => exact .error failure
  | ok result => exact .ok rfl

theorem Related.eq {left right : Except ε α}
    (related : Related Eq left right) : left = right := by
  cases related with
  | error failure => rfl
  | ok same => rw [same]

/-- Related results go on to related results. -/
theorem Related.bind {γ δ : Type} {relation : α → β → Prop}
    {further : γ → δ → Prop} {left : Except ε α} {right : Except ε β}
    {leftNext : α → Except ε γ} {rightNext : β → Except ε δ}
    (here : Related relation left right)
    (later : ∀ first second, relation first second →
      Related further (leftNext first) (rightNext second)) :
    Related further (left >>= leftNext) (right >>= rightNext) := by
  cases here with
  | error failure => exact .error failure
  | ok holds => exact later _ _ holds

theorem Related.mapError {φ : Type} {relation : α → β → Prop}
    {left : Except ε α} {right : Except ε β}
    (related : Related relation left right) (wrap : ε → φ) :
    Related relation (left.mapError wrap) (right.mapError wrap) := by
  cases related with
  | error failure => exact .error (wrap failure)
  | ok holds => exact .ok holds

theorem Related.error_iff {relation : α → β → Prop} {left : Except ε α}
    {right : Except ε β} (related : Related relation left right)
    (failure : ε) : right = .error failure ↔ left = .error failure := by
  cases related with
  | error other => simp
  | ok holds => simp

theorem Related.exists_ok {relation : α → β → Prop} {left : Except ε α}
    {right : Except ε β} (related : Related relation left right) {result : α}
    (succeeds : left = .ok result) :
    ∃ other, right = .ok other ∧ relation result other := by
  cases related with
  | error failure => cases succeeds
  | ok holds =>
      cases succeeds
      exact ⟨_, rfl, holds⟩

/-! ## Lists side by side -/

/-- A list beside itself. -/
theorem forall₂_self {relation : α → α → Prop}
    (reflexive : ∀ item, relation item item) (items : List α) :
    List.Forall₂ relation items items :=
  List.forall₂_same.mpr fun item _ => reflexive item

/-- Lists of one length, where anything is related with anything. -/
theorem forall₂_of_length_eq {relation : α → β → Prop} {lefts : List α}
    {rights : List β} (all : ∀ left right, relation left right)
    (long : lefts.length = rights.length) :
    List.Forall₂ relation lefts rights :=
  List.forall₂_of_length_eq_of_get long fun _ _ _ => all _ _

theorem exists_of_mem_left
    {relation : α → β → Prop} {lefts : List α} {rights : List β}
    (related : List.Forall₂ relation lefts rights)
    {left : α} (member : left ∈ lefts) :
    ∃ right ∈ rights, relation left right := by
  induction related with
  | nil => cases member
  | cons here later ih =>
      rcases List.mem_cons.mp member with rfl | tail
      · exact ⟨_, List.mem_cons_self, here⟩
      · rcases ih tail with ⟨right, there, holds⟩
        exact ⟨right, List.mem_cons_of_mem _ there, holds⟩

theorem exists_of_mem_right
    {relation : α → β → Prop} {lefts : List α} {rights : List β}
    (related : List.Forall₂ relation lefts rights)
    {right : β} (member : right ∈ rights) :
    ∃ left ∈ lefts, relation left right := by
  have flipped : List.Forall₂ (fun right left => relation left right)
      rights lefts := related.flip
  exact exists_of_mem_left flipped member

/-- The partner of a member stands at the same place. -/
theorem exists_getElem?_of_left
    {relation : α → β → Prop} {lefts : List α} {rights : List β}
    (related : List.Forall₂ relation lefts rights)
    {position : Nat} {left : α} (found : lefts[position]? = some left) :
    ∃ right, rights[position]? = some right ∧ relation left right := by
  induction related generalizing position with
  | nil => simp at found
  | cons here later ih =>
      cases position with
      | zero =>
          have same := Option.some.inj found
          exact ⟨_, rfl, same ▸ here⟩
      | succ position => exact ih found

end ChartQuery.Outcome

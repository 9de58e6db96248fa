import Mathlib
import ChartQuery.Config.Document
import ChartQuery.Proofs.Outcome

/-!
# Paths below the home directory

A path goes over the names between its slashes.  What is written behind a `~/`
leads from the home directory over just these names, and stays below it if none
of them is `..`, unless it starts with a slash of its own: it is then absolute
and takes the place of the home directory.  Any other path stays as it is, and so
does one that has been expanded.  Configurations are read with the paths in them
expanded.
-/

namespace ChartQuery

/-! ## Names on a path -/

/-- The path starts at the root. -/
def IsAbsolute (path : String) : Prop := path.toList.head? = some '/'

instance (path : String) : Decidable (IsAbsolute path) :=
  inferInstanceAs (Decidable (_ = _))

/-- The names on a path in order; any number of slashes separates them. -/
def names (path : String) : List String :=
  ((path.toList.splitOn '/').filter (fun name => name ≠ [])).map String.ofList

/-- Where names lead from a place: `.` stays there and `..` goes back. -/
def walk (place : List String) : List String → List String
  | [] => place
  | name :: rest =>
      if name = "." then walk place rest
      else if name = ".." then walk place.dropLast rest
      else walk (place ++ [name]) rest

/-- Where a path leads from the root. -/
def resolve (path : String) : List String := walk [] (names path)

/-- The path goes from the root through the directory and over these names. -/
structure LeadsOver (directory : String) (route : List String) (path : String) :
    Prop where
  absolute : IsAbsolute path
  names : names path = names directory ++ route

theorem names_of_slash {left right path : String}
    (split : path.toList = left.toList ++ '/' :: right.toList) :
    names path = names left ++ names right := by
  unfold names
  rw [split, List.splitOn_append_cons_self, List.filter_append, List.map_append]

theorem names_empty : names "" = [] := rfl

theorem walk_append (place left right : List String) :
    walk place (left ++ right) = walk (walk place left) right := by
  induction left generalizing place with
  | nil => rfl
  | cons name rest ih =>
      simp only [List.cons_append, walk]
      split
      · exact ih place
      · split
        · exact ih place.dropLast
        · exact ih (place ++ [name])

/-- Without going back, names lead to below where they start. -/
theorem prefix_walk {route : List String} (forward : ".." ∉ route)
    (place : List String) : place <+: walk place route := by
  induction route generalizing place with
  | nil => exact List.prefix_refl place
  | cons name rest ih =>
      have parts : ".." ≠ name ∧ ".." ∉ rest := by simpa using forward
      rcases parts with ⟨other, later⟩
      simp only [walk, if_neg (Ne.symm other)]
      split
      · exact ih later place
      · exact (List.prefix_append place [name]).trans (ih later _)

theorem LeadsOver.resolve_prefix {directory path : String} {route : List String}
    (leads : LeadsOver directory route path) (forward : ".." ∉ route) :
    resolve directory <+: resolve path := by
  unfold resolve
  rw [leads.names, walk_append]
  exact prefix_walk forward _

/-! ## Joining -/

section Joining

variable {directory : String} {path : List Char}

theorem joinPath_of_absolute (absolute : path.head? = some '/') :
    joinPath directory path = String.ofList path := by
  cases path with
  | nil => cases absolute
  | cons first rest =>
      cases absolute
      rfl

/-- A relative path goes on where the directory ends. -/
theorem names_joinPath (relative : path.head? ≠ some '/') :
    names (joinPath directory path) =
      names directory ++ names (String.ofList path) := by
  unfold joinPath
  split
  · exact (relative rfl).elim
  · split
    · rename_i closed
      rcases closed with empty | slash
      · rw [String.isEmpty_iff.mp empty]
        simp [names_empty]
      · -- The last slash of the directory is the one that separates.
        rcases List.getLast?_eq_some_iff.mp slash with ⟨front, split⟩
        have spelled : directory.toList =
            (String.ofList front).toList ++ '/' :: "".toList := by simp [split]
        have before : names directory = names (String.ofList front) := by
          rw [names_of_slash spelled, names_empty, List.append_nil]
        rw [before]
        exact names_of_slash (by simp [split])
    · refine names_of_slash ?_
      simp

theorem isAbsolute_joinPath (absolute : IsAbsolute directory) :
    IsAbsolute (joinPath directory path) := by
  have kept : ∀ more : List Char,
      (directory.toList ++ more).head? = some '/' := by
    intro more
    rw [List.head?_append, show directory.toList.head? = some '/' from absolute,
      Option.some_or]
  unfold joinPath IsAbsolute
  split
  · simp
  · split
    · simpa using kept path
    · simpa using kept ('/' :: path)

end Joining

/-! ## Expansion -/

section Expansion

variable {home path rest : String}

theorem expandTilde_home (home : String) : expandTilde home "~" = home := rfl

theorem expandTilde_below (home rest : String) :
    expandTilde home ("~/" ++ rest) = joinPath home rest.toList := by
  have split : ("~/" ++ rest).toList = '~' :: '/' :: rest.toList := by simp
  unfold expandTilde
  rw [split]
  rfl

theorem expandTilde_other (home : String) (alone : path ≠ "~")
    (below : ∀ rest, path ≠ "~/" ++ rest) : expandTilde home path = path := by
  unfold expandTilde
  split
  · rename_i written
    exact (alone (String.toList_inj.mp written)).elim
  · rename_i rest written
    refine (below (String.ofList rest) (String.toList_inj.mp ?_)).elim
    simp [written]
  · rfl

theorem expandTilde_of_absolute (home : String) (absolute : IsAbsolute path) :
    expandTilde home path = path := by
  refine expandTilde_other home ?_ fun rest => ?_
  · rintro rfl
    exact absurd absolute (by decide)
  · rintro rfl
    simp [IsAbsolute] at absolute

theorem expandTilde_below_of_absolute (home : String)
    (absolute : IsAbsolute rest) : expandTilde home ("~/" ++ rest) = rest := by
  rw [expandTilde_below, joinPath_of_absolute absolute, String.ofList_toList]

theorem leadsOver_expandTilde (absolute : IsAbsolute home)
    (relative : ¬IsAbsolute rest) :
    LeadsOver home (names rest) (expandTilde home ("~/" ++ rest)) := by
  rw [expandTilde_below]
  refine ⟨isAbsolute_joinPath absolute, ?_⟩
  rw [names_joinPath relative, String.ofList_toList]

/-- What is expanded is absolute if it has changed at all. -/
theorem expandTilde_eq_or_isAbsolute (absolute : IsAbsolute home)
    (path : String) :
    expandTilde home path = path ∨ IsAbsolute (expandTilde home path) := by
  -- The home directory itself is absolute, and so is all that is joined to it.
  by_cases alone : path = "~"
  · rw [alone]
    exact .inr absolute
  · by_cases below : ∃ rest, path = "~/" ++ rest
    · rcases below with ⟨rest, rfl⟩
      rw [expandTilde_below]
      exact .inr (isAbsolute_joinPath absolute)
    · exact .inl (expandTilde_other home alone (not_exists.mp below))

theorem expandTilde_idem (absolute : IsAbsolute home) (path : String) :
    expandTilde home (expandTilde home path) = expandTilde home path := by
  rcases expandTilde_eq_or_isAbsolute absolute path with same | rooted
  · rw [same, same]
  · exact expandTilde_of_absolute home rooted

end Expansion

/-! ## Configurations -/

/-- The paths that a configuration may name. -/
def Config.paths (config : Config) : List (Option String) :=
  [config.catalogPath, config.logging.file]

/--
A path that is written behind a `~/`, beside what it becomes: it leads from the
home directory over what is written, and stays below without going back.
-/
def StaysBelow (home : String) (written used : Option String) : Prop :=
  ∀ rest, written = some ("~/" ++ rest) → ¬IsAbsolute rest →
    ∃ path, used = some path ∧ LeadsOver home (names rest) path ∧
      (".." ∉ names rest → resolve home <+: resolve path)

theorem staysBelow_map {home : String} (absolute : IsAbsolute home)
    (written : Option String) :
    StaysBelow home written (written.map (expandTilde home)) := by
  rintro rest rfl relative
  have leads := leadsOver_expandTilde absolute relative
  exact ⟨_, rfl, leads, leads.resolve_prefix⟩

theorem Config.read_eq_ok_iff {home text : String} {config : Config} :
    Config.read home text = .ok config ↔
      ∃ written, (Toml.read? text).bind Config.ofToml? = some written ∧
        config = written.expandPaths home := by
  unfold Config.read
  cases (Toml.read? text).bind Config.ofToml? with
  | none => simp
  | some written => simp [eq_comm]

/--
A lone `~` is the home directory.  What is written behind a `~/` leads from there
over the names that are written, exactly if it does not start with a slash of
its own, which takes it elsewhere.  Other paths stay as they are, and so do paths
that are expanded.  So it is with the paths of every configuration that is read.
-/
theorem expandTilde_outcome {home : String} (absolute : IsAbsolute home) :
    expandTilde home "~" = home ∧
    (∀ rest,
      LeadsOver home (names rest) (expandTilde home ("~/" ++ rest)) ↔
        ¬IsAbsolute rest ∨ names home = []) ∧
    (∀ rest, IsAbsolute rest → expandTilde home ("~/" ++ rest) = rest) ∧
    (∀ path, path ≠ "~" → (∀ rest, path ≠ "~/" ++ rest) →
      expandTilde home path = path) ∧
    (∀ path,
      expandTilde home (expandTilde home path) = expandTilde home path) ∧
    ∀ text config, Config.read home text = .ok config →
      ∃ written, (Toml.read? text).bind Config.ofToml? = some written ∧
        config = written.expandPaths home ∧
        List.Forall₂ (StaysBelow home) written.paths config.paths := by
  refine ⟨expandTilde_home home, ?_, ?_, ?_, expandTilde_idem absolute, ?_⟩
  · intro rest
    by_cases rooted : IsAbsolute rest
    · -- The rest leads over its own names only, so the home directory has none.
      rw [expandTilde_below_of_absolute home rooted]
      constructor
      · intro leads
        have same := leads.names
        exact .inr (List.append_left_eq_self.mp same.symm)
      · rintro (relative | root)
        · exact (relative rooted).elim
        · exact ⟨rooted, by rw [root, List.nil_append]⟩
    · exact iff_of_true (leadsOver_expandTilde absolute rooted) (.inl rooted)
  · exact fun rest => expandTilde_below_of_absolute home
  · exact fun path => expandTilde_other home
  · intro text config read
    rcases Config.read_eq_ok_iff.mp read with ⟨written, found, rfl⟩
    exact ⟨written, found, rfl, .cons (staysBelow_map absolute _)
      (.cons (staysBelow_map absolute _) .nil)⟩

/-- Repeated slashes further on and a slash at the end make no difference. -/
theorem expandTilde_outcome_user :
    IsAbsolute "/home/user" ∧ ¬IsAbsolute "charts//catalog.yaml/" ∧
      expandTilde "/home/user" ("~/" ++ "charts//catalog.yaml/") =
        "/home/user/charts//catalog.yaml/" ∧
      LeadsOver "/home/user" ["charts", "catalog.yaml"]
        "/home/user/charts//catalog.yaml/" := by
  have absolute : IsAbsolute "/home/user" := by decide
  have relative : ¬IsAbsolute "charts//catalog.yaml/" := by decide
  exact ⟨absolute, relative, by decide,
    ((expandTilde_outcome absolute).2.1 "charts//catalog.yaml/").mpr
      (.inl relative)⟩

/--
A second slash behind the `~` leads out of the home directory, in a path by
itself and in a configuration.
-/
theorem expandTilde_doubledSlash :
    IsAbsolute "/home/user" ∧
      expandTilde "/home/user" ("~/" ++ "/etc/passwd") = "/etc/passwd" ∧
      ¬LeadsOver "/home/user" (names "/etc/passwd") "/etc/passwd" ∧
      ¬names "/home/user" <+: names "/etc/passwd" ∧
      ∃ config,
        Config.read "/home/user" "[catalog]\npath = \"~//etc/passwd\"\n" =
            .ok config ∧
          config.catalogPath = some "/etc/passwd" := by
  have read :
      (Config.read "/home/user"
        "[catalog]\npath = \"~//etc/passwd\"\n").toOption.any
          (fun config => config.catalogPath = some "/etc/passwd") = true := by
    decide +kernel
  rcases Outcome.exists_ok_of_any read with ⟨config, found, path⟩
  refine ⟨by decide, by decide, fun leads => ?_, by decide, config, found,
    of_decide_eq_true path⟩
  exact absurd leads.names (by decide)

end ChartQuery

import SignalControl.Config.File

namespace SignalControl.Config

/-! Which place a configuration is taken from. The search is told from what loading
each place on its own comes to: it goes past the places where nothing is to be had, and
the first other place decides, for better or worse. -/

/-- The search goes past a place where there is no file, and past one where the file
lacks nothing but the section. -/
def IsPassed (place : String × Location) : Prop :=
  place.2 = .absent ∨ load place.1 place.2 = .error (.missingSection place.1)

theorem load_eq_missingSection_iff {path : String} {location : Location} :
    load path location = .error (.missingSection path) ↔
      loadSection path location = .ok none := by
  cases sought : loadSection path location with
  | error error =>
      -- Reading the section on its own never misses it.
      have other : error ≠ .missingSection path := by
        rintro rfl
        rw [loadSection] at sought
        split at sought
        · cases sought
        · split at sought <;> cases sought
      simpa [load, sought] using other
  | ok client? => cases client? <;> simp [load, sought]

/-- What a place with something in it does to the search. -/
theorem discover_cons {path : String} {location : Location}
    (present : location ≠ .absent) (rest : List (String × Location)) :
    discover ((path, location) :: rest) =
      match loadSection path location with
      | .error error => .error error
      | .ok (some client) => .ok (client, some path)
      | .ok none => discover rest := by
  cases location with
  | absent => exact absurd rfl present
  | directory => rfl
  | file octets => rfl

theorem discover_of_passed {place : String × Location} (passed : IsPassed place)
    (rest : List (String × Location)) : discover (place :: rest) = discover rest := by
  rcases place with ⟨path, location⟩
  by_cases absent : location = .absent
  · rw [absent, discover]
  · have lacks := load_eq_missingSection_iff.mp (passed.resolve_left absent)
    rw [discover_cons absent, lacks]

theorem discover_of_decided {path : String} {location : Location}
    (decided : ¬ IsPassed (path, location)) (rest : List (String × Location)) :
    discover ((path, location) :: rest) =
      (load path location).map fun client => (client, some path) := by
  rcases not_or.mp decided with ⟨present, complete⟩
  rw [load_eq_missingSection_iff] at complete
  rw [discover_cons present, load]
  cases sought : loadSection path location with
  | error error => rfl
  | ok client? =>
      cases client? with
      | none => exact absurd sought complete
      | some client => rfl

/-- The search goes past places up to the first one that is not passed. What that one
gives when it is loaded on its own, a configuration or an error, is what the search
gives, whatever the later places hold. If all places are passed, every setting keeps its
default and no place is named. -/
theorem discover_eq_load (places : List (String × Location)) :
    (∀ place ∈ places, IsPassed place) ∧ discover places = .ok ({}, none) ∨
      ∃ earlier path location later,
        places = earlier ++ (path, location) :: later ∧
        (∀ place ∈ earlier, IsPassed place) ∧ ¬ IsPassed (path, location) ∧
        discover places =
          (load path location).map (fun client => (client, some path)) ∧
        ∀ others, discover (earlier ++ (path, location) :: others) = discover places := by
  induction places with
  | nil => exact .inl ⟨by simp, rfl⟩
  | cons place rest induction =>
      by_cases passed : IsPassed place
      · have goesOn := discover_of_passed passed
        rcases induction with ⟨all, defaults⟩ |
          ⟨earlier, path, location, later, split, before, decided, loaded, alone⟩
        · exact .inl ⟨List.forall_mem_cons.mpr ⟨passed, all⟩,
            (goesOn rest).trans defaults⟩
        · refine .inr ⟨place :: earlier, path, location, later,
            congrArg (place :: ·) split, List.forall_mem_cons.mpr ⟨passed, before⟩,
            decided, (goesOn rest).trans loaded, ?_⟩
          intro others
          rw [List.cons_append, goesOn, goesOn, alone]
      · rcases place with ⟨path, location⟩
        have loaded := discover_of_decided passed
        refine .inr ⟨[], path, location, rest, rfl, by simp, passed, loaded rest, ?_⟩
        intro others
        rw [List.nil_append, loaded, loaded]

end SignalControl.Config

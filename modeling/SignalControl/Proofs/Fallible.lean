import Mathlib.Data.List.Forall2

namespace SignalControl

/-! Computations that may fail, told apart by their first step, and lists of them, of
which the first that fails decides the error. -/

theorem bind_eq_ok_iff {first : Except ε α} {next : α → Except ε β} {result : β} :
    (first >>= next) = .ok result ↔
      ∃ value, first = .ok value ∧ next value = .ok result := by
  cases first with
  | error error =>
      constructor
      · intro impossible
        cases impossible
      · intro ⟨value, impossible, _⟩
        cases impossible
  | ok value =>
      constructor
      · intro rest
        exact ⟨value, rfl, rest⟩
      · intro ⟨_, equal, rest⟩
        cases equal
        exact rest

theorem bind_eq_error_iff {first : Except ε α} {next : α → Except ε β} {error : ε} :
    (first >>= next) = .error error ↔
      first = .error error ∨ ∃ value, first = .ok value ∧ next value = .error error := by
  cases first with
  | error other =>
      constructor
      · intro failed
        cases failed
        exact .inl rfl
      · intro either
        rcases either with failed | ⟨value, impossible, -⟩
        · cases failed
          rfl
        · cases impossible
  | ok value =>
      constructor
      · intro rest
        exact .inr ⟨value, rfl, rest⟩
      · intro either
        rcases either with impossible | ⟨_, equal, rest⟩
        · cases impossible
        · cases equal
          exact rest

theorem pure_eq_ok_iff {value result : α} :
    (pure value : Except ε α) = .ok result ↔ value = result :=
  ⟨Except.ok.inj, congrArg Except.ok⟩

theorem pure_eq_error_iff (value : α) (error : ε) :
    (pure value : Except ε α) = .error error ↔ False := by
  constructor
  · intro impossible
    cases impossible
  · exact False.elim

/-! ## Lists -/

theorem exists_forall₂_iff {relation : α → β → Prop} {items : List α} :
    (∃ others, List.Forall₂ relation items others) ↔
      ∀ item ∈ items, ∃ other, relation item other := by
  induction items with
  | nil => simp
  | cons item rest induction =>
      rw [List.forall_mem_cons, ← induction]
      constructor
      · intro ⟨others, related⟩
        cases related with
        | cons here later => exact ⟨⟨_, here⟩, ⟨_, later⟩⟩
      · intro ⟨⟨other, here⟩, ⟨others, later⟩⟩
        exact ⟨other :: others, .cons here later⟩

section

variable {read : α → Except ε β} {items : List α} {results : List β} {error : ε}

theorem mapM_eq_ok_iff :
    items.mapM read = .ok results ↔
      List.Forall₂ (fun item result => read item = .ok result) items results := by
  induction items generalizing results with
  | nil =>
      rw [List.mapM_nil, List.forall₂_nil_left_iff, pure_eq_ok_iff]
      exact eq_comm
  | cons item rest induction =>
      simp only [List.mapM_cons, bind_eq_ok_iff, pure_eq_ok_iff, induction,
        List.forall₂_cons_left_iff]
      constructor
      · intro ⟨result, here, others, later, equal⟩
        exact ⟨result, others, here, later, equal.symm⟩
      · intro ⟨result, others, here, later, equal⟩
        exact ⟨result, here, others, later, equal.symm⟩

theorem mapM_eq_error_iff :
    items.mapM read = .error error ↔
      ∃ before item after, items = before ++ item :: after ∧
        (∀ earlier ∈ before, ∃ result, read earlier = .ok result) ∧
        read item = .error error := by
  induction items with
  | nil =>
      rw [List.mapM_nil, pure_eq_error_iff, false_iff]
      intro ⟨before, item, after, equal, _⟩
      exact List.append_ne_nil_of_right_ne_nil before (List.cons_ne_nil item after) equal.symm
  | cons first rest induction =>
      simp only [List.mapM_cons, bind_eq_error_iff, pure_eq_error_iff, and_false, exists_false,
        or_false, induction]
      constructor
      · intro either
        rcases either with here | ⟨result, read, before, item, after, equal, succeed, fails⟩
        · exact ⟨[], first, rest, rfl, by simp, here⟩
        · subst equal
          refine ⟨first :: before, item, after, rfl, ?_, fails⟩
          exact List.forall_mem_cons.mpr ⟨⟨result, read⟩, succeed⟩
      · intro ⟨before, item, after, equal, succeed, fails⟩
        cases before with
        | nil =>
            cases equal
            exact .inl fails
        | cons head others =>
            cases equal
            rcases List.forall_mem_cons.mp succeed with ⟨⟨result, read⟩, succeedLater⟩
            exact .inr ⟨result, read, others, item, after, rfl, succeedLater, fails⟩

end

/-- A reader that puts what each item gives into a store reads all items first. -/
theorem reader_eq_mapM {run : σ → List α → Except ε σ} {read : α → Except ε β}
    {put : σ → β → σ} (done : ∀ store, run store [] = .ok store)
    (next : ∀ store item rest,
      run store (item :: rest) = read item >>= fun result => run (put store result) rest)
    (store : σ) (items : List α) :
    run store items = (fun results => results.foldl put store) <$> items.mapM read := by
  induction items generalizing store with
  | nil => rw [done, List.mapM_nil]; rfl
  | cons item rest induction =>
      rw [next, List.mapM_cons]
      simp only [induction, map_eq_pure_bind, bind_assoc, pure_bind, List.foldl_cons]

end SignalControl

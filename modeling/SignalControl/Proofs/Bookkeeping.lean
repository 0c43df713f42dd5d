import Mathlib.Data.List.Perm.Basic
import SignalControl.Attempt

namespace SignalControl.Attempt

/-! An attempt in which every command is settled once. The order of the verdicts
is free: nothing stays pending, and the names of the accepted and of the other
commands are kept in that order. -/

open scoped List

/-! ## Taking a name out of the pending ones -/

/-- What is left of the names once one of them went. At its first position now stands
the last name, and the last position is gone. -/
def TakenOut (name : String) (names rest : List String) : Prop :=
  ∃ before after last, names = before ++ name :: after ∧ name ∉ before ∧
    names.getLast? = some last ∧ rest = (before ++ last :: after).dropLast

theorem TakenOut.cons_perm {name : String} {names rest : List String}
    (taken : TakenOut name names rest) : (name :: rest).Perm names := by
  rcases taken with ⟨before, after, last, rfl, -, isLast, rfl⟩
  rw [List.getLast?_append, List.getLast?_cons, Option.some_or, Option.some.injEq] at isLast
  -- The last name is still the last one after it was written over the other.
  have stillLast : (before ++ last :: after).getLast? = some last := by
    rw [List.getLast?_append, List.getLast?_cons, Option.some_or, Option.some.injEq]
    cases final : after.getLast? with
    | none => rfl
    | some other => simpa [final] using isLast
  have others : (before ++ last :: after).dropLast.Perm (before ++ after) := by
    apply List.Perm.cons_inv (a := last)
    calc last :: (before ++ last :: after).dropLast
      _ ~ (before ++ last :: after).dropLast ++ [last] :=
          (List.perm_append_singleton last _).symm
      _ = before ++ last :: after := List.dropLast_append_getLast? last stillLast
      _ ~ last :: (before ++ after) := List.perm_middle
  calc name :: (before ++ last :: after).dropLast
    _ ~ name :: (before ++ after) := others.cons name
    _ ~ before ++ name :: after := List.perm_middle.symm

theorem takenOut_swapRemove {name : String} {before after : List String}
    (first : name ∉ before) :
    TakenOut name (before ++ name :: after)
      (swapRemove (before ++ name :: after) before.length) := by
  have isLast : (before ++ name :: after).getLast? =
      some (after.getLast?.getD name) := by
    rw [List.getLast?_append, List.getLast?_cons, Option.some_or]
  refine ⟨before, after, _, rfl, first, isLast, ?_⟩
  rw [swapRemove, isLast]
  simp

theorem idxOf?_append_cons {name : String} {before after : List String}
    (first : name ∉ before) :
    (before ++ name :: after).idxOf? name = some before.length := by
  rw [List.idxOf?_eq_some_iff]
  refine ⟨by simp, by simp, ?_⟩
  intro position earlier same
  apply first
  rw [← same, List.getElem_append_left earlier]
  exact List.getElem_mem earlier

/-! ## Verdicts by name -/

def acceptedNames (verdicts : List (String × Verdict)) : List String :=
  (verdicts.filter fun settled => settled.2.isAccepted).map Prod.fst

def faultedNames (verdicts : List (String × Verdict)) : List String :=
  (verdicts.filter fun settled => !settled.2.isAccepted).map Prod.fst

theorem acceptedNames_append (earlier later : List (String × Verdict)) :
    acceptedNames (earlier ++ later) = acceptedNames earlier ++ acceptedNames later := by
  simp [acceptedNames]

theorem faultedNames_append (earlier later : List (String × Verdict)) :
    faultedNames (earlier ++ later) = faultedNames earlier ++ faultedNames later := by
  simp [faultedNames]

theorem settle?_of_mem {attempt : Attempt} {name : String}
    (pending : name ∈ attempt.pending) (verdict : Verdict) :
    ∃ rest, TakenOut name attempt.pending rest ∧
      attempt.settle? name verdict = some
        { pending := rest
          succeeded := attempt.succeeded ++ acceptedNames [(name, verdict)]
          faulted := attempt.faulted ++ faultedNames [(name, verdict)] } := by
  rcases List.eq_append_cons_of_mem pending with ⟨before, after, equal, first⟩
  refine ⟨_, equal ▸ takenOut_swapRemove first, ?_⟩
  rw [settle?, equal, idxOf?_append_cons first, Option.map_some]
  cases accepted : verdict.isAccepted with
  | true => simp [acceptedNames, faultedNames, accepted]
  | false => simp [acceptedNames, faultedNames, accepted]

/-- Settling a pending name moves one occurrence of it. -/
theorem settle_of_mem {attempt : Attempt} {name : String}
    (pending : name ∈ attempt.pending) (verdict : Verdict) :
    ∃ rest, (name :: rest).Perm attempt.pending ∧
      attempt.settle name verdict =
        { pending := rest
          succeeded := attempt.succeeded ++ acceptedNames [(name, verdict)]
          faulted := attempt.faulted ++ faultedNames [(name, verdict)] } := by
  rcases settle?_of_mem pending verdict with ⟨rest, taken, settled⟩
  refine ⟨rest, taken.cons_perm, ?_⟩
  rw [settle, settled, Option.getD_some]

/-! ## Settling every command once -/

theorem settleAll_of_perm {attempt : Attempt} {verdicts : List (String × Verdict)}
    (once : attempt.pending.Perm (verdicts.map Prod.fst)) :
    attempt.settleAll verdicts =
      { pending := []
        succeeded := attempt.succeeded ++ acceptedNames verdicts
        faulted := attempt.faulted ++ faultedNames verdicts } := by
  induction verdicts generalizing attempt with
  | nil =>
      rcases attempt with ⟨pending, succeeded, faulted⟩
      have nonePending : pending = [] := List.Perm.eq_nil once
      simp [settleAll, acceptedNames, faultedNames, nonePending]
  | cons settled later induction =>
      rcases settled with ⟨name, verdict⟩
      have pending : name ∈ attempt.pending := once.mem_iff.mpr List.mem_cons_self
      rcases settle_of_mem pending verdict with ⟨rest, moved, equal⟩
      have restOnce : rest.Perm (later.map Prod.fst) :=
        (moved.trans once).cons_inv
      rw [settleAll, List.foldl_cons, ← settleAll, equal, induction restOnce,
        List.append_assoc, List.append_assoc, ← acceptedNames_append,
        ← faultedNames_append, List.singleton_append]

/-- How an attempt ends in which every command was settled once. -/
theorem finish_settleAll_start {names : List String}
    {verdicts : List (String × Verdict)}
    (once : names.Perm (verdicts.map Prod.fst)) :
    ((start names).settleAll verdicts).finish =
      if faultedNames verdicts = [] then .committed (acceptedNames verdicts)
      else .faulted (acceptedNames verdicts) (faultedNames verdicts) := by
  have startOnce : (start names).pending.Perm (verdicts.map Prod.fst) := once
  rw [settleAll_of_perm startOnce]
  simp [finish, start]

end SignalControl.Attempt

import Mathlib.Data.List.Count
import Mathlib.Data.List.Induction
import SignalControl.Proofs.Bookkeeping

namespace SignalControl

/-! The outcome of an attempt, told from the calls that settled its commands. Names may
be repeated, unknown, or settled too often. A call counts as long as the batch has
more commands of its name than there were calls before, and the outcome is decided by
the calls that count, whatever happens to the order of the pending ones. -/

def Outcome.succeededNames : Outcome → List String
  | .committed names => names
  | .faulted names _ => names

def Outcome.faultedNames : Outcome → List String
  | .committed _ => []
  | .faulted _ names => names

namespace Attempt

/-! ## The calls that count -/

/-- Of the calls that follow on others, those that take effect. For each of them, there
were fewer calls of its name before than the batch has commands of that name. -/
def effectiveAfter (names : List String) :
    List String → List (String × Verdict) → List (String × Verdict)
  | _, [] => []
  | earlier, call :: later =>
      if earlier.count call.1 < names.count call.1 then
        call :: effectiveAfter names (earlier ++ [call.1]) later
      else effectiveAfter names (earlier ++ [call.1]) later

def effective (names : List String) (calls : List (String × Verdict)) :
    List (String × Verdict) :=
  effectiveAfter names [] calls

def verdictsOn (name : String) (calls : List (String × Verdict)) : List Verdict :=
  (calls.filter fun call => call.1 == name).map Prod.snd

section

variable {names earlier : List String} {calls : List (String × Verdict)}
  {call : String × Verdict} {name : String}

theorem effectiveAfter_concat :
    effectiveAfter names earlier (calls ++ [call]) =
      effectiveAfter names earlier calls ++
        if (earlier ++ calls.map Prod.fst).count call.1 < names.count call.1 then [call]
        else [] := by
  induction calls generalizing earlier with
  | nil => simp [effectiveAfter]
  | cons first rest induction =>
      have shift : earlier ++ [first.1] ++ rest.map Prod.fst =
          earlier ++ (first :: rest).map Prod.fst := by simp
      rw [List.cons_append, effectiveAfter, effectiveAfter, induction, shift]
      split
      next => rw [List.cons_append]
      next => rfl

/-- The calls of one name that take effect are the first ones of that name. -/
theorem filter_effectiveAfter :
    (effectiveAfter names earlier calls).filter (fun call => call.1 == name) =
      (calls.filter fun call => call.1 == name).take
        (names.count name - earlier.count name) := by
  induction calls generalizing earlier with
  | nil => simp [effectiveAfter]
  | cons first rest induction =>
      rw [effectiveAfter, List.filter_cons]
      by_cases here : first.1 = name
      · subst here
        have counted : (earlier ++ [first.1]).count first.1 = earlier.count first.1 + 1 := by
          simp
        rw [beq_self_eq_true, if_pos rfl]
        split
        next before =>
          have one : names.count first.1 - earlier.count first.1 =
              (names.count first.1 - (earlier.count first.1 + 1)) + 1 := by omega
          rw [List.filter_cons, beq_self_eq_true, if_pos rfl, induction, counted, one,
            List.take_succ_cons]
        next spent =>
          have nothing : names.count first.1 - (earlier.count first.1 + 1) = 0 := by omega
          have none : names.count first.1 - earlier.count first.1 = 0 := by omega
          rw [induction, counted, nothing, none, List.take_zero, List.take_zero]
      · have counted : (earlier ++ [first.1]).count name = earlier.count name := by
          simp [here]
        have apart : ¬ (first.1 == name) = true := mt beq_iff_eq.mp here
        rw [if_neg apart]
        split
        next => rw [List.filter_cons, if_neg apart, induction, counted]
        next => rw [induction, counted]

theorem length_verdictsOn :
    (verdictsOn name calls).length = (calls.map Prod.fst).count name := by
  rw [verdictsOn, List.length_map, List.count_eq_length_filter, List.filter_map,
    List.length_map]
  rfl

/-- No effective call faulted if the first verdicts on each name were acceptances, as
many as the batch has commands of that name. -/
theorem faultedNames_effective_eq_nil_iff :
    faultedNames (effective names calls) = [] ↔
      ∀ name, ∀ verdict ∈ (verdictsOn name calls).take (names.count name),
        verdict.isAccepted = true := by
  have first : ∀ name, (verdictsOn name calls).take (names.count name) =
      ((effective names calls).filter fun call => call.1 == name).map Prod.snd := by
    intro name
    rw [effective, filter_effectiveAfter, verdictsOn, List.map_take, List.count_nil,
      Nat.sub_zero]
  simp only [faultedNames, List.map_eq_nil_iff, List.filter_eq_nil_iff, first]
  constructor
  · intro accepted name verdict member
    rcases List.mem_map.mp member with ⟨call, inFilter, rfl⟩
    simpa using accepted call (List.mem_filter.mp inFilter).1
  · intro accepted call member
    have isFirst : call ∈ (effective names calls).filter fun other => other.1 == call.1 :=
      List.mem_filter.mpr ⟨member, beq_self_eq_true _⟩
    simpa using accepted call.1 call.2 (List.mem_map_of_mem isFirst)

end

/-! ## Settling -/

variable {attempt : Attempt} {names : List String} {calls : List (String × Verdict)}
  {name : String} {verdict : Verdict}

theorem isSome_settle?_iff :
    (attempt.settle? name verdict).isSome = true ↔ name ∈ attempt.pending := by
  rw [settle?, Option.isSome_map, List.isSome_idxOf?]

theorem settle_of_not_mem (settled : name ∉ attempt.pending) :
    attempt.settle name verdict = attempt := by
  rw [settle, settle?, List.idxOf?_eq_none_iff.mpr settled]
  rfl

theorem settle_ne_iff :
    attempt.settle name verdict ≠ attempt ↔ name ∈ attempt.pending := by
  constructor
  · intro changed
    by_contra settled
    exact changed (settle_of_not_mem settled)
  · intro pending same
    rcases settle_of_mem pending verdict with ⟨rest, moved, equal⟩
    have unchanged : attempt.pending = rest := congrArg Attempt.pending (same ▸ equal)
    have length := moved.length_eq
    rw [← unchanged, List.length_cons] at length
    omega

structure Tallied (names : List String) (calls : List (String × Verdict))
    (attempt : Attempt) : Prop where
  pending : attempt.pending.Perm (names.diff (calls.map Prod.fst))
  succeeded : attempt.succeeded = acceptedNames (effective names calls)
  faulted : attempt.faulted = faultedNames (effective names calls)

theorem Tallied.mem_pending_iff (tallied : Tallied names calls attempt) :
    name ∈ attempt.pending ↔ (calls.map Prod.fst).count name < names.count name := by
  rw [tallied.pending.mem_iff, ← List.count_pos_iff, List.count_diff]
  omega

theorem effective_concat {call : String × Verdict} :
    effective names (calls ++ [call]) = effective names calls ++
      if (calls.map Prod.fst).count call.1 < names.count call.1 then [call] else [] := by
  rw [effective, effectiveAfter_concat, List.nil_append]
  rfl

theorem Tallied.settle (tallied : Tallied names calls attempt)
    (call : String × Verdict) :
    Tallied names (calls ++ [call]) (attempt.settle call.1 call.2) := by
  rcases call with ⟨name, verdict⟩
  have left : names.diff ((calls ++ [(name, verdict)]).map Prod.fst) =
      (names.diff (calls.map Prod.fst)).erase name := by
    rw [List.map_append, List.diff_append, List.map_singleton, List.diff_cons,
      List.diff_nil]
  by_cases pending : name ∈ attempt.pending
  · have counts := tallied.mem_pending_iff.mp pending
    rcases settle_of_mem pending verdict with ⟨rest, moved, equal⟩
    have restLeft : rest.Perm ((names.diff (calls.map Prod.fst)).erase name) :=
      (List.cons_perm_iff_perm_erase.mp (moved.trans tallied.pending)).2
    rw [equal]
    constructor
    case pending => exact left ▸ restLeft
    case succeeded =>
      rw [effective_concat, if_pos counts, acceptedNames_append, tallied.succeeded]
    case faulted =>
      rw [effective_concat, if_pos counts, faultedNames_append, tallied.faulted]
  · have spent := mt tallied.mem_pending_iff.mpr pending
    have absent : name ∉ names.diff (calls.map Prod.fst) :=
      mt tallied.pending.mem_iff.mpr pending
    rw [settle_of_not_mem pending]
    constructor
    case pending =>
      rw [left, List.erase_of_not_mem absent]
      exact tallied.pending
    case succeeded =>
      rw [effective_concat, if_neg spent, List.append_nil]
      exact tallied.succeeded
    case faulted =>
      rw [effective_concat, if_neg spent, List.append_nil]
      exact tallied.faulted

theorem tallied_settleAll (names : List String) (calls : List (String × Verdict)) :
    Tallied names calls ((start names).settleAll calls) := by
  induction calls using List.reverseRecOn with
  | nil => exact ⟨List.Perm.refl names, rfl, rfl⟩
  | append_singleton calls call induction =>
      have last : (start names).settleAll (calls ++ [call]) =
          ((start names).settleAll calls).settle call.1 call.2 := by
        rw [settleAll, List.foldl_append]
        rfl
      rw [last]
      exact induction.settle call

/-! ## Closing an attempt -/

theorem isCommitted_finish_iff :
    attempt.finish.isCommitted = true ↔ attempt.faulted = [] ∧ attempt.pending = [] := by
  rw [← List.append_eq_nil_iff, ← List.isEmpty_iff]
  simp only [finish]
  cases (attempt.faulted ++ attempt.pending).isEmpty with
  | true => simp [Outcome.isCommitted]
  | false => simp [Outcome.isCommitted]

theorem succeededNames_finish : attempt.finish.succeededNames = attempt.succeeded := by
  simp only [finish]
  split
  next => rfl
  next => rfl

theorem faultedNames_finish :
    attempt.finish.faultedNames = attempt.faulted ++ attempt.pending := by
  simp only [finish]
  split
  next empty => exact (List.isEmpty_iff.mp empty).symm
  next => rfl

theorem Tallied.isCommitted_iff (tallied : Tallied names calls attempt) :
    attempt.finish.isCommitted = true ↔
      ∀ name, names.count name ≤ (verdictsOn name calls).length ∧
        ∀ verdict ∈ (verdictsOn name calls).take (names.count name),
          verdict.isAccepted = true := by
  have nonePending : attempt.pending = [] ↔
      ∀ name, names.count name ≤ (verdictsOn name calls).length := by
    simp only [List.eq_nil_iff_forall_not_mem, tallied.mem_pending_iff, Nat.not_lt,
      length_verdictsOn]
  rw [isCommitted_finish_iff, tallied.faulted, faultedNames_effective_eq_nil_iff,
    nonePending, and_comm, forall_and]

/-- Where every command is settled once, the verdicts may come in any order. -/
theorem finish_settleAll_of_perm {reordered : List (String × Verdict)}
    (reorder : reordered.Perm calls) (once : names.Perm (calls.map Prod.fst)) :
    ((start names).settleAll reordered).finish.isCommitted =
        ((start names).settleAll calls).finish.isCommitted ∧
      ((start names).settleAll reordered).finish.succeededNames.Perm
        ((start names).settleAll calls).finish.succeededNames ∧
      ((start names).settleAll reordered).finish.faultedNames.Perm
        ((start names).settleAll calls).finish.faultedNames := by
  have reorderedOnce : (start names).pending.Perm (reordered.map Prod.fst) :=
    once.trans (reorder.symm.map Prod.fst)
  have startOnce : (start names).pending.Perm (calls.map Prod.fst) := once
  have accepted : (acceptedNames reordered).Perm (acceptedNames calls) :=
    (reorder.filter _).map Prod.fst
  have faulted : (faultedNames reordered).Perm (faultedNames calls) :=
    (reorder.filter _).map Prod.fst
  rw [settleAll_of_perm reorderedOnce, settleAll_of_perm startOnce, Bool.eq_iff_iff,
    isCommitted_finish_iff, isCommitted_finish_iff, succeededNames_finish,
    succeededNames_finish, faultedNames_finish, faultedNames_finish]
  refine ⟨?_, accepted.append_left _, (faulted.append_left _).append_right _⟩
  simp only [start, List.nil_append, and_true]
  rw [← List.perm_nil, ← List.perm_nil]
  exact ⟨faulted.symm.trans, faulted.trans⟩

/-- The outcome of an attempt, whatever calls were made. A call takes effect exactly if
fewer calls of its name were made before than the batch has commands of it. The attempt
is committed exactly if the first verdicts on each name are acceptances, one for each
command. The effective calls are listed in their order, and after the faulted ones come
the commands that were never settled. If each command is settled once, the order of the
calls changes neither the decision nor what is in the lists. -/
theorem outcome_of_calls (names : List String) (calls : List (String × Verdict)) :
    (∀ name verdict,
      ((((start names).settleAll calls).settle? name verdict).isSome = true ↔
        (calls.map Prod.fst).count name < names.count name) ∧
      (((start names).settleAll calls).settle name verdict ≠
          (start names).settleAll calls ↔
        (calls.map Prod.fst).count name < names.count name)) ∧
    (((start names).settleAll calls).finish.isCommitted = true ↔
      ∀ name, names.count name ≤ (verdictsOn name calls).length ∧
        ∀ verdict ∈ (verdictsOn name calls).take (names.count name),
          verdict.isAccepted = true) ∧
    ((start names).settleAll calls).finish.succeededNames =
      acceptedNames (effective names calls) ∧
    (∃ unsettled, unsettled.Perm (names.diff (calls.map Prod.fst)) ∧
      ((start names).settleAll calls).finish.faultedNames =
        faultedNames (effective names calls) ++ unsettled) ∧
    ∀ reordered, reordered.Perm calls → names.Perm (calls.map Prod.fst) →
      ((start names).settleAll reordered).finish.isCommitted =
          ((start names).settleAll calls).finish.isCommitted ∧
        ((start names).settleAll reordered).finish.succeededNames.Perm
          ((start names).settleAll calls).finish.succeededNames ∧
        ((start names).settleAll reordered).finish.faultedNames.Perm
          ((start names).settleAll calls).finish.faultedNames := by
  have tallied := tallied_settleAll names calls
  refine ⟨?_, tallied.isCommitted_iff, ?_, ?_, ?_⟩
  · intro name verdict
    rw [isSome_settle?_iff, settle_ne_iff, tallied.mem_pending_iff]
    exact ⟨Iff.rfl, Iff.rfl⟩
  · rw [succeededNames_finish, tallied.succeeded]
  · refine ⟨_, tallied.pending, ?_⟩
    rw [faultedNames_finish, tallied.faulted]
  · intro reordered reorder once
    exact finish_settleAll_of_perm reorder once

/-! ## A batch with a repeated name

The same command stands in the batch twice, and only one of the two is accepted. -/

def repeatedNames : List String := ["a", "b", "a"]

def repeatedCalls : List (String × Verdict) :=
  [("a", .accepted), ("b", .accepted), ("a", .refused none)]

theorem repeated_outcome_of_calls :
    ((start repeatedNames).settleAll repeatedCalls).finish =
        .faulted ["a", "b"] ["a"] ∧
      ((start repeatedNames).settleAll repeatedCalls.reverse).finish =
        .faulted ["b", "a"] ["a"] ∧
      ((start repeatedNames).settleAll repeatedCalls.reverse).finish.faultedNames.Perm
        ["a"] ∧
      ∀ verdict, ((start repeatedNames).settleAll repeatedCalls).settle "a" verdict =
        (start repeatedNames).settleAll repeatedCalls := by
  have outcome : ((start repeatedNames).settleAll repeatedCalls).finish =
      .faulted ["a", "b"] ["a"] := by decide
  rcases outcome_of_calls repeatedNames repeatedCalls with
    ⟨takesEffect, -, -, -, anyOrder⟩
  rcases anyOrder _ (List.reverse_perm _) (by decide) with ⟨-, -, sameFaults⟩
  rw [outcome] at sameFaults
  refine ⟨outcome, by decide, sameFaults, ?_⟩
  intro verdict
  by_contra changed
  have notSpent := (takesEffect "a" verdict).2.mp changed
  exact absurd notSpent (by decide)

end Attempt

end SignalControl

import SignalControl.Proofs.SettledCalls

namespace SignalControl

/-! Where the names of a batch are while its commands are settled. A call moves at most
one of them, out of the pending ones to the end of another list, and never back. So no
name is lost or doubled, whatever calls are made. -/

def Outcome.names (outcome : Outcome) : List String :=
  outcome.succeededNames ++ outcome.faultedNames

namespace Attempt

open scoped List

def names (attempt : Attempt) : List String :=
  attempt.pending ++ attempt.succeeded ++ attempt.faulted

/-! ## What a call does -/

inductive Settles (attempt : Attempt) (name : String) (verdict : Verdict) :
    Bool → Attempt → Prop
  | ignored : name ∉ attempt.pending → Settles attempt name verdict false attempt
  | accepted {rest : List String} :
      verdict.isAccepted = true → TakenOut name attempt.pending rest →
      Settles attempt name verdict true
        { pending := rest
          succeeded := attempt.succeeded ++ [name]
          faulted := attempt.faulted }
  | faulted {rest : List String} :
      verdict.isAccepted = false → TakenOut name attempt.pending rest →
      Settles attempt name verdict true
        { pending := rest
          succeeded := attempt.succeeded
          faulted := attempt.faulted ++ [name] }

/-- Names only move forward, and behind those that moved before. -/
structure Forward (attempt later : Attempt) : Prop where
  pending : later.pending.Subperm attempt.pending
  succeeded : attempt.succeeded <+: later.succeeded
  faulted : attempt.faulted <+: later.faulted

section

variable {attempt middle later next : Attempt} {name : String} {verdict : Verdict}
  {effective : Bool}

theorem settle_settles (attempt : Attempt) (name : String) (verdict : Verdict) :
    Settles attempt name verdict (attempt.settle? name verdict).isSome
      (attempt.settle name verdict) := by
  by_cases pending : name ∈ attempt.pending
  · rcases settle?_of_mem pending verdict with ⟨rest, taken, settled⟩
    rw [settle, settled, Option.isSome_some, Option.getD_some]
    cases accepts : verdict.isAccepted with
    | true => simpa [acceptedNames, faultedNames, accepts] using .accepted accepts taken
    | false => simpa [acceptedNames, faultedNames, accepts] using .faulted accepts taken
  · have ignored : (attempt.settle? name verdict).isSome = false :=
      Bool.eq_false_iff.mpr (mt isSome_settle?_iff.mp pending)
    rw [ignored, settle_of_not_mem pending]
    exact .ignored pending

theorem Settles.names_perm (settles : Settles attempt name verdict effective next) :
    next.names.Perm attempt.names := by
  have putBack {rest : List String} (taken : TakenOut name attempt.pending rest) :
      (name :: (rest ++ attempt.succeeded ++ attempt.faulted)).Perm attempt.names :=
    (taken.cons_perm.append_right _).append_right _
  cases settles with
  | ignored settled => exact List.Perm.refl _
  | @accepted rest accepts taken =>
      calc rest ++ (attempt.succeeded ++ [name]) ++ attempt.faulted
        _ = rest ++ attempt.succeeded ++ name :: attempt.faulted := by simp
        _ ~ name :: (rest ++ attempt.succeeded ++ attempt.faulted) := List.perm_middle
        _ ~ attempt.names := putBack taken
  | @faulted rest accepts taken =>
      calc rest ++ attempt.succeeded ++ (attempt.faulted ++ [name])
        _ = rest ++ attempt.succeeded ++ attempt.faulted ++ [name] := by simp
        _ ~ name :: (rest ++ attempt.succeeded ++ attempt.faulted) :=
            List.perm_append_singleton _ _
        _ ~ attempt.names := putBack taken

theorem Forward.refl (attempt : Attempt) : Forward attempt attempt where
  pending := List.Subperm.refl _
  succeeded := List.prefix_refl _
  faulted := List.prefix_refl _

theorem Forward.trans (first : Forward attempt middle) (second : Forward middle later) :
    Forward attempt later where
  pending := second.pending.trans first.pending
  succeeded := first.succeeded.trans second.succeeded
  faulted := first.faulted.trans second.faulted

theorem Settles.forward (settles : Settles attempt name verdict effective next) :
    Forward attempt next := by
  have fewer {rest : List String} (taken : TakenOut name attempt.pending rest) :
      rest.Subperm attempt.pending :=
    (List.sublist_cons_self name rest).subperm.trans taken.cons_perm.subperm
  cases settles with
  | ignored settled => exact .refl attempt
  | accepted accepts taken =>
      exact ⟨fewer taken, List.prefix_append _ _, List.prefix_refl _⟩
  | faulted accepts taken =>
      exact ⟨fewer taken, List.prefix_refl _, List.prefix_append _ _⟩

end

/-! ## What a sequence of calls does -/

variable {names : List String} {calls later : List (String × Verdict)}

theorem settleAll_append (attempt : Attempt) (calls later : List (String × Verdict)) :
    attempt.settleAll (calls ++ later) = (attempt.settleAll calls).settleAll later :=
  List.foldl_append

theorem names_settleAll (attempt : Attempt) (calls : List (String × Verdict)) :
    (attempt.settleAll calls).names.Perm attempt.names := by
  induction calls generalizing attempt with
  | nil => exact List.Perm.refl _
  | cons call rest induction =>
      exact (induction (attempt.settle call.1 call.2)).trans
        (settle_settles attempt call.1 call.2).names_perm

theorem forward_settleAll (attempt : Attempt) (calls : List (String × Verdict)) :
    Forward attempt (attempt.settleAll calls) := by
  induction calls generalizing attempt with
  | nil => exact .refl attempt
  | cons call rest induction =>
      exact (settle_settles attempt call.1 call.2).forward.trans
        (induction (attempt.settle call.1 call.2))

theorem names_finish (attempt : Attempt) : attempt.finish.names.Perm attempt.names := by
  rw [Outcome.names, succeededNames_finish, faultedNames_finish, names]
  calc attempt.succeeded ++ (attempt.faulted ++ attempt.pending)
    _ = attempt.succeeded ++ attempt.faulted ++ attempt.pending := by simp
    _ ~ attempt.pending ++ (attempt.succeeded ++ attempt.faulted) := List.perm_append_comm
    _ = attempt.pending ++ attempt.succeeded ++ attempt.faulted := by simp

/-- After any calls the attempt has the names that it started with, as often as then. A
further call moves one pending name of its own, or changes nothing and says so. Further
calls leave the settled names where they are, and so does closing the attempt. -/
theorem settleAll_conserves (names : List String) (calls : List (String × Verdict)) :
    ((start names).settleAll calls).names.Perm names ∧
    (∀ name verdict, Settles ((start names).settleAll calls) name verdict
      (((start names).settleAll calls).settle? name verdict).isSome
      (((start names).settleAll calls).settle name verdict)) ∧
    (∀ later, Forward ((start names).settleAll calls)
      ((start names).settleAll (calls ++ later))) ∧
    ((start names).settleAll calls).finish.names.Perm names := by
  have kept : ((start names).settleAll calls).names.Perm names := by
    simpa [start, Attempt.names] using names_settleAll (start names) calls
  refine ⟨kept, ?_, ?_, (names_finish _).trans kept⟩
  · intro name verdict
    exact settle_settles _ name verdict
  · intro later
    rw [settleAll_append]
    exact forward_settleAll _ later

/-- The last name takes the place of the one that is settled, and a name that is not
pending changes nothing. -/
example : ((start ["a", "b", "c", "a"]).settle "b" .accepted).pending = ["a", "a", "c"] ∧
    (start ["a", "b"]).settle? "c" .accepted = none := by decide

end Attempt

end SignalControl

namespace SignalControl

/-! A faulted batch may be sent again as a whole, at once and only so many
times. Attempts are counted from zero. -/

inductive RetryPolicy
  | single
  | fixed (attempts : UInt32) (positive : 1 ≤ attempts)
deriving DecidableEq

namespace RetryPolicy

private theorem one_le_max_one (count : UInt32) : 1 ≤ max count 1 := by
  simp only [Max.max]
  split
  next => exact UInt32.le_refl 1
  next notBelow => exact UInt32.le_of_lt (UInt32.not_le.mp notBelow)

def attempts (count : UInt32) : RetryPolicy :=
  .fixed (max count 1) (one_le_max_one count)

/-- A configured count of at most one asks for no retry. -/
def ofCount (count : UInt32) : RetryPolicy :=
  if count ≤ 1 then .single else attempts count

def maxAttempts : RetryPolicy → UInt32
  | .single => 1
  | .fixed attempts _ => attempts

theorem one_le_maxAttempts (policy : RetryPolicy) :
    1 ≤ policy.maxAttempts.toNat := by
  cases policy with
  | single => decide
  | fixed attempts positive => exact UInt32.le_iff_toNat_le.mp positive

/-- The next attempt's number, which stops at the largest one. -/
def next (attempt : UInt32) : UInt32 :=
  if attempt = UInt32.ofNat (UInt32.size - 1) then attempt else attempt + 1

def allowsAfter (policy : RetryPolicy) (attempt : UInt32) : Bool :=
  next attempt < policy.maxAttempts

theorem toNat_next_of_lt {attempt : UInt32}
    (below : attempt.toNat + 1 < UInt32.size) :
    (next attempt).toNat = attempt.toNat + 1 := by
  have different : attempt ≠ UInt32.ofNat (UInt32.size - 1) := by
    intro equal
    subst equal
    exact absurd below (by decide)
  rw [next, if_neg different, UInt32.toNat_add]
  exact Nat.mod_eq_of_lt below

theorem allowsAfter_iff {policy : RetryPolicy} {attempt : UInt32} :
    policy.allowsAfter attempt = true ↔
      attempt.toNat + 1 < policy.maxAttempts.toNat := by
  have bound := policy.maxAttempts.toNat_lt_size
  simp only [allowsAfter, decide_eq_true_eq, UInt32.lt_iff_toNat_lt]
  by_cases atLimit : attempt = UInt32.ofNat (UInt32.size - 1)
  · subst atLimit
    rw [next, if_pos rfl]
    have value : (UInt32.ofNat (UInt32.size - 1)).toNat = UInt32.size - 1 := rfl
    omega
  · have different : attempt.toNat ≠ UInt32.size - 1 := by
      intro equal
      exact atLimit (UInt32.toNat_inj.mp equal)
    have attemptBound := attempt.toNat_lt_size
    rw [toNat_next_of_lt (by omega)]

theorem toNat_next_of_allowsAfter {policy : RetryPolicy} {attempt : UInt32}
    (allowed : policy.allowsAfter attempt = true) :
    (next attempt).toNat = attempt.toNat + 1 := by
  have below := allowsAfter_iff.mp allowed
  have bound := policy.maxAttempts.toNat_lt_size
  exact toNat_next_of_lt (by omega)

theorem toNat_lt_of_allowsAfter {policy : RetryPolicy} {attempt : UInt32}
    (allowed : policy.allowsAfter attempt = true) :
    attempt.toNat + 1 < policy.maxAttempts.toNat :=
  allowsAfter_iff.mp allowed

/-- No policy allows attempts without end: what holds of an attempt whenever it holds of
the next one that is allowed holds of every attempt. -/
@[elab_as_elim]
theorem attempt_induction (policy : RetryPolicy) {motive : UInt32 → Prop}
    (attempt : ∀ number,
      (policy.allowsAfter number = true → motive (next number)) → motive number)
    (number : UInt32) : motive number := by
  -- The attempts that are left become fewer.
  induction left : policy.maxAttempts.toNat - number.toNat
    using Nat.strongRecOn generalizing number with
  | _ left induction =>
      apply attempt
      intro allowed
      have advanced := toNat_next_of_allowsAfter allowed
      have below := toNat_lt_of_allowsAfter allowed
      exact induction _ (by omega) (next number) rfl

end RetryPolicy

end SignalControl

namespace SignalControl

/-! A stage is a requested signal phase, from 1 to 8, or 0, which releases the
manual override. -/

structure Stage where
  number : Nat
  inRange : number ≤ 8 := by omega
deriving DecidableEq

namespace Stage

def last : Nat := 8

def reset : Stage := { number := 0 }

def isReset (stage : Stage) : Bool :=
  stage.number == 0

def text (stage : Stage) : String :=
  toString stage.number

structure OutOfRange where
  requested : Int
deriving DecidableEq

def OutOfRange.message (error : OutOfRange) : String :=
  "stage " ++ toString error.requested ++ " is out of range, expected 0..="
    ++ toString last

def ofInt (requested : Int) : Except OutOfRange Stage :=
  if inRange : 0 ≤ requested ∧ requested ≤ 8 then
    .ok { number := requested.toNat, inRange := by omega }
  else .error ⟨requested⟩

theorem eq_of_number_eq {left right : Stage}
    (equal : left.number = right.number) : left = right := by
  cases left
  cases right
  congr

theorem ofInt_eq_ok_iff {requested : Int} {stage : Stage} :
    ofInt requested = .ok stage ↔ requested = stage.number := by
  rcases stage with ⟨number, inRange⟩
  simp only [ofInt]
  split
  next bounds =>
    simp only [Except.ok.injEq, Stage.mk.injEq]
    omega
  next outside =>
    constructor
    · intro impossible
      cases impossible
    · intro equal
      omega

theorem ofInt_eq_error_iff {requested : Int} {error : OutOfRange} :
    ofInt requested = .error error ↔
      ¬ (0 ≤ requested ∧ requested ≤ 8) ∧ error = ⟨requested⟩ := by
  simp only [ofInt]
  split
  next inside => simp [inside]
  next outside =>
    rw [and_iff_right outside, Except.error.injEq]
    exact eq_comm

end Stage

end SignalControl

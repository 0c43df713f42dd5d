namespace SignalControl.Http

/-! A pool of permits bounds how many requests are under way at once. It has at
least one permit and no more than can be counted in 61 bits. -/

def uncountable : Nat := 1 <<< 61

structure PermitPool where
  total : Nat
  positive : 0 < total
  countable : total < uncountable
deriving DecidableEq

structure TooManyPermits where
  requested : Nat
deriving DecidableEq

def PermitPool.ofCount (requested : Nat) : Except TooManyPermits PermitPool :=
  if countable : requested < uncountable then
    .ok {
      total := max requested 1
      positive := by omega
      countable := Nat.max_lt.mpr ⟨countable, by decide⟩ }
  else .error ⟨requested⟩

end SignalControl.Http

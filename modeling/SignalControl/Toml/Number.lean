import SignalControl.Toml.Quoted

namespace SignalControl.Toml

/-! Numbers. Digits may be grouped by single underscores between them. Decimal
integers and fractions have no leading zeros; hexadecimal, octal and binary
integers have no sign. -/

def digitRun (isDigit : Char → Bool) : List Char → Option (List Char × List Char)
  | [] => none
  | first :: rest =>
      if !isDigit first then none
      else
        match rest with
        | '_' :: more =>
            (digitRun isDigit more).map fun read => (first :: read.1, read.2)
        | next :: more =>
            if isDigit next then
              (digitRun isDigit (next :: more)).map fun read =>
                (first :: read.1, read.2)
            else some ([first], next :: more)
        | [] => some ([first], [])

def sign : List Char → Bool × List Char
  | '-' :: rest => (true, rest)
  | '+' :: rest => (false, rest)
  | text => (false, text)

def decimalDigits : List Char → Option (List Char × List Char)
  | '0' :: rest => some (['0'], rest)
  | text => digitRun Char.isDigit text

def signed (negative : Bool) (value : Nat) : Int :=
  if negative then -value else value

def fits (value : Int) : Bool :=
  Int64.minValue.toInt ≤ value && value ≤ Int64.maxValue.toInt

def decimalInteger? : Reader Int := fun text => do
  let (negative, digits) := sign text
  let (digits, rest) ← decimalDigits digits
  let value := signed negative (Text.digitsValue digits)
  if fits value then some (value, rest) else none

def baseInteger? (base : Nat) : Reader Int := fun text => do
  let (digits, rest) ← digitRun (Text.digitIn base) text
  let value := Text.valueIn base digits
  if fits value then some ((value : Int), rest) else none

def integer? : Reader Int
  | '0' :: 'x' :: rest => baseInteger? 16 rest
  | '0' :: 'o' :: rest => baseInteger? 8 rest
  | '0' :: 'b' :: rest => baseInteger? 2 rest
  | text => decimalInteger? text

/-! ## Fractions -/

/-- The smallest number that is nearer to 2 ^ 1024 than to any 64-bit fraction,
and so reads as infinite. -/
def overflowThreshold : Nat := 1 <<< 1024 - 1 <<< 970

def overflows (digits : Nat) (exponent : Int) : Bool :=
  let size := (Nat.toDigits 10 digits).length + exponent
  -- Far from the size of the threshold, the power need not be computed.
  if digits = 0 then false
  else if 310 < size then true
  else if size < 300 then false
  else if 0 ≤ exponent then overflowThreshold ≤ digits * Nat.pow 10 exponent.toNat
  else overflowThreshold * Nat.pow 10 (-exponent).toNat ≤ digits

def fractionalPart? : Reader (List Char)
  | '.' :: rest => digitRun Char.isDigit rest
  | _ => none

def exponentPart? : Reader Int
  | 'e' :: rest => exponent rest
  | 'E' :: rest => exponent rest
  | _ => none
where
  exponent (text : List Char) : Option (Int × List Char) := do
    let (negative, digits) := sign text
    let (digits, rest) ← digitRun Char.isDigit digits
    return (signed negative (Text.digitsValue digits), rest)

def decimalFraction? : Reader Unit := fun text => do
  let (negative, digits) := sign text
  let (whole, rest) ← decimalDigits digits
  let (places, exponent, rest) ←
    match fractionalPart? rest with
    | some (places, rest) =>
        match exponentPart? rest with
        | some (exponent, rest) => some (places, exponent, rest)
        | none => some (places, 0, rest)
    | none =>
        (exponentPart? rest).map fun (exponent, rest) => ([], exponent, rest)
  if !negative && overflows (Text.digitsValue (whole ++ places))
      (exponent - places.length) then none
  else some ((), rest)

def specialFraction? : Reader Unit := fun text =>
  match (sign text).2 with
  | 'i' :: 'n' :: 'f' :: rest => some ((), rest)
  | 'n' :: 'a' :: 'n' :: rest => some ((), rest)
  | _ => none

def fraction? : Reader Unit := fun text =>
  (decimalFraction? text).or (specialFraction? text)

example : decimalInteger? "1_000 ".toList = some (1000, [' ']) := by
  decide +kernel
example : integer? "0xDEAD_beef".toList = some (0xDEADBEEF, []) := by
  decide +kernel
example : decimalInteger? "9223372036854775808".toList = none := by
  decide +kernel
example : decimalFraction? "1e400".toList = none := by
  decide +kernel

end SignalControl.Toml

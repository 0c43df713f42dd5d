import SignalControl.Toml.Number

namespace SignalControl.Toml

/-! Dates and times: a date, a time, or both, and then with or without an offset
from universal time. -/

def fixedDigits? (count : Nat) : Reader Nat := fun text =>
  let digits := text.take count
  if digits.length = count ∧ digits.all Char.isDigit then
    some (Text.digitsValue digits, text.drop count)
  else none

def expect? (character : Char) : List Char → Option (List Char)
  | first :: rest => if first = character then some rest else none
  | [] => none

def isLeapYear (year : Nat) : Bool :=
  year % 4 == 0 && (year % 100 != 0 || year % 400 == 0)

def daysIn (year month : Nat) : Nat :=
  if month = 2 then if isLeapYear year then 29 else 28
  else if [4, 6, 9, 11].contains month then 30
  else 31

def calendarDate? : Reader Day := fun text => do
  let (year, rest) ← fixedDigits? 4 text
  let (month, rest) ← fixedDigits? 2 (← expect? '-' rest)
  let (day, rest) ← fixedDigits? 2 (← expect? '-' rest)
  if 1 ≤ month ∧ month ≤ 12 ∧ 1 ≤ day ∧ day ≤ daysIn year month then
    some ({ year := year, month := month, day := day }, rest)
  else none

def skipSecondParts (text : List Char) : List Char :=
  match text with
  | '.' :: digit :: rest =>
      if digit.isDigit then rest.dropWhile Char.isDigit else text
  | _ => text

def clockUpTo (lastHour : Nat) : Reader Clock := fun text => do
  let (hour, rest) ← fixedDigits? 2 text
  let (minute, rest) ← fixedDigits? 2 (← expect? ':' rest)
  let (second, rest) ← fixedDigits? 2 (← expect? ':' rest)
  if hour ≤ lastHour ∧ minute ≤ 59 ∧ second ≤ 60 then
    some ({ hour := hour, minute := minute, second := second },
      skipSecondParts rest)
  else none

def clockTime? : Reader Clock := clockUpTo 23

def offsetParts? : Reader (Nat × Nat) := fun text => do
  let (hour, rest) ← fixedDigits? 2 text
  let (minute, rest) ← fixedDigits? 2 (← expect? ':' rest)
  return ((hour, minute), rest)

def offsetWhere (accepts : Nat → Nat → Bool) : Reader Int
  | 'Z' :: rest => some (0, rest)
  | 'z' :: rest => some (0, rest)
  | '+' :: rest => signed 1 rest
  | '-' :: rest => signed (-1) rest
  | _ => none
where
  signed (sign : Int) (text : List Char) : Option (Int × List Char) := do
    let ((hour, minute), rest) ← offsetParts? text
    if accepts hour minute then some (sign * (60 * hour + minute), rest) else none

def offset? : Reader Int :=
  offsetWhere fun hour minute => hour ≤ 23 && minute ≤ 59

def isDateDelimiter (character : Char) : Bool :=
  character == 'T' || character == 't' || character == ' '

def afterDay (day : Day) (text : List Char) : Date × List Char :=
  match text with
  | delimiter :: time =>
      if isDateDelimiter delimiter then
        match clockTime? time with
        | some (clock, rest) =>
            match offset? rest with
            | some (offset, rest) =>
                ({ day := day, clock := clock, offset := offset }, rest)
            | none => ({ day := day, clock := clock }, rest)
        | none => ({ day := day }, text)
      else ({ day := day }, text)
  | [] => ({ day := day }, text)

def date? : Reader Date := fun text =>
  match calendarDate? text with
  | some (day, rest) => some (afterDay day rest)
  | none => (clockTime? text).map fun (clock, rest) => ({ clock := clock }, rest)

/-! ## Dates given as texts

Here midnight may also be the end of a day, and any two digits each make an
offset, as long as it is at most a day. -/

def quotedClock? : Reader Clock := clockUpTo 24

def quotedOffset? : Reader Int :=
  offsetWhere fun hour minute => 60 * hour + minute ≤ 24 * 60

def quotedTime? : Reader (Option Clock)
  | [] => some (none, [])
  | first :: rest =>
      if isDateDelimiter first then
        (quotedClock? rest).map fun (clock, rest) => (some clock, rest)
      else some (none, first :: rest)

/-- A whole text as a date. It takes more than a date outside of quotes does:
an offset may follow a day without a time. -/
def Date.ofText? (text : String) : Option Date :=
  let characters := text.toList
  if characters[2]? = some ':' then
    match quotedClock? characters with
    | some (clock, []) => some { clock := clock }
    | _ => none
  else do
    let (day, rest) ← calendarDate? characters
    let (clock, rest) ← quotedTime? rest
    if rest = [] then some { day := day, clock := clock }
    else
      match quotedOffset? rest with
      | some (offset, []) => some { day := day, clock := clock, offset := offset }
      | _ => none

def Date.isPlain (date : Date) : Bool :=
  (date.clock.all fun clock => clock.hour ≤ 23)
    && (date.offset.all fun offset =>
      date.clock.isSome && offset.natAbs < 24 * 60)

example : (date? "1979-05-27T07:32:00.5-07:00".toList).map Prod.snd = some [] := by
  decide
example : date? "1979-02-29".toList = none := by decide
example : Date.ofText? "07:32:00" =
    some { clock := some { hour := 7, minute := 32, second := 0 } } := by decide
example : (Date.ofText? "1979-05-27Z").map Date.isPlain = some false := by decide

end SignalControl.Toml

namespace SignalControl.Toml

/-! The values of a TOML document. Integers have 64 bits. Of fractions only
their well-formedness matters here, so they keep their text. -/

/-! ## Dates -/

structure Day where
  year : Nat
  month : Nat
  day : Nat
deriving DecidableEq

structure Clock where
  hour : Nat
  minute : Nat
  second : Nat
deriving DecidableEq

structure Date where
  day : Option Day := none
  clock : Option Clock := none
  offset : Option Int := none
deriving DecidableEq

/-! ## Values -/

inductive Value
  | text (value : String)
  | integer (value : Int)
  | boolean (value : Bool)
  | fraction (literal : String)
  | date (date : Date)
  | array (items : List Value)
  | table (entries : List (String × Value))

-- No handler derives equality for values, which are nested in lists of values.
mutual
def Value.equals : Value → Value → Bool
  | .text left, .text right => left = right
  | .integer left, .integer right => left = right
  | .boolean left, .boolean right => left = right
  | .fraction left, .fraction right => left = right
  | .date left, .date right => left = right
  | .array left, .array right => itemsEqual left right
  | .table left, .table right => entriesEqual left right
  | _, _ => false

def itemsEqual : List Value → List Value → Bool
  | [], [] => true
  | left :: lefts, right :: rights => left.equals right && itemsEqual lefts rights
  | _, _ => false

def entriesEqual : List (String × Value) → List (String × Value) → Bool
  | [], [] => true
  | (leftKey, left) :: lefts, (rightKey, right) :: rights =>
      leftKey = rightKey && left.equals right && entriesEqual lefts rights
  | _, _ => false
end

mutual
theorem Value.equals_iff : {left right : Value} →
    (left.equals right = true ↔ left = right)
  | .array items, right => by cases right <;> simp [Value.equals, itemsEqual_iff]
  | .table entries, right => by
      cases right <;> simp [Value.equals, entriesEqual_iff]
  | .text _, right | .integer _, right | .boolean _, right | .fraction _, right
  | .date _, right => by cases right <;> simp [Value.equals]

theorem itemsEqual_iff : {lefts rights : List Value} →
    (itemsEqual lefts rights = true ↔ lefts = rights)
  | [], rights => by cases rights <;> simp [itemsEqual]
  | left :: lefts, rights => by
      cases rights <;> simp [itemsEqual, left.equals_iff, itemsEqual_iff]

theorem entriesEqual_iff : {lefts rights : List (String × Value)} →
    (entriesEqual lefts rights = true ↔ lefts = rights)
  | [], rights => by cases rights <;> simp [entriesEqual]
  | (key, left) :: lefts, rights => by
      cases rights <;>
        simp [entriesEqual, left.equals_iff, entriesEqual_iff, Prod.ext_iff, and_assoc]
end

instance : DecidableEq Value := fun _ _ => decidable_of_iff _ Value.equals_iff

abbrev Reader (α : Type) := List Char → Option (α × List Char)

/-! ## Blanks, line ends and comments -/

def isBlank (character : Char) : Bool :=
  character == ' ' || character == '\t'

def skipBlanks (text : List Char) : List Char :=
  text.dropWhile isBlank

def lineEnd? : List Char → Option (List Char)
  | '\n' :: rest => some rest
  | '\r' :: '\n' :: rest => some rest
  | _ => none

def isPlain (character : Char) : Bool :=
  character == '\t' || (0x20 ≤ character.toNat && character.toNat ≠ 0x7F)

def skipComment : List Char → List Char
  | '#' :: rest => rest.dropWhile isPlain
  | text => text

def endOfLine? (text : List Char) : Option (List Char) :=
  match skipComment (skipBlanks text) with
  | [] => some []
  | rest => lineEnd? rest

theorem length_dropWhile_le (keep : Char → Bool) (text : List Char) :
    (text.dropWhile keep).length ≤ text.length :=
  (List.dropWhile_sublist keep).length_le

theorem length_skipComment_le (text : List Char) :
    (skipComment text).length ≤ text.length := by
  unfold skipComment
  split
  next rest =>
    have shorter := length_dropWhile_le isPlain rest
    simp only [List.length_cons]
    omega
  next => exact Nat.le_refl _

theorem length_lt_of_lineEnd? {text rest : List Char}
    (ended : lineEnd? text = some rest) : rest.length < text.length := by
  unfold lineEnd? at ended
  split at ended
  · cases ended
    exact Nat.lt_succ_self _
  · cases ended
    simp only [List.length_cons]
    omega
  · cases ended

def skipLines (text : List Char) : List Char :=
  let visible := skipComment (skipBlanks text)
  match _ended : lineEnd? visible with
  | some rest => skipLines rest
  | none => visible
termination_by text.length
decreasing_by
  have first := length_lt_of_lineEnd? _ended
  have second := length_skipComment_le (skipBlanks text)
  have third : (skipBlanks text).length ≤ text.length :=
    length_dropWhile_le isBlank text
  simp only [visible] at first
  omega

end SignalControl.Toml

import SignalControl.NameTable
import SignalControl.Stage
import SignalControl.Text.Decimal
import SignalControl.Text.Quoted

namespace SignalControl

/-! A profile says which inputs a controller has, which of them select a phase,
and which one engages the manual override. It is accepted from a description
only if every phase input is a known input whose name ends in a phase number
that no other phase input has. -/

structure Credentials where
  name : String
  value : String
deriving DecidableEq

def Credentials.cookie? (credentials : Credentials) : Option String :=
  if credentials.name.isEmpty then none
  else some (credentials.name ++ "=" ++ credentials.value)

inductive ProfileError
  | manualNotInInputs (name : String)
  | stageNotInInputs (name : String)
  | missingPhaseNumber (name : String)
  | phaseOutOfRange (name : String) (phase : Nat)
  | duplicatePhase (earlier later : String)
deriving DecidableEq

def ProfileError.message : ProfileError → String
  | .manualNotInInputs name =>
      "manual override input " ++ Text.quoted name ++ " is not in the input set"
  | .stageNotInInputs name =>
      "stage input " ++ Text.quoted name ++ " is not in the input set"
  | .missingPhaseNumber name =>
      "stage input " ++ Text.quoted name ++ " does not end with a phase number"
  | .phaseOutOfRange name phase =>
      "stage input " ++ Text.quoted name ++ " has phase " ++ toString phase
        ++ ", expected 1..=" ++ toString Stage.last
  | .duplicatePhase earlier later =>
      "stage inputs " ++ Text.quoted earlier ++ " and " ++ Text.quoted later
        ++ " share a phase number"

/-- The phase that a name's trailing digits denote. A number that does not fit
in eight bits is no phase number at all. -/
def phaseNumber (name : String) : Except ProfileError Nat :=
  match Text.numeral? (Text.trailingDigits name.toList) with
  | none => .error (.missingPhaseNumber name)
  | some phase =>
      if 255 < phase then .error (.missingPhaseNumber name)
      else if phase = 0 ∨ Stage.last < phase then
        .error (.phaseOutOfRange name phase)
      else .ok phase

structure ProfileDescription where
  inputs : List String
  stages : List String
  manual : String
  phasePrefix : String
  fieldPrefix : String
  credentials : Credentials
deriving DecidableEq

structure Profile where
  inputs : NameTable Unit
  stageInputs : NameTable Nat
  manual : String
  phasePrefix : String
  fieldPrefix : String
  credentials : Credentials
deriving DecidableEq

namespace Profile

def holder? (placed : NameTable Nat) (phase : Nat) : Option String :=
  (placed.entries.find? fun entry => entry.2 == phase).map Prod.fst

/-- Phase inputs are taken in the order of the description, and the first one
that cannot be placed decides the error. -/
def placeStages (known : NameTable Unit) :
    NameTable Nat → List String → Except ProfileError (NameTable Nat)
  | placed, [] => .ok placed
  | placed, name :: rest =>
      if known.contains name then
        match phaseNumber name with
        | .error error => .error error
        | .ok phase =>
            match holder? placed phase with
            | some earlier => .error (.duplicatePhase earlier name)
            | none => placeStages known (placed.insert name phase) rest
      else .error (.stageNotInInputs name)

def inputSet (names : List String) : NameTable Unit :=
  NameTable.ofList (names.map fun name => (name, ()))

def ofDescription (description : ProfileDescription) :
    Except ProfileError Profile :=
  let known := inputSet description.inputs
  if known.contains description.manual then
    match placeStages known .empty description.stages with
    | .error error => .error error
    | .ok stageInputs => .ok
        { inputs := known
          stageInputs := stageInputs
          manual := description.manual
          phasePrefix := description.phasePrefix
          fieldPrefix := description.fieldPrefix
          credentials := description.credentials }
  else .error (.manualNotInInputs description.manual)

def phaseInput (profile : Profile) (phase : Nat) : String :=
  profile.phasePrefix ++ toString phase

end Profile

end SignalControl

import SignalControl.Command
import SignalControl.Proofs.Search
import SignalControl.Text.Decimal

namespace SignalControl

/-! What a posted command tells. Its two fields give back the row and the mode, and its
name gives back the input and the mode, whatever the prefix and the name of the input
contain. -/

namespace Actuator

variable {name other : String} {token otherToken : Token}

theorem splitAtLast?_display (name : String) (token : Token) :
    Text.splitAtLast? '=' (display name token).toList =
      some (name.toList, token.mode.mark.toList) := by
  refine Text.splitAtLast?_eq_some_iff.mpr ⟨?_, token.mode.separator_not_mem_mark⟩
  rw [display, String.toList_append, String.toList_append, List.append_assoc]
  rfl

theorem display_eq_iff :
    display name token = display other otherToken ↔
      name = other ∧ token.mode = otherToken.mode := by
  constructor
  · intro equal
    have parts := splitAtLast?_display name token
    rw [equal, splitAtLast?_display, Option.some.injEq, Prod.mk.injEq, String.toList_inj,
      String.toList_inj] at parts
    exact ⟨parts.1.symm, (Mode.mark_injective parts.2).symm⟩
  · rintro ⟨rfl, sameMode⟩
    rw [display, display, sameMode]

end Actuator

namespace Payload

/-- The form has the two fields of a command, for a device whose row names start with
the prefix. Behind the prefix stands the row, and the digit is that of the mode. -/
def Denotes (fieldPrefix : String) (fields : List (String × String))
    (index : UInt32) (mode : Actuator.Mode) : Prop :=
  ∃ rowName digits digit,
    fields = [(rowField, rowName), (modeField, digit)] ∧
    fieldPrefix.toList.isPrefixOf? rowName.toList = some digits ∧
    Text.readUInt32? digits = some index ∧
    Actuator.Token.ofText? digit = some (.value mode)

section

variable {fieldPrefix : String} {fields : List (String × String)}
  {index otherIndex : UInt32} {mode otherMode : Actuator.Mode}

theorem Denotes.unique (denotes : Denotes fieldPrefix fields index mode)
    (others : Denotes fieldPrefix fields otherIndex otherMode) :
    index = otherIndex ∧ mode = otherMode := by
  rcases denotes with ⟨rowName, digits, digit, rfl, behind, row, read⟩
  rcases others with ⟨otherName, otherDigits, otherDigit, equal, otherBehind, otherRow,
    otherRead⟩
  cases equal
  rw [behind, Option.some.injEq] at otherBehind
  subst otherBehind
  rw [row, Option.some.injEq] at otherRow
  rw [read, Option.some.injEq, Actuator.Token.value.injEq] at otherRead
  exact ⟨otherRow, otherRead⟩

theorem denotes_build (index : UInt32) (fieldPrefix : String)
    (desired : Actuator.Token) (name : String) :
    Denotes fieldPrefix (build index fieldPrefix desired name).fields index
      desired.mode := by
  refine ⟨_, (toString index.toNat).toList, _, rfl, ?_, Text.readUInt32?_toString index,
    Actuator.Token.ofText?_text _⟩
  rw [List.isPrefixOf?_eq_some_iff_append_eq, String.toList_append]

end

/-- A payload gives back what it was built from, short of the alphabet of the token. The
fields of two payloads with one prefix are the same exactly if row and mode are, and
their names exactly if input and mode are. -/
theorem build_decodes (index : UInt32) (fieldPrefix : String)
    (desired : Actuator.Token) (name : String) :
    Denotes fieldPrefix (build index fieldPrefix desired name).fields index
      desired.mode ∧
    Text.splitAtLast? '=' (build index fieldPrefix desired name).name.toList =
      some (name.toList, desired.mode.mark.toList) ∧
    (∀ mode : Actuator.Mode, mode.mark = desired.mode.mark ↔ mode = desired.mode) ∧
    ∀ otherIndex otherDesired otherName,
      ((build index fieldPrefix desired name).fields =
          (build otherIndex fieldPrefix otherDesired otherName).fields ↔
        index = otherIndex ∧ desired.mode = otherDesired.mode) ∧
      ((build index fieldPrefix desired name).name =
          (build otherIndex fieldPrefix otherDesired otherName).name ↔
        name = otherName ∧ desired.mode = otherDesired.mode) := by
  have denotes := denotes_build index fieldPrefix desired name
  refine ⟨denotes, Actuator.splitAtLast?_display name _, ?_, ?_⟩
  · intro mode
    exact ⟨Actuator.Mode.mark_injective, congrArg Actuator.Mode.mark⟩
  · intro otherIndex otherDesired otherName
    constructor
    · constructor
      · intro sameFields
        rw [sameFields] at denotes
        exact denotes.unique (denotes_build otherIndex fieldPrefix otherDesired otherName)
      · rintro ⟨rfl, sameMode⟩
        simp only [build, Actuator.Token.toProtocol, sameMode]
    · exact Actuator.display_eq_iff

/-- Neither the digits of the prefix nor the separators of the name are in the way. -/
example : build 3 "R1" (.label .on) "P=ВФ" =
    { name := "P=ВФ=ВКЛ", fields := [("par_name", "R13"), ("par_value", "2")] } := by
  decide

end Payload

end SignalControl

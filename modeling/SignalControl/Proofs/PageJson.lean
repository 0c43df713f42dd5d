import Mathlib.Data.List.Forall2
import Mathlib.Data.Option.Defs
import SignalControl.Envelope

namespace SignalControl

/-! Nothing of a record or of a page is lost in its JSON form. The members of an object
are found by name and have no order, so values are compared by what they say. -/

namespace Json

def members : Json → List (String × Json)
  | .object members => members
  | _ => []

/-- Both values say the same: their objects have the same members, in whatever order. -/
inductive Same : Json → Json → Prop
  | null : Same .null .null
  | boolean (value : Bool) : Same (.boolean value) (.boolean value)
  | integer (value : Int) : Same (.integer value) (.integer value)
  | fraction (digits : Int) (places : Nat) :
      Same (.fraction digits places) (.fraction digits places)
  | text (value : String) : Same (.text value) (.text value)
  | array {left right : List Json} (items : List.Forall₂ Same left right) :
      Same (.array left) (.array right)
  | object {left right : List (String × Json)}
      (members : ∀ name, Option.Rel Same (member? left name) (member? right name)) :
      Same (.object left) (.object right)

theorem Same.refl : (value : Json) → Same value value
  | .null => .null
  | .boolean value => .boolean value
  | .integer value => .integer value
  | .fraction digits places => .fraction digits places
  | .text value => .text value
  | .array items => .array (List.forall₂_same.mpr fun item _ => refl item)
  | .object members => .object fun name => by
      cases found : member? members name with
      | none => exact .none
      | some value =>
          have inside : (name, value) ∈ members := by
            rcases List.lookup_eq_some_iff.mp found with ⟨before, after, split, -⟩
            rw [split]
            exact List.mem_append_right before List.mem_cons_self
          exact .some (refl value)
termination_by value => sizeOf value
decreasing_by
  · decreasing_tactic
  · have smaller := List.sizeOf_lt_of_mem inside
    simp only [Prod.mk.sizeOf_spec, object.sizeOf_spec] at smaller ⊢
    omega

section

variable {value : Json} {left right : List (String × Json)}

@[simp] theorem same_integer_iff {number : Int} :
    Same (.integer number) value ↔ value = .integer number := by
  constructor
  · intro same
    cases same
    rfl
  · intro equal
    rw [equal]
    exact .integer number

@[simp] theorem same_text_iff {content : String} :
    Same (.text content) value ↔ value = .text content := by
  constructor
  · intro same
    cases same
    rfl
  · intro equal
    rw [equal]
    exact .text content

theorem same_object_iff :
    Same (.object left) (.object right) ↔
      ∀ name, Option.Rel Same (member? left name) (member? right name) := by
  constructor
  · intro same
    cases same with
    | object members => exact members
  · exact .object

theorem Same.member?_eq {name : String} (same : Same (.object left) (.object right))
    (found : member? left name = some value)
    (plain : ∀ {other}, Same value other → other = value) :
    member? right name = some value := by
  have either := same_object_iff.mp same name
  rw [found] at either
  cases answered : member? right name with
  | none =>
      rw [answered] at either
      cases either
  | some other =>
      rw [answered, Option.rel_some_some] at either
      rw [plain either]

/-! ## Reading -/

theorem text?_eq_some_iff {content : String} :
    value.text? = some content ↔ value = .text content := by
  cases value <;> simp [text?]

theorem natural?_eq_some_iff {number : Nat} :
    value.natural? = some number ↔ value = .integer number := by
  constructor
  · intro read
    unfold natural? at read
    split at read
    next => rw [Option.some.inj read]; rfl
    next => cases read
  · intro given
    rw [given]
    rfl

theorem uint32?_eq_some_iff {number : UInt32} :
    value.uint32? = some number ↔ value = .integer number.toNat := by
  simp only [uint32?, Option.map_eq_some_iff, Option.filter_eq_some_iff,
    natural?_eq_some_iff, decide_eq_true_eq]
  constructor
  · intro ⟨content, ⟨given, small⟩, equal⟩
    rw [given, ← equal, UInt32.toNat_ofNat_of_lt' small]
  · intro given
    exact ⟨number.toNat, ⟨given, number.toNat_lt_size⟩, UInt32.ofNat_toNat⟩

end

theorem rel_map_iff {encode : α → Json}
    (faithful : ∀ left right, Same (encode left) (encode right) ↔ left = right)
    (left right : Option α) :
    Option.Rel Same (left.map encode) (right.map encode) ↔ left = right := by
  cases left with
  | none => cases right <;> simp
  | some left =>
      cases right with
      | none => simp
      | some right => simp [faithful]

/-! A text is no object, wherever one is found. -/

section

variable {content : Option String} {members : List (String × Json)}

theorem not_rel_text_object : ¬ Option.Rel Same (content.map .text) (some (.object members)) := by
  intro either
  cases content with
  | none => cases either
  | some content => cases Option.rel_some_some.mp either

theorem not_rel_object_text : ¬ Option.Rel Same (some (.object members)) (content.map .text) := by
  intro either
  cases content with
  | none => cases either
  | some content => cases Option.rel_some_some.mp either

end

end Json

/-! ## Records -/

theorem InputState.ofJson?_text_iff {text : String} {state : InputState} :
    InputState.ofJson? (.text text) = some state ↔ text = state.text :=
  InputState.ofText?_eq_some_iff

theorem Actuator.Token.ofJson?_eq_some_iff {value : Json} {token : Actuator.Token} :
    Actuator.Token.ofJson? value = some token ↔ value = .text token.text := by
  simp only [Actuator.Token.ofJson?, Option.bind_eq_some_iff, Json.text?_eq_some_iff,
    Actuator.Token.ofText?_eq_some_iff]
  constructor
  · intro ⟨text, given, equal⟩
    rw [given, equal]
  · intro given
    exact ⟨token.text, given, rfl⟩

namespace InputRecord

variable {record : InputRecord}

theorem ofColumns?_eq_some_iff {index number name time actuator : Json} {level : String} :
    ofColumns? index number name (.text level) time actuator = some record ↔
      index = .integer record.index.toNat ∧ number = .integer record.number.toNat ∧
        name = .text record.name ∧ level = record.state.text ∧
        time = .text record.stateTime ∧ actuator = .text record.actuator.text := by
  simp only [ofColumns?, Option.bind_eq_bind, Option.bind_eq_some_iff, Option.pure_def,
    Option.some.injEq, Json.uint32?_eq_some_iff, Json.text?_eq_some_iff,
    InputState.ofJson?_text_iff, Actuator.Token.ofJson?_eq_some_iff]
  constructor
  · intro ⟨index, indexed, number, numbered, name, named, state, level, time, timed, token,
      tokened, equal⟩
    rw [← equal]
    exact ⟨indexed, numbered, named, level, timed, tokened⟩
  · intro ⟨indexed, numbered, named, level, timed, tokened⟩
    exact ⟨record.index, indexed, record.number, numbered, record.name, named, record.state,
      level, record.stateTime, timed, record.actuator, tokened, rfl⟩

/-- An object whose state is a text stands for a record exactly if it has all members of
the JSON form of the record. -/
theorem ofJson?_object_iff {members : List (String × Json)} :
    (ofJson? (.object members) = some record ∧
        ∃ level, Json.member? members "state" = some (.text level)) ↔
      ∀ field ∈ record.toJson.members, Json.member? members field.1 = some field.2 := by
  simp only [toJson, Json.members, List.forall_mem_cons, List.not_mem_nil, ofJson?,
    Option.bind_eq_bind, Option.bind_eq_some_iff]
  constructor
  · intro ⟨⟨index, indexed, number, numbered, name, named, state, levelled, time, timed,
      actuator, tokened, read⟩, level, isText⟩
    rw [levelled] at isText
    cases isText
    rcases ofColumns?_eq_some_iff.mp read with ⟨rfl, rfl, rfl, rfl, rfl, rfl⟩
    exact ⟨indexed, numbered, named, levelled, timed, tokened, by simp⟩
  · intro ⟨indexed, numbered, named, levelled, timed, tokened, _⟩
    refine ⟨⟨_, indexed, _, numbered, _, named, _, levelled, _, timed, _, tokened, ?_⟩, _,
      levelled⟩
    exact ofColumns?_eq_some_iff.mpr ⟨rfl, rfl, rfl, rfl, rfl, rfl⟩

theorem ofJson?_of_same {value : Json} (same : Json.Same record.toJson value) :
    ofJson? value = some record := by
  cases same with
  | @object _ members each =>
      have same := Json.same_object_iff.mpr each
      refine (ofJson?_object_iff.mpr ?_).1
      simp only [toJson, Json.members, List.forall_mem_cons]
      exact ⟨same.member?_eq rfl Json.same_integer_iff.mp,
        same.member?_eq rfl Json.same_integer_iff.mp,
        same.member?_eq rfl Json.same_text_iff.mp,
        same.member?_eq rfl Json.same_text_iff.mp,
        same.member?_eq rfl Json.same_text_iff.mp,
        same.member?_eq rfl Json.same_text_iff.mp,
        by simp⟩

theorem ofJson?_toJson (record : InputRecord) : ofJson? record.toJson = some record :=
  ofJson?_of_same (.refl record.toJson)

theorem same_toJson_iff (left right : InputRecord) :
    Json.Same left.toJson right.toJson ↔ left = right := by
  constructor
  · intro same
    exact Option.some.inj ((ofJson?_of_same same).symm.trans right.ofJson?_toJson)
  · intro equal
    rw [equal]
    exact .refl right.toJson

end InputRecord

/-! ## Pages -/

theorem NameTable.member?_toJson (encode : α → Json) (table : NameTable α) (name : String) :
    Json.member? (table.toJson encode).members name = (table.get? name).map encode :=
  table.get?_map encode name

theorem NameTable.same_toJson_iff {encode : α → Json}
    (faithful : ∀ left right, Json.Same (encode left) (encode right) ↔ left = right)
    (left right : NameTable α) :
    Json.Same (left.toJson encode) (right.toJson encode) ↔ left = right := by
  constructor
  · intro same
    apply ext_get?
    intro name
    have either := Json.same_object_iff.mp same name
    exact (Json.rel_map_iff faithful _ _).mp
      (left.member?_toJson encode name ▸ right.member?_toJson encode name ▸ either)
  · intro equal
    rw [equal]
    exact .refl _

namespace Page

theorem same_main_iff (left right : MainStatus) :
    Json.Same (Page.main left).toJson (Page.main right).toJson ↔ left = right := by
  apply NameTable.same_toJson_iff
  intro left right
  rw [Json.same_text_iff, Json.text.injEq]
  exact eq_comm

theorem same_inputs_iff (left right : Inputs) :
    Json.Same (Page.inputs left).toJson (Page.inputs right).toJson ↔ left = right := by
  constructor
  · intro same
    have inner := Option.rel_some_some.mp (Json.same_object_iff.mp same "inputs")
    exact (NameTable.same_toJson_iff InputRecord.same_toJson_iff left right).mp inner
  · intro equal
    rw [equal]
    exact .refl _

/-- A main page can have a field with the name of the one member of an inputs page, but
what it has there is a text. -/
theorem member?_main_inputs (status : MainStatus) :
    Json.member? (Page.main status).toJson.members "inputs" =
      (status.get? "inputs").map .text :=
  status.member?_toJson .text "inputs"

theorem same_toJson_iff (left right : Page) :
    Json.Same left.toJson right.toJson ↔ left = right := by
  cases left with
  | main status =>
      cases right with
      | main other => rw [same_main_iff, Page.main.injEq]
      | inputs records =>
          constructor
          · intro same
            have either := Json.same_object_iff.mp same "inputs"
            exact absurd (member?_main_inputs status ▸ either) Json.not_rel_text_object
          · intro impossible
            cases impossible
  | inputs records =>
      cases right with
      | main status =>
          constructor
          · intro same
            have either := Json.same_object_iff.mp same "inputs"
            exact absurd (member?_main_inputs status ▸ either) Json.not_rel_object_text
          · intro impossible
            cases impossible
      | inputs others => rw [same_inputs_iff, Page.inputs.injEq]

end Page

theorem Envelope.same_data_iff (left right : Envelope) :
    Option.Rel Json.Same left.toRecord.data right.toRecord.data ↔
      left.processed = right.processed :=
  Json.rel_map_iff Page.same_toJson_iff left.processed right.processed

/-- What JSON keeps of pages. The JSON form of a record stands for that record alone,
its actuator in the alphabet that it was given in, whatever the order of the members. An
object whose state is a text stands for a record exactly if the six columns are members of
it with the values that the JSON form of the record has; what other members it has does not
matter. And pages, as well as the data of results, with the same JSON form are the same,
although nothing in it names the kind of the page. -/
theorem toJson_faithful :
    (∀ record : InputRecord, InputRecord.ofJson? record.toJson = some record) ∧
      (∀ (record : InputRecord) (value : Json), Json.Same record.toJson value →
        InputRecord.ofJson? value = some record) ∧
      (∀ (members : List (String × Json)) (record : InputRecord),
        (InputRecord.ofJson? (.object members) = some record ∧
            ∃ level, Json.member? members "state" = some (.text level)) ↔
          ∃ columns, record.toJson = .object columns ∧
            columns.map Prod.fst =
              ["index", "number", "name", "state", "state_time", "actuator"] ∧
            ∀ column ∈ columns, Json.member? members column.1 = some column.2) ∧
      (∀ left right : Page, Json.Same left.toJson right.toJson ↔ left = right) ∧
      ∀ left right : Envelope,
        Option.Rel Json.Same left.toRecord.data right.toRecord.data ↔
          left.processed = right.processed := by
  refine ⟨InputRecord.ofJson?_toJson, fun _ _ => InputRecord.ofJson?_of_same, ?_,
    Page.same_toJson_iff, Envelope.same_data_iff⟩
  intro members record
  rw [InputRecord.ofJson?_object_iff]
  constructor
  · intro each
    exact ⟨record.toJson.members, rfl, rfl, each⟩
  · intro ⟨columns, form, _, each⟩
    rw [form]
    exact each

end SignalControl

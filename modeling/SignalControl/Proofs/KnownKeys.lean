import SignalControl.Config.Client
import SignalControl.Proofs.DocumentIntegers

namespace SignalControl.Config

/-! The keys that a section may have. Each belongs to a group, has a type and a range, and
sets one field of the client, which keeps its default if the key or its whole group is
missing. A section makes a client by its known keys alone. -/

/-! ## Known keys -/

inductive Content
  | text
  | texts
  | naturalBelow (limit : Nat)

def Content.Accepts : Content → Toml.Value → Prop
  | .text, value => ∃ content, value = .text content
  | .texts, value => ∃ contents : List String, value = .array (contents.map .text)
  | .naturalBelow limit, value => ∃ number : Nat, value = .integer number ∧ number < limit

/-- A key in a group of the section. The field that it sets is told by the value that
stands for it, where an optional field may have none. -/
structure Key where
  group : String
  name : String
  content : Content
  default : Option Toml.Value
  field : Client → Option Toml.Value

def Key.of {α : Type} (content : Content) (shown : α → Option Toml.Value)
    (group name : String) (default : α) (field : Client → α) : Key where
  group := group
  name := name
  content := content
  default := shown default
  field := fun client => shown (field client)

def shownText (content : String) : Option Toml.Value :=
  some (.text content)

def shownOptionalText (content : Option String) : Option Toml.Value :=
  content.map .text

def shownTexts (contents : List String) : Option Toml.Value :=
  some (.array (contents.map .text))

def shownNatural (number : Nat) : Option Toml.Value :=
  some (.integer number)

def shownCount (number : UInt32) : Option Toml.Value :=
  some (.integer number.toNat)

namespace Key

def text : String → String → String → (Client → String) → Key :=
  .of .text shownText

def optionalText (group name : String) : (Client → Option String) → Key :=
  .of .text shownOptionalText group name none

def texts (group name : String) : (Client → List String) → Key :=
  .of .texts shownTexts group name []

def natural : String → String → Nat → (Client → Nat) → Key :=
  -- An integer of a document has a sign, which leaves it 63 bits.
  .of (.naturalBelow (Nat.pow 2 63)) shownNatural

def count : String → String → UInt32 → (Client → UInt32) → Key :=
  .of (.naturalBelow (Nat.pow 2 32)) shownCount

end Key

def knownKeys : List Key := [
  .optionalText "general" "log_level" fun client => client.general.logLevel,
  .optionalText "device" "host" fun client => client.device.host,
  .optionalText "device" "host_id" fun client => client.device.hostId,
  .texts "inputs" "all" fun client => client.inputs.all,
  .texts "inputs" "stages" fun client => client.inputs.stages,
  .text "inputs" "manual" "" fun client => client.inputs.manual,
  .text "inputs" "phase_prefix" "" fun client => client.inputs.phasePrefix,
  .text "inputs" "field_prefix" "" fun client => client.inputs.fieldPrefix,
  .text "credentials" "cookie_name" "" fun client => client.credentials.name,
  .text "credentials" "cookie_value" "" fun client => client.credentials.value,
  .natural "transport" "max_in_flight" 6 fun client => client.transport.maxInFlight,
  .natural "transport" "get_connect_timeout_ms" 400
    fun client => client.transport.getConnectTimeout,
  .natural "transport" "post_connect_timeout_ms" 1000
    fun client => client.transport.postConnectTimeout,
  .natural "transport" "request_deadline_ms" 30000
    fun client => client.transport.requestDeadline,
  .count "transport" "batch_attempts" 1 fun client => client.transport.batchAttempts,
  .text "routes" "main_page" "/hvi?file=m001a.hvi&pos1=0&pos2=-1"
    fun client => client.routes.mainPage,
  .text "routes" "inputs_page" "/hvi?file=cell1020.hvi&pos1=0&pos2=-1"
    fun client => client.routes.inputsPage,
  .text "routes" "set_inputs" "/hvi?file=data.hvi&page=cell1020.hvi"
    fun client => client.routes.setInputs]

def groupNames : List String :=
  ["general", "device", "inputs", "credentials", "transport", "routes"]

def GroupsAreTables (entries : List (String × Toml.Value)) : Prop :=
  ∀ group ∈ groupNames, ∀ value, entries.lookup group = some value →
    ∃ members, value = .table members

def groupEntries (entries : List (String × Toml.Value)) (group : String) :
    List (String × Toml.Value) :=
  match entries.lookup group with
  | some (.table members) => members
  | _ => []

namespace Key

def value? (key : Key) (entries : List (String × Toml.Value)) : Option Toml.Value :=
  (groupEntries entries key.group).lookup key.name

def IsAccepted (key : Key) (entries : List (String × Toml.Value)) : Prop :=
  ∀ value, key.value? entries = some value → key.content.Accepts value

def Sets (key : Key) (entries : List (String × Toml.Value)) (client : Client) : Prop :=
  key.field client = (key.value? entries).or key.default

def Holds (key : Key) (entries : List (String × Toml.Value)) (client : Client) : Prop :=
  key.IsAccepted entries ∧ key.Sets entries client

end Key

/-! ## Plain settings -/

theorem lookup_ofTomlEntries (entries : List (String × Toml.Value)) (name : String) :
    (ofTomlEntries entries).lookup name = (entries.lookup name).map Setting.ofToml := by
  induction entries with
  | nil => rfl
  | cons entry rest induction =>
      rw [ofTomlEntries, List.lookup_cons, List.lookup_cons, induction]
      split <;> rfl

theorem text?_eq_some_iff {value : Toml.Value} {content : String} :
    (Setting.ofToml value).text? = some content ↔ value = .text content := by
  cases value <;> simp [Setting.ofToml, Setting.text?]

theorem mapM_text?_eq_some_iff {items : List Toml.Value} {contents : List String} :
    (ofTomlItems items).mapM Setting.text? = some contents ↔
      items = contents.map .text := by
  induction items generalizing contents with
  | nil => simp [ofTomlItems, eq_comm]
  | cons item rest induction =>
      cases contents <;>
        simp [ofTomlItems, Option.bind_eq_some_iff, induction, text?_eq_some_iff]

theorem naturalBelow?_eq_some_iff {limit number : Nat} {value : Toml.Value} :
    (Setting.ofToml value).naturalBelow? limit = some number ↔
      value = .integer number ∧ number < limit := by
  cases value with
  | integer value =>
      cases value with
      | ofNat value =>
          have same : Toml.Value.integer (.ofNat value) = .integer number ↔
              value = number := by
            rw [Toml.Value.integer.injEq]
            exact Int.ofNat_inj
          rw [same, Setting.ofToml, Setting.naturalBelow?]
          grind
      | negSucc value => simp [Setting.ofToml, Setting.naturalBelow?]
  | _ => simp [Setting.ofToml, Setting.naturalBelow?]

theorem uint64?_eq_some_iff {value : Toml.Value} {number : Nat} (bounded : value.Bounded) :
    (Setting.ofToml value).uint64? = some number ↔
      value = .integer number ∧ number < Nat.pow 2 63 := by
  rw [Setting.uint64?, naturalBelow?_eq_some_iff]
  constructor
  · rintro ⟨rfl, -⟩
    have fits : (number : Int) ≤ Int64.maxValue.toInt := by
      simp only [Toml.Value.Bounded, Toml.fits, Bool.and_eq_true, decide_eq_true_eq] at bounded
      exact bounded.2
    have largest : Int64.maxValue.toInt = 9223372036854775807 := rfl
    have limit : Nat.pow 2 63 = 9223372036854775808 := rfl
    exact ⟨rfl, by omega⟩
  · rintro ⟨rfl, small⟩
    have limit : Nat.pow 2 63 ≤ UInt64.size := by decide
    exact ⟨rfl, Nat.lt_of_lt_of_le small limit⟩

theorem uint32?_eq_some_iff {value : Toml.Value} {number : UInt32} :
    (Setting.ofToml value).uint32? = some number ↔ value = .integer number.toNat := by
  simp only [Setting.uint32?, Option.map_eq_some_iff, naturalBelow?_eq_some_iff]
  constructor
  · rintro ⟨content, ⟨rfl, small⟩, rfl⟩
    rw [UInt32.toNat_ofNat_of_lt' small]
  · rintro rfl
    exact ⟨number.toNat, ⟨rfl, number.toNat_lt_size⟩, UInt32.ofNat_toNat⟩

theorem optionalText?_eq_some_iff {value : Toml.Value} {content : Option String} :
    (Setting.ofToml value).optionalText? = some content ↔
      content.map .text = some value := by
  cases value <;> cases content <;> simp [Setting.ofToml, Setting.optionalText?, eq_comm]

theorem texts?_eq_some_iff {value : Toml.Value} {contents : List String} :
    (Setting.ofToml value).texts? = some contents ↔
      value = .array (contents.map .text) := by
  cases value <;> simp [Setting.ofToml, Setting.texts?, mapM_text?_eq_some_iff]

/-! ## Fields -/

structure Decodes {α : Type} (content : Content) (decode : Setting → Option α)
    (shown : α → Option Toml.Value) : Prop where
  injective : Function.Injective shown
  decode_iff : ∀ {value : Toml.Value} {result : α}, value.Bounded →
    (decode (.ofToml value) = some result ↔
      content.Accepts value ∧ shown result = some value)
  total : ∀ {value : Toml.Value}, content.Accepts value →
    ∃ result, shown result = some value

theorem text_injective : Function.Injective Toml.Value.text := by
  intro content other same
  cases same
  rfl

theorem text?_decodes : Decodes .text Setting.text? shownText where
  injective := by
    intro content other same
    exact text_injective (Option.some.inj same)
  decode_iff := by
    intro value result _
    rw [text?_eq_some_iff]
    constructor
    · rintro rfl
      exact ⟨⟨result, rfl⟩, rfl⟩
    · rintro ⟨-, shown⟩
      exact (Option.some.inj shown).symm
  total := by
    rintro _ ⟨content, rfl⟩
    exact ⟨content, rfl⟩

theorem optionalText?_decodes :
    Decodes .text Setting.optionalText? shownOptionalText where
  injective := Option.map_injective text_injective
  decode_iff := by
    intro value result _
    rw [optionalText?_eq_some_iff]
    constructor
    · intro shown
      rcases Option.map_eq_some_iff.mp shown with ⟨content, -, rfl⟩
      exact ⟨⟨content, rfl⟩, shown⟩
    · rintro ⟨-, shown⟩
      exact shown
  total := by
    rintro _ ⟨content, rfl⟩
    exact ⟨some content, rfl⟩

theorem texts?_decodes : Decodes .texts Setting.texts? shownTexts where
  injective := by
    intro contents other same
    exact (List.map_inj_right text_injective).mp
      (Toml.Value.array.inj (Option.some.inj same))
  decode_iff := by
    intro value result _
    rw [texts?_eq_some_iff]
    constructor
    · rintro rfl
      exact ⟨⟨result, rfl⟩, rfl⟩
    · rintro ⟨-, shown⟩
      exact (Option.some.inj shown).symm
  total := by
    rintro _ ⟨contents, rfl⟩
    exact ⟨contents, rfl⟩

theorem uint64?_decodes :
    Decodes (.naturalBelow (Nat.pow 2 63)) Setting.uint64? shownNatural where
  injective := by
    intro number other same
    exact Int.ofNat.inj (Toml.Value.integer.inj (Option.some.inj same))
  decode_iff := by
    intro value result bounded
    rw [uint64?_eq_some_iff bounded]
    constructor
    · rintro ⟨rfl, small⟩
      exact ⟨⟨result, rfl, small⟩, rfl⟩
    · rintro ⟨⟨number, rfl, small⟩, shown⟩
      cases shown
      exact ⟨rfl, small⟩
  total := by
    rintro _ ⟨number, rfl, -⟩
    exact ⟨number, rfl⟩

theorem uint32?_decodes :
    Decodes (.naturalBelow (Nat.pow 2 32)) Setting.uint32? shownCount where
  injective := by
    intro number other same
    exact UInt32.toNat_inj.mp
      (Int.ofNat.inj (Toml.Value.integer.inj (Option.some.inj same)))
  decode_iff := by
    intro value result _
    rw [uint32?_eq_some_iff]
    constructor
    · rintro rfl
      exact ⟨⟨result.toNat, rfl, result.toNat_lt_size⟩, rfl⟩
    · rintro ⟨-, shown⟩
      exact (Option.some.inj shown).symm
  total := by
    rintro _ ⟨number, rfl, small⟩
    refine ⟨UInt32.ofNat number, ?_⟩
    rw [shownCount, UInt32.toNat_ofNat_of_lt' small]

section

variable {α : Type} {content : Content} {decode : Setting → Option α}
  {shown : α → Option Toml.Value} {entries : List (String × Toml.Value)}
  {position : Nat} {name : String} {default result : α}

theorem Decodes.field_eq_some_iff (decodes : Decodes content decode shown)
    (bounded : ∀ entry ∈ entries, entry.2.Bounded) :
    (Group.named (ofTomlEntries entries)).field position name decode default =
        some result ↔
      (∀ value, entries.lookup name = some value → content.Accepts value) ∧
        shown result = (entries.lookup name).or (shown default) := by
  rw [Group.field, Group.setting?, lookup_ofTomlEntries]
  cases found : entries.lookup name with
  | none => simp [decodes.injective.eq_iff, eq_comm]
  | some value =>
      rcases List.lookup_eq_some_iff.mp found with ⟨before, after, split, -⟩
      have within : value.Bounded := bounded (name, value) (by simp [split])
      simp [decodes.decode_iff within]

theorem groupEntries_bounded (bounded : ∀ entry ∈ entries, entry.2.Bounded)
    (group : String) :
    ∀ entry ∈ groupEntries entries group, entry.2.Bounded := by
  rw [groupEntries]
  split
  case h_1 members found =>
    rcases List.lookup_eq_some_iff.mp found with ⟨before, after, split, -⟩
    exact Toml.Value.bounded_table.mp (bounded (group, .table members) (by simp [split]))
  case h_2 => simp

def ReadAs (content : Content) (shown : α → Option Toml.Value)
    (entries : List (String × Toml.Value)) (group name : String) (default result : α) :
    Prop :=
  (∀ value, (groupEntries entries group).lookup name = some value → content.Accepts value) ∧
    shown result = ((groupEntries entries group).lookup name).or (shown default)

theorem Decodes.field_eq_some_iff_readAs {group : String}
    (decodes : Decodes content decode shown)
    (bounded : ∀ entry ∈ entries, entry.2.Bounded) :
    (Group.named (ofTomlEntries (groupEntries entries group))).field position name decode
        default = some result ↔
      ReadAs content shown entries group name default result :=
  decodes.field_eq_some_iff (groupEntries_bounded bounded group)

theorem Decodes.exists_readAs {group : String} (decodes : Decodes content decode shown)
    (default : α)
    (accepted : ∀ value, (groupEntries entries group).lookup name = some value →
      content.Accepts value) :
    ∃ result, ReadAs content shown entries group name default result := by
  cases found : (groupEntries entries group).lookup name with
  | none => exact ⟨default, accepted, by rw [found, Option.none_or]⟩
  | some value =>
      rcases decodes.total (accepted value found) with ⟨result, isShown⟩
      exact ⟨result, accepted, by rw [found, Option.some_or, isShown]⟩

theorem Key.of_holds_iff {group : String} {field : Client → α} {client : Client} :
    (Key.of content shown group name default field).Holds entries client ↔
      ReadAs content shown entries group name default (field client) :=
  Iff.rfl

theorem field_groupEntries (decode : Setting → Option α) (default : α)
    (empty : decode (.group []) = some default)
    (table : ∀ value, entries.lookup name = some value →
      ∃ members, value = .table members) :
    (Group.named (ofTomlEntries entries)).field position name decode default =
      decode (.group (ofTomlEntries (groupEntries entries name))) := by
  rw [Group.field, Group.setting?, lookup_ofTomlEntries, groupEntries]
  cases found : entries.lookup name with
  | none => exact empty.symm
  | some value =>
      rcases table value found with ⟨members, rfl⟩
      simp [Setting.ofToml]

end

/-! ## Groups -/

section

variable {surplus : Surplus} {members : List (String × Setting)}

theorem General.ofSetting?_eq_some_iff {general : General} :
    General.ofSetting? surplus (.group members) = some general ↔
      (Group.named members).field 0 "log_level" Setting.optionalText? none =
        some general.logLevel := by
  cases general
  simp [General.ofSetting?, Setting.group?, Option.bind_eq_some_iff]

theorem Device.ofSetting?_eq_some_iff {device : Device} :
    Device.ofSetting? surplus (.group members) = some device ↔
      (Group.named members).field 0 "host" Setting.optionalText? none =
          some device.host ∧
        (Group.named members).field 1 "host_id" Setting.optionalText? none =
          some device.hostId := by
  cases device
  simp only [Device.ofSetting?, Setting.group?, Option.bind_eq_bind, Option.bind_some,
    Option.bind_eq_some_iff, Option.pure_def, Option.some.injEq, mk.injEq]
  grind

theorem Inputs.ofSetting?_eq_some_iff {inputs : Inputs} :
    Inputs.ofSetting? surplus (.group members) = some inputs ↔
      (Group.named members).field 0 "all" Setting.texts? [] = some inputs.all ∧
        (Group.named members).field 1 "stages" Setting.texts? [] = some inputs.stages ∧
        (Group.named members).field 2 "manual" Setting.text? "" = some inputs.manual ∧
        (Group.named members).field 3 "phase_prefix" Setting.text? "" =
          some inputs.phasePrefix ∧
        (Group.named members).field 4 "field_prefix" Setting.text? "" =
          some inputs.fieldPrefix := by
  cases inputs
  simp only [Inputs.ofSetting?, Setting.group?, Option.bind_eq_bind, Option.bind_some,
    Option.bind_eq_some_iff, Option.pure_def, Option.some.injEq, mk.injEq]
  grind

theorem Cookie.ofSetting?_eq_some_iff {cookie : Cookie} :
    Cookie.ofSetting? surplus (.group members) = some cookie ↔
      (Group.named members).field 0 "cookie_name" Setting.text? "" = some cookie.name ∧
        (Group.named members).field 1 "cookie_value" Setting.text? "" =
          some cookie.value := by
  cases cookie
  simp only [Cookie.ofSetting?, Setting.group?, Option.bind_eq_bind, Option.bind_some,
    Option.bind_eq_some_iff, Option.pure_def, Option.some.injEq, mk.injEq]
  grind

theorem Transport.ofSetting?_eq_some_iff {transport : Transport} :
    Transport.ofSetting? surplus (.group members) = some transport ↔
      (Group.named members).field 0 "max_in_flight" Setting.uint64? 6 =
          some transport.maxInFlight ∧
        (Group.named members).field 1 "get_connect_timeout_ms" Setting.uint64? 400 =
          some transport.getConnectTimeout ∧
        (Group.named members).field 2 "post_connect_timeout_ms" Setting.uint64? 1000 =
          some transport.postConnectTimeout ∧
        (Group.named members).field 3 "request_deadline_ms" Setting.uint64? 30000 =
          some transport.requestDeadline ∧
        (Group.named members).field 4 "batch_attempts" Setting.uint32? 1 =
          some transport.batchAttempts := by
  cases transport
  simp only [Transport.ofSetting?, Setting.group?, Option.bind_eq_bind, Option.bind_some,
    Option.bind_eq_some_iff, Option.pure_def, Option.some.injEq, mk.injEq]
  grind

theorem routesOfSetting?_eq_some_iff {routes : Routes} :
    routesOfSetting? surplus (.group members) = some routes ↔
      (Group.named members).field 0 "main_page" Setting.text?
          "/hvi?file=m001a.hvi&pos1=0&pos2=-1" = some routes.mainPage ∧
        (Group.named members).field 1 "inputs_page" Setting.text?
          "/hvi?file=cell1020.hvi&pos1=0&pos2=-1" = some routes.inputsPage ∧
        (Group.named members).field 2 "set_inputs" Setting.text?
          "/hvi?file=data.hvi&page=cell1020.hvi" = some routes.setInputs := by
  cases routes
  simp only [routesOfSetting?, Setting.group?, Option.bind_eq_bind, Option.bind_some,
    Option.bind_eq_some_iff, Option.pure_def, Option.some.injEq, Routes.mk.injEq]
  grind

theorem Client.ofSetting?_eq_some_iff {client : Client} :
    Client.ofSetting? surplus (.group members) = some client ↔
      (Group.named members).field 0 "general" (General.ofSetting? surplus) {} =
          some client.general ∧
        (Group.named members).field 1 "device" (Device.ofSetting? surplus) {} =
          some client.device ∧
        (Group.named members).field 2 "inputs" (Inputs.ofSetting? surplus) {} =
          some client.inputs ∧
        (Group.named members).field 3 "credentials" (Cookie.ofSetting? surplus) {} =
          some client.credentials ∧
        (Group.named members).field 4 "transport" (Transport.ofSetting? surplus) {} =
          some client.transport ∧
        (Group.named members).field 5 "routes" (routesOfSetting? surplus) {} =
          some client.routes := by
  cases client
  simp only [Client.ofSetting?, Setting.group?, Option.bind_eq_bind, Option.bind_some,
    Option.bind_eq_some_iff, Option.pure_def, Option.some.injEq, mk.injEq]
  grind

end

/-! ## Sections -/

section

variable {entries : List (String × Toml.Value)} {client : Client}

theorem Client.ofSetting?_eq_some_iff_holds (bounded : ∀ entry ∈ entries, entry.2.Bounded)
    (tables : GroupsAreTables entries) :
    Client.ofSetting? .ignored (.ofToml (.table entries)) = some client ↔
      ∀ known ∈ knownKeys, known.Holds entries client := by
  simp only [GroupsAreTables, groupNames, List.forall_mem_cons, List.not_mem_nil,
    false_implies, implies_true, and_true] at tables
  rcases tables with ⟨general, device, inputs, credentials, transport, routes⟩
  rw [Setting.ofToml, Client.ofSetting?_eq_some_iff,
    field_groupEntries (General.ofSetting? .ignored) {} rfl general,
    field_groupEntries (Device.ofSetting? .ignored) {} rfl device,
    field_groupEntries (Inputs.ofSetting? .ignored) {} rfl inputs,
    field_groupEntries (Cookie.ofSetting? .ignored) {} rfl credentials,
    field_groupEntries (Transport.ofSetting? .ignored) {} rfl transport,
    field_groupEntries (routesOfSetting? .ignored) {} rfl routes,
    General.ofSetting?_eq_some_iff, Device.ofSetting?_eq_some_iff,
    Inputs.ofSetting?_eq_some_iff, Cookie.ofSetting?_eq_some_iff,
    Transport.ofSetting?_eq_some_iff, routesOfSetting?_eq_some_iff]
  simp only [optionalText?_decodes.field_eq_some_iff_readAs bounded,
    text?_decodes.field_eq_some_iff_readAs bounded,
    texts?_decodes.field_eq_some_iff_readAs bounded,
    uint64?_decodes.field_eq_some_iff_readAs bounded,
    uint32?_decodes.field_eq_some_iff_readAs bounded]
  simp [knownKeys, Key.text, Key.optionalText, Key.texts, Key.natural, Key.count,
    Key.of_holds_iff, and_assoc]

theorem exists_client (accepted : ∀ known ∈ knownKeys, known.IsAccepted entries) :
    ∃ client, ∀ known ∈ knownKeys, known.Holds entries client := by
  simp only [knownKeys, List.forall_mem_cons] at accepted
  rcases accepted with ⟨logLevel, host, hostId, all, stages, manual, phasePrefix,
    fieldPrefix, name, value, maxInFlight, getConnectTimeout, postConnectTimeout,
    requestDeadline, batchAttempts, mainPage, inputsPage, setInputs, -⟩
  rcases optionalText?_decodes.exists_readAs none logLevel with ⟨logLevel, logLevelRead⟩
  rcases optionalText?_decodes.exists_readAs none host with ⟨host, hostRead⟩
  rcases optionalText?_decodes.exists_readAs none hostId with ⟨hostId, hostIdRead⟩
  rcases texts?_decodes.exists_readAs [] all with ⟨all, allRead⟩
  rcases texts?_decodes.exists_readAs [] stages with ⟨stages, stagesRead⟩
  rcases text?_decodes.exists_readAs "" manual with ⟨manual, manualRead⟩
  rcases text?_decodes.exists_readAs "" phasePrefix with ⟨phasePrefix, phasePrefixRead⟩
  rcases text?_decodes.exists_readAs "" fieldPrefix with ⟨fieldPrefix, fieldPrefixRead⟩
  rcases text?_decodes.exists_readAs "" name with ⟨name, nameRead⟩
  rcases text?_decodes.exists_readAs "" value with ⟨value, valueRead⟩
  rcases uint64?_decodes.exists_readAs 6 maxInFlight with ⟨maxInFlight, maxInFlightRead⟩
  rcases uint64?_decodes.exists_readAs 400 getConnectTimeout with
    ⟨getConnectTimeout, getConnectTimeoutRead⟩
  rcases uint64?_decodes.exists_readAs 1000 postConnectTimeout with
    ⟨postConnectTimeout, postConnectTimeoutRead⟩
  rcases uint64?_decodes.exists_readAs 30000 requestDeadline with
    ⟨requestDeadline, requestDeadlineRead⟩
  rcases uint32?_decodes.exists_readAs 1 batchAttempts with
    ⟨batchAttempts, batchAttemptsRead⟩
  rcases text?_decodes.exists_readAs ({} : Routes).mainPage mainPage with
    ⟨mainPage, mainPageRead⟩
  rcases text?_decodes.exists_readAs ({} : Routes).inputsPage inputsPage with
    ⟨inputsPage, inputsPageRead⟩
  rcases text?_decodes.exists_readAs ({} : Routes).setInputs setInputs with
    ⟨setInputs, setInputsRead⟩
  refine ⟨⟨⟨logLevel⟩, ⟨host, hostId⟩, ⟨all, stages, manual, phasePrefix, fieldPrefix⟩,
    ⟨name, value⟩, ⟨maxInFlight, getConnectTimeout, postConnectTimeout, requestDeadline,
      batchAttempts⟩, ⟨mainPage, inputsPage, setInputs⟩⟩, ?_⟩
  simp only [knownKeys, List.forall_mem_cons]
  exact ⟨logLevelRead, hostRead, hostIdRead, allRead, stagesRead, manualRead,
    phasePrefixRead, fieldPrefixRead, nameRead, valueRead, maxInFlightRead,
    getConnectTimeoutRead, postConnectTimeoutRead, requestDeadlineRead, batchAttemptsRead,
    mainPageRead, inputsPageRead, setInputsRead, by simp⟩

end

end SignalControl.Config

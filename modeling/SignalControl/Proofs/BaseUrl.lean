import SignalControl.Controller
import SignalControl.Page.Plain
import SignalControl.Proofs.Search

namespace SignalControl

/-! Base URLs. Every address that names a host leads to a base URL: it has a scheme, it
does not end in a slash, and as an address it leads to itself. Slashes behind an address
count for nothing unless they complete a scheme mark that the address leaves unfinished. -/

namespace Address

variable {address url : String} {text trimmed : List Char}

/-! ## Trimming slashes -/

theorem trimSlashes_eq_iff :
    trimSlashes text = trimmed ↔
      (∃ count, text = trimmed ++ List.replicate count '/') ∧
        trimmed.getLast? ≠ some '/' := by
  rw [trimSlashes, ← List.rdropWhile, Text.rdropWhile_eq_iff]
  simp only [decide_eq_true_eq, decide_eq_false_iff_not]
  constructor
  · rintro ⟨after, whole, slashes, ends⟩
    refine ⟨⟨after.length, ?_⟩, fun isSlash => ends '/' isSlash rfl⟩
    rw [whole, ← List.eq_replicate_of_mem slashes]
  · rintro ⟨⟨count, whole⟩, ends⟩
    refine ⟨List.replicate count '/', whole, fun _ => List.eq_of_mem_replicate, ?_⟩
    rintro last isLast rfl
    exact ends isLast

theorem exists_eq_trimSlashes_append (text : List Char) :
    ∃ count, text = trimSlashes text ++ List.replicate count '/' :=
  (trimSlashes_eq_iff.mp rfl).1

theorem getLast?_trimSlashes (text : List Char) : (trimSlashes text).getLast? ≠ some '/' :=
  (trimSlashes_eq_iff.mp rfl).2

theorem trimSlashes_eq_self (ends : text.getLast? ≠ some '/') : trimSlashes text = text :=
  trimSlashes_eq_iff.mpr ⟨⟨0, by simp⟩, ends⟩

theorem trimSlashes_append_slashes (text : List Char) (count : Nat) :
    trimSlashes (text ++ List.replicate count '/') = trimSlashes text := by
  rcases exists_eq_trimSlashes_append text with ⟨already, whole⟩
  refine trimSlashes_eq_iff.mpr ⟨⟨already + count, ?_⟩, getLast?_trimSlashes text⟩
  rw [← List.replicate_append_replicate, ← List.append_assoc, ← whole]

theorem trimSlashes_ne_nil (named : ∃ character ∈ text, character ≠ '/') :
    trimSlashes text ≠ [] := by
  intro nothing
  rcases exists_eq_trimSlashes_append text with ⟨count, whole⟩
  rcases named with ⟨character, member, notSlash⟩
  rw [whole, nothing, List.nil_append] at member
  exact notSlash (List.eq_of_mem_replicate member)

/-- Only the part behind the last other character is trimmed. -/
theorem trimSlashes_append (opening : List Char)
    (named : ∃ character ∈ text, character ≠ '/') :
    trimSlashes (opening ++ text) = opening ++ trimSlashes text := by
  rcases exists_eq_trimSlashes_append text with ⟨count, whole⟩
  refine trimSlashes_eq_iff.mpr ⟨⟨count, ?_⟩, ?_⟩
  · rw [List.append_assoc, ← whole]
  · rw [List.getLast?_append_of_ne_nil _ (trimSlashes_ne_nil named)]
    exact getLast?_trimSlashes text

/-! ## Scheme marks -/

theorem toList_schemeMark : schemeMark.toList = [':', '/', '/'] := rfl

theorem hasScheme_iff : hasScheme address = true ↔ schemeMark.toList <:+: address.toList :=
  Text.occursIn_iff

theorem eq_append_colon_of_slashes {left right : List Char} {count : Nat}
    (whole : trimmed ++ List.replicate count '/' = left ++ ':' :: right) :
    ∃ behind, trimmed = left ++ ':' :: behind ∧
      behind ++ List.replicate count '/' = right := by
  have noColon : ':' ∉ List.replicate count '/' := by simp
  rcases List.append_eq_append_iff.mp whole with
    ⟨inSlashes, -, slashes⟩ | ⟨behind, isTrimmed, rest⟩
  · rw [slashes] at noColon
    exact absurd (List.mem_append_right _ List.mem_cons_self) noColon
  · cases behind with
    | nil =>
        rw [List.nil_append] at rest
        exact absurd (rest ▸ List.mem_cons_self) noColon
    | cons first behind =>
        rcases List.cons.inj rest with ⟨rfl, later⟩
        exact ⟨behind, isTrimmed, later.symm⟩

/-- Slashes complete a scheme mark only behind a colon. -/
theorem schemeMark_infix_append_slashes_iff (ends : trimmed.getLast? ≠ some '/')
    {count : Nat} :
    schemeMark.toList <:+: trimmed ++ List.replicate count '/' ↔
      schemeMark.toList <:+: trimmed ∨ trimmed.getLast? = some ':' ∧ 2 ≤ count := by
  rw [toList_schemeMark]
  constructor
  · rintro ⟨left, right, whole⟩
    have colon : trimmed ++ List.replicate count '/' = left ++ ':' :: '/' :: '/' :: right := by
      simpa using whole.symm
    rcases eq_append_colon_of_slashes colon with ⟨behind, rfl, slashes⟩
    -- The two slashes of the mark stand in the text, or both of them behind it.
    match behind, slashes with
    | [], slashes =>
        have enough := congrArg List.length slashes
        simp only [List.nil_append, List.length_replicate, List.length_cons] at enough
        exact .inr ⟨by simp, by omega⟩
    | [first], slashes =>
        have isSlash := (List.cons.inj slashes).1
        simp [isSlash] at ends
    | first :: second :: others, slashes =>
        rcases List.cons.inj slashes with ⟨rfl, later⟩
        rcases List.cons.inj later with ⟨rfl, -⟩
        exact .inl ⟨left, others, by simp⟩
  · rintro (inside | ⟨isColon, enough⟩)
    · exact inside.trans (List.prefix_append _ _).isInfix
    · rcases List.getLast?_eq_some_iff.mp isColon with ⟨left, rfl⟩
      rcases Nat.exists_eq_add_of_le' enough with ⟨further, rfl⟩
      exact ⟨left, List.replicate further '/', by simp [List.replicate_succ]⟩

/-! ## The base URL of an address -/

def behindScheme (address : String) : List Char :=
  (Text.after? schemeMark.toList address.toList).getD address.toList

def NamesHost (address : String) : Prop :=
  ∃ character ∈ behindScheme address, character ≠ '/'

instance : Decidable (NamesHost address) :=
  List.decidableBEx (fun character => character ≠ '/') (behindScheme address)

/-- Routes can be appended to the text as it is. -/
structure IsBaseUrl (url : String) : Prop where
  hasMark : schemeMark.toList <:+: url.toList
  noSlash : url.toList.getLast? ≠ some '/'

theorem toList_baseUrl_of_hasScheme (marked : hasScheme address = true) :
    (baseUrl address).toList = trimSlashes address.toList := by
  rw [baseUrl, if_pos marked, String.toList_ofList]

theorem toList_baseUrl_of_not_hasScheme (unmarked : hasScheme address = false) :
    (baseUrl address).toList =
      "http".toList ++ schemeMark.toList ++ trimSlashes address.toList := by
  simp [baseUrl, unmarked]

theorem IsBaseUrl.baseUrl_eq (base : IsBaseUrl url) : baseUrl url = url := by
  rw [← String.toList_inj, toList_baseUrl_of_hasScheme (hasScheme_iff.mpr base.hasMark)]
  exact trimSlashes_eq_self base.noSlash

/-- The base URL keeps what stands behind the scheme, short of the slashes at its end. -/
theorem NamesHost.exists_toList_baseUrl (named : NamesHost address) :
    ∃ opening, (baseUrl address).toList =
      opening ++ schemeMark.toList ++ trimSlashes (behindScheme address) := by
  rw [NamesHost, behindScheme] at named
  rw [behindScheme]
  cases found : Text.after? schemeMark.toList address.toList with
  | none =>
      have unmarked : hasScheme address = false := by
        rw [hasScheme, Text.occursIn, found]
        rfl
      exact ⟨"http".toList, toList_baseUrl_of_not_hasScheme unmarked⟩
  | some behind =>
      rw [found] at named
      have marked : hasScheme address = true := by
        rw [hasScheme, Text.occursIn, found]
        rfl
      rcases Text.after?_eq_some_iff.mp found with ⟨before, occurrence⟩
      refine ⟨before, ?_⟩
      rw [toList_baseUrl_of_hasScheme marked, occurrence.stands]
      exact trimSlashes_append _ named

theorem NamesHost.isBaseUrl (named : NamesHost address) : IsBaseUrl (baseUrl address) := by
  rcases named.exists_toList_baseUrl with ⟨opening, whole⟩
  constructor
  case hasMark =>
    rw [whole]
    exact ⟨opening, _, rfl⟩
  case noSlash =>
    rw [whole, List.getLast?_append_of_ne_nil _ (trimSlashes_ne_nil named)]
    exact getLast?_trimSlashes _

/-! ## Slashes behind an address -/

def withSlashes (address : String) (count : Nat) : String :=
  address ++ String.ofList (List.replicate count '/')

theorem toList_withSlashes (address : String) (count : Nat) :
    (withSlashes address count).toList = address.toList ++ List.replicate count '/' := by
  rw [withSlashes, String.toList_append, String.toList_ofList]

theorem baseUrl_withSlashes_of_hasScheme_eq {count : Nat}
    (same : hasScheme (withSlashes address count) = hasScheme address) :
    baseUrl (withSlashes address count) = baseUrl address := by
  rw [baseUrl, baseUrl, same, toList_withSlashes, trimSlashes_append_slashes]

theorem hasScheme_iff_of_slashes {count : Nat}
    (whole : address.toList = trimmed ++ List.replicate count '/')
    (ends : trimmed.getLast? ≠ some '/') :
    hasScheme address = true ↔
      schemeMark.toList <:+: trimmed ∨ trimmed.getLast? = some ':' ∧ 2 ≤ count := by
  rw [hasScheme_iff, whole, schemeMark_infix_append_slashes_iff ends]

/-- Slashes behind an address without a scheme change its base URL just if they can make
a scheme of its last colon. -/
theorem baseUrl_withSlashes_iff :
    (∀ count, baseUrl (withSlashes address count) = baseUrl address) ↔
      hasScheme address = true ∨ (trimSlashes address.toList).getLast? ≠ some ':' := by
  rcases exists_eq_trimSlashes_append address.toList with ⟨already, whole⟩
  have ends := getLast?_trimSlashes address.toList
  have marked := hasScheme_iff_of_slashes whole ends
  have markedLater : ∀ count, hasScheme (withSlashes address count) = true ↔
      schemeMark.toList <:+: trimSlashes address.toList ∨
        (trimSlashes address.toList).getLast? = some ':' ∧ 2 ≤ already + count := by
    intro count
    apply hasScheme_iff_of_slashes _ ends
    rw [toList_withSlashes, ← List.replicate_append_replicate, ← List.append_assoc, ← whole]
  constructor
  · intro same
    rw [or_iff_not_imp_left, Bool.not_eq_true]
    intro unmarked isColon
    have completed : hasScheme (withSlashes address 2) = true :=
      (markedLater 2).mpr (.inr ⟨isColon, Nat.le_add_left 2 already⟩)
    have equal := congrArg String.toList (same 2)
    rw [toList_baseUrl_of_hasScheme completed, toList_baseUrl_of_not_hasScheme unmarked,
      toList_withSlashes, trimSlashes_append_slashes] at equal
    have sizes := congrArg List.length equal
    rw [List.length_append, List.length_append, toList_schemeMark, List.length_cons] at sizes
    omega
  · intro harmless count
    apply baseUrl_withSlashes_of_hasScheme_eq
    rcases harmless with hasMark | notColon
    · rw [hasMark, hasScheme_iff, toList_withSlashes]
      exact (hasScheme_iff.mp hasMark).trans (List.prefix_append _ _).isInfix
    · rw [Bool.eq_iff_iff, markedLater count, marked]
      simp only [notColon, false_and, or_false]

end Address

/-! ## Controllers -/

namespace Controller

def withAddress (controller : Controller) (address : String) : Controller :=
  { controller with address := address }

/-- The base URL of a controller whose address names a host has a scheme, does not end in
a slash and leads to itself. Slashes behind the address never change it, if and only if
the address has a scheme or does not end in a colon short of its slashes. -/
theorem baseUrl_normal (controller : Controller)
    (named : Address.NamesHost controller.address) :
    Address.schemeMark.toList <:+: controller.baseUrl.toList ∧
    controller.baseUrl.toList.getLast? ≠ some '/' ∧
    (controller.withAddress controller.baseUrl).baseUrl = controller.baseUrl ∧
    ((∀ count, (controller.withAddress
        (Address.withSlashes controller.address count)).baseUrl = controller.baseUrl) ↔
      Address.hasScheme controller.address = true ∨
        (Address.trimSlashes controller.address.toList).getLast? ≠ some ':') :=
  ⟨named.isBaseUrl.hasMark, named.isBaseUrl.noSlash, named.isBaseUrl.baseUrl_eq,
    Address.baseUrl_withSlashes_iff⟩

def roadsideController : Controller where
  address := "10.0.0.7:8080//"
  profile :=
    { inputs := Profile.inputSet []
      stageInputs := NameTable.ofList []
      manual := ""
      phasePrefix := ""
      fieldPrefix := ""
      credentials := ⟨"", ""⟩ }
  parsers := PlainPage.parsers

theorem roadside_baseUrl_normal :
    Address.NamesHost roadsideController.address ∧
    roadsideController.baseUrl = "http://10.0.0.7:8080" ∧
    (roadsideController.withAddress "http://10.0.0.7:8080").baseUrl = "http://10.0.0.7:8080" ∧
    ∀ count, (roadsideController.withAddress
      (Address.withSlashes "10.0.0.7:8080//" count)).baseUrl = "http://10.0.0.7:8080" := by
  have named : Address.NamesHost roadsideController.address := by decide +kernel
  have url : roadsideController.baseUrl = "http://10.0.0.7:8080" := by decide +kernel
  rcases roadsideController.baseUrl_normal named with ⟨-, -, fixed, slashes⟩
  rw [url] at fixed slashes
  exact ⟨named, url, fixed, slashes.mpr (.inr (by decide +kernel))⟩

/-- The second slash makes a scheme of what was a host with an empty port. -/
example : Address.baseUrl "peek:/" = "http://peek:" ∧ Address.baseUrl "peek://" = "peek:" := by
  decide +kernel

end Controller

end SignalControl

import SignalControl.Proofs.Search
import SignalControl.Verdict

namespace SignalControl.Verdict

/-! What the verdict on a body stands for. Two searches decide it, one for the empty
alert anywhere in the body and one for the text of the first alert, and they agree
wherever a body assigns its alert once. -/

section

variable {body alert : String}

/-- The empty alert is the opening of an alert that is closed at once. -/
theorem ofBody_eq_accepted_iff :
    ofBody body = .accepted ↔
      ∃ before after,
        body.toList = before ++ alertOpening.toList ++ '\x22' :: ';' :: after := by
  have closed : emptyAlert.toList = alertOpening.toList ++ ['\x22', ';'] := by decide
  have accepts : ofBody body = .accepted ↔
      Text.occursIn emptyAlert.toList body.toList = true := by
    rw [ofBody]
    split
    next found => simp [found]
    next absent => simp [absent]
  rw [accepts, Text.occursIn_iff, closed]
  constructor
  · intro ⟨before, after, equal⟩
    exact ⟨before, after, by simp [← equal]⟩
  · intro ⟨before, after, equal⟩
    exact ⟨before, after, by simp [equal]⟩

theorem ofBody_eq_refused_iff :
    ofBody body = .refused (alert? body) ↔ ofBody body ≠ .accepted := by
  rw [ofBody]
  split
  next => simp
  next => simp

/-- The text of an alert is what stands between the first opening and the next quote. -/
theorem alert?_eq_some_iff :
    alert? body = some alert ↔
      alert ≠ "" ∧ '\x22' ∉ alert.toList ∧ ∃ before after,
        Text.FirstOccurrence alertOpening.toList body.toList before
          (alert.toList ++ '\x22' :: after) := by
  simp only [alert?, bind, Option.bind_eq_some_iff, Text.after?_eq_some_iff]
  constructor
  · intro ⟨opened, ⟨before, found⟩, ⟨text, after⟩, parts, kept⟩
    rcases Text.splitAtFirst?_eq_some_iff.mp parts with ⟨equal, unquoted⟩
    subst equal
    split at kept
    next => cases kept
    next nonempty =>
      cases kept
      rw [String.toList_ofList]
      refine ⟨?_, unquoted, before, after, found⟩
      intro empty
      simp at nonempty
      exact nonempty (by simpa using empty)
  · intro ⟨nonempty, unquoted, before, after, found⟩
    have kept : alert.toList.isEmpty = false := by
      simpa using nonempty
    refine ⟨_, ⟨before, found⟩, ⟨alert.toList, after⟩,
      Text.splitAtFirst?_eq_some_iff.mpr ⟨rfl, unquoted⟩, ?_⟩
    simp [kept]

end

/-! ## Bodies that open one alert -/

def OpensOnce (body : String) (following : List Char) : Prop :=
  ∃ before, body.toList = before ++ alertOpening.toList ++ following ∧
    ∀ left right, body.toList = left ++ alertOpening.toList ++ right → left = before

/-- The verdict on a body in which this follows the only opening. It is an empty alert
with or without the semicolon, or the text of an alert, or it has no end. -/
inductive Judged (following : List Char) : Verdict → Prop
  | accepted (empty : following = '\x22' :: ';' :: after) : Judged following .accepted
  | alerted (nonempty : alert ≠ "") (unquoted : '\x22' ∉ alert.toList)
      (closed : following = alert.toList ++ '\x22' :: after) :
      Judged following (.refused (some alert))
  | unmarked (empty : following = '\x22' :: after) (unmarked : after.head? ≠ some ';') :
      Judged following (.refused none)
  | unterminated (unquoted : '\x22' ∉ following) : Judged following (.refused none)

section

variable {body alert : String} {before following rest after : List Char}
  {verdict : Verdict}

theorem closed_ne_empty (nonempty : alert ≠ "") (unquoted : '\x22' ∉ alert.toList) :
    alert.toList ++ '\x22' :: after ≠ '\x22' :: rest := by
  cases text : alert.toList with
  | nil => exact absurd (String.toList_eq_nil_iff.mp text) nonempty
  | cons first others =>
      intro equal
      have quote := (List.cons.inj equal).1
      rw [text, quote] at unquoted
      exact unquoted List.mem_cons_self

theorem exists_judged (following : List Char) : ∃ verdict, Judged following verdict := by
  by_cases quoted : '\x22' ∈ following
  · rcases List.eq_append_cons_of_mem quoted with ⟨text, after, closed, unquoted⟩
    cases text with
    | nil =>
        by_cases marked : after.head? = some ';'
        · rcases List.head?_eq_some_iff.mp marked with ⟨rest, equal⟩
          exact ⟨_, .accepted (equal ▸ closed)⟩
        · exact ⟨_, .unmarked closed marked⟩
    | cons first others =>
        rw [← String.toList_ofList (l := first :: others)] at closed unquoted
        exact ⟨_, .alerted (by simp) unquoted closed⟩
  · exact ⟨_, .unterminated quoted⟩

namespace OpensOnce

theorem eq_of_stands (once : OpensOnce body following)
    (stands : body.toList = before ++ alertOpening.toList ++ rest) : rest = following := by
  rcases once with ⟨_, here, only⟩
  rw [only before rest stands, here] at stands
  exact (List.append_cancel_left stands).symm

theorem accepted_iff (once : OpensOnce body following) :
    ofBody body = .accepted ↔ ∃ after, following = '\x22' :: ';' :: after := by
  rw [ofBody_eq_accepted_iff]
  constructor
  · intro ⟨before, after, stands⟩
    exact ⟨after, (once.eq_of_stands stands).symm⟩
  · intro ⟨after, equal⟩
    rcases once with ⟨before, here, -⟩
    exact ⟨before, after, equal ▸ here⟩

theorem alert_iff (once : OpensOnce body following) :
    alert? body = some alert ↔
      alert ≠ "" ∧ '\x22' ∉ alert.toList ∧ ∃ after,
        following = alert.toList ++ '\x22' :: after := by
  rw [alert?_eq_some_iff]
  constructor
  · intro ⟨nonempty, unquoted, before, after, found⟩
    exact ⟨nonempty, unquoted, after, (once.eq_of_stands found.stands).symm⟩
  · intro ⟨nonempty, unquoted, after, equal⟩
    rcases once with ⟨before, here, only⟩
    refine ⟨nonempty, unquoted, before, after, equal ▸ here, ?_⟩
    intro left right stands
    rw [only left right stands]

theorem ofBody_eq_refused (once : OpensOnce body following) {found : Option String}
    (notEmpty : ∀ after, following ≠ '\x22' :: ';' :: after)
    (read : alert? body = found) : ofBody body = .refused found := by
  rw [← read, ofBody_eq_refused_iff, Ne, once.accepted_iff]
  intro ⟨after, empty⟩
  exact notEmpty after empty

theorem ofBody_of_judged (once : OpensOnce body following)
    (judged : Judged following verdict) : ofBody body = verdict := by
  cases judged with
  | accepted empty => exact once.accepted_iff.mpr ⟨_, empty⟩
  | alerted nonempty unquoted closed =>
      apply once.ofBody_eq_refused
      · intro after empty
        exact closed_ne_empty nonempty unquoted (closed.symm.trans empty)
      · exact once.alert_iff.mpr ⟨nonempty, unquoted, _, closed⟩
  | unmarked empty unmarked =>
      apply once.ofBody_eq_refused
      · intro after marked
        rw [empty, List.cons.injEq] at marked
        exact unmarked (by rw [marked.2]; rfl)
      · apply Option.eq_none_iff_forall_ne_some.mpr
        intro alert read
        rcases once.alert_iff.mp read with ⟨nonempty, unquoted, after, closed⟩
        exact closed_ne_empty nonempty unquoted (closed.symm.trans empty)
  | unterminated unquoted =>
      apply once.ofBody_eq_refused
      · intro after empty
        exact unquoted (empty ▸ List.mem_cons_self)
      · apply Option.eq_none_iff_forall_ne_some.mpr
        intro alert read
        rcases once.alert_iff.mp read with ⟨-, -, after, closed⟩
        exact unquoted (closed ▸ List.mem_append_right _ List.mem_cons_self)

theorem ofBody_eq_iff (once : OpensOnce body following) :
    ofBody body = verdict ↔ Judged following verdict := by
  constructor
  · intro equal
    rcases exists_judged following with ⟨other, judged⟩
    rwa [← equal, once.ofBody_of_judged judged]
  · exact once.ofBody_of_judged

end OpensOnce

theorem ofBody_of_unopened (unopened : ¬ alertOpening.toList <:+: body.toList) :
    ofBody body = .refused none := by
  have unread : alert? body = none := by
    apply Option.eq_none_iff_forall_ne_some.mpr
    intro alert read
    rcases alert?_eq_some_iff.mp read with ⟨-, -, before, after, found⟩
    exact unopened ⟨before, _, found.stands.symm⟩
  rw [← unread, ofBody_eq_refused_iff, Ne, ofBody_eq_accepted_iff]
  intro ⟨before, after, stands⟩
  exact unopened ⟨before, _, stands.symm⟩

end

/-- A body is accepted exactly if some opening is closed at once and followed by a
semicolon, and is else refused with the text of its first alert, if that is closed and
not empty. Hence a body with one opening is judged by what follows it, and one without
any is refused without an alert. -/
theorem ofReply_body (body : String) :
    (ofReply (.ok body) = .accepted ↔
      ∃ before after,
        body.toList = before ++ alertOpening.toList ++ '\x22' :: ';' :: after) ∧
    (ofReply (.ok body) = .refused (alert? body) ↔ ofReply (.ok body) ≠ .accepted) ∧
    (∀ alert, alert? body = some alert ↔
      alert ≠ "" ∧ '\x22' ∉ alert.toList ∧ ∃ before after,
        Text.FirstOccurrence alertOpening.toList body.toList before
          (alert.toList ++ '\x22' :: after)) ∧
    (∀ following, OpensOnce body following →
      ∀ verdict, ofReply (.ok body) = verdict ↔ Judged following verdict) ∧
    (¬ alertOpening.toList <:+: body.toList → ofReply (.ok body) = .refused none) := by
  refine ⟨ofBody_eq_accepted_iff, ofBody_eq_refused_iff, ?_, ?_, ofBody_of_unopened⟩
  · intro alert
    exact alert?_eq_some_iff
  · intro following once verdict
    exact once.ofBody_eq_iff

/-! ## An alert among other text

A letter that takes more than one byte comes before the only opening, and an assignment of
the empty text to something else after it. -/

def alertedBody : String := "\u0436: alert_msg = \x22нет связи\x22; x = \x22\x22;"

theorem alertedBody_opensOnce :
    OpensOnce alertedBody "нет связи\x22; x = \x22\x22;".toList := by
  refine ⟨"\u0436: ".toList, by decide, ?_⟩
  have only : ∀ position ≤ alertedBody.toList.length,
      alertOpening.toList <+: alertedBody.toList.drop position → position = 3 := by decide
  intro left right stands
  have here : left.length = 3 := by
    apply only
    · simp [stands]
    · rw [stands, List.append_assoc, List.drop_left]
      exact List.prefix_append _ _
  have start : left = alertedBody.toList.take 3 := by
    rw [← here, stands, List.append_assoc, List.take_left]
  rw [start]
  rfl

theorem alertedBody_judged :
    Judged "нет связи\x22; x = \x22\x22;".toList (.refused (some "нет связи")) ∧
      ofReply (.ok alertedBody) = .refused (some "нет связи") ∧
      ¬ alertOpening.toList <:+: "alert_msg = ".toList ∧
      ofReply (.ok "alert_msg = ") = .refused none := by
  have judged : Judged "нет связи\x22; x = \x22\x22;".toList
      (.refused (some "нет связи")) := .alerted (by decide) (by decide) rfl
  have unopened : ¬ alertOpening.toList <:+: "alert_msg = ".toList := by decide
  rcases ofReply_body alertedBody with ⟨-, -, -, sole, -⟩
  rcases ofReply_body "alert_msg = " with ⟨-, -, -, -, none⟩
  exact ⟨judged, (sole _ alertedBody_opensOnce _).mpr judged, unopened, none unopened⟩

end SignalControl.Verdict

import SignalControl.Page.Plain
import SignalControl.Proofs.RecordShape

namespace SignalControl

/-! Requests for several pages at once. Each page is asked for once, and its record says
what came of its own request: not of the others, and not of the order in which the
answers came in. -/

/-! ## Pages in the order of their first mention -/

/-- A status poll asks for these pages besides the main page. -/
structure OtherPages (extras others : List PageKind) : Prop where
  distinct : others.Nodup
  members : ∀ page, page ∈ others ↔ page ∈ extras ∧ page ≠ .main
  ordered : others.Pairwise fun earlier later =>
    extras.idxOf earlier < extras.idxOf later

section

variable {α : Type} [BEq α] [LawfulBEq α]

/-- Of two members that are kept, the one that comes first among the kept ones came
first before. -/
theorem idxOf_lt_of_filter {keep : α → Bool} {first second : α} {items : List α}
    (firstKept : keep first = true) (secondKept : keep second = true)
    (before : (items.filter keep).idxOf first < (items.filter keep).idxOf second) :
    items.idxOf first < items.idxOf second := by
  induction items with
  | nil => simp at before
  | cons item rest induction =>
      by_cases kept : keep item = true
      · rw [List.filter_cons_of_pos kept] at before
        by_cases isSecond : item = second
        · simp [isSecond] at before
        · by_cases isFirst : item = first
          · rw [isFirst, List.idxOf_cons_self, List.idxOf_cons_ne _ (isFirst ▸ isSecond)]
            exact Nat.succ_pos _
          · simp only [List.idxOf_cons_ne _ isFirst, List.idxOf_cons_ne _ isSecond,
              Nat.succ_lt_succ_iff] at before ⊢
            exact induction before
      · rw [List.filter_cons_of_neg kept] at before
        have notFirst : item ≠ first := by rintro rfl; exact kept firstKept
        have notSecond : item ≠ second := by rintro rfl; exact kept secondKept
        rw [List.idxOf_cons_ne _ notFirst, List.idxOf_cons_ne _ notSecond]
        exact Nat.succ_lt_succ (induction before)

theorem eraseDups_ordered (items : List α) :
    items.eraseDups.Pairwise fun earlier later =>
      items.idxOf earlier < items.idxOf later := by
  match items with
  | [] => simp
  | item :: rest =>
      have others := eraseDups_ordered (rest.filter fun other => !other == item)
      have apart : ∀ other ∈ (rest.filter fun other => !other == item).eraseDups,
          item ≠ other := by
        intro other member
        have kept := (List.mem_filter.mp (List.mem_eraseDups.mp member)).2
        rintro rfl
        simp at kept
      rw [List.eraseDups_cons, List.pairwise_cons]
      constructor
      · intro other member
        rw [List.idxOf_cons_self, List.idxOf_cons_ne _ (apart other member)]
        exact Nat.succ_pos _
      · refine others.imp_of_mem ?_
        intro earlier later isEarlier isLater before
        have earlierApart := apart earlier isEarlier
        have laterApart := apart later isLater
        rw [List.idxOf_cons_ne _ earlierApart, List.idxOf_cons_ne _ laterApart]
        exact Nat.succ_lt_succ (idxOf_lt_of_filter (by simpa using earlierApart.symm)
          (by simpa using laterApart.symm) before)
termination_by items.length
decreasing_by exact Nat.lt_succ_of_le (List.length_filter_le _ _)

end

theorem exists_otherPages (extras : List PageKind) :
    ∃ others, OtherPages extras others ∧
      Controller.statusPages extras = .main :: others := by
  refine ⟨(extras.filter fun page => !page == .main).eraseDups, ?_, ?_⟩
  · have isOther : ∀ page, page ∈ (extras.filter fun page => !page == .main).eraseDups ↔
        page ∈ extras ∧ page ≠ .main := by
      intro page
      simp
    have ordered := (eraseDups_ordered (extras.filter fun page => !page == .main)).imp_of_mem
      fun {earlier later} isEarlier isLater before =>
        idxOf_lt_of_filter (by simpa using ((isOther earlier).mp isEarlier).2)
          (by simpa using ((isOther later).mp isLater).2) before
    have distinct := ordered.imp fun {earlier later} before (equal : earlier = later) =>
      Nat.lt_irrefl _ (equal ▸ before)
    exact ⟨distinct, isOther, ordered⟩
  · rw [Controller.statusPages, List.eraseDups_cons]

/-! ## Records of the requested pages -/

namespace PageReport

variable {parser : PageParser} {page : PageKind} {answer : Answer}
  {record other : ResultRecord}

theorem error_eq_some_iff (report : PageReport parser page answer record)
    {message : String} :
    record.error = some message ↔
      (∃ body cause, answer = .response Http.ok (.ok body) ∧
        parser body = .error cause ∧ message = cause.message) ∨
      ∃ cause, answer.result = .error cause ∧ message = cause.message := by
  have noData : record.error.isSome = true ↔ record.data = none := by
    rw [← Option.isNone_iff_eq_none, ← Option.not_isSome, report.exclusive, Bool.not_not]
  constructor
  · intro failed
    have lacks := noData.mp (failed ▸ rfl)
    by_cases complete : record.status.isSome = true
    · rcases report.unreadable complete (failed ▸ rfl) with
        ⟨body, cause, reply, unread, error⟩
      exact .inl ⟨body, cause, reply, unread, Option.some.inj (failed.symm.trans error)⟩
    · rcases report.failed (by simpa using complete) lacks with ⟨cause, result, error⟩
      exact .inr ⟨cause, result, Option.some.inj (failed.symm.trans error)⟩
  · rintro (⟨body, cause, rfl, unread, rfl⟩ | ⟨cause, result, rfl⟩)
    · have lacks : record.data = none := by
        apply Option.eq_none_iff_forall_ne_some.mpr
        intro data found
        rcases (report.data data).mp found with ⟨_, content, same, parsed, -⟩
        cases same
        rw [unread] at parsed
        cases parsed
      have complete := report.complete.mpr ⟨body, rfl⟩
      rcases report.unreadable (complete ▸ rfl) (noData.mpr lacks) with
        ⟨_, other, same, otherUnread, error⟩
      cases same
      rw [unread] at otherUnread
      rw [error, Except.error.inj otherUnread]
    · have noReply : ∀ body, answer ≠ .response Http.ok (.ok body) := by
        rintro body rfl
        cases result
      have lacks : record.data = none := by
        apply Option.eq_none_iff_forall_ne_some.mpr
        intro data found
        rcases (report.data data).mp found with ⟨body, -, reply, -⟩
        exact noReply body reply
      rcases report.failed (report.incomplete.mpr noReply) lacks with
        ⟨other, otherResult, error⟩
      rw [error, Except.error.inj (result.symm.trans otherResult)]

theorem unique (report : PageReport parser page answer record)
    (otherReport : PageReport parser page answer other) : record = other := by
  have sameLabel : record.label = other.label := report.label.trans otherReport.label.symm
  have sameStatus : record.status = other.status := by
    rcases answer.reply_or_failure with ⟨body, reply, -⟩ | ⟨-, -, noReply⟩
    · rw [report.complete.mpr ⟨body, reply⟩, otherReport.complete.mpr ⟨body, reply⟩]
    · rw [report.incomplete.mpr noReply, otherReport.incomplete.mpr noReply]
  have sameData : record.data = other.data := by
    apply Option.ext
    intro data
    rw [report.data, otherReport.data]
  have sameError : record.error = other.error := by
    apply Option.ext
    intro message
    rw [report.error_eq_some_iff, otherReport.error_eq_some_iff]
  rcases record with ⟨label, status, data, error⟩
  rcases other with ⟨otherLabel, otherStatus, otherData, otherError⟩
  simp only at sameLabel sameStatus sameData sameError
  rw [sameLabel, sameStatus, sameData, sameError]

end PageReport

/-! ## Requests -/

namespace Controller

variable {State : Type} (controller : Controller) (link : Link State)
  (pages : List PageKind) (device : State)

def pageRound : Round :=
  { calls := pages.map controller.pageCall
    completion := (link.exchange device (pages.map controller.pageCall)).1 }

theorem requestPages_rounds :
    (controller.requestPages link pages device).rounds =
      [controller.pageRound link pages device] := by
  simp [requestPages, fetchPages, Dialogue.logEvent, pageRound]

theorem requestPages_records :
    (controller.requestPages link pages device).outcome.2 =
      (pages.zip (controller.pageRound link pages device).answers).map fun request =>
        (controller.pageEnvelope request.1 request.2).toRecord := by
  simp [requestPages, fetchPages, Dialogue.logEvent, Completion.answered, pageRound,
    Round.answers]

theorem length_answers_pageRound :
    (controller.pageRound link pages device).answers.length = pages.length := by
  simp [Round.answers, pageRound]

theorem length_requestPages :
    (controller.requestPages link pages device).outcome.2.length = pages.length := by
  rw [requestPages_records, List.length_map, List.length_zip, length_answers_pageRound,
    Nat.min_self]

theorem requestPages_forall₂ :
    List.Forall₂
      (fun request => PageReport (controller.parsers.forKind request.1) request.1 request.2)
      (pages.zip (controller.pageRound link pages device).answers)
      (controller.requestPages link pages device).outcome.2 := by
  rw [requestPages_records, List.forall₂_map_right_iff, List.forall₂_same]
  intro request _
  exact controller.pageReport_toRecord request.1 request.2

/-- A record depends on the other answers as little as on the device. -/
theorem requestPages_getElem? {Other : Type} (otherLink : Link Other) (otherDevice : Other)
    {position : Nat}
    (same : (controller.pageRound otherLink pages otherDevice).answers[position]? =
      (controller.pageRound link pages device).answers[position]?) :
    (controller.requestPages otherLink pages otherDevice).outcome.2[position]? =
      (controller.requestPages link pages device).outcome.2[position]? := by
  simp only [requestPages_records, List.getElem?_map, List.zip,
    List.getElem?_zipWith, same]

/-- Pages that are requested together are each asked for once, at their own routes, and
yield as many records in the same order. A record is the one that reports on the answer
at its place, so another answer at one place changes no record at another. A status poll
requests the main page and then the other pages that it is asked for, each once, in the
order of their first mention. -/
theorem requestPages_each :
    (∀ {State : Type} (link : Link State) (device : State),
      (controller.requestPages link pages device).rounds =
          [controller.pageRound link pages device] ∧
        (controller.pageRound link pages device).calls = pages.map (fun page =>
          .fetch (controller.baseUrl ++ controller.routes.page page)) ∧
        (controller.requestPages link pages device).outcome.2.length = pages.length ∧
        List.Forall₂
          (fun request =>
            PageReport (controller.parsers.forKind request.1) request.1 request.2)
          (pages.zip (controller.pageRound link pages device).answers)
          (controller.requestPages link pages device).outcome.2) ∧
      (∀ parser page answer, Subsingleton {record // PageReport parser page answer record}) ∧
      (∀ {State Other : Type} (link : Link State) (otherLink : Link Other) (device : State)
          (otherDevice : Other) (position : Nat),
        (controller.pageRound otherLink pages otherDevice).answers[position]? =
            (controller.pageRound link pages device).answers[position]? →
          (controller.requestPages otherLink pages otherDevice).outcome.2[position]? =
            (controller.requestPages link pages device).outcome.2[position]?) ∧
      ∀ {State : Type} (link : Link State) (extras : List PageKind),
        ∃ others, OtherPages extras others ∧
          controller.pollStatus link extras =
            controller.requestPages link (.main :: others) := by
  refine ⟨?_, ?_, ?_, ?_⟩
  · intro State link device
    exact ⟨controller.requestPages_rounds link pages device, rfl,
      controller.length_requestPages link pages device,
      controller.requestPages_forall₂ link pages device⟩
  · intro parser page answer
    exact ⟨fun left right => Subtype.ext (left.property.unique right.property)⟩
  · intro State Other link otherLink device otherDevice position same
    exact controller.requestPages_getElem? link pages device otherLink otherDevice same
  · intro State link extras
    rcases exists_otherPages extras with ⟨others, isOthers, equal⟩
    exact ⟨others, isOthers, by rw [pollStatus, equal]⟩

end Controller

/-! ## A changed reply

Of three requests only the second one is answered differently by two devices, and their
answers come in the other way round. -/

def viewController : Controller where
  address := "view"
  profile :=
    { inputs := Profile.inputSet ["M"]
      stageInputs := .empty
      manual := "M"
      phasePrefix := "P"
      fieldPrefix := "R"
      credentials := ⟨"", ""⟩ }
  parsers := PlainPage.parsers

def viewLink (second : Answer) (reversed : Bool) : Link Unit where
  exchange := fun _ calls =>
    let order := List.finRange calls.length
    ({ answers := Vector.ofFn fun position =>
         if position.val = 1 then second else .response Http.ok (.ok "mode=auto")
       order := if reversed then order.reverse else order
       complete := by
         split
         · exact List.reverse_perm _
         · exact List.Perm.refl _ }, ())

def viewPages : List PageKind := [.main, .inputs, .main]

def fullLink : Link Unit :=
  viewLink (.response Http.ok (.ok "0;1;M;0;9;-")) false

def haltingLink : Link Unit :=
  viewLink (.unanswered .timeout) true

theorem view_requestPages :
    (viewController.pageRound haltingLink viewPages ()).answers[2]? =
        (viewController.pageRound fullLink viewPages ()).answers[2]? ∧
      (viewController.requestPages haltingLink viewPages ()).outcome.2[2]? =
        (viewController.requestPages fullLink viewPages ()).outcome.2[2]? ∧
      (viewController.requestPages haltingLink viewPages ()).outcome.2.map ResultRecord.isOk =
        [true, false, true] ∧
      (viewController.requestPages fullLink viewPages ()).outcome.2.map ResultRecord.isOk =
        [true, true, true] := by
  have same : (viewController.pageRound haltingLink viewPages ()).answers[2]? =
      (viewController.pageRound fullLink viewPages ()).answers[2]? := rfl
  exact ⟨same, (viewController.requestPages_each viewPages).2.2.1 fullLink haltingLink () () 2
    same, by decide +kernel, by decide +kernel⟩

end SignalControl

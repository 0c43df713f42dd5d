import SignalControl.Controller.StageChange
import SignalControl.Proofs.Bookkeeping
import SignalControl.Proofs.Resolution
import SignalControl.Proofs.Search

namespace SignalControl

/-! What the answers of a round say about the commands that it posted: which of
them were accepted, and the names of the others in the order in which they
settled. -/

/-! ## Orders of completion -/

namespace Completion

variable {count : Nat} {α : Type} {items : List α}

theorem length_answered (completion : Completion count)
    (each : items.length = count) : (completion.answered items).length = count := by
  simp [answered, each]

theorem map_fst_answered (completion : Completion count)
    (each : items.length = count) :
    (completion.answered items).map Prod.fst = items := by
  rw [answered, List.map_fst_zip]
  simp [each]

theorem map_snd_answered (completion : Completion count)
    (each : items.length = count) :
    (completion.answered items).map Prod.snd = completion.answers.toList := by
  rw [answered, List.map_snd_zip]
  simp [each]

theorem arrived_perm (completion : Completion count)
    (each : items.length = count) :
    (completion.arrived items).Perm (completion.answered items) := by
  have inOrder :
      ((List.finRange count).filterMap fun position =>
        (completion.answered items)[position.val]?) = completion.answered items := by
    have length := completion.length_answered each
    generalize completion.answered items = pairs at length
    subst length
    have inside : (fun position : Fin pairs.length => pairs[position.val]?) =
        some ∘ pairs.get := by
      funext position
      simp
    rw [inside, List.filterMap_eq_map, List.map_get_finRange]
  rw [arrived]
  simpa only [inOrder] using completion.complete.filterMap fun position =>
    (completion.answered items)[position.val]?

theorem settled_perm (completion : Completion count)
    (each : items.length = count) :
    (completion.settled items).Perm (completion.answered items) :=
  ((completion.arrived_perm each).filter _).append_left _ |>.trans
    (List.filter_append_perm _ _)

end Completion

/-! ## Accepted commands -/

/-- A command is accepted by a complete page with status 200 that carries the
empty alert. -/
def Answer.accepts : Answer → Bool
  | .response status (.ok body) =>
      status == Http.ok &&
        decide (Verdict.emptyAlert.toList <:+: body.toList)
  | _ => false

theorem Verdict.isAccepted_ofBody (body : String) :
    (Verdict.ofBody body).isAccepted =
      decide (emptyAlert.toList <:+: body.toList) := by
  rw [ofBody]
  split
  next occurs => simp [isAccepted, Text.occursIn_iff.mp occurs]
  next absent => simp [isAccepted, mt Text.occursIn_iff.mpr absent]

theorem Controller.commandEnvelope_verdict (command : Command) (answer : Answer) :
    (commandEnvelope command answer).verdict =
      Verdict.ofReply (answer.result.map Reply.body) := by
  rw [commandEnvelope_eq]
  exact (Envelope.settled_request command.name none answer.result).judgedBy.verdict

theorem Controller.isAccepted_commandEnvelope (command : Command)
    (answer : Answer) :
    (commandEnvelope command answer).verdict.isAccepted = answer.accepts := by
  rw [commandEnvelope_verdict]
  cases answer with
  | unsent cause => rfl
  | unanswered cause => rfl
  | response status body =>
      cases body with
      | error cause =>
          by_cases complete : status = Http.ok <;>
            simp [Answer.result, Answer.accepts, complete, Except.map,
              Verdict.ofReply, Verdict.isAccepted]
      | ok body =>
          by_cases complete : status = Http.ok
          · simp [Answer.result, Answer.accepts, complete, Except.map,
              Verdict.ofReply, Verdict.isAccepted_ofBody]
          · simp only [Answer.result, if_neg complete, Answer.accepts,
              beq_eq_false_iff_ne.mpr complete, Bool.false_and]
            rfl

namespace Round

def answers (round : Round) : List Answer :=
  round.completion.answers.toList

def isAccepted (round : Round) : Bool :=
  round.answers.all Answer.accepts

def faults (round : Round) (batch : Batch) : List String :=
  ((round.completion.settled batch).filter fun settled =>
    !settled.2.accepts).map fun settled => settled.1.name

theorem faults_perm (round : Round) {batch : Batch}
    (each : batch.length = round.calls.length) :
    (round.faults batch).Perm
      (((round.completion.answered batch).filter fun settled =>
        !settled.2.accepts).map fun settled => settled.1.name) :=
  ((round.completion.settled_perm each).filter _).map _

theorem faults_eq_nil_iff (round : Round) {batch : Batch}
    (each : batch.length = round.calls.length) :
    round.faults batch = [] ↔ round.isAccepted = true := by
  have answers := round.completion.map_snd_answered each
  calc round.faults batch = []
    _ ↔ ((round.completion.answered batch).filter fun settled =>
          !settled.2.accepts) = [] := by
        rw [← List.perm_nil, (round.faults_perm each).congr_left, List.perm_nil,
          List.map_eq_nil_iff]
    _ ↔ ∀ answer ∈ (round.completion.answered batch).map Prod.snd,
          answer.accepts = true := by
        rw [List.filter_eq_nil_iff, List.forall_mem_map]
        simp only [Bool.not_eq_true', Bool.not_eq_false]
    _ ↔ round.isAccepted = true := by
        rw [answers, isAccepted, List.all_eq_true]
        rfl

end Round

end SignalControl

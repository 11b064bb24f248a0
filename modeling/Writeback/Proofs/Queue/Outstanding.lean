import Mathlib.Data.Multiset.Count
import Writeback.Proofs.Queue.Flight

/-!
# Requests that are out

A request is out from the moment it is sent until its answer comes. The journal notes both, and in
between the cycle that sent it waits. So the requests that were sent are those that were answered
and those of the cycles that wait, each as often as it was sent.
-/

namespace Writeback

namespace Event

def request? : Event → Option Request
  | posted _ _ request => some request
  | _ => none

def answeredRequest? : Event → Option Request
  | answered _ _ request _ => some request
  | _ => none

theorem request?_of_isReport {e : Event} (h : e.isReport = true) : e.request? = none := by
  cases e <;> simp_all [isReport, request?]

theorem answeredRequest?_of_isReport {e : Event} (h : e.isReport = true) :
    e.answeredRequest? = none := by
  cases e <;> simp_all [isReport, answeredRequest?]

end Event

namespace Ledger

theorem requests_eq_history (l : Ledger) : l.requests = l.history Event.request? := by
  rw [history, events, List.filterMap_map]
  refine congrFun (congrArg _ (funext fun entry => ?_)) _
  cases h : entry.event <;> simp [h, Event.request?]

theorem answeredRequests_eq_history (l : Ledger) :
    l.answeredRequests = (l.history Event.answeredRequest?).reverse := by
  rw [history, events, List.filterMap_map, List.filterMap_reverse, List.reverse_reverse]
  refine congrFun (congrArg _ (funext fun entry => ?_)) _
  cases h : entry.event <;> simp [h, Event.answeredRequest?]

end Ledger

namespace Queue

namespace Task

/-- Whether a task waits for the answer to a request. -/
def isSent : Task → Bool
  | .job _ (.arrive _) => true
  | _ => false

theorem isSome_cycle?_of_isSent {task : Task} (h : task.isSent = true) :
    task.cycle?.isSome = true := by
  match task with
  | .job _ (.arrive _) => rfl

end Task

/-- The request of a cycle that waits for its answer. -/
def Phase.unanswered : Phase → Multiset Request
  | .sent cycle => {cycle.request}
  | _ => 0

@[simp] theorem Phase.unanswered_waiting (job : Job) : (waiting job).unanswered = 0 := rfl

namespace Workload

variable {limit : Nat} {w w' : Workload}

/-- A step has requests answered that were sent, or sends more. -/
theorem Step.unanswered (step : Step limit w w') :
    ↑(w'.history Event.answeredRequest?) + w'.underway.bind Phase.unanswered +
        (↑(w.history Event.request?) : Multiset Request) =
      ↑(w.history Event.answeredRequest?) + w.underway.bind Phase.unanswered +
        ↑(w'.history Event.request?) := by
  have reported {l l' : Ledger} {reports : List Event} (h : Ledger.Reported l reports l') :
      l'.history Event.request? = l.history Event.request? ∧
        l'.history Event.answeredRequest? = l.history Event.answeredRequest? := by
    rw [h.history, h.history, List.filterMap_eq_nil_iff.mpr, List.filterMap_eq_nil_iff.mpr]
    · simp
    · exact fun e mem => Event.answeredRequest?_of_isReport (h.isReport e mem)
    · exact fun e mem => Event.request?_of_isReport (h.isReport e mem)
  have settled (result : SaveResult) (saves : List Save) :=
    reported (Ledger.reported_settleAll w.toLedger result saves)
  cases step with
  | pass | create => rfl
  | remark event remark =>
    cases event <;> simp_all [Event.isRemark, Event.request?, Event.answeredRequest?]
  | ask object =>
    simp [Event.request?, Event.answeredRequest?, Phase.unanswered]
  | joinFirst object | joinIdle object b | joinBusy object b =>
    simp [Event.request?, Event.answeredRequest?, Phase.unanswered]
  | take b body timer hu | spoil b hu =>
    simp [Event.request?, Event.answeredRequest?, Phase.unanswered, hu]
  | post cycle hu | answer cycle answer hu =>
    simp [Event.request?, Event.answeredRequest?, Phase.unanswered, hu, ← Multiset.coe_add,
      ← Multiset.singleton_add]
    abel
  | crash cycle hu | hold cycle value hu | closeNext b response hu | begin save hu =>
    simp [Phase.unanswered, hu]
  | refuse cycle cause hu | defer cycle value task hu =>
    simp [Phase.unanswered, hu, settled]
  | abortNext b batch hu | abortLast b batch hu =>
    simp [Phase.unanswered, hu, settled]
  | closeLast b response hu =>
    obtain ⟨reports, h, -⟩ := Ledger.reported_redistribute b.key.typeName
      (b.held ++ response.toList) w.toLedger
    simp [Phase.unanswered, hu, reported h]
  | comeBack save hu =>
    simp [Event.request?, Event.answeredRequest?, Phase.unanswered, hu]
  | finish save reply hu =>
    simp [Event.request?, Event.answeredRequest?, Phase.unanswered, hu, Ledger.settle]

/-- The requests that were sent are those answered and those that wait for their answers. -/
theorem Reachable.unanswered (h : Reachable limit w) :
    ↑(w.history Event.answeredRequest?) + w.underway.bind Phase.unanswered =
      (↑(w.history Event.request?) : Multiset Request) := by
  induction h with
  | initial => rfl
  | step _ step ih =>
    have both := step.unanswered
    rw [ih, add_comm] at both
    exact add_left_cancel both

end Workload

theorem State.card_unanswered (s : State) :
    (s.underway.bind Phase.unanswered).card = s.tasks.countP Task.isSent := by
  have one (task : Task) :
      (task.phases.bind Phase.unanswered).card = if task.isSent then 1 else 0 := by
    cases task with
    | job id stage => cases stage <;> simp [Task.phases, Stage.phase, Phase.unanswered, Task.isSent]
    | admitted drain =>
      rw [Task.phases, ← Multiset.map_coe, Multiset.bind_map]
      simp [Task.isSent]
    | _ => rfl
  rw [bind_underway]
  simp only [Phase.unanswered_waiting, Multiset.bind_zero, zero_add]
  induction s.tasks with
  | nil => rfl
  | cons task tasks ih =>
    rw [← Multiset.cons_coe, Multiset.cons_bind, Multiset.card_add, ih, one, List.countP_cons,
      Nat.add_comm]

end Queue

end Writeback

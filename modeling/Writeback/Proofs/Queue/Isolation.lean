import Writeback.Proofs.Queue.Backing
import Writeback.Proofs.Queue.Lockstep
import Writeback.Proofs.Queue.Refusals
import Writeback.Proofs.Queue.Termination

/-!
# A collection fails alone

Whether the requests to one collection fail or are answered makes no difference to the schedule, to
the requests, or to the saves that are not posted to that collection, as long as the callers do the
same at the same times and enqueue no object twice. Everything the lockstep of two queues asks for
holds in every run: the answers that a bucket holds are to requests for its collection, and an
object whose save was posted is not enqueued again.
-/

namespace Writeback

section Options

variable {α β γ δ : Type} {r : α → β → Prop} {r' : γ → δ → Prop} {x : Option α} {y : Option β}

theorem rel_bind {f : α → Option γ} {g : β → Option δ} (rel : Option.Rel r x y)
    (next : ∀ a b, x = some a → y = some b → r a b → Option.Rel r' (f a) (g b)) :
    Option.Rel r' (x.bind f) (y.bind g) := by
  cases rel with
  | none => exact .none
  | some related => exact next _ _ rfl rfl related

theorem rel_mono {q : α → β → Prop} (rel : Option.Rel r x y) (weaker : ∀ a b, r a b → q a b) :
    Option.Rel q x y := by
  cases rel with
  | none => exact .none
  | some related => exact .some (weaker _ _ related)

end Options

namespace Ledger

theorem mem_told {l : Ledger} {plural : String} {entry : Entry} : entry ∈ l.told plural ↔
    entry ∈ l.journal ∧ entry.event.isOutcome plural (l.postedTo plural) = false := by
  simp [told, List.mem_filter]

theorem postedTo_subset {l l' : Ledger} {news : List Event} (events : l'.events = l.events ++ news)
    (plural : String) : l.postedTo plural ⊆ l'.postedTo plural := by
  rw [postedTo, postedTo, events, List.flatMap_append]
  exact List.subset_append_left _ _

/-- Ledgers that are alike agree, at all times, on everything but outcomes. -/
theorem AlikeBut.timed {α : Type} {plural : String} {l l' : Ledger} (h : AlikeBut plural l l')
    {pick : Event → Option α}
    (blind : ∀ e saves, e.isOutcome plural saves = true → pick e = none) :
    l'.timed pick = l.timed pick := by
  have read (m : Ledger) : m.timed pick = (m.told plural).reverse.filterMap fun entry =>
      (pick entry.event).map fun x => (entry.time, x) := by
    rw [Ledger.timed, Ledger.told, ← List.filter_reverse, List.filterMap_filter]
    apply List.filterMap_congr
    intro entry _
    cases out : entry.event.isOutcome plural (m.postedTo plural) with
    | false => simp
    | true => simp [blind _ _ out]
  rw [read, read, h.told]

end Ledger

namespace Queue

namespace Workload

variable {limit : Nat} {w : Workload} {key : BucketKey} {batch : List Save} {request : Request}

theorem InLine.plural_of_bucket (h : InLine w) {b : Bucket} (hb : b ∈ w.buckets) :
    w.pluralOf b.key = b.plural :=
  (h.plural b.line (Multiset.mem_map_of_mem Bucket.line hb)).2

theorem plural_of_mem_requestsOf (mem : (batch, request) ∈ w.requestsOf key) :
    request.plural = w.pluralOf key := by
  obtain ⟨-, body, -, rfl⟩ := Ledger.mem_requestsOf mem
  rfl

theorem Reachable.plural_of_posted (h : Reachable limit w)
    (posted : .posted key batch request ∈ w.events) : request.plural = w.pluralOf key := by
  have mem : (batch, request) ∈ w.requestsOf key := by
    rw [← h.inTurn.sends key (w.toSend key).toList (Multiset.coe_toList _)]
    exact List.mem_append_left _ (Ledger.mem_posted.mpr posted)
  exact plural_of_mem_requestsOf mem

theorem Reachable.plural_of_leaving (h : Reachable limit w) {cycle : Cycle}
    (hp : .leaving cycle ∈ w.underway) : cycle.request.plural = w.pluralOf cycle.key := by
  have mem : (cycle.batch, cycle.request) ∈ w.requestsOf cycle.key := by
    rw [← h.inTurn.sends cycle.key (w.toSend cycle.key).toList (Multiset.coe_toList _)]
    apply List.mem_append_right
    exact Multiset.mem_toList.mpr (Multiset.mem_bind.mpr ⟨_, hp, by simp [Phase.toSend]⟩)
  exact plural_of_mem_requestsOf mem

theorem Reachable.posted_of_sent (h : Reachable limit w) {cycle : Cycle}
    (hp : .sent cycle ∈ w.underway) : .posted cycle.key cycle.batch cycle.request ∈ w.events := by
  apply Ledger.mem_posted.mp
  rw [← h.inTurn.answers cycle.key (w.toAnswer cycle.key).toList (Multiset.coe_toList _)]
  apply List.mem_append_right
  exact Multiset.mem_toList.mpr (Multiset.mem_bind.mpr ⟨_, hp, by simp [Phase.toAnswer]⟩)

/-- When no job is under way, every request that was sent was answered. -/
theorem Reachable.exists_answer (h : Reachable limit w) (none : w.underway = 0)
    (posted : .posted key batch request ∈ w.events) :
    ∃ answer, .answered key batch request answer ∈ w.events := by
  have all := h.inTurn.answers key [] (by rw [toAnswer, none, Multiset.zero_bind]; rfl)
  rw [List.append_nil] at all
  have closed : (batch, request) ∈ w.closedRequests key := all ▸ Ledger.mem_posted.mpr posted
  obtain ⟨⟨_, _, answer⟩, mem, same⟩ := List.mem_map.mp closed
  cases same
  exact ⟨answer, Ledger.mem_answered.mp mem⟩

/-- A save that was posted had joined a bucket. -/
theorem Reachable.joined_of_postedTo (h : Reachable limit w) {plural : String} {save : Save}
    (mem : save ∈ w.postedTo plural) : ∃ key, save ∈ joinedIn key w.events := by
  obtain ⟨key, batch, request, posted, -, mem⟩ := Ledger.mem_postedTo.mp mem
  refine ⟨key, (h.posted_sublist key).subset (List.mem_flatten.mpr ⟨batch, ?_, mem⟩)⟩
  exact List.mem_map_of_mem (f := Prod.fst) (Ledger.mem_posted.mpr posted)

end Workload

namespace ReachableInAnyOrder

variable {setup : Setup} {s t : State}

theorem owns (h : ReachableInAnyOrder setup s) {key : BucketKey} {name : String}
    (same : name = s.pluralOf key) : s.Owns key name := by
  intro b hb here
  rw [same, ← here]
  exact (h.workload.inLine.plural_of_bucket (Multiset.mem_coe.mpr hb)).symm

theorem kept (h : ReachableInAnyOrder setup s) (plural : String) : s.Kept plural where
  keys := Multiset.coe_nodup.mp h.workload.tokens.keys
  posted b hb mine save mem := by
    obtain ⟨response, held, mem⟩ := List.mem_flatMap.mp mem
    obtain ⟨request, answered, -⟩ := h.workload.backed.held b (Multiset.mem_coe.mpr hb) _ held
    obtain ⟨m, sent, -⟩ := h.workload.posted_of_mem_answered answered
    have posted := Ledger.mem_posted.mp (List.mem_of_getElem? sent)
    have plural := h.workload.plural_of_posted posted
    rw [h.workload.inLine.plural_of_bucket (Multiset.mem_coe.mpr hb), mine] at plural
    exact Ledger.mem_postedTo.mpr ⟨_, _, _, posted, plural, mem⟩

theorem fits (h : ReachableInAnyOrder setup s) (plural : String) {task : Task}
    (mem : task ∈ s.ready) : task.Fits plural s := by
  cases task with
  | job id stage =>
    have there := State.phase_mem_underway (List.mem_append_left _ mem)
    cases stage with
    | depart cycle => exact h.owns (h.workload.plural_of_leaving there)
    | arrive cycle =>
      have posted := h.workload.posted_of_sent there
      refine ⟨h.owns (h.workload.plural_of_posted posted), fun mine save mem => ?_⟩
      exact Ledger.mem_postedTo.mpr ⟨_, _, _, posted, mine, mem⟩
    | _ => trivial
  | _ => trivial

/-- When nothing is left to do, the saves that were posted to a collection whose requests all fail
ended with the cause. -/
theorem result?_of_refused (h : ReachableInAnyOrder setup s) (quiescent : s.Quiescent)
    {plural : String} {cause : TransportFailure} (refuses : setup.Refuses plural cause)
    {save : Save} (mem : save ∈ s.postedTo plural) :
    s.result? save.handle = some (.error (.ofTransport cause)) := by
  obtain ⟨key, batch, request, posted, mine, mem⟩ := Ledger.mem_postedTo.mp mem
  obtain ⟨answer, answered⟩ :=
    h.workload.exists_answer (h.of_quiescent quiescent).2.2.1 posted
  exact Ledger.result?_of_settled h.workload.ended.1
    (h.refused refuses key batch request answer answered mine save mem)

/-- What a handle ended with stays. -/
theorem result?_later (h : ReachableInAnyOrder setup s) (later : Later setup s t) {handle : Nat}
    {result : SaveResult} (known : s.result? handle = some result) :
    t.result? handle = some result := by
  obtain ⟨news, events⟩ := (later.steps h.workload.tokens.guarded).exists_news
  obtain ⟨save, rfl, settled⟩ := Ledger.mem_results.mp (Ledger.mem_results_of_result? known)
  have still : .settled save result ∈ t.events := by
    change _ ∈ t.workload.events
    rw [events]
    exact List.mem_append_left _ settled
  exact Ledger.result?_of_settled (h.later later).workload.ended.1 still

end ReachableInAnyOrder

/-- The object that is enqueued. -/
def Action.enqueued? : Action → Option Nat
  | enqueue object => some object
  | _ => none

namespace Setup

variable {plural : String} {setup other : Setup} {actions : List Action} {s t : State}

/-- The objects of the saves that joined buckets were enqueued. -/
theorem object_enqueued (run : setup.run? actions = some s) {key : BucketKey} {save : Save}
    (joined : save ∈ joinedIn key s.events) : save.object ∈ actions.filterMap Action.enqueued? := by
  let Known (actions : List Action) (s : State) : Prop :=
    ∀ save ∈ joinedIn key s.events, save.object ∈ actions.filterMap Action.enqueued?
  have nothing : Known [] (.initial setup.settings) := by
    intro save mem
    exact absurd mem List.not_mem_nil
  refine run?_induction (P := Known) nothing ?_ run save joined
  intro actions s action t before known performed save mem
  rw [List.filterMap_append, List.mem_append]
  have reachable : ReachableInAnyOrder setup s := reachable_iff.mpr ⟨actions, before⟩
  -- a save that joins a bucket takes a handle, so where none is taken, none joins
  have unasked (handles : t.handles = s.handles) :
      save.object ∈ actions.filterMap Action.enqueued? := by
    have turn : Turn setup s t := State.turn_iff.mpr ⟨action, performed⟩
    exact known save (reachable.joinedIn_of_handles turn handles key ▸ mem)
  cases action with
  | enqueue object =>
    obtain ⟨-, performed⟩ := Option.ite_none_right_eq_some.mp performed
    cases performed
    rw [State.joinedIn_enqueue] at mem
    rcases List.mem_append.mp mem with old | new
    · exact .inl (known save old)
    · right
      split at new
      · rw [List.mem_singleton.mp new]
        exact List.mem_singleton_self object
      · exact absurd new List.not_mem_nil
  | step => exact .inl (unasked (State.handles_step? performed))
  | flush =>
    cases performed
    exact .inl (unasked (State.handles_drain _ _))
  | create | flushLater =>
    cases performed
    exact .inl (unasked rfl)
  | wait | reorder | elapse =>
    obtain ⟨-, performed⟩ := Option.ite_none_right_eq_some.mp performed
    cases performed
    exact .inl (unasked rfl)

/-- Two runs stay in step when their transports differ in nothing but how they answer requests to a
collection, the same is done in both, and no object is enqueued twice. -/
theorem alike_run (agree : setup.AlikeBut plural other)
    (once : (actions.filterMap Action.enqueued?).Nodup) :
    Option.Rel (State.AlikeBut plural) (setup.run? actions) (other.run? actions) := by
  induction actions using List.reverseRecOn with
  | nil =>
    have same : State.initial other.settings = .initial setup.settings := by rw [agree.settings]
    exact .some (same ▸ .refl plural _)
  | append_singleton actions action ih =>
    rw [List.filterMap_append, List.nodup_append] at once
    obtain ⟨earlier, -, apart⟩ := once
    rw [run?_concat, run?_concat]
    refine rel_bind (ih earlier) fun s t hs ht alike => ?_
    have first : ReachableInAnyOrder setup s := reachable_iff.mpr ⟨actions, hs⟩
    have second : ReachableInAnyOrder other t := reachable_iff.mpr ⟨actions, ht⟩
    refine alike.perform? agree (first.kept plural) (second.kept plural)
      (fun task mem => first.fits plural mem) ?_
    -- an object whose save was posted was enqueued before, and is not enqueued again
    intro object enqueues save posted
    obtain ⟨key, joined⟩ := first.workload.joined_of_postedTo posted
    exact apart _ (object_enqueued hs joined) object (by simp [enqueues, Action.enqueued?])

/-- A queue over a transport that answers by the request alone, and fails some collections. -/
def mocked (settings : Settings) (tracker : Tracker) (latency : Nat)
    (responder : Request → Answer) (failing : List String) : Setup :=
  ⟨settings, .mock latency responder failing, tracker⟩

section Mocked

variable (settings : Settings) (tracker : Tracker) (latency : Nat) (responder : Request → Answer)
  (failing : List String) (plural : String)

theorem mocked_alikeBut : (mocked settings tracker latency responder failing).AlikeBut plural
    (mocked settings tracker latency responder (plural :: failing)) where
  settings := rfl
  departure _ _ _ := rfl
  latency _ _ _ := rfl
  answer _ _ request other := by simp [mocked, Transport.mock, other]

theorem mocked_refuses : (mocked settings tracker latency responder (plural :: failing)).Refuses
    plural Transport.mockFailure := by
  intro _ request mine
  simp [mocked, Transport.mock, mine]

end Mocked

/-- The machine that is let run ends every save that was posted to a collection whose requests all
fail with the cause, and none of them ended otherwise before. -/
theorem ends_refused {cause : TransportFailure} (refuses : setup.Refuses plural cause)
    (run : setup.run? actions = some s) {save : Save} (mem : save ∈ s.postedTo plural) :
    (∀ result, s.result? save.handle = some result → result = .error (.ofTransport cause)) ∧
      ∃ steps t, setup.run? (actions ++ List.replicate steps .step) = some t ∧
        t.result? save.handle = some (.error (.ofTransport cause)) := by
  have reachable : ReachableInAnyOrder setup s := reachable_iff.mpr ⟨actions, run⟩
  have later := s.later_runUntil setup fun _ => false
  obtain ⟨news, events⟩ := (later.steps reachable.workload.tokens.guarded).exists_news
  have ended := (reachable.later later).result?_of_refused (s.quiescent_runUntil setup) refuses
    (Ledger.postedTo_subset events plural mem)
  constructor
  · intro result known
    exact Option.some.inj ((reachable.result?_later later known).symm.trans ended)
  · obtain ⟨steps, -, last⟩ := exists_steps (fun _ => false) s.work run
    exact ⟨steps, _, last, ended⟩

end Setup

/-- What two queues show of themselves is the same, but for what came of the requests to a
collection: the schedule, the time, the buckets but for the answers they hold, the requests with
the times they were sent at, and how and when the other saves ended. -/
structure State.ShowsAlike (plural : String) (s t : State) : Prop where
  schedule : t = { s with buckets := t.buckets, toLedger := t.toLedger }
  clock : t.clock = s.clock
  buckets : (t.buckets.map fun b => { b with held := [] }) =
    s.buckets.map fun b => { b with held := [] }
  requests : t.timed Event.request? = s.timed Event.request?
  posted : t.postedTo plural = s.postedTo plural
  ends : ∀ save ∉ s.postedTo plural, ∀ time result,
    ⟨time, .settled save result⟩ ∈ t.journal ↔ ⟨time, .settled save result⟩ ∈ s.journal

theorem State.AlikeBut.showsAlike {plural : String} {s t : State} (h : s.AlikeBut plural t) :
    s.ShowsAlike plural t where
  schedule := h.schedule
  clock := h.ledger.clock
  buckets := by
    have bare (b : Bucket) : { b.unheld plural with held := [] } = { b with held := [] } := by
      by_cases mine : b.plural = plural <;> simp [Bucket.unheld, mine]
    have same := congrArg (List.map fun b : Bucket => { b with held := [] }) h.buckets
    simpa only [List.map_map, Function.comp_def, bare] using same
  requests := h.ledger.timed fun e saves out => by
    cases e <;> simp_all [Event.isOutcome, Event.request?]
  posted := h.postedTo
  ends save other time result := by
    have told (l : Ledger) (same : l.postedTo plural = s.postedTo plural) :
        ⟨time, .settled save result⟩ ∈ l.journal ↔
          ⟨time, .settled save result⟩ ∈ l.told plural := by
      simp [Ledger.mem_told, Event.isOutcome, same, other]
    rw [told t.toLedger h.postedTo, told s.toLedger rfl, h.ledger.told]

/-- A collection whose requests fail, fails alone. Take two runs over transports that answer after
the same time and by the request alone, in which the same is done and no object is enqueued twice;
only in the second, one collection more is to fail. Then both go equally far, and at each moment
they show the same: requests, buckets and schedule, and how and when the saves ended that were not
posted to that collection. Every save that was posted to it ends in the second run with the
failure. -/
theorem Setup.collection_fails_alone (settings : Settings) (tracker : Tracker) (latency : Nat)
    (responder : Request → Answer) (failing : List String) (plural : String)
    {actions : List Action} (once : (actions.filterMap Action.enqueued?).Nodup) :
    Option.Rel (State.ShowsAlike plural)
        ((mocked settings tracker latency responder failing).run? actions)
        ((mocked settings tracker latency responder (plural :: failing)).run? actions) ∧
      ∀ t, (mocked settings tracker latency responder (plural :: failing)).run? actions = some t →
        ∀ save ∈ t.postedTo plural,
          (∀ result, t.result? save.handle = some result →
            result = .error (.ofTransport Transport.mockFailure)) ∧
          ∃ steps u, (mocked settings tracker latency responder (plural :: failing)).run?
              (actions ++ List.replicate steps .step) = some u ∧
            u.result? save.handle = some (.error (.ofTransport Transport.mockFailure)) := by
  constructor
  · have alike := alike_run
      (mocked_alikeBut settings tracker latency responder failing plural) once
    exact rel_mono alike fun _ _ => State.AlikeBut.showsAlike
  · intro t run save posted
    exact ends_refused (mocked_refuses settings tracker latency responder failing plural) run posted

/-- A person whose hook crashes between a control and a direct save, which share one permit: whether
the request for the person fails or not, the control has been created, and nothing else differs. -/
theorem Setup.collection_fails_alone_between_others :
    let settings : Settings := { batchSize := 1, maxInstances := 1 }
    let calm := mocked settings .recording 5 (fun r => .body (echoBody r)) []
    let troubled := mocked settings .recording 5 (fun r => .body (echoBody r)) ["people"]
    let actions : List Action :=
      [.create ⟨{}, true, 0, none⟩, .enqueue 0,
        .create ⟨{ model := ⟨"person", "people", "Person"⟩, hook := fun _ => .crashed },
          true, 0, none⟩, .enqueue 1,
        .create ⟨{ saveTime := 3 }, false, 0, none⟩, .enqueue 2, .flush] ++ List.replicate 11 .step
    (actions.filterMap Action.enqueued?).Nodup ∧
      ∃ s t, calm.run? actions = some s ∧ troubled.run? actions = some t ∧
        s.ShowsAlike "people" t ∧ s.result? 1 = some (.error .cancelled) ∧
        ∃ steps u, troubled.run? (actions ++ List.replicate steps .step) = some u ∧
          u.result? 1 = some (.error (.ofTransport Transport.mockFailure)) := by
  intro settings calm troubled actions
  have once : (actions.filterMap Action.enqueued?).Nodup := by decide +kernel
  have first : (calm.run? actions).map (·.result? 1) = some (some (.error .cancelled)) := by
    decide +kernel
  have second : (troubled.run? actions).map (·.postedTo "people") = some [⟨1, 1⟩] := by
    decide +kernel
  obtain ⟨s, run, cancelled⟩ := Option.map_eq_some_iff.mp first
  obtain ⟨t, run', posted⟩ := Option.map_eq_some_iff.mp second
  obtain ⟨alike, fails⟩ := collection_fails_alone settings .recording 5
    (fun r => .body (echoBody r)) [] "people" once
  have both : Option.Rel (State.ShowsAlike "people") (some s) (some t) := run ▸ run' ▸ alike
  cases both with
  | some alike =>
    have mine : (⟨1, 1⟩ : Save) ∈ t.postedTo "people" := posted ▸ List.mem_singleton_self _
    exact ⟨once, s, t, run, run', alike, cancelled, (fails t run' ⟨1, 1⟩ mine).2⟩

end Queue

end Writeback

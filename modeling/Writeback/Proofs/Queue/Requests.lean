import Writeback.Proofs.Queue.Lines
import Writeback.Proofs.Queue.Simulation

/-!
# Requests are sent in the order of their batches

The requests posted for a bucket are those that its batches make, in the order the batches were
taken, but for a last one that has not left yet; and the requests answered are those posted, but
for a last one that is out. Element by element, a request is what the objects of its batch
serialize to.
-/

namespace Writeback

namespace Ledger

/-- The requests that the batches taken out of a bucket make, in order. -/
def requestsOf (l : Ledger) (key : BucketKey) : List (List Save × Request) :=
  (takenIn key l.events).filterMap (l.request? key (l.pluralOf key))

/-- The batches of a bucket that were answered, each with its request. -/
def closedRequests (l : Ledger) (key : BucketKey) : List (List Save × Request) :=
  (l.answered key).map fun entry => (entry.1, entry.2.1)

variable {l l' : Ledger} {key : BucketKey}

theorem batchBody?_congr {batch : List Save}
    (h : ∀ save ∈ batch, l'.saveable save.object = l.saveable save.object) :
    l'.batchBody? key batch = l.batchBody? key batch := by
  unfold batchBody?
  induction batch with
  | nil => rfl
  | cons save batch ih =>
    rw [List.mapM_cons, List.mapM_cons, h save List.mem_cons_self,
      ih fun other mem => h other (List.mem_cons_of_mem _ mem)]

theorem request?_congr {plural : String} {batch : List Save}
    (h : ∀ save ∈ batch, l'.saveable save.object = l.saveable save.object) :
    l'.request? key plural batch = l.request? key plural batch := by
  rw [request?, request?, batchBody?_congr h]

/-- Element `i` of a body is object `i` of the batch, under the name of the type. -/
theorem getElem?_batchBody? {l : Ledger} {key : BucketKey} {batch : List Save} {body : List Json}
    (h : l.batchBody? key batch = some body) :
    body.length = batch.length ∧ ∀ (i : Nat) (save : Save), batch[i]? = some save →
      ∃ value, (l.saveable save.object).body = some value ∧
        body[i]? = some (.obj [(key.typeName, value)]) := by
  induction batch generalizing body with
  | nil =>
    obtain rfl : body = [] := by simpa [batchBody?] using h.symm
    exact ⟨rfl, by simp⟩
  | cons first batch ih =>
    obtain ⟨value, hv, rest, hr, rfl⟩ : ∃ value, (l.saveable first.object).body = some value ∧
        ∃ rest, l.batchBody? key batch = some rest ∧
          body = .obj [(key.typeName, value)] :: rest := by
      simp only [batchBody?, List.mapM_cons, Option.bind_eq_bind, Option.bind_eq_some_iff,
        Option.map_eq_some_iff, Option.pure_def, Option.some.injEq] at h
      obtain ⟨_, ⟨value, hv, rfl⟩, rest, hr, rfl⟩ := h
      exact ⟨value, hv, rest, hr, rfl⟩
    obtain ⟨length, entries⟩ := ih hr
    refine ⟨by simp [length], ?_⟩
    intro i save at_i
    cases i with
    | zero =>
      obtain rfl : first = save := by simpa using at_i
      exact ⟨value, hv, rfl⟩
    | succ i => simpa using entries i save (by simpa using at_i)

theorem isSome_batchBody? (l : Ledger) (key : BucketKey) (batch : List Save) :
    (l.batchBody? key batch).isSome =
      batch.all fun save => (l.saveable save.object).body.isSome := by
  induction batch with
  | nil => rfl
  | cons save batch ih =>
    rw [List.all_cons, ← ih]
    simp only [batchBody?, List.mapM_cons]
    cases (l.saveable save.object).body with
    | none => rfl
    | some value =>
      cases batch.mapM fun save =>
        (l.saveable save.object).body.map fun body => Json.obj [(key.typeName, body)] <;> rfl

theorem map_fst_requestsOf (l : Ledger) (key : BucketKey) :
    (l.requestsOf key).map Prod.fst = (takenIn key l.events).filter fun batch =>
      batch.all fun save => (l.saveable save.object).body.isSome := by
  rw [requestsOf]
  induction takenIn key l.events with
  | nil => rfl
  | cons batch batches ih =>
    have some := l.isSome_batchBody? key batch
    rw [List.filter_cons, ← some]
    cases hb : l.batchBody? key batch <;> simp [request?, hb, ih]

theorem mem_requestsOf {l : Ledger} {key : BucketKey} {batch : List Save} {request : Request}
    (h : (batch, request) ∈ l.requestsOf key) :
    batch ∈ takenIn key l.events ∧ ∃ body, l.batchBody? key batch = some body ∧
      request = ⟨l.pluralOf key, key.background, body⟩ := by
  obtain ⟨taken, mem, made⟩ := List.mem_filterMap.mp h
  obtain ⟨body, hb, same⟩ := Option.map_eq_some_iff.mp made
  obtain ⟨rfl, rfl⟩ := Prod.mk.inj same
  exact ⟨mem, body, hb, rfl⟩

end Ledger

section Readings

variable {events news : List Event} {key : BucketKey}

theorem posted_of_silent (silent : ∀ e ∈ news, e.isWire = false) :
    news.filterMap (Event.posted? key) = [] :=
  List.filterMap_eq_nil_iff.mpr fun e he => (Event.readings_of_silent (silent e he) key).2.2.1

theorem answered_of_silent (silent : ∀ e ∈ news, e.isWire = false) :
    news.filterMap (Event.answered? key) = [] :=
  List.filterMap_eq_nil_iff.mpr fun e he => (Event.readings_of_silent (silent e he) key).2.2.2

theorem Ledger.posted_append {l l' : Ledger} (h : l'.events = l.events ++ news) :
    l'.posted key = l.posted key ++ news.filterMap (Event.posted? key) := by
  rw [posted, history, h, List.filterMap_append, posted, history]

theorem Ledger.closedRequests_append {l l' : Ledger} (h : l'.events = l.events ++ news) :
    l'.closedRequests key = l.closedRequests key ++
      (news.filterMap (Event.answered? key)).map fun entry => (entry.1, entry.2.1) := by
  rw [closedRequests, answered, history, h, List.filterMap_append, List.map_append,
    closedRequests, answered, history]

end Readings

namespace Queue

namespace Workload

variable {limit : Nat} {w w' : Workload} {key : BucketKey}

/-- The requests that batches make do not change after the batches were taken. -/
theorem InLine.requestsOf_append (h : InLine w)
    (kept : w.Keeps w'.toLedger)
    {news : List Event} (events : w'.events = w.events ++ news) (key : BucketKey) :
    w'.requestsOf key =
      w.requestsOf key ++ (takenIn key news).filterMap (w'.request? key (w'.pluralOf key)) := by
  rw [Ledger.requestsOf, events, takenIn_append, List.filterMap_append]
  congr 1
  by_cases there : key ∈ w.lines.map Bucket.key
  · obtain ⟨b, hb, rfl⟩ := Multiset.mem_map.mp there
    have grown : joinedIn b.key w.events <+: joinedIn b.key w'.events := by
      rw [events, joinedIn_append]
      exact List.prefix_append _ _
    rw [h.pluralOf_eq kept grown (h.plural b hb).1]
    apply List.filterMap_congr
    intro batch mem
    apply Ledger.request?_congr
    intro save hs
    exact kept.saveable _ (h.known _ save (h.mem_joined_of_taken mem hs)).1
  · rw [Ledger.requestsOf, (h.absent key there).2]
    rfl

/-- Requests are sent in the order of their batches, and answered in the order they were sent. At
most one request of a bucket is still to be sent, and at most one to be answered. -/
structure InTurn (w : Workload) : Prop where
  sends : ∀ key (l : List (List Save × Request)), ↑l = w.toSend key →
    w.posted key ++ l = w.requestsOf key
  answers : ∀ key (l : List (List Save × Request)), ↑l = w.toAnswer key →
    w.closedRequests key ++ l = w.posted key

theorem eq_toList_of_coe_eq {α : Type} {l : List α} {o : Option α}
    (h : (↑l : Multiset α) = ↑o.toList) : l = o.toList := by
  cases o with
  | none => exact (Multiset.coe_eq_zero l).mp h
  | some x => exact List.perm_singleton.mp (Multiset.coe_eq_coe.mp h)

/-- A batch that is taken makes the last request of its bucket, unless a serialization crashes. -/
theorem InTurn.of_taken (h : InTurn w) (inLine : InLine w) (inLine' : InLine w')
    (kept : w.Keeps w'.toLedger)
    {line : Bucket} {others : Multiset Bucket}
    (events : w'.events = w.events ++ [.taken line.key (line.nextBatch limit)])
    (bucket : w.lines = line ::ₘ others) (lines : w'.lines = line.afterBatch limit ::ₘ others)
    (nothing : w.toSend line.key = 0)
    (made : w'.toSend line.key = ↑(w.request? line.key line.plural (line.nextBatch limit)).toList)
    {l : List (List Save × Request)} (hl : ↑l = w'.toSend line.key) :
    w.posted line.key ++ l = w'.requestsOf line.key := by
  have before : w.posted line.key ++ [] = w.requestsOf line.key := h.sends line.key [] nothing.symm
  have plural : w'.pluralOf line.key = line.plural :=
    (inLine'.plural (line.afterBatch limit) (by simp [lines])).2
  have same : w'.request? line.key line.plural (line.nextBatch limit) =
      w.request? line.key line.plural (line.nextBatch limit) := by
    refine Ledger.request?_congr fun save hs => kept.saveable _ (inLine.known line.key save ?_).1
    rw [← inLine.line line (by simp [bucket])]
    exact List.mem_append_right _ (List.mem_of_mem_take hs)
  rw [eq_toList_of_coe_eq (hl.trans made), inLine.requestsOf_append kept events, ← before,
    List.append_nil, plural]
  cases hr : w.request? line.key line.plural (line.nextBatch limit) <;>
    simp [takenIn, Event.taken?, same, hr]

theorem Step.sends (step : Step limit w w') (tokens : Tokens w) (inLine : InLine w)
    (h : InTurn w) (key : BucketKey) (l : List (List Save × Request)) (hl : ↑l = w'.toSend key) :
    w'.posted key ++ l = w'.requestsOf key := by
  have kept := step.keeps
  cases step.noticed tokens with
  | silent news events silent _ toSend =>
    rw [Ledger.posted_append events, posted_of_silent silent, List.append_nil,
      inLine.requestsOf_append kept events, takenIn_of_silent silent, List.filterMap_nil,
      List.append_nil]
    exact h.sends key l (hl.trans (toSend key))
  | joined object plural before others _ events _ _ toSend =>
    have all := h.sends key l (hl.trans (toSend key))
    simpa [Ledger.posted_append events, inLine.requestsOf_append kept events, takenIn,
      List.filterMap_cons, Event.posted?, Event.taken?] using all
  | taken line others _ events bucket lines nothing made toSend =>
    have posted : w'.posted key = w.posted key := by
      simp [Ledger.posted_append events, Event.posted?]
    rw [posted]
    by_cases here : key = line.key
    · subst here
      exact h.of_taken inLine (step.inLine tokens inLine) kept events bucket lines nothing made hl
    · have all := h.sends key l (hl.trans (toSend key here))
      rw [inLine.requestsOf_append kept events]
      simpa [takenIn, Event.taken?, Ne.symm here] using all
  | posted cycle events _ before after _ _ toSend =>
    have requests : w'.requestsOf key = w.requestsOf key := by
      simp [inLine.requestsOf_append kept events, takenIn, Event.taken?]
    rw [requests, Ledger.posted_append events]
    by_cases here : key = cycle.key
    · subst here
      have last := h.sends cycle.key [(cycle.batch, cycle.request)] before.symm
      rw [after] at hl
      rw [(Multiset.coe_eq_zero l).mp hl, ← last]
      simp [Event.posted?]
    · have all := h.sends key l (hl.trans (toSend key here))
      simpa [Event.posted?, Ne.symm here] using all
  | answered cycle answer events _ _ _ toSend =>
    have all := h.sends key l (hl.trans (toSend key))
    simpa [Ledger.posted_append events, inLine.requestsOf_append kept events, takenIn,
      List.filterMap_cons, Event.posted?, Event.taken?] using all

theorem Step.answers (step : Step limit w w') (tokens : Tokens w) (h : InTurn w)
    (key : BucketKey) (l : List (List Save × Request)) (hl : ↑l = w'.toAnswer key) :
    w'.closedRequests key ++ l = w'.posted key := by
  cases step.noticed tokens with
  | silent news events silent _ _ toAnswer =>
    rw [Ledger.posted_append events, posted_of_silent silent, Ledger.closedRequests_append events,
      answered_of_silent silent, List.map_nil, List.append_nil, List.append_nil]
    exact h.answers key l (hl.trans (toAnswer key))
  | joined _ _ _ _ _ events _ _ _ toAnswer | taken _ _ _ events _ _ _ _ _ toAnswer =>
    have all := h.answers key l (hl.trans (toAnswer key))
    simpa [Ledger.posted_append events, Ledger.closedRequests_append events,
      List.filterMap_cons, Event.posted?, Event.answered?] using all
  | posted cycle events _ _ _ nothing sent _ toAnswer =>
    rw [Ledger.posted_append events, Ledger.closedRequests_append events]
    by_cases here : key = cycle.key
    · subst here
      have all := h.answers cycle.key [] nothing.symm
      rw [sent] at hl
      rw [Multiset.coe_eq_singleton.mp hl, ← all]
      simp [Event.posted?, Event.answered?]
    · have all := h.answers key l (hl.trans (toAnswer key here))
      simpa [List.filterMap_cons, Event.posted?, Event.answered?, Ne.symm here] using all
  | answered cycle answer events _ before after _ toAnswer =>
    rw [Ledger.posted_append events, Ledger.closedRequests_append events]
    by_cases here : key = cycle.key
    · subst here
      have last := h.answers cycle.key [(cycle.batch, cycle.request)] before.symm
      rw [after] at hl
      rw [(Multiset.coe_eq_zero l).mp hl, ← last]
      simp [Event.posted?, Event.answered?]
    · have all := h.answers key l (hl.trans (toAnswer key here))
      simpa [List.filterMap_cons, Event.posted?, Event.answered?, Ne.symm here] using all

theorem Reachable.inTurn (h : Reachable limit w) : InTurn w := by
  induction h with
  | initial =>
    constructor
    · intro key l hl
      rw [(Multiset.coe_eq_zero l).mp (hl.trans rfl)]
      rfl
    · intro key l hl
      rw [(Multiset.coe_eq_zero l).mp (hl.trans rfl)]
      rfl
  | step before step ih =>
    constructor
    · exact step.sends before.tokens before.inLine ih
    · exact step.answers before.tokens ih

/-- What was sent of a bucket had joined it, and was sent in the order it joined. -/
theorem Reachable.posted_sublist (h : Reachable limit w) (key : BucketKey) :
    ((w.posted key).map Prod.fst).flatten.Sublist (joinedIn key w.events) := by
  have all := h.inTurn.sends key (w.toSend key).toList (Multiset.coe_toList _)
  calc ((w.posted key).map Prod.fst).flatten
      |>.Sublist ((w.requestsOf key).map Prod.fst).flatten := by
        rw [← all, List.map_append, List.flatten_append]
        exact List.sublist_append_left _ _
    List.Sublist _ (takenIn key w.events).flatten := by
        rw [Ledger.map_fst_requestsOf]
        exact List.filter_sublist.flatten
    List.Sublist _ (joinedIn key w.events) := (h.inLine.taken_prefix key).sublist

theorem Reachable.posted_of_answered (h : Reachable limit w) {key : BucketKey} {m : Nat}
    {batch : List Save} {request : Request} {answer : Answer}
    (answered : (w.answered key)[m]? = some (batch, request, answer)) :
    (w.posted key)[m]? = some (batch, request) := by
  have all := h.inTurn.answers key (w.toAnswer key).toList (Multiset.coe_toList _)
  have closed : (w.closedRequests key)[m]? = some (batch, request) := by
    rw [Ledger.closedRequests, List.getElem?_map, answered]
    rfl
  rw [← all, List.getElem?_append_left (List.getElem?_eq_some_iff.mp closed).1, closed]

end Workload

/-- The batch of a bucket that a task is about to send, with its request. -/
def Task.departing? (key : BucketKey) : Task → Option (List Save × Request)
  | .job _ (.depart cycle) =>
    if cycle.key = key then some (cycle.batch, cycle.request) else none
  | _ => none

/-- The batches of a bucket whose requests were made and have not left. -/
def State.departing (s : State) (key : BucketKey) : List (List Save × Request) :=
  s.tasks.filterMap (Task.departing? key)

theorem bind_toList {α β : Type} (l : List α) (f : α → Option β) :
    (↑l : Multiset α).bind (fun x => (↑(f x).toList : Multiset β)) = ↑(l.filterMap f) := by
  induction l with
  | nil => rfl
  | cons x l ih =>
    rw [← Multiset.cons_coe, Multiset.cons_bind, ih]
    cases h : f x <;> simp [h]

theorem State.coe_departing (s : State) (key : BucketKey) :
    ↑(s.departing key) = s.workload.toSend key := by
  have none (l : List Job) :
      (↑l : Multiset Job).bind (fun job => (Phase.waiting job).toSend key) = 0 :=
    Multiset.bind_zero _
  have all : s.workload.toSend key = _ := s.bind_underway (Phase.toSend key)
  rw [all, none, zero_add, departing, ← bind_toList]
  apply Multiset.bind_congr
  intro task _
  cases task with
  | job id stage =>
    cases stage with
    | depart cycle =>
      by_cases same : cycle.key = key <;>
        simp [Task.phases, Stage.phase, Phase.toSend, Task.departing?, same]
    | _ => rfl
  | admitted drain =>
    rw [Task.phases, ← Multiset.map_coe, Multiset.bind_map]
    exact (none drain.jobs).symm
  | _ => rfl

/-- The requests that were sent, with one that may be about to leave, are those of the batches. -/
theorem ReachableInAnyOrder.posted_departing {setup : Setup} {s : State}
    (h : ReachableInAnyOrder setup s) (key : BucketKey) :
    s.posted key ++ s.departing key = s.requestsOf key :=
  h.workload.inTurn.sends key (s.departing key) (s.coe_departing key)

end Queue

end Writeback

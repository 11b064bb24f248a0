import Writeback.Proofs.Queue.Calls
import Writeback.Proofs.Queue.Legs

/-!
# A transport that echoes

What a hook is called with is the payload of the entry that the answer has for its save. Over a
transport that creates every item as it is, that is what the object of the save serializes to, and
a save that no crash cuts short ends as its hook makes of it.
-/

namespace Writeback

namespace Ledger

/-- Only an entry that accepts its object has a hook called, and with its payload. -/
theorem of_hooked_reportsFor {l : Ledger} {typeName : String} {save other : Save}
    {entry : Option Json} {payload : Json}
    (called : .hooked save payload ∈ l.reportsFor typeName other entry) :
    other = save ∧ Verdict.ofEntry typeName entry = .accepted payload := by
  cases verdict : Verdict.ofEntry typeName entry with
  | rejected entry => simp [reportsFor, verdict] at called
  | accepted given =>
    cases reply : (l.saveable other.object).hook given <;>
      simp_all [reportsFor]

/-- A redistribution calls hooks with the payloads of their entries. -/
theorem of_hooked_redistribute {l : Ledger} {typeName : String} {responses : List HeldResponse}
    {save : Save} {payload : Json}
    (called : .hooked save payload ∈ (l.redistribute typeName responses).1.events) :
    .hooked save payload ∈ l.events ∨ ∃ entry, (save, entry) ∈ assignEntries responses ∧
      Verdict.ofEntry typeName entry = .accepted payload := by
  have of_pairs {pairs : List (Save × Option Json)} (part : pairs ⊆ assignEntries responses)
      (mem : .hooked save payload ∈
        pairs.flatMap fun pair => l.reportsFor typeName pair.1 pair.2) :
      ∃ entry, (save, entry) ∈ assignEntries responses ∧
        Verdict.ofEntry typeName entry = .accepted payload := by
    obtain ⟨⟨other, entry⟩, there, mem⟩ := List.mem_flatMap.mp mem
    obtain ⟨rfl, accepted⟩ := of_hooked_reportsFor mem
    exact ⟨entry, part there, accepted⟩
  rcases l.events_deliverAll typeName (assignEntries responses) with
    ⟨-, events⟩ | ⟨front, first, entry, rest, given, split, -, -, only, events⟩
  · rw [redistribute, events, List.mem_append] at called
    exact called.imp_right (of_pairs (List.Subset.refl _))
  · rw [redistribute, events, List.mem_append, List.mem_append, List.mem_cons] at called
    rcases called with (old | mem) | same | settled
    · exact .inl old
    · exact .inr (of_pairs (split ▸ List.subset_append_left _ _) mem)
    · cases same
      refine .inr ⟨entry, split ▸ by simp, ?_⟩
      exact (of_hooked_reportsFor (only ▸ List.mem_singleton_self _)).2
    · obtain ⟨other, -, same⟩ := List.mem_map.mp settled
      cases same

end Ledger

/-- An echo accepts each object with what it serialized to. -/
theorem item?_echoBody {request : Request} {i : Nat} {item : Json}
    (at_i : request.body[i]? = some item) :
    (echoBody request).item? i = some (.arr [.num (.int 201 (by decide)), item]) := by
  rw [echoBody, Json.item?, List.getElem?_map, at_i]
  rfl

theorem Number.isSuccess_created : (Number.int 201 (by decide)).isSuccess = true :=
  (isSuccess_int _).mpr (by decide)

theorem Json.field?_singleton (key : String) (value : Json) :
    (Json.obj [(key, value)]).field? key = some value := by
  simp [field?, Fields.get?]

theorem Settles.created_of_echo {s : Saveable} {typeName : String} {save : Save} {i : Nat}
    {request : Request} {reports : List Event} {body value : Json}
    (h : Settles s typeName save i (.body (echoBody request)) reports)
    (at_i : request.body[i]? = some (.obj [(typeName, body)]))
    (returns : s.hook body = .returned value) :
    .settled save (.ok (.created value)) ∈ reports := by
  have entry := item?_echoBody at_i
  have plain : (echoBody request).field? "background_task" = none := rfl
  have own {status : Number} {payload : Json}
      (item : (echoBody request).item? i = some (.arr [.num status, payload])) :
      (payload.field? typeName).getD .null = body := by
    obtain ⟨rfl, rfl⟩ : .int 201 (by decide) = status ∧ .obj [(typeName, body)] = payload := by
      simpa using entry.symm.trans item
    rw [Json.field?_singleton, Option.getD_some]
  cases h with
  | deferred _ task deferred => exact absurd (plain.symm.trans deferred) (by simp)
  | created _ payload result status _ item _ _ reply =>
    rw [own item, returns] at reply
    cases reply
    simp
  | failed _ payload status failure _ item _ _ reply =>
    rw [own item, returns] at reply
    cases reply
  | rejected _ _ refused =>
    exact absurd (Number.isSuccess_iff _ |>.mp Number.isSuccess_created) (refused _ _ entry)

namespace Queue

namespace Workload

variable {limit : Nat} {w : Workload} {save : Save} {payload : Json}

/-- The hook of a save is called with the payload of the entry that the answer has for it. -/
theorem Reachable.exists_entry_of_hooked (h : Reachable limit w)
    (called : .hooked save payload ∈ w.events) :
    ∃ key batch request value, ∃ i : Nat, .answered key batch request (.body value) ∈ w.events ∧
      batch[i]? = some save ∧ Verdict.ofEntry key.typeName (value.item? i) = .accepted payload := by
  induction h with
  | initial => exact absurd called List.not_mem_nil
  | @step v w before step ih =>
    obtain ⟨more, grown⟩ := step.exists_news
    have kept (old : .hooked save payload ∈ v.events) :
        ∃ key batch request value, ∃ i : Nat, .answered key batch request (.body value) ∈ w.events ∧
          batch[i]? = some save ∧
          Verdict.ofEntry key.typeName (value.item? i) = .accepted payload := by
      obtain ⟨key, batch, request, value, i, answered, rest⟩ := ih old
      exact ⟨key, batch, request, value, i, grown ▸ List.mem_append_left _ answered, rest⟩
    rcases step.hooked_cases with
      ⟨news, events, none⟩ | ⟨rest, others, b, response, hu, hb, -, same⟩
    · rw [events, List.mem_append] at called
      refine called.elim kept fun new => ?_
      have silent := List.filterMap_eq_nil_iff.mp none _ new
      cases silent
    · rw [same] at called
      refine (Ledger.of_hooked_redistribute called).elim kept ?_
      rintro ⟨entry, mem, accepted⟩
      obtain ⟨response', held, i, at_i, rfl⟩ := mem_assignEntries.mp mem
      obtain ⟨request, answered, -⟩ : OnRecord v.events b.key response' := by
        rcases List.mem_append.mp held with held | last
        · exact before.backed.held b (by simp [hb]) response' held
        · exact before.backed.phases (.closing b.key response) (by simp [hu]) response'
            (by simpa using last)
      exact ⟨b.key, response'.batch, request, response'.body, i,
        grown ▸ List.mem_append_left _ answered, at_i, accepted⟩

/-- A batch of a request that was answered serialized, and each item is that of its object. -/
theorem Reachable.getElem?_of_answered (h : Reachable limit w) {key : BucketKey} {batch : List Save}
    {request : Request} {answer : Answer} (answered : .answered key batch request answer ∈ w.events)
    {i : Nat} (at_i : batch[i]? = some save) :
    ∃ value, (w.saveable save.object).body = some value ∧
      request.body[i]? = some (.obj [(key.typeName, value)]) := by
  obtain ⟨-, body, made, rfl⟩ := Ledger.mem_requestsOf (h.requestsOf_of_answered answered)
  exact (Ledger.getElem?_batchBody? made).2 i save at_i

end Workload

section Answers

variable {setup : Setup} {s t : State} {id : Nat} {stage : Stage}

/-- Every answer on record is one that the transport gives to its request. -/
def State.Answers (setup : Setup) (s : State) : Prop :=
  ∀ entry ∈ s.wires, ∀ key batch request answer, entry.2 = .answered key batch request answer →
    ∃ earlier, setup.transport.answer earlier request = answer

theorem Runs.answers (runs : Runs setup id s stage t) (h : s.Answers setup) : t.Answers setup := by
  refine runs.induction (P := fun _ r => r.Answers setup) (fun r stage u next leg h => ?_)
    (fun _ _ _ _ h => h) (fun r h => ?_) h
  · intro entry mem key batch request answer same
    rw [leg.wires, List.mem_append] at mem
    refine mem.elim (h entry · key batch request answer same) fun new => ?_
    obtain ⟨event, told, rfl⟩ := List.mem_map.mp new
    obtain rfl : event = .answered key batch request answer := same
    exact ⟨_, State.answer_of_tells (Option.mem_toList.mp told)⟩
  · intro entry mem
    rw [r.release_toLedger] at mem
    exact h entry mem

theorem ReachableInAnyOrder.answers (h : ReachableInAnyOrder setup s) : s.Answers setup := by
  refine h.induction (fun entry mem => absurd mem List.not_mem_nil) fun s t _ turn ih => ?_
  rcases turn.runs_or_interlude with ⟨id, stage, rest, ready, runs⟩ | between
  · exact runs.answers ih
  · intro entry mem
    exact ih entry (between.wires ▸ mem)

end Answers

/-- The transport creates every item of every request as it is. -/
def Setup.Echoes (setup : Setup) : Prop :=
  ∀ earlier request, setup.transport.answer earlier request = .body (echoBody request)

section Echoing

variable {setup : Setup} {s : State} (h : ReachableInAnyOrder setup s) (echoes : setup.Echoes)
include h echoes

theorem ReachableInAnyOrder.answer_of_echoes {key : BucketKey} {batch : List Save}
    {request : Request} {answer : Answer}
    (answered : .answered key batch request answer ∈ s.events) :
    answer = .body (echoBody request) := by
  obtain ⟨time, mem⟩ := (Ledger.mem_wires rfl).mp answered
  obtain ⟨earlier, given⟩ := h.answers _ mem key batch request answer rfl
  exact given.symm.trans (echoes earlier request)

theorem ReachableInAnyOrder.undisturbed_of_echoes : s.workload.Undisturbed s.saveable := by
  refine ⟨fun _ _ => rfl, fun key batch request answered => ?_⟩
  have echo := h.answer_of_echoes echoes answered
  cases echo

/-- A hook is called with what its object serializes to. -/
theorem ReachableInAnyOrder.body_of_hooked {save : Save} {payload : Json}
    (called : .hooked save payload ∈ s.events) : (s.saveable save.object).body = some payload := by
  obtain ⟨key, batch, request, value, i, answered, at_i, accepted⟩ :=
    h.workload.exists_entry_of_hooked called
  obtain ⟨body, serialized, item⟩ := h.workload.getElem?_of_answered answered at_i
  obtain rfl : value = echoBody request := Answer.body.inj (h.answer_of_echoes echoes answered)
  rw [item?_echoBody item] at accepted
  simp only [Verdict.ofEntry, Number.isSuccess_created, if_true, Json.field?_singleton,
    Option.getD_some, Verdict.accepted.injEq] at accepted
  exact accepted ▸ serialized

/-- At rest, a save that no crash cut short ended as its hook made of its object. -/
theorem ReachableInAnyOrder.created_of_echoes (quiescent : s.Quiescent) {key : BucketKey}
    {save : Save} (joined : .joined key save ∈ s.events)
    (uncut : ¬CutShort s.saveable s.events key save) {body value : Json}
    (serializes : (s.saveable save.object).body = some body)
    (returns : (s.saveable save.object).hook body = .returned value) :
    s.result? save.handle = some (.ok (.created value)) := by
  have reachable := h.workload
  have reported : reportsOf save s.events ≠ [] :=
    reachable.reportsOf_ne_nil (h.of_quiescent quiescent).2.2.1 (Ledger.mem_asked_some.mpr joined)
  have accounted := reachable.accounted (h.undisturbed_of_echoes echoes)
  rcases accounted.of_joined reachable joined with
    none | ⟨m, i, batch, request, answer, -, answered, at_i, settles⟩ | ⟨cut, -⟩
  · exact absurd none reported
  · have answered := Ledger.mem_answered.mp (List.mem_of_getElem? answered)
    obtain ⟨body', serialized, item⟩ := reachable.getElem?_of_answered answered at_i
    obtain rfl : body = body' := Option.some.inj (serializes.symm.trans serialized)
    obtain rfl := h.answer_of_echoes echoes answered
    have settled := mem_of_mem_reportsOf (settles.created_of_echo item returns)
    exact Ledger.result?_of_settled reachable.ended.1 settled
  · exact absurd cut uncut

end Echoing

end Queue

end Writeback

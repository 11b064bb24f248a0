import Writeback.Proofs.Queue.History
import Writeback.Proofs.Save.Status

/-!
# What is reported of a save

Of a save that was in a batch, all that is reported is what the answer says at its position. A
request that failed ends every save of the batch with the text of the failure; a background task
ends them with the task; and otherwise each save goes by its own entry, which alone decides
whether the hook is called and with what. A redistribution reports on its saves one after the
other, and on each by its own entry, until a hook crashes.
-/

namespace Writeback

/-- An entry accepts its object when it is a pair of a status of success and a payload. -/
theorem Verdict.ofEntry_cases (typeName : String) (entry : Option Json) :
    (∃ status payload, entry = some (.arr [.num status, payload]) ∧ 200 ≤ status.value ∧
        status.value < 300 ∧
        ofEntry typeName entry = .accepted ((payload.field? typeName).getD .null)) ∨
      (∀ status payload, entry = some (.arr [.num status, payload]) →
        ¬(200 ≤ status.value ∧ status.value < 300)) ∧ ofEntry typeName entry = .rejected entry := by
  unfold ofEntry
  split
  · next status payload =>
    split
    · next success =>
      obtain ⟨low, high⟩ := status.isSuccess_iff.mp success
      exact .inl ⟨status, payload, rfl, low, high, rfl⟩
    · next failure =>
      refine .inr ⟨fun status' payload' same => ?_, rfl⟩
      obtain ⟨rfl, rfl⟩ : status = status' ∧ payload = payload' := by simpa using same
      intro success
      exact failure (status.isSuccess_iff.mpr success)
  · next other =>
    exact .inr ⟨fun status payload same => absurd same (other status payload), rfl⟩

theorem mem_assignEntries {responses : List HeldResponse} {save : Save} {entry : Option Json} :
    (save, entry) ∈ assignEntries responses ↔ ∃ response ∈ responses, ∃ i : Nat,
      response.batch[i]? = some save ∧ response.body.item? i = entry := by
  simp only [assignEntries, List.mem_flatMap, List.mem_map, Prod.mk.injEq, Prod.exists,
    List.mem_zipIdx_iff_getElem?]
  constructor
  · rintro ⟨response, mem, _, i, at_i, rfl, same⟩
    exact ⟨response, mem, i, at_i, same⟩
  · rintro ⟨response, mem, i, at_i, same⟩
    exact ⟨response, mem, save, i, at_i, rfl, same⟩

/-- Whether an event reports on a save. -/
def Event.reportsOn (save : Save) : Event → Bool
  | hooked other _ | settled other _ => other = save
  | _ => false

def reportsOf (save : Save) (events : List Event) : List Event :=
  events.filter (Event.reportsOn save)

/-- What is reported of the save at a position of a batch when the request of the batch is
answered. -/
inductive Settles (s : Saveable) (typeName : String) (save : Save) (i : Nat) :
    Answer → List Event → Prop where
  /-- The request failed. -/
  | refused (cause : TransportFailure) :
      Settles s typeName save i (.failure cause)
        [.settled save (.error (.transport cause.message))]
  /-- The batch became a background task. -/
  | deferred (value task : Json) : value.field? "background_task" = some task →
      Settles s typeName save i (.body value) [.settled save (.ok (.backgroundTask task))]
  /-- The entry accepts the object, and its hook returns. -/
  | created (value payload result : Json) (status : Number) :
      value.field? "background_task" = none →
      value.item? i = some (.arr [.num status, payload]) → 200 ≤ status.value → status.value < 300 →
      s.hook ((payload.field? typeName).getD .null) = .returned result →
      Settles s typeName save i (.body value)
        [.hooked save ((payload.field? typeName).getD .null), .settled save (.ok (.created result))]
  /-- The entry accepts the object, and its hook fails. -/
  | failed (value payload : Json) (status : Number) (failure : Failure) :
      value.field? "background_task" = none →
      value.item? i = some (.arr [.num status, payload]) → 200 ≤ status.value → status.value < 300 →
      s.hook ((payload.field? typeName).getD .null) = .failed failure →
      Settles s typeName save i (.body value)
        [.hooked save ((payload.field? typeName).getD .null), .settled save (.error failure)]
  /-- The entry does not accept the object, or there is none. -/
  | rejected (value : Json) : value.field? "background_task" = none →
      (∀ status payload, value.item? i = some (.arr [.num status, payload]) →
        ¬(200 ≤ status.value ∧ status.value < 300)) →
      Settles s typeName save i (.body value)
        [.settled save (.error (.rejected (value.item? i)))]

theorem Settles.exists_settled {s : Saveable} {typeName : String} {save : Save} {i : Nat}
    {answer : Answer} {reports : List Event} (h : Settles s typeName save i answer reports) :
    ∃ result, .settled save result ∈ reports := by
  cases h with
  | refused | deferred | rejected => exact ⟨_, List.mem_singleton_self _⟩
  | created | failed => exact ⟨_, .tail _ (List.mem_singleton_self _)⟩

/-- A save that goes by its own answer is cancelled only if its own hook says so. -/
theorem Settles.cancelled_iff {s : Saveable} {typeName : String} {save : Save} {i : Nat}
    {answer : Answer} {reports : List Event} (h : Settles s typeName save i answer reports) :
    .settled save (.error .cancelled) ∈ reports ↔
      ∃ payload, .hooked save payload ∈ reports ∧ s.hook payload = .failed .cancelled := by
  cases h with
  | failed _ _ _ _ _ _ _ _ reply => simp [reply, eq_comm]
  | _ => simp_all

/-- What is reported of a direct save by its reply. -/
inductive SettlesDirectly (save : Save) : SaveReply → List Event → Prop where
  | updated (value : Json) : SettlesDirectly save (.ok value) [.settled save (.ok (.updated value))]
  | failed (failure : Failure) :
      SettlesDirectly save (.error failure) [.settled save (.error failure)]
  | crashed : SettlesDirectly save .crashed [.settled save (.error .cancelled)]

section SettlesDirectly

variable {save : Save} {reply : SaveReply} {reports : List Event}

theorem settlesDirectly_result (save : Save) (reply : SaveReply) :
    SettlesDirectly save reply [.settled save reply.result] := by
  cases reply with
  | ok value => exact .updated value
  | error failure => exact .failed failure
  | crashed => exact .crashed

theorem SettlesDirectly.exists_settled (h : SettlesDirectly save reply reports) :
    ∃ result, .settled save result ∈ reports := by
  cases h with
  | updated | failed | crashed => exact ⟨_, List.mem_singleton_self _⟩

/-- A direct save is cancelled only if it crashed, or says so itself. -/
theorem SettlesDirectly.cancelled_iff (h : SettlesDirectly save reply reports) {result : SaveResult}
    (told : .settled save result ∈ reports) :
    result = .error .cancelled ↔ reply = .crashed ∨ reply = .error .cancelled := by
  cases h with
  | updated | failed | crashed => simp_all

end SettlesDirectly

section ReportsOf

variable {save : Save} {events news : List Event}

theorem reportsOf_append :
    reportsOf save (events ++ news) = reportsOf save events ++ reportsOf save news :=
  List.filter_append _ _

theorem reportsOf_of_no_report (h : ∀ e ∈ news, e.isReport = false) : reportsOf save news = [] := by
  apply List.filter_eq_nil_iff.mpr
  intro e he
  have none := h e he
  cases e <;> simp_all [Event.isReport, Event.reportsOn]

theorem mem_of_mem_reportsOf {e : Event} (h : e ∈ reportsOf save events) : e ∈ events :=
  List.mem_of_mem_filter h

theorem reportsOf_ne_nil_of_mem {e : Event} (mem : e ∈ events) (about : e.reportsOn save = true) :
    reportsOf save events ≠ [] :=
  List.ne_nil_of_mem (List.mem_filter.mpr ⟨mem, about⟩)

theorem Event.isReport_of_reportsOn {e : Event} (h : e.reportsOn save = true) :
    e.isReport = true := by
  cases e <;> simp_all [reportsOn, isReport]

theorem Event.eq_of_reportsOn {e : Event} {first second : Save} (hf : e.reportsOn first = true)
    (hs : e.reportsOn second = true) : first = second := by
  cases e <;> simp_all [reportsOn]

theorem reportsOf_flatMap_eq_nil {α : Type} {items : List α} {who : α → Save}
    {reports : α → List Event}
    (about : ∀ item ∈ items, ∀ e ∈ reports item, e.reportsOn (who item) = true)
    (absent : save ∉ items.map who) : reportsOf save (items.flatMap reports) = [] := by
  apply List.filter_eq_nil_iff.mpr
  intro e he hs
  obtain ⟨item, mem, he⟩ := List.mem_flatMap.mp he
  rw [Event.eq_of_reportsOn hs (about item mem e he)] at absent
  exact absent (List.mem_map_of_mem mem)

/-- When every item is about another save, what is reported of a save is what its item reports. -/
theorem reportsOf_flatMap {α : Type} (who : α → Save) {items : List α} {reports : α → List Event}
    (about : ∀ item ∈ items, ∀ e ∈ reports item, e.reportsOn (who item) = true)
    (nodup : (items.map who).Nodup) {item : α} (mem : item ∈ items) :
    reportsOf (who item) (items.flatMap reports) = reports item := by
  induction items with
  | nil => exact absurd mem List.not_mem_nil
  | cons first rest ih =>
    obtain ⟨fresh, nodup⟩ := List.nodup_cons.mp nodup
    have about' : ∀ item ∈ rest, ∀ e ∈ reports item, e.reportsOn (who item) = true :=
      fun item mem => about item (List.mem_cons_of_mem first mem)
    have here := about first List.mem_cons_self
    rw [List.flatMap_cons, reportsOf_append]
    rcases List.mem_cons.mp mem with rfl | mem
    · rw [reportsOf_flatMap_eq_nil about' fresh, List.append_nil]
      exact List.filter_eq_self.mpr here
    · have other : reportsOf (who item) (reports first) = [] := by
        apply List.filter_eq_nil_iff.mpr
        intro e he hs
        apply fresh
        rw [← Event.eq_of_reportsOn hs (here e he)]
        exact List.mem_map_of_mem mem
      rw [other, List.nil_append, ih about' nodup mem]

theorem reportsOf_settleAll {saves : List Save} {result : SaveResult} (nodup : saves.Nodup)
    (mem : save ∈ saves) :
    reportsOf save (saves.map fun save => .settled save result) = [.settled save result] := by
  rw [List.map_eq_flatMap]
  exact reportsOf_flatMap id (by simp [Event.reportsOn]) (by simpa using nodup) mem

end ReportsOf

namespace Ledger

theorem about_reportsFor (l : Ledger) (typeName : String) (save : Save) (entry : Option Json) :
    ∀ e ∈ l.reportsFor typeName save entry, e.reportsOn save = true := by
  cases verdict : Verdict.ofEntry typeName entry with
  | rejected entry => simp [reportsFor, verdict, Event.reportsOn]
  | accepted payload =>
    cases reply : (l.saveable save.object).hook payload <;>
      simp only [reportsFor, verdict, reply] <;> simp [Event.reportsOn]

/-- The hook of a save does not crash when the save is ended by its entry. -/
def Returns (l : Ledger) (typeName : String) (save : Save) (entry : Option Json) : Prop :=
  ∀ payload, .hooked save payload ∈ l.reportsFor typeName save entry →
    (l.saveable save.object).hook payload ≠ .crashed

theorem deliver_cases (l : Ledger) (typeName : String) (save : Save) (entry : Option Json) :
    (l.deliver typeName save entry).2 = false ∧ l.Returns typeName save entry ∨
      ∃ payload, (l.deliver typeName save entry).2 = true ∧
        (l.saveable save.object).hook payload = .crashed ∧
        l.reportsFor typeName save entry = [.hooked save payload] := by
  unfold Returns
  cases verdict : Verdict.ofEntry typeName entry with
  | rejected entry => simp [deliver, reportsFor, verdict]
  | accepted payload =>
    cases reply : (l.saveable save.object).hook payload with
    | crashed => exact .inr ⟨payload, by simp [deliver, reportsFor, verdict, reply]⟩
    | _ => simp [deliver, reportsFor, verdict, reply]

/-- Entries are handed back one after the other, until a hook crashes; its save and those that are
left are cancelled. -/
theorem events_deliverAll (typeName : String) (pairs : List (Save × Option Json)) (l : Ledger) :
    (∀ pair ∈ pairs, l.Returns typeName pair.1 pair.2) ∧
        (deliverAll typeName pairs l).1.events =
          l.events ++ pairs.flatMap (fun pair => l.reportsFor typeName pair.1 pair.2) ∨
      ∃ front save entry rest payload, pairs = front ++ (save, entry) :: rest ∧
        (∀ pair ∈ front, l.Returns typeName pair.1 pair.2) ∧
        (l.saveable save.object).hook payload = .crashed ∧
        l.reportsFor typeName save entry = [.hooked save payload] ∧
        (deliverAll typeName pairs l).1.events =
          (l.events ++ front.flatMap fun pair => l.reportsFor typeName pair.1 pair.2) ++
            .hooked save payload ::
              (save :: rest.map Prod.fst).map fun save => .settled save (.error .cancelled) := by
  induction pairs generalizing l with
  | nil => exact .inl ⟨by simp, by simp [deliverAll]⟩
  | cons pair rest ih =>
    obtain ⟨save, entry⟩ := pair
    have first := reported_deliver typeName save entry l
    rcases h : l.deliver typeName save entry with ⟨m, crashed⟩
    rw [h] at first
    have same (p : Save × Option Json) :
        m.reportsFor typeName p.1 p.2 = l.reportsFor typeName p.1 p.2 := by
      simp only [reportsFor, first.saveable]
    have returns (p : Save × Option Json) :
        m.Returns typeName p.1 p.2 ↔ l.Returns typeName p.1 p.2 := by
      simp only [Returns, same, first.saveable]
    rcases l.deliver_cases typeName save entry with ⟨calm, returned⟩ | ⟨payload, stop, hook, only⟩
    · obtain rfl : crashed = false := by rw [← calm, h]
      have all : deliverAll typeName ((save, entry) :: rest) l = deliverAll typeName rest m := by
        simp only [deliverAll, h]
      rw [all]
      rcases ih m with ⟨others, events⟩ | ⟨front, bad, entry', rest', payload, rfl, others, hook,
        only, events⟩
      · simp only [returns] at others
        simp only [same, first.events, List.append_assoc] at events
        exact .inl ⟨List.forall_mem_cons.mpr ⟨returned, others⟩, by simpa using events⟩
      · simp only [returns] at others
        simp only [same, first.events, List.append_assoc] at events
        rw [first.saveable] at hook
        rw [same (bad, entry')] at only
        refine .inr ⟨(save, entry) :: front, bad, entry', rest', payload, rfl, ?_, hook, only, ?_⟩
        · exact List.forall_mem_cons.mpr ⟨returned, others⟩
        · simpa using events
    · obtain rfl : crashed = true := by rw [← stop, h]
      refine .inr ⟨[], save, entry, rest, payload, rfl, by simp, hook, only, ?_⟩
      simp only [deliverAll, h, events_settleAll, first.events, only, List.flatMap_nil,
        List.append_nil, List.append_assoc, List.singleton_append]

/-- The saves of a redistribution that the hook of one of them ends, each with what is reported of
it. -/
def crashReports (l : Ledger) (typeName : String) (front : List (Save × Option Json))
    (first : Save) (payload : Json) (back : List (Save × Option Json)) :
    List (Save × List Event) :=
  (front.map fun pair => (pair.1, l.reportsFor typeName pair.1 pair.2)) ++
    (first, [.hooked first payload, .settled first (.error .cancelled)]) ::
      back.map fun pair => (pair.1, [.settled pair.1 (.error .cancelled)])

section CrashReports

variable {l : Ledger} {typeName : String} {front back : List (Save × Option Json)} {first : Save}
  {payload : Json}

theorem flatMap_crashReports :
    (l.crashReports typeName front first payload back).flatMap Prod.snd =
      (front.flatMap fun pair => l.reportsFor typeName pair.1 pair.2) ++ .hooked first payload ::
        (first :: back.map Prod.fst).map fun save => .settled save (.error .cancelled) := by
  simp only [crashReports, List.flatMap_append, List.flatMap_cons, List.flatMap_map, List.map_cons,
    List.map_map]
  rw [List.map_eq_flatMap]
  rfl

theorem map_fst_crashReports :
    (l.crashReports typeName front first payload back).map Prod.fst =
      front.map Prod.fst ++ first :: back.map Prod.fst := by
  simp [crashReports, Function.comp_def]

theorem about_crashReports :
    ∀ item ∈ l.crashReports typeName front first payload back, ∀ e ∈ item.2,
      e.reportsOn item.1 = true := by
  simp only [crashReports, List.forall_mem_append, List.forall_mem_cons, List.forall_mem_map]
  exact ⟨fun pair _ => l.about_reportsFor _ _ _, by simp [Event.reportsOn],
    by simp [Event.reportsOn]⟩

end CrashReports

/-- What an entry reports is what the answer says at its position. -/
theorem settles_reportsFor {l : Ledger} {typeName : String} {save : Save} {body : Json} {i : Nat}
    (plain : body.field? "background_task" = none)
    (calm : l.Returns typeName save (body.item? i)) :
    Settles (l.saveable save.object) typeName save i (.body body)
      (l.reportsFor typeName save (body.item? i)) := by
  rcases Verdict.ofEntry_cases typeName (body.item? i) with
    ⟨status, payload, at_i, low, high, accepted⟩ | ⟨refused, rejected⟩
  · cases reply : (l.saveable save.object).hook ((payload.field? typeName).getD .null) with
    | returned result =>
      simp only [reportsFor, accepted, reply]
      exact .created body payload result status plain at_i low high reply
    | failed failure =>
      simp only [reportsFor, accepted, reply]
      exact .failed body payload status failure plain at_i low high reply
    | crashed =>
      simp only [Returns, reportsFor, accepted, reply] at calm
      exact absurd reply (calm _ (List.mem_singleton_self _))
  · simp only [reportsFor, rejected]
    exact .rejected body plain refused

end Ledger

end Writeback

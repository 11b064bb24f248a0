import Writeback.Proofs.Queue.Outcomes
import Writeback.Proofs.Queue.Reports

/-!
# Every save goes by its own entry

The saves of a redistribution are visited batch by batch, and in a batch by position. What is
reported of a save, and what becomes of its object, is a function of the object, the type's name and
the entry at its position. Other saves matter through one thing only, whether the hook of an earlier
one crashed: from the first such save on, all are cancelled, and no further hook is called.
-/

namespace Writeback

/-- Whether an entry calls the hook of an object, and the hook crashes. -/
def Saveable.crashesBy (s : Saveable) (typeName : String) (entry : Option Json) : Bool :=
  match Verdict.ofEntry typeName entry with
  | .accepted payload => s.hook payload = .crashed
  | .rejected _ => false

/-- How an entry ends the save of an object. A hook that crashes cancels the save. -/
def Saveable.resultBy (s : Saveable) (typeName : String) (entry : Option Json) : SaveResult :=
  match Verdict.ofEntry typeName entry with
  | .rejected _ => .error (.rejected entry)
  | .accepted payload =>
    match s.hook payload with
    | .returned value => .ok (.created value)
    | .failed failure => .error failure
    | .crashed => .error .cancelled

/-- What an entry makes of an object: it is marked as created when its hook returns. -/
def Record.afterEntry (r : Record) (typeName : String) (entry : Option Json) : Record :=
  match Verdict.ofEntry typeName entry with
  | .rejected _ => r
  | .accepted payload =>
    match r.saveable.hook payload with
    | .returned _ => r.markCreated payload
    | .failed _ | .crashed => r

/-- The call of the hook of a save, if its entry makes one. -/
def Save.callsBy (save : Save) (typeName : String) (entry : Option Json) : List Event :=
  match Verdict.ofEntry typeName entry with
  | .accepted payload => [.hooked save payload]
  | .rejected _ => []

namespace Ledger

/-- The position of the first save whose hook crashes, or the number of saves if none does. -/
def firstCrash (l : Ledger) (typeName : String) (pairs : List (Save × Option Json)) : Nat :=
  pairs.findIdx fun pair => (l.saveable pair.1.object).crashesBy typeName pair.2

/-- What is reported of a save that is ended by its entry. -/
def endReports (l : Ledger) (typeName : String) (pair : Save × Option Json) : List Event :=
  pair.1.callsBy typeName pair.2 ++
    [.settled pair.1 ((l.saveable pair.1.object).resultBy typeName pair.2)]

section Entry

variable {l : Ledger} {typeName : String} {save : Save} {entry : Option Json}

theorem endReports_of_returns (h : l.Returns typeName save entry) :
    (l.saveable save.object).crashesBy typeName entry = false ∧
      l.endReports typeName (save, entry) = l.reportsFor typeName save entry := by
  rcases Verdict.ofEntry_cases typeName entry with ⟨_, payload, _, _, _, verdict⟩ | ⟨_, verdict⟩
  · cases reply : (l.saveable save.object).hook ((payload.field? typeName).getD .null) with
    | crashed =>
      simp only [Returns, reportsFor, verdict, reply] at h
      exact absurd reply (h _ (List.mem_singleton_self _))
    | _ =>
      simp [Saveable.crashesBy, endReports, Save.callsBy, Saveable.resultBy, reportsFor, verdict,
        reply]
  · simp [Saveable.crashesBy, endReports, Save.callsBy, Saveable.resultBy, reportsFor, verdict]

theorem endReports_of_crashed {payload : Json}
    (hook : (l.saveable save.object).hook payload = .crashed)
    (only : l.reportsFor typeName save entry = [.hooked save payload]) :
    (l.saveable save.object).crashesBy typeName entry = true ∧
      l.endReports typeName (save, entry) =
        [.hooked save payload, .settled save (.error .cancelled)] := by
  rcases Verdict.ofEntry_cases typeName entry with ⟨_, value, _, _, _, verdict⟩ | ⟨_, verdict⟩
  · obtain rfl : (value.field? typeName).getD .null = payload := by
      cases reply : (l.saveable save.object).hook ((value.field? typeName).getD .null) <;>
        simp_all [reportsFor]
    simp [Saveable.crashesBy, endReports, Save.callsBy, Saveable.resultBy, verdict, hook]
  · simp [reportsFor, verdict] at only

theorem about_endReports (pair : Save × Option Json) :
    ∀ e ∈ l.endReports typeName pair, e.reportsOn pair.1 = true := by
  unfold endReports Save.callsBy
  cases Verdict.ofEntry typeName pair.2 <;> simp [Event.reportsOn]

/-- A hook that crashes leaves its object as it was. -/
theorem cancelled_of_crashesBy {r : Record} (h : r.saveable.crashesBy typeName entry = true) :
    r.saveable.resultBy typeName entry = .error .cancelled ∧ r.afterEntry typeName entry = r := by
  cases verdict : Verdict.ofEntry typeName entry <;>
    simp_all [Saveable.crashesBy, Saveable.resultBy, Record.afterEntry]

theorem crashesBy_of_eq_firstCrash {pairs : List (Save × Option Json)} {n : Nat}
    (found : pairs[n]? = some (save, entry)) (first : n = l.firstCrash typeName pairs) :
    (l.saveable save.object).crashesBy typeName entry = true := by
  rw [first, firstCrash] at found
  have crashes := List.findIdx_of_getElem?_eq_some found
  exact crashes

end Entry

/-- What is reported of the saves of a redistribution, save by save in their order. -/
theorem exists_reports_deliverAll (typeName : String) (pairs : List (Save × Option Json))
    (l : Ledger) :
    ∃ items : List (Save × List Event), items.map Prod.fst = pairs.map Prod.fst ∧
      (∀ item ∈ items, ∀ e ∈ item.2, e.reportsOn item.1 = true) ∧
      (deliverAll typeName pairs l).1.events = l.events ++ items.flatMap Prod.snd ∧
      ∀ n pair, pairs[n]? = some pair → items[n]? = some (pair.1,
        if n ≤ l.firstCrash typeName pairs then l.endReports typeName pair
        else [.settled pair.1 (.error .cancelled)]) := by
  rcases l.events_deliverAll typeName pairs with ⟨returns, events⟩ |
    ⟨front, first, entry, back, payload, rfl, returns, hook, only, events⟩
  · have calm : l.firstCrash typeName pairs = pairs.length :=
      List.findIdx_eq_length.mpr fun pair mem => (endReports_of_returns (returns pair mem)).1
    refine ⟨pairs.map fun pair => (pair.1, l.endReports typeName pair), by simp, ?_, ?_, ?_⟩
    · rintro _ mem
      obtain ⟨pair, -, rfl⟩ := List.mem_map.mp mem
      exact about_endReports pair
    · rw [events, List.flatMap_map, List.flatMap_congr fun pair mem =>
        (endReports_of_returns (returns pair mem)).2]
    · intro n pair found
      have inside := (List.getElem?_eq_some_iff.mp found).1
      rw [List.getElem?_map, found, if_pos (calm ▸ inside.le)]
      rfl
  · obtain ⟨crashes, own⟩ := endReports_of_crashed hook only
    have calm : ∀ pair ∈ front, (l.saveable pair.1.object).crashesBy typeName pair.2 = false :=
      fun pair mem => (endReports_of_returns (returns pair mem)).1
    have stop : l.firstCrash typeName (front ++ (first, entry) :: back) = front.length := by
      rw [firstCrash, List.findIdx_append, List.findIdx_eq_length.mpr calm, if_neg (lt_irrefl _),
        List.findIdx_cons, crashes, cond_true, zero_add]
    refine ⟨l.crashReports typeName front first payload back, ?_, about_crashReports, ?_, ?_⟩
    · rw [map_fst_crashReports, List.map_append, List.map_cons]
    · rw [events, flatMap_crashReports, List.append_assoc]
    · intro n pair found
      rw [stop, crashReports]
      rcases Nat.lt_or_ge n front.length with before | notBefore
      · rw [List.getElem?_append_left before] at found
        rw [List.getElem?_append_left (by simpa using before), List.getElem?_map, found,
          if_pos before.le, (endReports_of_returns (returns pair (List.mem_of_getElem? found))).2]
        rfl
      · rw [List.getElem?_append_right notBefore, List.getElem?_cons] at found
        rw [List.getElem?_append_right (by simpa using notBefore), List.getElem?_cons,
          List.length_map]
        by_cases here : n - front.length = 0
        · rw [if_pos here] at found ⊢
          obtain rfl := Option.some.inj found
          rw [if_pos (Nat.le_of_sub_eq_zero here), own]
        · rw [if_neg here] at found ⊢
          rw [List.getElem?_map, found, if_neg (by omega)]
          rfl

/-! ### What becomes of the objects -/

section Records

variable {l : Ledger} {typeName : String}

theorem record_deliver (typeName : String) {save : Save} (known : save.object < l.records.length)
    (entry : Option Json) (object : Nat) :
    (l.deliver typeName save entry).1.record object =
      if save.object = object then (l.record object).afterEntry typeName entry
      else l.record object := by
  cases verdict : Verdict.ofEntry typeName entry with
  | rejected _ =>
    simp only [deliver, Record.afterEntry, verdict, ite_self]
    rfl
  | accepted payload =>
    by_cases own : save.object = object
    · subst own
      cases reply : (l.saveable save.object).hook payload <;>
        simp only [deliver, Record.afterEntry, verdict, reply, if_pos] <;>
        rw [saveable] at reply <;> simp only [reply]
      · exact (record_modifyRecord _ _ _ _).trans (if_pos ⟨rfl, known⟩)
      · rfl
      · rfl
    · rw [if_neg own]
      cases reply : (l.saveable save.object).hook payload <;> simp only [deliver, verdict, reply]
      · exact (record_modifyRecord _ _ _ _).trans (if_neg fun same => own same.1)
      · rfl
      · rfl

theorem deliver_crashed (typeName : String) (save : Save) (entry : Option Json) (l : Ledger) :
    (l.deliver typeName save entry).2 = (l.saveable save.object).crashesBy typeName entry := by
  rcases l.deliver_cases typeName save entry with ⟨calm, returns⟩ | ⟨payload, stop, hook, only⟩
  · rw [calm, (endReports_of_returns returns).1]
  · rw [stop, (endReports_of_crashed hook only).1]

theorem firstCrash_cons (l : Ledger) (typeName : String) (pair : Save × Option Json)
    (rest : List (Save × Option Json)) :
    l.firstCrash typeName (pair :: rest) =
      if (l.deliver typeName pair.1 pair.2).2 = true then 0
      else l.firstCrash typeName rest + 1 := by
  rw [firstCrash, List.findIdx_cons, deliver_crashed]
  cases (l.saveable pair.1.object).crashesBy typeName pair.2 <;> rfl

theorem record_deliverAll_of_absent {pairs : List (Save × Option Json)} {object : Nat}
    (known : ∀ pair ∈ pairs, pair.1.object < l.records.length)
    (absent : ∀ pair ∈ pairs, pair.1.object ≠ object) :
    (deliverAll typeName pairs l).1.record object = l.record object := by
  induction pairs generalizing l with
  | nil => rfl
  | cons pair rest ih =>
    obtain ⟨save, entry⟩ := pair
    obtain ⟨here, later⟩ := List.forall_mem_cons.mp known
    obtain ⟨other, others⟩ := List.forall_mem_cons.mp absent
    have first := record_deliver typeName here entry object
    have reported := reported_deliver typeName save entry l
    rw [if_neg other] at first
    rcases h : l.deliver typeName save entry with ⟨m, crashed⟩
    rw [h] at first reported
    cases crashed with
    | false =>
      simp only [deliverAll, h]
      rw [ih (reported.records ▸ later) others, first]
    | true =>
      simp only [deliverAll, h]
      rw [record, records_settleAll]
      exact first

/-- What becomes of the object at a position goes by its own entry, unless an earlier hook
crashed. -/
theorem record_deliverAll (typeName : String) {pairs : List (Save × Option Json)}
    (distinct : (pairs.map fun pair => pair.1.object).Nodup)
    (known : ∀ pair ∈ pairs, pair.1.object < l.records.length) {n : Nat}
    {pair : Save × Option Json} (found : pairs[n]? = some pair) :
    (deliverAll typeName pairs l).1.record pair.1.object =
      if n ≤ l.firstCrash typeName pairs then
        (l.record pair.1.object).afterEntry typeName pair.2
      else l.record pair.1.object := by
  induction pairs generalizing l n with
  | nil => cases found
  | cons head rest ih =>
    obtain ⟨save, entry⟩ := head
    obtain ⟨here, later⟩ := List.forall_mem_cons.mp known
    obtain ⟨unlisted, distinct⟩ := List.nodup_cons.mp distinct
    have fresh (p : Save × Option Json) (mem : p ∈ rest) : save.object ≠ p.1.object :=
      fun same => unlisted (List.mem_map.mpr ⟨p, mem, same.symm⟩)
    have first := record_deliver typeName here entry pair.1.object
    have reported := reported_deliver typeName save entry l
    have stop := l.firstCrash_cons typeName (save, entry) rest
    rcases h : l.deliver typeName save entry with ⟨m, crashed⟩
    rw [h] at first reported stop
    have next : m.firstCrash typeName rest = l.firstCrash typeName rest := by
      simp only [firstCrash, reported.saveable]
    cases crashed with
    | false =>
      simp only [deliverAll, h, stop, Bool.false_eq_true, if_false]
      cases n with
      | zero =>
        obtain rfl := Option.some.inj found
        have absent : ∀ p ∈ rest, p.1.object ≠ save.object := fun p mem => (fresh p mem).symm
        rw [record_deliverAll_of_absent (reported.records ▸ later) absent, first, if_pos rfl,
          if_pos (Nat.zero_le _)]
      | succ n =>
        rw [ih distinct (reported.records ▸ later) found, first,
          if_neg (fresh pair (List.mem_of_getElem? found)), next]
        simp only [Nat.succ_le_succ_iff]
    | true =>
      simp only [deliverAll, h, stop, if_true]
      rw [record, records_settleAll]
      refine first.trans ?_
      cases n with
      | zero =>
        obtain rfl := Option.some.inj found
        rw [if_pos rfl, if_pos (Nat.zero_le 0)]
      | succ n =>
        rw [if_neg (fresh pair (List.mem_of_getElem? found)), if_neg (Nat.not_succ_le_zero n)]

end Records

/-! ### The whole redistribution -/

/-- The save at a position of a batch is visited after those of the earlier batches and those before
it in its own. -/
theorem getElem?_assignEntries {responses : List HeldResponse} {b i : Nat}
    {response : HeldResponse} {save : Save} (found : responses[b]? = some response)
    (at_i : response.batch[i]? = some save) :
    (assignEntries responses)[((responses.take b).flatMap HeldResponse.batch).length + i]? =
      some (save, response.body.item? i) := by
  induction responses generalizing b with
  | nil => cases found
  | cons first rest ih =>
    rw [assignEntries, List.flatMap_cons]
    cases b with
    | zero =>
      obtain rfl := Option.some.inj found
      have inside := (List.getElem?_eq_some_iff.mp at_i).1
      rw [List.getElem?_append_left (by simpa using inside)]
      simp [at_i]
    | succ b =>
      rw [List.take_succ_cons, List.flatMap_cons, List.length_append, Nat.add_assoc,
        List.getElem?_append_right (by simp)]
      simpa [assignEntries] using ih found

/-- A redistribution visits the saves batch by batch and in each batch by position, reports on them
in this order, and ends each of them once. Up to the first save whose hook crashes, what is reported
of a save and what becomes of its object are functions of the object, the type's name and the entry
at the position of the save. All later saves are cancelled, without a call of their hooks. -/
theorem redistribute_by_entry (l : Ledger) (typeName : String) (responses : List HeldResponse)
    (distinct : ((responses.flatMap HeldResponse.batch).map Save.object).Nodup)
    (known : ∀ save ∈ responses.flatMap HeldResponse.batch, save.object < l.records.length) :
    let after := (l.redistribute typeName responses).1
    let stop := l.firstCrash typeName (assignEntries responses)
    after.ended = l.ended ++ responses.flatMap HeldResponse.batch ∧
      (∃ reports : List (List Event), after.events = l.events ++ reports.flatten ∧
        reports.length = (responses.flatMap HeldResponse.batch).length ∧
        ∀ b i response save, responses[b]? = some response → response.batch[i]? = some save →
          let n := ((responses.take b).flatMap HeldResponse.batch).length + i
          let entry := response.body.item? i
          reports[n]? = some (reportsOf save reports.flatten) ∧
            (n ≤ stop →
              reportsOf save reports.flatten = save.callsBy typeName entry ++
                [.settled save ((l.saveable save.object).resultBy typeName entry)] ∧
              after.record save.object = (l.record save.object).afterEntry typeName entry) ∧
            (n = stop → (l.saveable save.object).resultBy typeName entry = .error .cancelled ∧
              after.record save.object = l.record save.object) ∧
            (stop < n →
              reportsOf save reports.flatten = [.settled save (.error .cancelled)] ∧
              after.record save.object = l.record save.object)) ∧
      ∀ object, (∀ save ∈ responses.flatMap HeldResponse.batch, save.object ≠ object) →
        after.record object = l.record object := by
  have saves := map_fst_assignEntries responses
  have objects : (assignEntries responses).map (fun pair => pair.1.object) =
      (responses.flatMap HeldResponse.batch).map Save.object := by
    rw [← saves, List.map_map]
    rfl
  have listed {pair : Save × Option Json} (mem : pair ∈ assignEntries responses) :
      pair.1 ∈ responses.flatMap HeldResponse.batch :=
    saves ▸ List.mem_map_of_mem mem
  obtain ⟨items, same, about, events, own⟩ :=
    l.exists_reports_deliverAll typeName (assignEntries responses)
  refine ⟨l.ended_redistribute typeName responses, ⟨items.map Prod.snd, ?_, ?_, ?_⟩, ?_⟩
  · rw [← List.flatMap_def]
    exact events
  · rw [← saves, ← same, List.length_map, List.length_map]
  · intro b i response save found at_i n entry
    have at_n := getElem?_assignEntries found at_i
    have item := own n (save, entry) at_n
    have nodup : (items.map Prod.fst).Nodup := by
      rw [same, saves]
      exact distinct.of_map
    have said := reportsOf_flatMap Prod.fst about nodup (List.mem_of_getElem? item)
    have record := record_deliverAll typeName (objects ▸ distinct)
      (fun pair mem => known _ (listed mem)) at_n
    rw [← List.flatMap_def, List.getElem?_map, item]
    refine ⟨congrArg some said.symm, fun reached => ⟨?_, ?_⟩, fun here => ?_, fun cut => ⟨?_, ?_⟩⟩
    · exact said.trans (if_pos reached)
    · exact record.trans (if_pos reached)
    · obtain ⟨cancelled, kept⟩ :=
        cancelled_of_crashesBy (crashesBy_of_eq_firstCrash at_n here)
      exact ⟨cancelled, (record.trans (if_pos here.le)).trans kept⟩
    · exact said.trans (if_neg cut.not_ge)
    · exact record.trans (if_neg cut.not_ge)
  · intro object absent
    exact record_deliverAll_of_absent (fun pair mem => known _ (listed mem))
      fun pair mem => absent _ (listed mem)

/-- The hook of the second of three objects crashes. The first goes by its entry, and the third is
cancelled although its batch has an entry for it, and one too many. -/
theorem redistribute_by_entry_of_crash :
    let accepted (id : String) : Json :=
      .arr [.int 201, .obj [("control", .obj [("id", .str id)])]]
    let crashing : Record := { saveable := { hook := fun _ => .crashed } }
    let l : Ledger := { records := [default, crashing, default] }
    let responses : List HeldResponse :=
      [⟨[⟨0, 0⟩, ⟨1, 1⟩], .arr [accepted "a", accepted "b"]⟩,
        ⟨[⟨2, 2⟩], .arr [accepted "c", accepted "d"]⟩]
    let after := (l.redistribute "control" responses).1
    let payload : Json := .obj [("id", .str "a")]
    ((responses.flatMap HeldResponse.batch).map Save.object).Nodup ∧
      (∀ save ∈ responses.flatMap HeldResponse.batch, save.object < l.records.length) ∧
      l.firstCrash "control" (assignEntries responses) = 1 ∧
      reportsOf ⟨0, 0⟩ after.events =
        [.hooked ⟨0, 0⟩ payload, .settled ⟨0, 0⟩ (.ok (.created payload))] ∧
      (after.record 0).createdPayload = some payload ∧
      reportsOf ⟨2, 2⟩ after.events = [.settled ⟨2, 2⟩ (.error .cancelled)] ∧
      (after.record 2).createdPayload = none := by
  intro accepted crashing l responses after payload
  have distinct : ((responses.flatMap HeldResponse.batch).map Save.object).Nodup := by
    decide +kernel
  have known : ∀ save ∈ responses.flatMap HeldResponse.batch, save.object < l.records.length := by
    decide +kernel
  have stop : l.firstCrash "control" (assignEntries responses) = 1 := by decide +kernel
  obtain ⟨-, ⟨reports, events, -, own⟩, -⟩ :=
    l.redistribute_by_entry "control" responses distinct known
  obtain ⟨-, first, -, -⟩ := own 0 0 _ ⟨0, 0⟩ rfl rfl
  obtain ⟨-, -, -, third⟩ := own 1 0 _ ⟨2, 2⟩ rfl rfl
  obtain ⟨said, made⟩ := first (Nat.zero_le _)
  obtain ⟨cut, kept⟩ := third (by rw [stop]; decide)
  have journal : after.events = reports.flatten := events
  rw [journal]
  refine ⟨distinct, known, stop, said.trans ?_, ?_, cut, ?_⟩
  · decide +kernel
  · exact (congrArg Record.createdPayload made).trans (by decide +kernel)
  · exact (congrArg Record.createdPayload kept).trans (by decide +kernel)

end Ledger

end Writeback

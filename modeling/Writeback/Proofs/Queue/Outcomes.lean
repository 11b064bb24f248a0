import Writeback.Proofs.Queue.History

/-!
# What came of the requests to a collection

The saves that were posted to a collection are read off the journal. What came of them are the
answers to their requests, the calls of their hooks and how they ended; `Ledger.told` is the journal
without these, and without measurements. Two ledgers are alike but for a collection when they tell
the same, and their objects are the same but for what saving has made of those that were posted to
it. Writing the same down on both sides keeps ledgers alike, and so does writing down, on one side
only, something that came of a request to the collection.
-/

namespace Writeback

/-- The batch of a request to a collection that leaves. -/
def Event.batchTo (plural : String) : Event → List Save
  | posted _ batch request => if request.plural = plural then batch else []
  | _ => []

/-- Whether an event is something that came of a request to a collection, which some saves were
posted to. Measurements may be. -/
def Event.isOutcome (plural : String) (saves : List Save) : Event → Bool
  | answered _ _ request _ => request.plural = plural
  | hooked save _ | settled save _ => save ∈ saves
  | measured _ => true
  | _ => false

namespace Event

variable {plural : String} {e : Event} {saves more : List Save}

theorem isOutcome_mono (h : e.isOutcome plural saves = true) (grown : saves ⊆ more) :
    e.isOutcome plural more = true := by
  cases e with
  | hooked save | settled save => simpa [isOutcome] using grown (by simpa [isOutcome] using h)
  | _ => exact h

theorem batchTo_of_isOutcome (h : e.isOutcome plural saves = true) : e.batchTo plural = [] := by
  cases e <;> simp_all [isOutcome, batchTo]

end Event

namespace Ledger

/-- The saves that were posted to a collection. -/
def postedTo (l : Ledger) (plural : String) : List Save :=
  l.events.flatMap (Event.batchTo plural)

/-- The journal but for what came of the requests to a collection, the latest entry in front. -/
def told (l : Ledger) (plural : String) : List Entry :=
  l.journal.filter fun entry => !entry.event.isOutcome plural (l.postedTo plural)

theorem mem_postedTo {l : Ledger} {plural : String} {save : Save} :
    save ∈ l.postedTo plural ↔ ∃ key batch request,
      .posted key batch request ∈ l.events ∧ request.plural = plural ∧ save ∈ batch := by
  simp only [postedTo, List.mem_flatMap]
  constructor
  · rintro ⟨e, he, mem⟩
    cases e with
    | posted key batch request =>
      by_cases same : request.plural = plural
      · exact ⟨key, batch, request, he, same, by simpa [Event.batchTo, same] using mem⟩
      · simp [Event.batchTo, same] at mem
    | _ => simp [Event.batchTo] at mem
  · rintro ⟨key, batch, request, posted, same, mem⟩
    exact ⟨_, posted, by simpa [Event.batchTo, same] using mem⟩

@[simp] theorem postedTo_note (l : Ledger) (event : Event) (plural : String) :
    (l.note event).postedTo plural = l.postedTo plural ++ event.batchTo plural := by
  simp [postedTo]

/-- The saves that were posted to a collection can be read off what is told. -/
theorem postedTo_eq_told (l : Ledger) (plural : String) :
    l.postedTo plural = (l.told plural).reverse.flatMap fun e => e.event.batchTo plural := by
  have kept (entries : List Entry) (saves : List Save) :
      (entries.filter fun e => !e.event.isOutcome plural saves).flatMap
        (fun e => e.event.batchTo plural) = entries.flatMap fun e => e.event.batchTo plural := by
    induction entries with
    | nil => rfl
    | cons e entries ih =>
      cases h : e.event.isOutcome plural saves with
      | false => simp [h, ih]
      | true => simp [h, ih, Event.batchTo_of_isOutcome h]
  rw [told, ← List.filter_reverse, kept, postedTo, events, List.flatMap_map]

theorem told_note (l : Ledger) (event : Event) (plural : String) :
    (l.note event).told plural = (⟨l.clock, event⟩ :: l.told plural).filter fun e =>
      !e.event.isOutcome plural (l.postedTo plural ++ event.batchTo plural) := by
  have both (e : Entry) :
      (!e.event.isOutcome plural (l.postedTo plural ++ event.batchTo plural) &&
        !e.event.isOutcome plural (l.postedTo plural)) =
      !e.event.isOutcome plural (l.postedTo plural ++ event.batchTo plural) := by
    cases h : e.event.isOutcome plural (l.postedTo plural) with
    | false => simp
    | true => simp [Event.isOutcome_mono h (List.subset_append_left _ _)]
  rw [told, postedTo_note]
  simp only [told, note, List.filter_cons, List.filter_filter, both]

/-- Two ledgers are alike but for what came of the requests to a collection. -/
structure AlikeBut (plural : String) (l l' : Ledger) : Prop where
  clock : l'.clock = l.clock
  told : l'.told plural = l.told plural
  saveables : l'.records.map Record.saveable = l.records.map Record.saveable
  record : ∀ object, (∀ save ∈ l.postedTo plural, save.object ≠ object) →
    l'.record object = l.record object

theorem record_modifyRecord (l : Ledger) (changed object : Nat) (f : Record → Record) :
    (l.modifyRecord changed f).record object =
      if changed = object ∧ object < l.records.length then f (l.record object)
      else l.record object := by
  simp only [record, modifyRecord, List.getElem?_modify]
  by_cases known : object < l.records.length
  · by_cases same : changed = object <;> simp [known, same]
  · simp [known]

theorem saveables_modifyRecord (l : Ledger) (changed : Nat) {f : Record → Record}
    (hf : ∀ r, (f r).saveable = r.saveable) :
    (l.modifyRecord changed f).records.map Record.saveable = l.records.map Record.saveable := by
  apply List.ext_getElem?
  intro object
  simp only [modifyRecord, List.getElem?_map, List.getElem?_modify]
  by_cases same : changed = object
  · simp [same, hf, Function.comp_def]
  · simp [same]

namespace AlikeBut

variable {plural : String} {l l' m n : Ledger}

theorem postedTo (h : AlikeBut plural l l') : l'.postedTo plural = l.postedTo plural := by
  rw [postedTo_eq_told, h.told, ← postedTo_eq_told]

theorem refl (plural : String) (l : Ledger) : AlikeBut plural l l := ⟨rfl, rfl, rfl, fun _ _ => rfl⟩

theorem symm (h : AlikeBut plural l l') : AlikeBut plural l' l where
  clock := h.clock.symm
  told := h.told.symm
  saveables := h.saveables.symm
  record object fresh := (h.record object (h.postedTo ▸ fresh)).symm

theorem trans (first : AlikeBut plural l m) (second : AlikeBut plural m n) :
    AlikeBut plural l n where
  clock := second.clock.trans first.clock
  told := second.told.trans first.told
  saveables := second.saveables.trans first.saveables
  record object fresh :=
    (second.record object (first.postedTo ▸ fresh)).trans (first.record object fresh)

theorem length (h : AlikeBut plural l l') : l'.records.length = l.records.length := by
  simpa using congrArg List.length h.saveables

theorem saveable (h : AlikeBut plural l l') (object : Nat) :
    l'.saveable object = l.saveable object := by
  have read (m : Ledger) :
      m.saveable object = (m.records.map Record.saveable)[object]?.getD default := by
    rw [Ledger.saveable, Ledger.record, List.getElem?_map]
    cases m.records[object]? <;> rfl
  rw [read, read, h.saveables]

theorem pass (h : AlikeBut plural l l') (time : Nat) :
    AlikeBut plural { l with clock := time } { l' with clock := time } :=
  ⟨rfl, h.told, h.saveables, h.record⟩

theorem create (h : AlikeBut plural l l') (record : Record) :
    AlikeBut plural { l with records := l.records ++ [record] }
      { l' with records := l'.records ++ [record] } where
  clock := h.clock
  told := h.told
  saveables := by simp [h.saveables]
  record object fresh := by
    have old := h.record object fresh
    simp only [Ledger.record, List.getElem?_append, h.length] at old ⊢
    split
    · exact old
    · rfl

/-- The same is written down on both sides. -/
theorem note (h : AlikeBut plural l l') (event : Event) :
    AlikeBut plural (l.note event) (l'.note event) where
  clock := h.clock
  told := by rw [told_note, told_note, h.clock, h.told, h.postedTo]
  saveables := h.saveables
  record object fresh := h.record object fun save mem =>
    fresh save (by rw [postedTo_note]; exact List.mem_append_left _ mem)

theorem modifyRecord (h : AlikeBut plural l l') (changed : Nat) {f : Record → Record}
    (hf : ∀ r, (f r).saveable = r.saveable) :
    AlikeBut plural (l.modifyRecord changed f) (l'.modifyRecord changed f) where
  clock := h.clock
  told := h.told
  saveables := by
    rw [saveables_modifyRecord _ _ hf, saveables_modifyRecord _ _ hf, h.saveables]
  record object fresh := by
    rw [record_modifyRecord, record_modifyRecord, h.record object fresh, h.length]

theorem settleAll (h : AlikeBut plural l l') (result : SaveResult) (saves : List Save) :
    AlikeBut plural (l.settleAll result saves) (l'.settleAll result saves) := by
  induction saves generalizing l l' with
  | nil => exact h
  | cons save saves ih => exact ih (h.note _)

theorem deliver (h : AlikeBut plural l l') (typeName : String) (save : Save)
    (entry : Option Json) :
    AlikeBut plural (l.deliver typeName save entry).1 (l'.deliver typeName save entry).1 ∧
      (l'.deliver typeName save entry).2 = (l.deliver typeName save entry).2 := by
  simp only [Ledger.deliver, h.saveable]
  split
  · exact ⟨h.note _, rfl⟩
  · next payload _ =>
    split
    · have marked := (h.note (.hooked save payload)).modifyRecord save.object
        (f := (·.markCreated payload)) fun _ => rfl
      exact ⟨marked.note _, rfl⟩
    · exact ⟨(h.note _).note _, rfl⟩
    · exact ⟨h.note _, rfl⟩

theorem deliverAll (h : AlikeBut plural l l') (typeName : String)
    (pairs : List (Save × Option Json)) :
    AlikeBut plural (Ledger.deliverAll typeName pairs l).1
      (Ledger.deliverAll typeName pairs l').1 := by
  induction pairs generalizing l l' with
  | nil => exact h
  | cons pair rest ih =>
    obtain ⟨save, entry⟩ := pair
    obtain ⟨first, crash⟩ := h.deliver typeName save entry
    simp only [Ledger.deliverAll]
    rcases hl : l.deliver typeName save entry with ⟨m, crashed⟩
    rcases hl' : l'.deliver typeName save entry with ⟨m', crashed'⟩
    rw [hl, hl'] at first crash
    obtain rfl : crashed' = crashed := crash
    cases crashed' with
    | false => exact ih first
    | true => exact first.settleAll _ _

theorem redistribute (h : AlikeBut plural l l') (typeName : String)
    (responses : List HeldResponse) :
    AlikeBut plural (l.redistribute typeName responses).1
      (l'.redistribute typeName responses).1 :=
  h.deliverAll typeName (assignEntries responses)

/-! One side writes down what came of a request to the collection. -/

theorem aside_note {event : Event} (outcome : event.isOutcome plural (l.postedTo plural) = true) :
    AlikeBut plural l (l.note event) where
  clock := rfl
  told := by
    have none := Event.batchTo_of_isOutcome outcome
    simp only [Ledger.told, postedTo_note, none, List.append_nil]
    exact List.filter_cons_of_neg (by simp [outcome])
  saveables := rfl
  record _ _ := rfl

theorem aside_modifyRecord {save : Save} (posted : save ∈ l.postedTo plural) {f : Record → Record}
    (hf : ∀ r, (f r).saveable = r.saveable) :
    AlikeBut plural l (l.modifyRecord save.object f) where
  clock := rfl
  told := rfl
  saveables := saveables_modifyRecord l save.object hf
  record object fresh := by
    rw [record_modifyRecord, if_neg fun same => fresh save posted same.1]

theorem aside_measure (l : Ledger) (tracker : Tracker) (timer : Timer) (ending : Ending) :
    AlikeBut plural l (l.measure tracker timer ending) := by
  unfold Ledger.measure
  split
  · exact aside_note rfl
  · exact refl plural l

/-- Trackers may differ. -/
theorem measure (h : AlikeBut plural l l') (tracker tracker' : Tracker) (timer : Timer)
    (ending : Ending) :
    AlikeBut plural (l.measure tracker timer ending) (l'.measure tracker' timer ending) :=
  ((aside_measure l tracker timer ending).symm.trans h).trans
    (aside_measure l' tracker' timer ending)

theorem aside_settle {save : Save} (posted : save ∈ l.postedTo plural) (result : SaveResult) :
    AlikeBut plural l (l.settle result save) :=
  aside_note (by simpa [Event.isOutcome] using posted)

theorem aside_settleAll {saves : List Save} (posted : saves ⊆ l.postedTo plural)
    (result : SaveResult) : AlikeBut plural l (l.settleAll result saves) := by
  induction saves generalizing l with
  | nil => exact refl plural l
  | cons save saves ih =>
    have first : AlikeBut plural l (l.settle result save) :=
      aside_settle (posted List.mem_cons_self) result
    refine first.trans (ih ?_)
    rw [first.postedTo]
    exact fun other mem => posted (List.mem_cons_of_mem save mem)

theorem aside_deliver {save : Save} (posted : save ∈ l.postedTo plural) (typeName : String)
    (entry : Option Json) : AlikeBut plural l (l.deliver typeName save entry).1 := by
  unfold Ledger.deliver
  split
  · exact aside_settle posted _
  · next payload _ =>
    have called : AlikeBut plural l (l.note (.hooked save payload)) :=
      aside_note (by simpa [Event.isOutcome] using posted)
    have still : save ∈ (l.note (.hooked save payload)).postedTo plural := called.postedTo ▸ posted
    dsimp only
    split
    · have marked := aside_modifyRecord still (f := (·.markCreated payload)) fun _ => rfl
      exact (called.trans marked).trans (aside_settle (marked.postedTo ▸ still) _)
    · exact called.trans (aside_settle still _)
    · exact called

theorem aside_deliverAll {pairs : List (Save × Option Json)}
    (posted : pairs.map Prod.fst ⊆ l.postedTo plural) (typeName : String) :
    AlikeBut plural l (Ledger.deliverAll typeName pairs l).1 := by
  induction pairs generalizing l with
  | nil => exact refl plural l
  | cons pair rest ih =>
    obtain ⟨save, entry⟩ := pair
    have first : AlikeBut plural l (l.deliver typeName save entry).1 :=
      aside_deliver (posted List.mem_cons_self) typeName entry
    simp only [Ledger.deliverAll]
    rcases hl : l.deliver typeName save entry with ⟨m, crashed⟩
    rw [hl] at first
    rw [← first.postedTo] at posted
    cases crashed with
    | false => exact first.trans (ih fun other mem => posted (List.mem_cons_of_mem save mem))
    | true => exact first.trans (aside_settleAll posted _)

theorem aside_redistribute {responses : List HeldResponse}
    (posted : responses.flatMap HeldResponse.batch ⊆ l.postedTo plural) (typeName : String) :
    AlikeBut plural l (l.redistribute typeName responses).1 :=
  aside_deliverAll ((map_fst_assignEntries responses).symm ▸ posted) typeName

end AlikeBut

end Ledger

end Writeback

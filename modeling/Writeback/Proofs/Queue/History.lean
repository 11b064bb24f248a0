import Writeback.Save.Redistribution

/-!
# Reading the journal

What happened to saves is read off the journal, oldest event first: `Ledger.history` keeps the
events of one kind, and the readings below are its instances. The readings of a bucket are
functions of a list of events, so that they can also be taken of the past of an event in the
journal.

A redistribution adds nothing but calls of hooks and ends of saves, and ends every save that it is
given exactly once, whether or not a hook crashes.
-/

namespace Writeback

namespace Event

/-- The save that was asked for, with the bucket that it joined if its object was new. -/
def asked? : Event → Option (Option BucketKey × Save)
  | joined key save => some (some key, save)
  | queued (.update save) => some (none, save)
  | _ => none

def joined? (key : BucketKey) : Event → Option Save
  | joined k save => if k = key then some save else none
  | _ => none

def taken? (key : BucketKey) : Event → Option (List Save)
  | taken k batch => if k = key then some batch else none
  | _ => none

def posted? (key : BucketKey) : Event → Option (List Save × Request)
  | posted k batch request => if k = key then some (batch, request) else none
  | _ => none

def answered? (key : BucketKey) : Event → Option (List Save × Request × Answer)
  | answered k batch request answer => if k = key then some (batch, request, answer) else none
  | _ => none

def replied? : Event → Option Save
  | replied save _ => some save
  | _ => none

def ended? : Event → Option Save
  | settled save _ => some save
  | _ => none

/-- Whether the event reports on a save that is handed back: its hook was called, or it ended. -/
def isReport : Event → Bool
  | hooked _ _ | settled _ _ => true
  | _ => false

/-- Whether the event says nothing about any save: a cycle was put into the queue, a job started,
or a measurement was kept. -/
def isRemark : Event → Bool
  | queued (.cycle _) | started _ | measured _ => true
  | _ => false

theorem asked?_of_isRemark {e : Event} (h : e.isRemark = true) : e.asked? = none := by
  cases e with
  | queued job => cases job <;> simp_all [isRemark, asked?]
  | _ => simp_all [isRemark, asked?]

theorem ended?_of_isRemark {e : Event} (h : e.isRemark = true) : e.ended? = none := by
  cases e <;> simp_all [isRemark, ended?]

theorem asked?_of_isReport {e : Event} (h : e.isReport = true) : e.asked? = none := by
  cases e <;> simp_all [isReport, asked?]

section Readings

variable {e : Event} {key : BucketKey} {save : Save} {batch : List Save} {request : Request}

theorem joined?_eq_some_iff : e.joined? key = some save ↔ e = .joined key save := by
  cases e with
  | joined k other => by_cases same : k = key <;> simp [joined?, same]
  | _ => simp [joined?]

theorem taken?_eq_some_iff : e.taken? key = some batch ↔ e = .taken key batch := by
  cases e with
  | taken k other => by_cases same : k = key <;> simp [taken?, same]
  | _ => simp [taken?]

theorem posted?_eq_some_iff :
    e.posted? key = some (batch, request) ↔ e = .posted key batch request := by
  cases e with
  | posted k other sent => by_cases same : k = key <;> simp [posted?, same]
  | _ => simp [posted?]

theorem answered?_eq_some_iff {answer : Answer} :
    e.answered? key = some (batch, request, answer) ↔ e = .answered key batch request answer := by
  cases e with
  | answered k other sent reply => by_cases same : k = key <;> simp [answered?, same]
  | _ => simp [answered?]

theorem asked?_eq_some_joined_iff : e.asked? = some (some key, save) ↔ e = .joined key save := by
  cases e with
  | queued job => cases job <;> simp [asked?]
  | _ => simp [asked?]

theorem asked?_eq_some_update_iff : e.asked? = some (none, save) ↔ e = .queued (.update save) := by
  cases e with
  | queued job => cases job <;> simp [asked?]
  | _ => simp [asked?]

theorem replied?_eq_some_iff : e.replied? = some save ↔ ∃ reply, e = .replied save reply := by
  cases e <;> simp [replied?]

theorem ended?_eq_some_iff : e.ended? = some save ↔ ∃ result, e = .settled save result := by
  cases e <;> simp [ended?]

end Readings

end Event

/-- A reading that one event alone gives is there when that event is. -/
theorem mem_filterMap_of_only {α : Type} {pick : Event → Option α} {x : α} {event : Event}
    {events : List Event} (only : ∀ e, pick e = some x ↔ e = event) :
    x ∈ events.filterMap pick ↔ event ∈ events := by
  rw [List.mem_filterMap]
  constructor
  · rintro ⟨e, mem, picked⟩
    exact (only e).mp picked ▸ mem
  · intro mem
    exact ⟨event, mem, (only event).mpr rfl⟩

/-- The saves that joined a bucket, in order. -/
def joinedIn (key : BucketKey) (events : List Event) : List Save :=
  events.filterMap (Event.joined? key)

def takenIn (key : BucketKey) (events : List Event) : List (List Save) :=
  events.filterMap (Event.taken? key)

/-- The saves that joined a bucket and were not taken out of it. -/
def pendingIn (key : BucketKey) (events : List Event) : List Save :=
  (joinedIn key events).drop (takenIn key events).flatten.length

section Membership

variable {key : BucketKey} {events : List Event}

theorem mem_joinedIn {save : Save} : save ∈ joinedIn key events ↔ .joined key save ∈ events :=
  mem_filterMap_of_only fun _ => Event.joined?_eq_some_iff

theorem mem_takenIn {batch : List Save} : batch ∈ takenIn key events ↔ .taken key batch ∈ events :=
  mem_filterMap_of_only fun _ => Event.taken?_eq_some_iff

end Membership

namespace Ledger

/-- What happened so far, oldest first. -/
def events (l : Ledger) : List Event := l.journal.reverse.map Entry.event

/-- The events of one kind, in order. -/
def history {α : Type} (l : Ledger) (pick : Event → Option α) : List α := l.events.filterMap pick

def posted (l : Ledger) (key : BucketKey) : List (List Save × Request) :=
  l.history (Event.posted? key)

def answered (l : Ledger) (key : BucketKey) : List (List Save × Request × Answer) :=
  l.history (Event.answered? key)

/-- The saves that were asked for, in order, each with the bucket that it joined if its object was
new. -/
def asked (l : Ledger) : List (Option BucketKey × Save) := l.history Event.asked?

/-- The direct saves that were asked for, in order. -/
def updates (l : Ledger) : List Save :=
  (l.asked.filter fun entry => entry.1 = none).map Prod.snd

def replied (l : Ledger) : List Save := l.history Event.replied?

def ended (l : Ledger) : List Save := l.history Event.ended?

theorem mem_posted {l : Ledger} {key : BucketKey} {batch : List Save} {request : Request} :
    (batch, request) ∈ l.posted key ↔ .posted key batch request ∈ l.events :=
  mem_filterMap_of_only fun _ => Event.posted?_eq_some_iff

theorem mem_answered {l : Ledger} {key : BucketKey} {batch : List Save} {request : Request}
    {answer : Answer} :
    (batch, request, answer) ∈ l.answered key ↔ .answered key batch request answer ∈ l.events :=
  mem_filterMap_of_only fun _ => Event.answered?_eq_some_iff

theorem mem_asked_some {l : Ledger} {key : BucketKey} {save : Save} :
    (some key, save) ∈ l.asked ↔ .joined key save ∈ l.events :=
  mem_filterMap_of_only fun _ => Event.asked?_eq_some_joined_iff

theorem mem_asked_none {l : Ledger} {save : Save} :
    (none, save) ∈ l.asked ↔ .queued (.update save) ∈ l.events :=
  mem_filterMap_of_only fun _ => Event.asked?_eq_some_update_iff

theorem mem_updates {l : Ledger} {save : Save} :
    save ∈ l.updates ↔ .queued (.update save) ∈ l.events := by
  rw [← mem_asked_none, updates, List.mem_map]
  constructor
  · rintro ⟨⟨key, other⟩, mem, rfl⟩
    obtain ⟨mem, none⟩ := List.mem_filter.mp mem
    have same : key = Option.none := by simpa using none
    exact same ▸ mem
  · intro mem
    exact ⟨_, List.mem_filter.mpr ⟨mem, by simp⟩, rfl⟩

theorem mem_replied {l : Ledger} {save : Save} :
    save ∈ l.replied ↔ ∃ reply, .replied save reply ∈ l.events := by
  simp only [replied, history, List.mem_filterMap, Event.replied?_eq_some_iff]
  constructor
  · rintro ⟨_, mem, reply, rfl⟩
    exact ⟨reply, mem⟩
  · rintro ⟨reply, mem⟩
    exact ⟨_, mem, reply, rfl⟩

theorem mem_ended {l : Ledger} {save : Save} :
    save ∈ l.ended ↔ ∃ result, .settled save result ∈ l.events := by
  simp only [ended, history, List.mem_filterMap, Event.ended?_eq_some_iff]
  constructor
  · rintro ⟨_, mem, result, rfl⟩
    exact ⟨result, mem⟩
  · rintro ⟨result, mem⟩
    exact ⟨_, mem, result, rfl⟩

theorem mem_ended_of_append {l l' : Ledger} {save : Save} {news : List Event}
    (events : l'.events = l.events ++ news) (ended : save ∈ l.ended) : save ∈ l'.ended := by
  obtain ⟨result, settled⟩ := mem_ended.mp ended
  exact mem_ended.mpr ⟨result, events ▸ List.mem_append_left _ settled⟩

@[simp] theorem events_note (l : Ledger) (event : Event) :
    (l.note event).events = l.events ++ [event] := by
  simp [events, note]

@[simp] theorem history_note {α : Type} (l : Ledger) (event : Event) (pick : Event → Option α) :
    (l.note event).history pick = l.history pick ++ (pick event).toList := by
  cases h : pick event <;> simp [history, h]

@[simp] theorem asked_note (l : Ledger) (event : Event) :
    (l.note event).asked = l.asked ++ event.asked?.toList :=
  history_note l event Event.asked?

@[simp] theorem updates_note (l : Ledger) (event : Event) :
    (l.note event).updates =
      l.updates ++ (event.asked?.toList.filter fun entry => entry.1 = none).map Prod.snd := by
  rw [updates, asked_note, List.filter_append, List.map_append, updates]

@[simp] theorem replied_note (l : Ledger) (event : Event) :
    (l.note event).replied = l.replied ++ event.replied?.toList :=
  history_note l event Event.replied?

@[simp] theorem ended_note (l : Ledger) (event : Event) :
    (l.note event).ended = l.ended ++ event.ended?.toList :=
  history_note l event Event.ended?

@[simp] theorem ended_modifyRecord (l : Ledger) (object : Nat) (f : Record → Record) :
    (l.modifyRecord object f).ended = l.ended := rfl

@[simp] theorem history_modifyRecord {α : Type} (l : Ledger) (object : Nat) (f : Record → Record)
    (pick : Event → Option α) : (l.modifyRecord object f).history pick = l.history pick := rfl

@[simp] theorem events_modifyRecord (l : Ledger) (object : Nat) (f : Record → Record) :
    (l.modifyRecord object f).events = l.events := rfl

theorem saveable_modifyRecord (l : Ledger) (changed : Nat) {f : Record → Record}
    (hf : ∀ r, (f r).saveable = r.saveable) (object : Nat) :
    (l.modifyRecord changed f).saveable object = l.saveable object := by
  simp only [saveable, record, modifyRecord, List.getElem?_modify]
  cases l.records[object]? with
  | none => simp
  | some r => by_cases h : changed = object <;> simp [h, hf]

@[simp] theorem settleAll_nil (l : Ledger) (result : SaveResult) : l.settleAll result [] = l := rfl

@[simp] theorem settleAll_cons (l : Ledger) (result : SaveResult) (save : Save)
    (saves : List Save) :
    l.settleAll result (save :: saves) = (l.settle result save).settleAll result saves := rfl

theorem settleAll_append (l : Ledger) (result : SaveResult) (first second : List Save) :
    l.settleAll result (first ++ second) = (l.settleAll result first).settleAll result second :=
  List.foldl_append

@[simp] theorem events_settleAll (l : Ledger) (result : SaveResult) (saves : List Save) :
    (l.settleAll result saves).events =
      l.events ++ saves.map fun save => .settled save result := by
  induction saves generalizing l with
  | nil => simp
  | cons save saves ih => simp [ih, settle]

@[simp] theorem records_settleAll (l : Ledger) (result : SaveResult) (saves : List Save) :
    (l.settleAll result saves).records = l.records := by
  induction saves generalizing l with
  | nil => rfl
  | cons save saves ih => rw [settleAll_cons, ih]; rfl

@[simp] theorem clock_settleAll (l : Ledger) (result : SaveResult) (saves : List Save) :
    (l.settleAll result saves).clock = l.clock := by
  induction saves generalizing l with
  | nil => rfl
  | cons save saves ih => rw [settleAll_cons, ih]; rfl

/-- A ledger after some reports were added to it: the objects are the same but for what saving has
made of them. -/
structure Reported (l : Ledger) (reports : List Event) (l' : Ledger) : Prop where
  events : l'.events = l.events ++ reports
  isReport : ∀ e ∈ reports, e.isReport = true
  records : l'.records.length = l.records.length
  saveable : ∀ object, l'.saveable object = l.saveable object
  clock : l'.clock = l.clock

theorem Reported.history {α : Type} {l l' : Ledger} {reports : List Event}
    (h : Reported l reports l') (pick : Event → Option α) :
    l'.history pick = l.history pick ++ reports.filterMap pick := by
  rw [Ledger.history, h.events, List.filterMap_append, Ledger.history]

theorem Reported.asked {l l' : Ledger} {reports : List Event} (h : Reported l reports l') :
    l'.asked = l.asked := by
  have none : reports.filterMap Event.asked? = [] :=
    List.filterMap_eq_nil_iff.mpr fun e he => Event.asked?_of_isReport (h.isReport e he)
  rw [Ledger.asked, h.history, none, List.append_nil, Ledger.asked]

theorem Reported.replied {l l' : Ledger} {reports : List Event} (h : Reported l reports l') :
    l'.replied = l.replied := by
  have none : reports.filterMap Event.replied? = [] := by
    apply List.filterMap_eq_nil_iff.mpr
    intro e he
    have report := h.isReport e he
    cases e <;> simp_all [Event.isReport, Event.replied?]
  rw [Ledger.replied, h.history, none, List.append_nil, Ledger.replied]

theorem Reported.trans {l m n : Ledger} {first second : List Event} (h₁ : Reported l first m)
    (h₂ : Reported m second n) : Reported l (first ++ second) n where
  events := by rw [h₂.events, h₁.events, List.append_assoc]
  isReport e he := (List.mem_append.mp he).elim (h₁.isReport e) (h₂.isReport e)
  records := h₂.records.trans h₁.records
  saveable object := (h₂.saveable object).trans (h₁.saveable object)
  clock := h₂.clock.trans h₁.clock

theorem reported_note (l : Ledger) {event : Event} (h : event.isReport = true) :
    Reported l [event] (l.note event) where
  events := events_note l event
  isReport := by simpa using h
  records := rfl
  saveable _ := rfl
  clock := rfl

theorem reported_settleAll (l : Ledger) (result : SaveResult) (saves : List Save) :
    Reported l (saves.map fun save => .settled save result) (l.settleAll result saves) where
  events := events_settleAll l result saves
  isReport := by simp [Event.isReport]
  records := by simp
  saveable object := by simp [saveable, record]
  clock := by simp

@[simp] theorem ended_settleAll (l : Ledger) (result : SaveResult) (saves : List Save) :
    (l.settleAll result saves).ended = l.ended ++ saves := by
  rw [ended, (reported_settleAll l result saves).history, List.filterMap_map]
  simp [ended, Function.comp_def, Event.ended?]

/-- What is reported when a save is ended by its entry. A hook that crashes leaves the save
open. -/
def reportsFor (l : Ledger) (typeName : String) (save : Save) (entry : Option Json) : List Event :=
  match Verdict.ofEntry typeName entry with
  | .rejected entry => [.settled save (.error (.rejected entry))]
  | .accepted payload =>
    match (l.saveable save.object).hook payload with
    | .returned value => [.hooked save payload, .settled save (.ok (.created value))]
    | .failed failure => [.hooked save payload, .settled save (.error failure)]
    | .crashed => [.hooked save payload]

theorem reported_deliver (typeName : String) (save : Save) (entry : Option Json) (l : Ledger) :
    Reported l (l.reportsFor typeName save entry) (l.deliver typeName save entry).1 := by
  cases verdict : Verdict.ofEntry typeName entry with
  | rejected entry =>
    simp only [deliver, reportsFor, verdict]
    exact reported_note l rfl
  | accepted payload =>
    have called : Reported l [.hooked save payload] (l.note (.hooked save payload)) :=
      reported_note l rfl
    have settled (result : SaveResult) (m : Ledger) :
        Reported m [.settled save result] (m.settle result save) := reported_note m rfl
    cases reply : (l.saveable save.object).hook payload with
    | returned value =>
      have marked : Reported (l.note (.hooked save payload)) []
          ((l.note (.hooked save payload)).modifyRecord save.object (·.markCreated payload)) :=
        { events := by simp
          isReport := by simp
          records := by simp [modifyRecord]
          saveable := saveable_modifyRecord _ _ fun _ => rfl
          clock := rfl }
      simp only [deliver, reportsFor, verdict, reply]
      exact (called.trans marked).trans (settled _ _)
    | failed failure =>
      simp only [deliver, reportsFor, verdict, reply]
      exact called.trans (settled _ _)
    | crashed =>
      simp only [deliver, reportsFor, verdict, reply]
      exact called

/-- Ending one save by its entry ends that save alone, unless its hook crashes. -/
theorem ended_reportsFor (typeName : String) (save : Save) (entry : Option Json) (l : Ledger) :
    (l.reportsFor typeName save entry).filterMap Event.ended? =
      if (l.deliver typeName save entry).2 then [] else [save] := by
  cases verdict : Verdict.ofEntry typeName entry with
  | rejected entry => simp [deliver, reportsFor, verdict, Event.ended?]
  | accepted payload =>
    cases reply : (l.saveable save.object).hook payload <;>
      simp only [deliver, reportsFor, verdict, reply] <;> rfl

/-- Handing entries back reports on their saves, and ends each of them once. -/
theorem reported_deliverAll (typeName : String) (pairs : List (Save × Option Json)) (l : Ledger) :
    ∃ reports, Reported l reports (deliverAll typeName pairs l).1 ∧
      reports.filterMap Event.ended? = pairs.map Prod.fst := by
  induction pairs generalizing l with
  | nil => exact ⟨[], ⟨by simp [deliverAll], by simp, rfl, fun _ => rfl, rfl⟩, rfl⟩
  | cons pair rest ih =>
    obtain ⟨save, entry⟩ := pair
    have hfirst := reported_deliver typeName save entry l
    have ended := ended_reportsFor typeName save entry l
    rcases h : l.deliver typeName save entry with ⟨m, crashed⟩
    rw [h] at hfirst ended
    cases crashed with
    | false =>
      obtain ⟨second, hsecond, ended'⟩ := ih m
      refine ⟨l.reportsFor typeName save entry ++ second, ?_, by simp [ended, ended']⟩
      simpa [deliverAll, h] using hfirst.trans hsecond
    | true =>
      have cancelled := reported_settleAll m (.error .cancelled) (save :: rest.map Prod.fst)
      refine ⟨_, by simpa [deliverAll, h] using hfirst.trans cancelled, ?_⟩
      simp [ended, List.filterMap_map, Function.comp_def, Event.ended?]

theorem map_fst_assignEntries (responses : List HeldResponse) :
    (assignEntries responses).map Prod.fst = responses.flatMap HeldResponse.batch := by
  simp only [assignEntries, List.map_flatMap, List.map_map]
  congr 1
  funext response
  exact List.zipIdx_map_fst 0 response.batch

/-- A redistribution ends every save of the held answers once. -/
theorem reported_redistribute (typeName : String) (responses : List HeldResponse) (l : Ledger) :
    ∃ reports, Reported l reports (l.redistribute typeName responses).1 ∧
      reports.filterMap Event.ended? = responses.flatMap HeldResponse.batch := by
  rw [← map_fst_assignEntries]
  exact reported_deliverAll typeName (assignEntries responses) l

theorem ended_redistribute (typeName : String) (responses : List HeldResponse) (l : Ledger) :
    (l.redistribute typeName responses).1.ended =
      l.ended ++ responses.flatMap HeldResponse.batch := by
  obtain ⟨reports, reported, ended⟩ := reported_redistribute typeName responses l
  rw [Ledger.ended, reported.history, ended, Ledger.ended]

end Ledger

end Writeback

import Writeback.Proofs.Queue.Custody
import Writeback.Proofs.Queue.Reports

/-!
# How saves end

A step reports on saves in one of five ways: a request that failed or became a background task ends
its batch, held answers are handed back, to the last or up to a hook that crashes, a cycle that was
cut short gives its saves up, and a direct save ends. Whatever the journal says was written down by
some step of the run, so what it says of the end of a save is known once these are.

A cycle that was cut short is about to end from the moment its batch was taken. Until it ends,
nothing moves in its bucket but what joins it.
-/

namespace Writeback

/-- What the model layer supplies for the objects of a ledger. -/
def Ledger.Agrees (l : Ledger) (supply : Nat → Saveable) : Prop :=
  ∀ object < l.records.length, l.saveable object = supply object

/-- The objects are as they were supplied, and the transport did not crash. -/
structure Ledger.Undisturbed (l : Ledger) (supply : Nat → Saveable) : Prop where
  agrees : l.Agrees supply
  answers : ∀ key batch request, .answered key batch request .crash ∉ l.events

theorem Ledger.Agrees.of_keeps {l l' : Ledger} {supply : Nat → Saveable} (h : l'.Agrees supply)
    (kept : l.Keeps l') : l.Agrees supply := by
  intro object known
  rw [← kept.saveable object known]
  exact h object (known.trans_le kept.length)

namespace Queue

/-- The serialization of an object of the batch crashes. -/
def Spoiled (supply : Nat → Saveable) (batch : List Save) : Prop :=
  ∃ save ∈ batch, (supply save.object).body = none

namespace Workload

variable {limit : Nat} {w w' : Workload} {supply : Nat → Saveable} {key : BucketKey}
  {save : Save} {batch : List Save}

theorem Step.undisturbed (step : Step limit w w') (h : w'.Undisturbed supply) :
    w.Undisturbed supply where
  agrees := h.agrees.of_keeps step.keeps
  answers key batch request mem := by
    obtain ⟨news, events⟩ := step.exists_news
    exact h.answers key batch request (events ▸ List.mem_append_left _ mem)

theorem Steps.undisturbed (steps : Steps limit w w') (h : w'.Undisturbed supply) :
    w.Undisturbed supply := by
  induction steps with
  | refl => exact h
  | tail _ step ih => exact ih (step.undisturbed h)

theorem Steps.agrees (steps : Steps limit w w') (h : w'.Agrees supply) : w.Agrees supply := by
  induction steps with
  | refl => exact h
  | tail _ step ih => exact ih (h.of_keeps step.keeps)

/-- What a step reports. -/
inductive Ending (w w' : Workload) : Prop
  /-- Nothing. -/
  | quiet {news : List Event} (events : w'.events = w.events ++ news)
      (quiet : ∀ e ∈ news, e.isReport = false)
  /-- A request failed, or became a background task. -/
  | answered {rest : Multiset Phase} {cycle : Cycle} {answer : Answer} {result : SaveResult}
      (hu : w.underway = .answered cycle answer ::ₘ rest)
      (unheld : ∀ key, (Phase.answered cycle answer).handed key = 0)
      (settles : ∀ s typeName save i, Settles s typeName save i answer [.settled save result])
      (events : w'.events = w.events ++ cycle.batch.map fun save => .settled save result)
  /-- All held answers are handed back. -/
  | handedBack {rest : Multiset Phase} {others : Multiset Bucket} {b : Bucket}
      {response : Option HeldResponse} (hu : w.underway = .closing b.key response ::ₘ rest)
      (hb : w.buckets = b ::ₘ others)
      (returns : ∀ pair ∈ assignEntries (b.held ++ response.toList),
        w.Returns b.key.typeName pair.1 pair.2)
      (events : w'.events = w.events ++ (assignEntries (b.held ++ response.toList)).flatMap
        fun pair => w.reportsFor b.key.typeName pair.1 pair.2)
  /-- Held answers are handed back up to one whose hook crashes. -/
  | crashed {rest : Multiset Phase} {others : Multiset Bucket} {b : Bucket}
      {response : Option HeldResponse} {front back : List (Save × Option Json)} {first : Save}
      {entry : Option Json} {payload : Json} (hu : w.underway = .closing b.key response ::ₘ rest)
      (hb : w.buckets = b ::ₘ others)
      (split : assignEntries (b.held ++ response.toList) = front ++ (first, entry) :: back)
      (returns : ∀ pair ∈ front, w.Returns b.key.typeName pair.1 pair.2)
      (hook : (w.saveable first.object).hook payload = .crashed)
      (events : w'.events = w.events ++
        (w.crashReports b.key.typeName front first payload back).flatMap Prod.snd)
  /-- A cycle that was cut short gives its batch up, and all that is held if nothing is pending. -/
  | aborted {rest : Multiset Phase} {others : Multiset Bucket} {b : Bucket} {batch : List Save}
      (hu : w.underway = .failing b.key batch ::ₘ rest) (hb : w.buckets = b ::ₘ others)
      (events : w'.events = w.events ++
        ((if b.pending = [] then b.held.flatMap HeldResponse.batch else []) ++ batch).map
          fun save => .settled save (.error .cancelled))
  /-- A direct save ends. -/
  | finished {rest : Multiset Phase} {save : Save} {reply : SaveReply}
      (hu : w.underway = .replied save reply ::ₘ rest)
      (events : w'.events = w.events ++ [.settled save reply.result])

theorem Step.ending (step : Step limit w w') : Ending w w' := by
  cases step with
  | pass | create | crash | hold | closeNext | begin =>
    exact .quiet (List.append_nil _).symm (by simp)
  | remark event remark =>
    refine .quiet (Ledger.events_note _ _) ?_
    cases event <;> simp_all [Event.isRemark, Event.isReport]
  | ask | joinFirst | joinIdle | joinBusy | take | spoil | post | answer | comeBack =>
    exact .quiet (Ledger.events_note _ _) (by simp [Event.isReport])
  | refuse cycle cause hu =>
    exact .answered hu (fun _ => rfl) (fun _ _ _ _ => .refused cause)
      (Ledger.events_settleAll _ _ _)
  | defer cycle value task hu deferred =>
    exact .answered hu (by simp [Phase.handed, deferred])
      (fun _ _ _ _ => .deferred value task deferred) (Ledger.events_settleAll _ _ _)
  | closeLast b response hu hb =>
    rcases Ledger.events_deliverAll b.key.typeName (assignEntries (b.held ++ response.toList))
      w.toLedger with ⟨returns, events⟩ | ⟨_, _, _, _, _, split, returns, hook, -, events⟩
    · exact .handedBack hu hb returns events
    · refine .crashed hu hb split returns hook (events.trans ?_)
      rw [Ledger.flatMap_crashReports, List.append_assoc]
  | abortNext b batch hu hb more =>
    refine .aborted hu hb ?_
    rw [if_neg more]
    exact Ledger.events_settleAll _ _ _
  | abortLast b batch hu hb empty =>
    refine .aborted hu hb ?_
    rw [if_pos empty]
    exact Ledger.events_settleAll _ _ _
  | finish save reply hu => exact .finished hu (Ledger.events_note _ _)

/-- A step that reports on a save writes nothing else down. -/
theorem Ending.all_reports (ending : Ending w w') {news : List Event}
    (events : w'.events = w.events ++ news) {e : Event} (he : e ∈ news)
    (report : e.isReport = true) : ∀ other ∈ news, other.isReport = true := by
  have these {more : List Event} (same : w'.events = w.events ++ more) : news = more :=
    List.append_cancel_left (events.symm.trans same)
  cases ending with
  | quiet same quiet => exact absurd report (by simp [quiet e (these same ▸ he)])
  | answered _ _ _ same | aborted _ _ same =>
    intro other mem
    obtain ⟨save, -, rfl⟩ := List.mem_map.mp (these same ▸ mem)
    rfl
  | finished _ same => simp [these same, Event.isReport]
  | handedBack _ _ _ same =>
    rw [these same]
    intro other mem
    obtain ⟨pair, -, mem⟩ := List.mem_flatMap.mp mem
    exact Event.isReport_of_reportsOn (w.about_reportsFor _ _ _ other mem)
  | crashed _ _ _ _ _ same =>
    rw [these same]
    intro other mem
    obtain ⟨item, there, mem⟩ := List.mem_flatMap.mp mem
    exact Event.isReport_of_reportsOn (Ledger.about_crashReports item there other mem)

/-- Whatever the journal says was written down by some step of the run. -/
theorem Reachable.exists_step (h : Reachable limit w) {before after : List Event} {e : Event}
    (split : w.events = before ++ e :: after) :
    ∃ u v first last, Reachable limit u ∧ Step limit u v ∧ Steps limit v w ∧
      before = u.events ++ first ∧ v.events = u.events ++ (first ++ e :: last) := by
  induction h generalizing after with
  | initial => simp [Ledger.events] at split
  | @step v w reachable step ih =>
    obtain ⟨news, events⟩ := step.exists_news
    rw [events] at split
    rcases split_append split with ⟨rest, old⟩ | ⟨first, before, new⟩
    · obtain ⟨t, u, first, last, reached, turn, steps, rest⟩ := ih old
      exact ⟨t, u, first, last, reached, turn, steps.tail step, rest⟩
    · exact ⟨v, w, first, after, reachable, step, .refl, before, events.trans (by rw [new])⟩

/-- A cycle that was cut short ends its batch before anything else becomes of it. -/
theorem Step.failing_kept (step : Step limit w w') (failing : .failing key batch ∈ w.underway) :
    .failing key batch ∈ w'.underway ∨ ∀ save ∈ batch, save ∈ w'.ended := by
  have advanced {p : Phase} {rest rest' : Multiset Phase} (hu : w.underway = p ::ₘ rest)
      (ne : p ≠ .failing key batch) (kept : rest ≤ rest') : .failing key batch ∈ rest' := by
    rw [hu, Multiset.mem_cons] at failing
    exact Multiset.mem_of_le kept (failing.resolve_left ne.symm)
  cases step with
  | pass | create | remark | joinBusy => exact .inl failing
  | ask | joinFirst | joinIdle => exact .inl (Multiset.mem_cons_of_mem failing)
  | take _ _ _ hu | spoil _ hu | post _ hu | answer _ _ hu | crash _ hu | refuse _ _ hu
  | defer _ _ _ hu | hold _ _ hu | closeNext _ _ hu | begin _ hu | comeBack _ hu =>
    exact .inl (advanced hu (by simp) (Multiset.le_cons_self _ _))
  | closeLast _ _ hu | finish _ _ hu => exact .inl (advanced hu (by simp) le_rfl)
  | abortNext b own hu =>
    by_cases mine : Phase.failing b.key own = .failing key batch
    · obtain ⟨-, rfl⟩ : b.key = key ∧ own = batch := by simpa using mine
      exact .inr fun save mem => by simp [mem]
    · exact .inl (advanced hu mine (Multiset.le_cons_self _ _))
  | abortLast b own hu =>
    by_cases mine : Phase.failing b.key own = .failing key batch
    · obtain ⟨-, rfl⟩ : b.key = key ∧ own = batch := by simpa using mine
      exact .inr fun save mem => by simp [mem]
    · exact .inl (advanced hu mine le_rfl)

/-- A cycle is cut short when the serialization of an object crashes or the transport does. -/
theorem Step.failing_new (step : Step limit w w') (failing : .failing key batch ∈ w'.underway) :
    .failing key batch ∈ w.underway ∨
      (w.batchBody? key batch = none ∧ w'.events = w.events ++ [.taken key batch]) ∨
      ∃ cycle : Cycle, cycle.key = key ∧ cycle.batch = batch ∧
        .answered cycle .crash ∈ w.underway := by
  have old {p q : Phase} {rest : Multiset Phase} (hu : w.underway = p ::ₘ rest)
      (there : .failing key batch ∈ q ::ₘ rest) (ne : .failing key batch ≠ q) :
      .failing key batch ∈ w.underway := by
    rw [hu]
    exact Multiset.mem_cons_of_mem ((Multiset.mem_cons.mp there).resolve_left ne)
  cases step with
  | pass | create | remark | joinBusy => exact .inl failing
  | ask | joinFirst | joinIdle =>
    exact .inl ((Multiset.mem_cons.mp failing).resolve_left (by simp))
  | take _ _ _ hu | post _ hu | answer _ _ hu | refuse _ _ hu | defer _ _ _ hu | hold _ _ hu
  | closeNext _ _ hu | abortNext _ _ hu | begin _ hu | comeBack _ hu =>
    exact .inl (old hu failing (by simp))
  | closeLast _ _ hu | abortLast _ _ hu | finish _ _ hu =>
    exact .inl (hu ▸ Multiset.mem_cons_of_mem failing)
  | spoil b hu _ _ crashes =>
    by_cases mine : Phase.failing key batch = .failing b.key (b.nextBatch limit)
    · obtain ⟨rfl, rfl⟩ : key = b.key ∧ batch = b.nextBatch limit := by simpa using mine
      exact .inr (.inl ⟨crashes, Ledger.events_note _ _⟩)
    · exact .inl (old hu failing mine)
  | crash cycle hu =>
    by_cases mine : Phase.failing key batch = .failing cycle.key cycle.batch
    · obtain ⟨rfl, rfl⟩ : key = cycle.key ∧ batch = cycle.batch := by simpa using mine
      exact .inr (.inr ⟨cycle, rfl, rfl, by simp [hu]⟩)
    · exact .inl (old hu failing mine)

theorem spoiled_iff {l : Ledger}
    (agrees : ∀ save ∈ batch, l.saveable save.object = supply save.object) :
    Spoiled supply batch ↔ l.batchBody? key batch = none := by
  rw [← Option.not_isSome_iff_eq_none, l.isSome_batchBody?, List.all_eq_true]
  simp only [Spoiled, not_forall, Option.not_isSome_iff_eq_none, exists_prop]
  constructor
  · rintro ⟨save, mem, crashes⟩
    exact ⟨save, mem, agrees save mem ▸ crashes⟩
  · rintro ⟨save, mem, crashes⟩
    exact ⟨save, mem, agrees save mem ▸ crashes⟩

theorem InLine.agrees (h : InLine w) (agrees : w.Agrees supply) {events : List Event}
    (later : joinedIn key events = joinedIn key w.events)
    (joined : ∀ save ∈ batch, save ∈ joinedIn key events) :
    ∀ save ∈ batch, w.saveable save.object = supply save.object :=
  fun save mem => agrees _ (h.known key save (later ▸ joined save mem)).1

theorem joinedIn_note_taken {events : List Event} {other : BucketKey} :
    joinedIn key (events ++ [.taken other batch]) = joinedIn key events := by
  simp [joinedIn, Event.joined?]

/-- Without a crash in transport, a cycle is cut short by a serialization that crashes. -/
theorem Reachable.spoiled_of_failing (h : Reachable limit w) (calm : w.Undisturbed supply)
    (failing : .failing key batch ∈ w.underway) : Spoiled supply batch := by
  induction h with
  | initial => simp at failing
  | @step v w before step ih =>
    have taken := (before.step step).backed.phases _ failing
    have joined : ∀ save ∈ batch, save ∈ joinedIn key w.events := fun save mem =>
      (before.step step).inLine.mem_joined_of_taken (mem_takenIn.mpr taken) mem
    have early := step.undisturbed calm
    rcases step.failing_new failing with old | ⟨crashes, events⟩ | ⟨cycle, rfl, rfl, crashed⟩
    · exact ih early old
    · have same := before.inLine.agrees early.agrees (events ▸ joinedIn_note_taken) joined
      exact (spoiled_iff same).mpr crashes
    · exact absurd (before.backed.phases _ crashed).2 (early.answers _ _ _)

/-- A batch whose serialization crashed is with its cycle until its saves end. -/
theorem Reachable.failing_of_spoiled (h : Reachable limit w) (calm : w.Undisturbed supply)
    (taken : .taken key batch ∈ w.events) (spoiled : Spoiled supply batch) (mem : save ∈ batch)
    (unended : save ∉ w.ended) : .failing key batch ∈ w.underway := by
  induction h with
  | initial => simp [Ledger.events] at taken
  | @step v w before step ih =>
    obtain ⟨news, grown⟩ := step.exists_news
    have known := step.undisturbed calm
    have early : save ∉ v.ended := fun ended => unended (Ledger.mem_ended_of_append grown ended)
    have kept (old : .taken key batch ∈ v.events) : .failing key batch ∈ w.underway :=
      (step.failing_kept (ih known old early)).resolve_right
        fun ended => unended (ended save mem)
    rw [← mem_takenIn] at taken
    rcases step.taken_cases key with same | ⟨other, -, events, spoils⟩
    · exact kept (mem_takenIn.mp (same ▸ taken))
    · have joined : ∀ save ∈ batch, save ∈ joinedIn key w.events := fun save mem =>
        (before.step step).inLine.mem_joined_of_taken taken mem
      rw [events, takenIn_append, List.mem_append, mem_takenIn] at taken
      rcases taken with old | new
      · exact kept old
      · obtain rfl : other = batch := by simpa [takenIn, Event.taken?, eq_comm] using new
        have same := before.inLine.agrees known.agrees (events ▸ joinedIn_note_taken) joined
        exact spoils ((spoiled_iff same).mp spoiled)

/-- A batch is taken once. -/
theorem Reachable.not_taken_again (h : Reachable limit w) {earlier : List Event}
    (events : w.events = earlier ++ [.taken key batch]) (mem : save ∈ batch) :
    .taken key batch ∉ earlier := by
  intro again
  have nodup := (h.nodup_joinedIn key).sublist (h.inLine.taken_prefix key).sublist
  have last : takenIn key [.taken key batch] = [batch] := by simp [takenIn, Event.taken?]
  rw [events, takenIn_append, last, List.flatten_append, List.flatten_singleton] at nodup
  exact (List.nodup_append'.mp nodup).2.2
    (List.mem_flatten.mpr ⟨batch, mem_takenIn.mpr again, mem⟩) mem

theorem Custody.heldIn_of_failing (custody : Custody w w') (tokens : Tokens w)
    (before : .failing key batch ∈ w.underway) (after : .failing key batch ∈ w'.underway) :
    heldIn key w'.events = heldIn key w.events := by
  cases custody with
  | kept held => exact held key
  | @moved b _ _ p rest hu mine gone _ _ _ other =>
    refine (other key fun same => gone ?_).1
    subst same
    rw [hu, Multiset.mem_cons] at before
    rcases before with rfl | there
    · exact after
    · exact absurd (by simp) (tokens.notMem_rest hu mine there)

/-- Nothing of a bucket is held or ends between the taking of a batch and the end of the cycle that
its serialization cut short. -/
theorem Reachable.heldIn_of_failing (h : Reachable limit w) (calm : w.Undisturbed supply)
    (failing : .failing key batch ∈ w.underway) {before mid : List Event}
    (split : w.events = before ++ .taken key batch :: mid) :
    heldIn key before = heldIn key w.events := by
  induction h generalizing mid with
  | initial => simp at failing
  | @step v w reachable step ih =>
    obtain ⟨news, grown⟩ := step.exists_news
    have early := step.undisturbed calm
    rcases step.failing_new failing with old | ⟨crashes, events⟩ | ⟨cycle, rfl, rfl, crashed⟩
    · have waiting : .waiting (.cycle key) ∉ v.underway := by
        obtain ⟨rest, hu⟩ := Multiset.exists_cons_of_mem old
        rw [hu, Multiset.mem_cons, not_or]
        exact ⟨by simp, reachable.tokens.waiting_notMem_rest hu (by simp)⟩
      have none : takenIn key news = [] := by
        simpa [grown, takenIn_append] using step.takenIn_eq waiting
      rcases split_append (grown ▸ split) with ⟨rest, old_split⟩ | ⟨first, -, new⟩
      · rw [ih early old old_split]
        exact ((step.custody reachable reachable.held).heldIn_of_failing reachable.tokens old
          failing).symm
      · have there : batch ∈ takenIn key news := mem_takenIn.mpr (by simp [new])
        exact absurd there (none ▸ List.not_mem_nil)
    · rcases split_append (events ▸ split) with ⟨rest, old⟩ | ⟨first, rfl, new⟩
      · obtain ⟨save, mem⟩ : ∃ save, save ∈ batch :=
          List.exists_mem_of_ne_nil _ fun none => by simp [none, Ledger.batchBody?] at crashes
        exact absurd (old ▸ by simp) ((reachable.step step).not_taken_again events mem)
      · obtain rfl : first = [] := by
          cases first with
          | nil => rfl
          | cons => simp at new
        rw [List.append_nil, events]
        exact (heldIn_append_singleton rfl rfl).symm
    · exact absurd (reachable.backed.phases _ crashed).2 (early.answers _ _ _)

end Workload

end Queue

end Writeback

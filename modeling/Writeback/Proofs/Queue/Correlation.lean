import Writeback.Proofs.Queue.Endings

/-!
# Every save goes by its own entry

Whatever is reported of a save is what the answer to its request says at its position, or what its
direct save replied, or else the save was cut short by a crash: of a serialization in its own
batch, of one in a later batch of its bucket while its answer was held and nothing was pending, or
of a hook at or before its position when the held answers were handed back. The invariant follows
an answer from the journal through the end of its cycle and the answers held in the bucket: each of
them is on record for the batch that it stands next to. Since a save stands in one place only,
nothing was reported of a save that is handed back, and what is handed back next to it is about
other saves.

What the model layer supplies for an object does not depend on the state, so the invariant is about
one fixed supply, with which all states of the run agree.
-/

namespace Writeback

namespace Queue

/-- No request and no answer was lost to a crash: no serialization and no hook crashed, and the
transport answered. -/
structure CrashFree (supply : Nat → Saveable) (events : List Event) : Prop where
  serialized : ∀ key batch, .taken key batch ∈ events →
    ∀ save ∈ batch, (supply save.object).body.isSome = true
  hooks : ∀ save payload, .hooked save payload ∈ events →
    (supply save.object).hook payload ≠ .crashed
  answers : ∀ key batch request, .answered key batch request .crash ∉ events

/-- Whether an event is no crash. -/
def Event.isCalm (supply : Nat → Saveable) : Event → Bool
  | .taken _ batch => batch.all fun save => (supply save.object).body.isSome
  | .hooked save payload => (supply save.object).hook payload ≠ .crashed
  | .answered _ _ _ answer => answer ≠ .crash
  | _ => true

theorem crashFree_iff {supply : Nat → Saveable} {events : List Event} :
    CrashFree supply events ↔ ∀ e ∈ events, Event.isCalm supply e = true := by
  constructor
  · intro h e mem
    cases e with
    | taken key batch => exact List.all_eq_true.mpr (h.serialized key batch mem)
    | hooked save payload => exact decide_eq_true (h.hooks save payload mem)
    | answered key batch request answer =>
      apply decide_eq_true
      intro crash
      apply h.answers key batch request
      exact crash ▸ mem
    | _ => rfl
  · intro h
    constructor
    · intro key batch mem
      exact List.all_eq_true.mp (h _ mem)
    · intro save payload mem
      exact of_decide_eq_true (h _ mem)
    · intro key batch request mem
      have calm : decide (Answer.crash ≠ .crash) = true := h _ mem
      exact of_decide_eq_true calm rfl

instance (supply : Nat → Saveable) (events : List Event) : Decidable (CrashFree supply events) :=
  decidable_of_iff _ crashFree_iff.symm

/-- Every event reports on a save of a bucket whose answer was held. -/
def HandsBack (key : BucketKey) (before reports : List Event) : Prop :=
  ∀ e ∈ reports, ∃ save ∈ heldIn key before, e.reportsOn save = true

/-- A crash cuts a save of a bucket short. -/
inductive CutShort (supply : Nat → Saveable) (events : List Event) (key : BucketKey) (save : Save) :
    Prop where
  /-- A serialization crashed in the batch of the save. -/
  | spoiled {batch : List Save} (taken : .taken key batch ∈ events)
      (spoiled : Spoiled supply batch) (mem : save ∈ batch)
  /-- Its answer was held when a serialization crashed in a later batch of the bucket. By the time
  the saves of that batch were cancelled, nothing was pending. -/
  | aborted {before mid after : List Event} {batch : List Save} {other : Save}
      (split : events = before ++ .taken key batch ::
        (mid ++ .settled other (.error .cancelled) :: after))
      (spoiled : Spoiled supply batch) (mem : other ∈ batch)
      (empty : pendingIn key (before ++ .taken key batch :: mid) = [])
      (held : save ∈ heldIn key before)
  /-- The hook of a save crashed when the held answers were handed back, in the order of the
  batches. That save comes no later than this one, or is this one. -/
  | handedBack {before mid after : List Event} {first : Save} {payload : Json} {p q : Nat}
      (split : events = before ++ (mid ++ .hooked first payload :: after))
      (hands : HandsBack key before mid)
      (hook : (supply first.object).hook payload = .crashed)
      (at_p : (heldIn key before)[p]? = some first) (at_q : (heldIn key before)[q]? = some save)
      (le : p ≤ q)

/-- The save is cancelled, with nothing before but the call of its own hook that crashed. -/
def CutReports (supply : Nat → Saveable) (save : Save) (reports : List Event) : Prop :=
  reports = [.settled save (.error .cancelled)] ∨
    ∃ payload, (supply save.object).hook payload = .crashed ∧
      reports = [.hooked save payload, .settled save (.error .cancelled)]

/-- What the journal gives as the reason for what is reported of a save. -/
inductive Justified (supply : Nat → Saveable) (events : List Event) (save : Save)
    (reports : List Event) : Prop where
  /-- The answer to its request, at its position. -/
  | answered {key : BucketKey} {batch : List Save} {request : Request} {answer : Answer} {i : Nat}
      (answered : .answered key batch request answer ∈ events) (at_i : batch[i]? = some save)
      (settles : Settles (supply save.object) key.typeName save i answer reports)
  /-- The reply to its direct save. -/
  | replied {reply : SaveReply} (replied : .replied save reply ∈ events)
      (settles : SettlesDirectly save reply reports)
  /-- A crash. -/
  | cut {key : BucketKey} (cut : CutShort supply events key save)
      (cancelled : CutReports supply save reports)

section Growth

variable {supply : Nat → Saveable} {events news : List Event} {key : BucketKey} {save : Save}
  {reports : List Event}

theorem CutShort.append (h : CutShort supply events key save) :
    CutShort supply (events ++ news) key save := by
  cases h with
  | spoiled taken spoiled mem => exact .spoiled (List.mem_append_left _ taken) spoiled mem
  | @aborted before mid after batch other split spoiled mem empty held =>
    have grown : events ++ news = before ++ .taken key batch ::
        (mid ++ .settled other (.error .cancelled) :: (after ++ news)) := by
      simp [split]
    exact .aborted grown spoiled mem empty held
  | @handedBack before mid after first payload p q split hands hook at_p at_q le =>
    have grown : events ++ news = before ++ (mid ++ .hooked first payload :: (after ++ news)) := by
      simp [split]
    exact .handedBack grown hands hook at_p at_q le

theorem Justified.append (h : Justified supply events save reports) :
    Justified supply (events ++ news) save reports := by
  cases h with
  | answered answered at_i settles => exact .answered (List.mem_append_left _ answered) at_i settles
  | replied replied settles => exact .replied (List.mem_append_left _ replied) settles
  | cut cut cancelled => exact .cut cut.append cancelled

theorem CutReports.cancelled (h : CutReports supply save reports) :
    .settled save (.error .cancelled) ∈ reports := by
  rcases h with rfl | ⟨payload, -, rfl⟩
  · exact List.mem_singleton_self _
  · exact .tail _ (List.mem_singleton_self _)

theorem Justified.exists_settled (h : Justified supply events save reports) :
    ∃ result, .settled save result ∈ reports := by
  cases h with
  | answered _ _ settles => exact settles.exists_settled
  | replied _ settles => exact settles.exists_settled
  | cut _ cancelled => exact ⟨_, cancelled.cancelled⟩

theorem CrashFree.uncut (h : CrashFree supply events) : ¬CutShort supply events key save := by
  have calm {batch : List Save} (taken : .taken key batch ∈ events) : ¬Spoiled supply batch := by
    rintro ⟨other, mem, crashes⟩
    have serialized := h.serialized key batch taken other mem
    simp [crashes] at serialized
  intro cut
  cases cut with
  | spoiled taken spoiled => exact calm taken spoiled
  | aborted split spoiled => exact calm (split ▸ by simp) spoiled
  | handedBack split _ hook => exact h.hooks _ _ (split ▸ by simp) hook

end Growth

namespace Workload

variable {limit : Nat} {w w' : Workload} {supply : Nat → Saveable} {key : BucketKey} {save : Save}

/-- What is reported of every save has its reason. -/
structure Accounted (supply : Nat → Saveable) (w : Workload) : Prop where
  replied : ∀ save reply, .replied save reply ∈ w.events →
    reply = (supply save.object).saveReply
  reports : ∀ save, reportsOf save w.events = [] ∨
    Justified supply w.events save (reportsOf save w.events)

theorem Accounted.reportsOf_eq_nil (h : Accounted supply w) (unended : save ∉ w.ended) :
    reportsOf save w.events = [] := by
  refine (h.reports save).resolve_right fun justified => ?_
  obtain ⟨result, settled⟩ := justified.exists_settled
  exact unended (Ledger.mem_ended.mpr ⟨result, mem_of_mem_reportsOf settled⟩)

/-- The news of a step report on saves that had not ended, each with its reason. -/
def Tells (supply : Nat → Saveable) (w w' : Workload) (news : List Event) : Prop :=
  ∀ save, reportsOf save news = [] ∨
    save ∉ w.ended ∧ Justified supply w'.events save (reportsOf save news)

theorem tells_flatMap {α : Type} (who : α → Save) {items : List α} {reports : α → List Event}
    (about : ∀ item ∈ items, ∀ e ∈ reports item, e.reportsOn (who item) = true)
    (nodup : (items.map who).Nodup) (unended : ∀ item ∈ items, who item ∉ w.ended)
    (justified : ∀ item ∈ items, Justified supply w'.events (who item) (reports item)) :
    Tells supply w w' (items.flatMap reports) := by
  intro save
  by_cases there : save ∈ items.map who
  · obtain ⟨item, mem, rfl⟩ := List.mem_map.mp there
    rw [reportsOf_flatMap who about nodup mem]
    exact .inr ⟨unended item mem, justified item mem⟩
  · exact .inl (reportsOf_flatMap_eq_nil about there)

/-- Saves that a step ends all alike. -/
theorem tells_settleAll {saves : List Save} {result : SaveResult} (nodup : saves.Nodup)
    (unended : ∀ save ∈ saves, save ∉ w.ended)
    (justified : ∀ save ∈ saves, Justified supply w'.events save [.settled save result]) :
    Tells supply w w' (saves.map fun save => .settled save result) := by
  rw [List.map_eq_flatMap]
  exact tells_flatMap id (by simp [Event.reportsOn]) (by simpa using nodup) unended justified

section Closing

variable {rest : Multiset Phase} {others : Multiset Bucket} {b : Bucket}
  {response : Option HeldResponse}

/-- When a cycle is about to end, what is held is what is handed back, in the same order. -/
theorem Reachable.heldIn_eq_entries (h : Reachable limit w)
    (hu : w.underway = .closing b.key response ::ₘ rest) (hb : w.buckets = b ::ₘ others) :
    heldIn b.key w.events = (assignEntries (b.held ++ response.toList)).map Prod.fst := by
  rw [Ledger.map_fst_assignEntries]
  exact h.held.heldIn_closing h.tokens hu hb

theorem Reachable.heldIn_of_split (h : Reachable limit w)
    (hu : w.underway = .closing b.key response ::ₘ rest) (hb : w.buckets = b ::ₘ others)
    {front back : List (Save × Option Json)} {first : Save} {entry : Option Json}
    (split : assignEntries (b.held ++ response.toList) = front ++ (first, entry) :: back) :
    heldIn b.key w.events = front.map Prod.fst ++ first :: back.map Prod.fst := by
  rw [h.heldIn_eq_entries hu hb, split, List.map_append, List.map_cons]

/-- A held answer is handed back to a save whose hook does not crash. -/
theorem Reachable.justified_of_entry (h : Reachable limit w) (agrees : w.Agrees supply)
    (hu : w.underway = .closing b.key response ::ₘ rest) (hb : w.buckets = b ::ₘ others)
    {pair : Save × Option Json} (mem : pair ∈ assignEntries (b.held ++ response.toList))
    (returns : w.Returns b.key.typeName pair.1 pair.2) :
    Justified supply w.events pair.1 (w.reportsFor b.key.typeName pair.1 pair.2) := by
  obtain ⟨save, entry⟩ := pair
  obtain ⟨response', held, i, at_i, rfl⟩ := mem_assignEntries.mp mem
  obtain ⟨request, answered, plain⟩ : OnRecord w.events b.key response' := by
    rcases List.mem_append.mp held with held | last
    · exact h.backed.held b (by simp [hb]) response' held
    · exact h.backed.phases (.closing b.key response) (by simp [hu]) response' (by simpa using last)
  have joined := h.joined_of_answered answered (List.mem_of_getElem? at_i)
  refine .answered answered at_i ?_
  rw [← agrees _ (h.inLine.known _ _ joined).1]
  exact Ledger.settles_reportsFor plain returns

theorem Reachable.unended_of_closing (h : Reachable limit w)
    (hu : w.underway = .closing b.key response ::ₘ rest) (hb : w.buckets = b ::ₘ others) :
    ((assignEntries (b.held ++ response.toList)).map Prod.fst).Nodup ∧
      ∀ pair ∈ assignEntries (b.held ++ response.toList), pair.1 ∉ w.ended := by
  obtain ⟨nodup, unended⟩ := h.unended (load_of_closing hu hb)
  rw [Multiset.coe_nodup, ← Ledger.map_fst_assignEntries] at nodup
  simp only [Multiset.mem_coe, ← Ledger.map_fst_assignEntries] at unended
  exact ⟨nodup, fun pair mem => (unended pair.1 (List.mem_map_of_mem mem)).1⟩

end Closing

/-- A crash of a hook ends a redistribution: its save and those after it are cut short. -/
theorem Reachable.cut_of_crashed (h : Reachable limit w) {rest : Multiset Phase}
    {others : Multiset Bucket} {b : Bucket} {response : Option HeldResponse}
    (hu : w.underway = .closing b.key response ::ₘ rest) (hb : w.buckets = b ::ₘ others)
    {front back : List (Save × Option Json)} {first : Save} {entry : Option Json} {payload : Json}
    (split : assignEntries (b.held ++ response.toList) = front ++ (first, entry) :: back)
    (hook : (supply first.object).hook payload = .crashed)
    (events : w'.events = w.events ++
      (w.crashReports b.key.typeName front first payload back).flatMap Prod.snd)
    (mem : save ∈ first :: back.map Prod.fst) : CutShort supply w'.events b.key save := by
  have line := h.heldIn_of_split hu hb split
  obtain ⟨q, at_q⟩ := List.mem_iff_getElem?.mp mem
  have hands : HandsBack b.key w.events
      (front.flatMap fun pair => w.reportsFor b.key.typeName pair.1 pair.2) := by
    intro e he
    obtain ⟨pair, mem, he⟩ := List.mem_flatMap.mp he
    refine ⟨pair.1, ?_, w.about_reportsFor _ _ _ e he⟩
    rw [line]
    exact List.mem_append_left _ (List.mem_map_of_mem mem)
  rw [Ledger.flatMap_crashReports] at events
  have behind (i : Nat) : (heldIn b.key w.events)[front.length + i]? =
      (first :: back.map Prod.fst)[i]? := by
    rw [line, List.getElem?_append_right (by simp), List.length_map, Nat.add_sub_cancel_left]
  exact .handedBack events hands hook (behind 0) ((behind q).trans at_q) (Nat.le_add_right _ q)

theorem Reachable.tells_crashed (h : Reachable limit w) (agrees : w.Agrees supply)
    {rest : Multiset Phase} {others : Multiset Bucket} {b : Bucket}
    {response : Option HeldResponse} (hu : w.underway = .closing b.key response ::ₘ rest)
    (hb : w.buckets = b ::ₘ others) {front back : List (Save × Option Json)} {first : Save}
    {entry : Option Json} {payload : Json}
    (split : assignEntries (b.held ++ response.toList) = front ++ (first, entry) :: back)
    (returns : ∀ pair ∈ front, w.Returns b.key.typeName pair.1 pair.2)
    (hook : (w.saveable first.object).hook payload = .crashed)
    (events : w'.events = w.events ++
      (w.crashReports b.key.typeName front first payload back).flatMap Prod.snd) :
    Tells supply w w'
      ((w.crashReports b.key.typeName front first payload back).flatMap Prod.snd) := by
  obtain ⟨nodup, unended⟩ := h.unended_of_closing hu hb
  have held : first ∈ heldIn b.key w.events := by simp [h.heldIn_of_split hu hb split]
  rw [agrees _ (h.inLine.known _ _ (h.joined_of_heldIn held)).1] at hook
  have cut : ∀ save ∈ first :: back.map Prod.fst, CutShort supply w'.events b.key save :=
    fun save mem => h.cut_of_crashed hu hb split hook events mem
  have saves : (w.crashReports b.key.typeName front first payload back).map Prod.fst =
      (assignEntries (b.held ++ response.toList)).map Prod.fst := by
    rw [Ledger.map_fst_crashReports, split, List.map_append, List.map_cons]
  refine tells_flatMap Prod.fst Ledger.about_crashReports (saves ▸ nodup) (fun item mem => ?_) ?_
  · obtain ⟨pair, there, same⟩ := List.mem_map.mp (saves ▸ List.mem_map_of_mem mem)
    exact same ▸ unended pair there
  · simp only [Ledger.crashReports, List.forall_mem_append, List.forall_mem_cons,
      List.forall_mem_map]
    refine ⟨fun pair mem => ?_, .cut (cut _ List.mem_cons_self) (.inr ⟨payload, hook, rfl⟩),
      fun pair mem => .cut (cut _ ?_) (.inl rfl)⟩
    · rw [events]
      exact (h.justified_of_entry agrees hu hb (by simp [split, mem]) (returns pair mem)).append
    · exact List.mem_cons_of_mem _ (List.mem_map_of_mem mem)

/-- A cycle that was cut short ends with its bucket empty, and all that is held is cut short. -/
theorem Reachable.cut_of_aborted (h : Reachable limit w) (calm : w.Undisturbed supply)
    {rest : Multiset Phase} {others : Multiset Bucket} {b : Bucket} {batch : List Save}
    (hu : w.underway = .failing b.key batch ::ₘ rest) (hb : w.buckets = b ::ₘ others)
    (empty : b.pending = []) (spoiled : Spoiled supply batch)
    (events : w'.events = w.events ++ (b.held.flatMap HeldResponse.batch ++ batch).map
      fun save => .settled save (.error .cancelled))
    (held : save ∈ b.held.flatMap HeldResponse.batch) :
    CutShort supply w'.events b.key save := by
  have failing : .failing b.key batch ∈ w.underway := by simp [hu]
  have taken : .taken b.key batch ∈ w.events := h.backed.phases _ failing
  obtain ⟨before, mid, split⟩ := List.append_of_mem taken
  obtain ⟨other, in_batch, -⟩ := id spoiled
  obtain ⟨front, back, parts⟩ := List.append_of_mem in_batch
  let first : List Event := (b.held.flatMap HeldResponse.batch ++ front).map
    fun save => .settled save (.error .cancelled)
  have grown : w'.events = before ++ .taken b.key batch :: ((mid ++ first) ++
      .settled other (.error .cancelled) ::
        back.map fun save => .settled save (.error .cancelled)) := by
    rw [events, split]
    simp [first, parts]
  have pending : pendingIn b.key (before ++ .taken b.key batch :: (mid ++ first)) = [] := by
    have past : before ++ .taken b.key batch :: (mid ++ first) = w.events ++ first := by
      rw [split, List.append_assoc, List.cons_append]
    rw [past, pendingIn_append_of_silent isWire_settled, h.inLine.pendingIn_eq (by simp [hb]),
      empty]
  refine .aborted grown spoiled in_batch pending ?_
  rw [h.heldIn_of_failing calm failing split, h.held.heldIn_failing h.tokens hu hb]
  exact held

theorem Reachable.tells_aborted (h : Reachable limit w) (calm : w.Undisturbed supply)
    {rest : Multiset Phase} {others : Multiset Bucket} {b : Bucket} {batch : List Save}
    (hu : w.underway = .failing b.key batch ::ₘ rest) (hb : w.buckets = b ::ₘ others)
    (events : w'.events = w.events ++
      ((if b.pending = [] then b.held.flatMap HeldResponse.batch else []) ++ batch).map
        fun save => .settled save (.error .cancelled)) :
    Tells supply w w'
      (((if b.pending = [] then b.held.flatMap HeldResponse.batch else []) ++ batch).map
        fun save => .settled save (.error .cancelled)) := by
  have failing : .failing b.key batch ∈ w.underway := by simp [hu]
  have taken : .taken b.key batch ∈ w.events := h.backed.phases _ failing
  have spoiled := h.spoiled_of_failing calm failing
  obtain ⟨nodup, unended⟩ := h.unended (load_of_failing hu hb)
  have part : ((if b.pending = [] then b.held.flatMap HeldResponse.batch else []) ++ batch).Sublist
      (b.held.flatMap HeldResponse.batch ++ batch) := by
    refine .append ?_ (.refl batch)
    split
    · exact .refl _
    · exact List.nil_sublist _
  refine tells_settleAll ((Multiset.coe_nodup.mp nodup).sublist part)
    (fun save mem => (unended save (part.subset mem)).1) fun save mem => ?_
  rcases List.mem_append.mp mem with held | own
  · by_cases empty : b.pending = []
    · rw [if_pos empty] at held events
      exact .cut (h.cut_of_aborted calm hu hb empty spoiled events held) (.inl rfl)
    · rw [if_neg empty] at held
      exact absurd held List.not_mem_nil
  · have early : CutShort supply w.events b.key save := .spoiled taken spoiled own
    exact events ▸ .cut early.append (.inl rfl)

/-- The news of a step report on saves that had not ended, each with its reason. -/
theorem Step.tells (step : Step limit w w') (h : Reachable limit w) (calm : w.Undisturbed supply) :
    ∃ news, w'.events = w.events ++ news ∧ Tells supply w w' news := by
  cases step.ending with
  | quiet events quiet => exact ⟨_, events, fun _ => .inl (reportsOf_of_no_report quiet)⟩
  | @answered rest cycle answer result hu _ settles events =>
    have answered : Phase.Backed w.events (.answered cycle answer) :=
      h.backed.phases _ (by simp [hu])
    obtain ⟨nodup, unended⟩ := h.unended (load_of_phase hu)
    refine ⟨_, events, tells_settleAll (Multiset.coe_nodup.mp nodup)
      (fun save mem => (unended save (Multiset.mem_coe.mpr mem)).1) fun save mem => ?_⟩
    obtain ⟨i, at_i⟩ := List.mem_iff_getElem?.mp mem
    have early : Justified supply w.events save [.settled save result] :=
      .answered answered.2 at_i (settles _ _ save i)
    exact events ▸ early.append
  | handedBack hu hb returns events =>
    obtain ⟨nodup, unended⟩ := h.unended_of_closing hu hb
    refine ⟨_, events, tells_flatMap Prod.fst (fun pair _ => w.about_reportsFor _ _ _) nodup unended
      fun pair mem => ?_⟩
    exact events ▸ (h.justified_of_entry calm.agrees hu hb mem (returns pair mem)).append
  | crashed hu hb split returns hook events =>
    exact ⟨_, events, h.tells_crashed calm.agrees hu hb split returns hook events⟩
  | aborted hu hb events => exact ⟨_, events, h.tells_aborted calm hu hb events⟩
  | @finished rest save reply hu events =>
    have replied : .replied save reply ∈ w.events :=
      h.backed.phases (.replied save reply) (by simp [hu])
    obtain ⟨-, unended⟩ := h.unended (load_of_phase hu)
    have early : Justified supply w.events save [.settled save reply.result] :=
      .replied replied (settlesDirectly_result save reply)
    have alone : Tells supply w w' ([save].map fun save => .settled save reply.result) := by
      refine tells_settleAll (List.nodup_singleton save) ?_ ?_
      · simpa using (unended save (Multiset.mem_singleton_self save)).1
      · simpa [events] using early.append
    exact ⟨_, events, alone⟩

/-- The reply to a direct save is the one that the model layer supplies. -/
theorem Step.replied_cases (step : Step limit w w') {reply : SaveReply}
    (mem : .replied save reply ∈ w'.events) :
    .replied save reply ∈ w.events ∨
      .saving save ∈ w.underway ∧ reply = (w.saveable save.object).saveReply := by
  cases step with
  | pass | create => exact .inl mem
  | remark event remark =>
    left
    cases event <;> simp_all [Event.isRemark]
  | closeLast b response =>
    obtain ⟨reports, reported, -⟩ := Ledger.reported_redistribute b.key.typeName
      (b.held ++ response.toList) w.toLedger
    have split : .replied save reply ∈ w.events ++ reports := reported.events ▸ mem
    refine .inl ((List.mem_append.mp split).resolve_right fun there => ?_)
    exact absurd (reported.isReport _ there) (by simp [Event.isReport])
  | comeBack other hu =>
    rcases (by simpa using mem) with old | ⟨rfl, rfl⟩
    · exact .inl old
    · exact .inr ⟨by simp [hu], rfl⟩
  | finish => exact .inl (by simpa [Ledger.settle] using mem)
  | _ => exact .inl (by simpa using mem)

theorem Accounted.step (h : Accounted supply w) {news : List Event}
    (events : w'.events = w.events ++ news) (tells : Tells supply w w' news)
    (replied : ∀ save reply, .replied save reply ∈ w'.events →
      reply = (supply save.object).saveReply) : Accounted supply w' where
  replied := replied
  reports save := by
    rcases tells save with none | ⟨unended, justified⟩
    · rw [events, reportsOf_append, none, List.append_nil]
      exact (h.reports save).imp_right fun justified => justified.append
    · right
      have same : reportsOf save w'.events = reportsOf save news := by
        rw [events, reportsOf_append, h.reportsOf_eq_nil unended, List.nil_append]
      rw [same]
      exact justified

/-- Unless the transport crashed, what is reported of a save has its reason. -/
theorem Reachable.accounted (h : Reachable limit w) (calm : w.Undisturbed supply) :
    Accounted supply w := by
  induction h with
  | initial => exact ⟨by simp [Ledger.events], fun _ => .inl rfl⟩
  | @step v w before step ih =>
    have early := step.undisturbed calm
    have accounted := ih early
    obtain ⟨news, events, tells⟩ := step.tells before early
    refine accounted.step events tells fun save reply mem => ?_
    rcases step.replied_cases mem with old | ⟨saving, rfl⟩
    · exact accounted.replied save reply old
    · obtain ⟨rest, hu⟩ := Multiset.exists_cons_of_mem saving
      rw [early.agrees _ ((before.unended (load_of_phase hu)).2 save (by simp)).2]

/-- What is reported of every save is read off its own answer, or the reply to its direct save. -/
structure Correlated (supply : Nat → Saveable) (w : Workload) : Prop
    extends Accounted supply w where
  uncut : ∀ key save, ¬CutShort supply w.events key save

theorem Reachable.correlated (h : Reachable limit w) (agrees : w.Agrees supply)
    (calm : CrashFree supply w.events) : Correlated supply w :=
  ⟨h.accounted ⟨agrees, calm.answers⟩, fun _ _ => calm.uncut⟩

end Workload

end Queue

end Writeback

import Writeback.Proofs.Queue.Answers

/-!
# Hooks are called in the order of the line

The post-create hooks of a bucket are called when its last cycle ends, for the saves whose answers
it holds. By then all that joined the bucket has ended but for these, and they are held in the order
in which they joined. So the saves whose hooks were called, followed by those that have not ended,
always stand in the order of the line.
-/

namespace Writeback

def Event.hooked? : Event → Option Save
  | hooked save _ => some save
  | _ => none

/-- The saves of a bucket whose hooks were called, in the order of the calls. -/
def hookedIn (key : BucketKey) (events : List Event) : List Save :=
  (events.filterMap Event.hooked?).filter fun save => save ∈ joinedIn key events

/-- The saves of a bucket that have not ended, in the order they joined. -/
def openIn (key : BucketKey) (events : List Event) : List Save :=
  (joinedIn key events).filter fun save => save ∉ events.filterMap Event.ended?

section Readings

variable {key : BucketKey} {events news : List Event}

theorem openIn_append_sublist (key : BucketKey) (events news : List Event) :
    (openIn key (events ++ news)).Sublist (openIn key events ++ joinedIn key news) := by
  rw [openIn, joinedIn_append, List.filter_append]
  refine .append ?_ List.filter_sublist
  rw [openIn]
  refine List.monotone_filter_right _ fun save unended => ?_
  simp only [List.filterMap_append, List.mem_append, not_or, decide_eq_true_eq] at unended ⊢
  exact unended.1

/-- Without a call, and with nothing that joins the bucket after its call, the calls are the
same. -/
theorem hookedIn_append (none : news.filterMap Event.hooked? = [])
    (first : ∀ save ∈ events.filterMap Event.hooked?, save ∈ joinedIn key (events ++ news) →
      save ∈ joinedIn key events) : hookedIn key (events ++ news) = hookedIn key events := by
  rw [hookedIn, List.filterMap_append, none, List.append_nil, hookedIn]
  refine List.filter_congr fun save called => ?_
  rw [decide_eq_decide]
  refine ⟨first save called, fun joined => ?_⟩
  rw [joinedIn_append]
  exact List.mem_append_left _ joined

end Readings

/-- A reading that gives less gives a part. -/
theorem filterMap_sublist {α β : Type} {f g : α → Option β} {l : List α}
    (less : ∀ x y, f x = some y → g x = some y) : (l.filterMap f).Sublist (l.filterMap g) := by
  induction l with
  | nil => exact .slnil
  | cons x l ih =>
    cases here : f x with
    | none =>
      rw [List.filterMap_cons_none here]
      exact ih.trans ((List.sublist_cons_self x l).filterMap g)
    | some y =>
      rw [List.filterMap_cons_some here, List.filterMap_cons_some (less x y here)]
      exact ih.cons_cons y

namespace Ledger

theorem hooked_reportsFor (l : Ledger) (typeName : String) (save : Save) (entry : Option Json) :
    ((l.reportsFor typeName save entry).filterMap Event.hooked?).Sublist [save] := by
  cases verdict : Verdict.ofEntry typeName entry with
  | rejected entry => simp [reportsFor, verdict, Event.hooked?]
  | accepted payload =>
    cases reply : (l.saveable save.object).hook payload <;>
      simp [reportsFor, verdict, reply, Event.hooked?]

theorem hooked_settleAll (saves : List Save) (result : SaveResult) :
    (saves.map fun save => Event.settled save result).filterMap Event.hooked? = [] := by
  simp [Event.hooked?]

/-- Handing entries back calls hooks in the order of the entries, each at most once. -/
theorem hooked_deliverAll (typeName : String) (pairs : List (Save × Option Json)) (l : Ledger) :
    ∃ reports, (deliverAll typeName pairs l).1.events = l.events ++ reports ∧
      (reports.filterMap Event.hooked?).Sublist (pairs.map Prod.fst) := by
  induction pairs generalizing l with
  | nil => exact ⟨[], by simp [deliverAll], .slnil⟩
  | cons pair rest ih =>
    obtain ⟨save, entry⟩ := pair
    have first := reported_deliver typeName save entry l
    have called := l.hooked_reportsFor typeName save entry
    rcases h : l.deliver typeName save entry with ⟨m, crashed⟩
    rw [h] at first
    cases crashed with
    | false =>
      obtain ⟨reports, events, others⟩ := ih m
      refine ⟨l.reportsFor typeName save entry ++ reports, ?_, ?_⟩
      · simp only [deliverAll, h, events, first.events, List.append_assoc]
      · rw [List.filterMap_append]
        exact called.append others
    | true =>
      refine ⟨l.reportsFor typeName save entry ++
        (save :: rest.map Prod.fst).map fun save => .settled save (.error .cancelled), ?_, ?_⟩
      · simp only [deliverAll, h, events_settleAll, first.events, List.append_assoc]
      · rw [List.filterMap_append, hooked_settleAll, List.append_nil]
        exact called.trans (List.singleton_sublist.mpr List.mem_cons_self)

/-- A redistribution reports on the saves that it is given, and ends each once; it calls their hooks
in the order in which they are given, each at most once. -/
theorem exists_calls_redistribute (typeName : String) (responses : List HeldResponse)
    (l : Ledger) : ∃ reports, Reported l reports (l.redistribute typeName responses).1 ∧
      reports.filterMap Event.ended? = responses.flatMap HeldResponse.batch ∧
      (reports.filterMap Event.hooked?).Sublist (responses.flatMap HeldResponse.batch) := by
  obtain ⟨reports, reported, ended⟩ := reported_redistribute typeName responses l
  obtain ⟨more, events, called⟩ := hooked_deliverAll typeName (assignEntries responses) l
  obtain rfl : reports = more := List.append_cancel_left (reported.events.symm.trans events)
  rw [map_fst_assignEntries] at called
  exact ⟨reports, reported, ended, called⟩

end Ledger

namespace Queue.Workload

variable {limit : Nat} {w w' : Workload} {save : Save} {key : BucketKey}

/-- A direct save that is under way joined no bucket. -/
theorem Reachable.unjoined_of_unreplied (h : Reachable limit w) {p : Phase}
    (hp : p ∈ w.underway) (mem : save ∈ p.unreplied) : save ∉ joinedIn key w.events := by
  intro joined
  refine (h.only_bucket (mem_joinedIn.mp joined)).2 (Ledger.mem_updates.mp ?_)
  rw [← Multiset.mem_coe, ← h.replied_eq_updates]
  exact Multiset.mem_add.mpr (.inr (Multiset.mem_bind.mpr ⟨p, hp, mem⟩))

theorem Reachable.joined_of_onRecord (h : Reachable limit w) {response : HeldResponse}
    (record : OnRecord w.events key response) (mem : save ∈ response.batch) :
    save ∈ joinedIn key w.events := by
  obtain ⟨request, answered, -⟩ := record
  exact h.joined_of_answered answered mem

/-- A job that has a save of a bucket in hand is a cycle of that bucket. -/
theorem Reachable.mem_keys_of_joined (h : Reachable limit w) {p : Phase} (hp : p ∈ w.underway)
    (mem : save ∈ p.saves) (joined : save ∈ joinedIn key w.events) : key ∈ p.keys := by
  have backed := h.backed.phases p hp
  have mine {other : BucketKey} (there : save ∈ joinedIn other w.events) : key ∈ {other} :=
    List.mem_singleton.mpr (h.inLine.eq_of_joined joined there)
  cases p with
  | waiting job =>
    cases job with
    | cycle other => exact absurd mem (Multiset.notMem_zero save)
    | update other => exact absurd joined (h.unjoined_of_unreplied hp mem)
  | saving other => exact absurd joined (h.unjoined_of_unreplied hp mem)
  | replied other reply =>
    obtain rfl : save = other := Multiset.mem_singleton.mp mem
    exact absurd (h.queued_of_replied backed) (h.only_bucket (mem_joinedIn.mp joined)).2
  | leaving cycle | sent cycle =>
    exact mine (h.inLine.mem_joined_of_taken (mem_takenIn.mpr backed) (Multiset.mem_coe.mp mem))
  | answered cycle answer =>
    exact mine (h.inLine.mem_joined_of_taken (mem_takenIn.mpr backed.1) (Multiset.mem_coe.mp mem))
  | failing other batch =>
    exact mine (h.inLine.mem_joined_of_taken (mem_takenIn.mpr backed) (Multiset.mem_coe.mp mem))
  | closing other response =>
    obtain ⟨r, hr, there⟩ := List.mem_flatMap.mp (Multiset.mem_coe.mp mem)
    exact mine (h.joined_of_onRecord (backed r (by simpa using hr)) there)

theorem Reachable.joined_of_bucket (h : Reachable limit w) {b : Bucket} (hb : b ∈ w.buckets)
    (mem : save ∈ b.saves) : save ∈ joinedIn b.key w.events := by
  rcases Multiset.mem_add.mp mem with pending | held
  · have line : (takenIn b.key w.events).flatten ++ b.pending = joinedIn b.key w.events :=
      h.inLine.line b.line (Multiset.mem_map_of_mem Bucket.line hb)
    rw [← line]
    exact List.mem_append_right _ (Multiset.mem_coe.mp pending)
  · obtain ⟨r, hr, there⟩ := List.mem_flatMap.mp (Multiset.mem_coe.mp held)
    exact h.joined_of_onRecord (h.backed.held b hb r hr) there

/-- While a bucket is out of flight, all that joined it has ended. -/
theorem Reachable.openIn_of_idle (h : Reachable limit w)
    (idle : ∀ b ∈ w.buckets, b.key = key → b.inFlight = false) : openIn key w.events = [] := by
  refine List.filter_eq_nil_iff.mpr fun save joined => ?_
  suffices ended : save ∈ w.ended from fun unended => of_decide_eq_true unended ended
  have load : save ∈ w.load := by
    rw [h.load_eq_asked]
    exact Multiset.mem_coe.mpr (List.mem_map_of_mem (mem_asked_of_mem_joinedIn joined))
  rcases Multiset.mem_add.mp load with standing | ended
  · rcases Multiset.mem_add.mp standing with phase | bucket
    · obtain ⟨p, hp, mem⟩ := Multiset.mem_bind.mp phase
      obtain ⟨b, hb, flying, same⟩ := h.tokens.exists_bucket hp (h.mem_keys_of_joined hp mem joined)
      exact absurd flying (by simp [idle b hb same])
    · obtain ⟨b, hb, mem⟩ := Multiset.mem_bind.mp bucket
      have same := h.inLine.eq_of_joined (h.joined_of_bucket hb mem) joined
      obtain ⟨none, nothing⟩ := h.tokens.idle b hb (idle b hb same)
      simp [Bucket.saves, none, nothing] at mem
  · exact Multiset.mem_coe.mp ended

/-- Hooks are called only as a cycle ends with its bucket empty, which leaves flight. -/
theorem Step.hooked_cases (step : Step limit w w') :
    (∃ news, w'.events = w.events ++ news ∧ news.filterMap Event.hooked? = []) ∨
      ∃ rest others b response, w.underway = .closing b.key response ::ₘ rest ∧
        w.buckets = b ::ₘ others ∧
        w'.buckets = { b with held := [], inFlight := false } ::ₘ others ∧
        w'.toLedger = (w.redistribute b.key.typeName (b.held ++ response.toList)).1 := by
  cases step with
  | closeLast b response hu hb => exact .inr ⟨_, _, b, response, hu, hb, rfl, rfl⟩
  | remark event remark =>
    refine .inl ⟨_, Ledger.events_note _ _, ?_⟩
    cases event <;> simp_all [Event.isRemark, Event.hooked?]
  | refuse | defer | abortNext | abortLast =>
    exact .inl ⟨_, Ledger.events_settleAll _ _ _, Ledger.hooked_settleAll _ _⟩
  | pass | create | crash | hold | closeNext | begin =>
    exact .inl ⟨[], (List.append_nil _).symm, rfl⟩
  | _ => exact .inl ⟨_, Ledger.events_note _ _, rfl⟩

/-- The saves whose answers are held stand in the order in which they joined, among those that have
not ended. -/
theorem Reachable.heldIn_sublist (h : Reachable limit w) (key : BucketKey) :
    (heldIn key w.events).Sublist (openIn key w.events) := by
  refine List.Sublist.filter _ (.trans ?_ (h.posted_sublist key))
  have closed : ((w.closedRequests key).map Prod.fst).Sublist ((w.posted key).map Prod.fst) := by
    rw [← h.inTurn.answers key (w.toAnswer key).toList (Multiset.coe_toList _), List.map_append]
    exact List.sublist_append_left _ _
  refine .trans (.flatten ?_) closed.flatten
  rw [Ledger.closedRequests, Ledger.answered, Ledger.history, List.map_map, List.map_filterMap]
  refine filterMap_sublist fun e batch plain => ?_
  obtain ⟨request, value, rfl, -⟩ := Event.plain?_eq_some_iff.mp plain
  simp [Event.answered?]

/-- The saves whose hooks were called joined buckets, and stand in front of those that have not
ended. -/
structure CalledInLine (w : Workload) : Prop where
  joined : ∀ save ∈ w.events.filterMap Event.hooked?, ∃ key, save ∈ joinedIn key w.events
  line : ∀ key, (hookedIn key w.events ++ openIn key w.events).Sublist (joinedIn key w.events)

/-- A step that calls no hook, whatever joins a bucket in it. -/
theorem CalledInLine.of_no_call (h : CalledInLine w) (inLine : InLine w') {news : List Event}
    (events : w'.events = w.events ++ news) (none : news.filterMap Event.hooked? = []) :
    CalledInLine w' := by
  have grown {save : Save} {key : BucketKey} (there : save ∈ joinedIn key w.events) :
      save ∈ joinedIn key w'.events := by
    rw [events, joinedIn_append]
    exact List.mem_append_left _ there
  constructor
  · intro save called
    rw [events, List.filterMap_append, none, List.append_nil] at called
    obtain ⟨key, there⟩ := h.joined save called
    exact ⟨key, grown there⟩
  · intro key
    -- What joins now was not called before.
    have kept : hookedIn key w'.events = hookedIn key w.events := by
      rw [events]
      refine hookedIn_append none fun save called joined => ?_
      obtain ⟨other, there⟩ := h.joined save called
      exact inLine.eq_of_joined (events ▸ joined) (grown there) ▸ there
    rw [kept, events, joinedIn_append]
    refine .trans (.append_left (openIn_append_sublist key w.events news) _) ?_
    rw [← List.append_assoc]
    exact (h.line key).append_right _

/-- A step that ends with all that is held in a bucket, and calls hooks as it does. -/
theorem CalledInLine.of_calls (h : CalledInLine w) (reachable : Reachable limit w)
    {other : BucketKey} {news : List Event} (events : w'.events = w.events ++ news)
    (reports : ∀ e ∈ news, e.isReport = true)
    (called : (news.filterMap Event.hooked?).Sublist (heldIn other w.events))
    (ended : openIn other w'.events = []) : CalledInLine w' := by
  have none (key : BucketKey) : joinedIn key news = [] :=
    joinedIn_of_silent fun e he => Event.isWire_of_isReport (reports e he)
  have joined (key : BucketKey) : joinedIn key w'.events = joinedIn key w.events := by
    rw [events, joinedIn_append, none, List.append_nil]
  have mine : ∀ save ∈ news.filterMap Event.hooked?, save ∈ joinedIn other w.events :=
    fun save mem => reachable.joined_of_heldIn (called.subset mem)
  constructor
  · intro save mem
    rw [events, List.filterMap_append, List.mem_append] at mem
    rcases mem with old | new
    · obtain ⟨key, there⟩ := h.joined save old
      exact ⟨key, joined key ▸ there⟩
    · exact ⟨other, joined other ▸ mine save new⟩
  · intro key
    have split : hookedIn key w'.events = hookedIn key w.events ++
        (news.filterMap Event.hooked?).filter fun save => save ∈ joinedIn key w.events := by
      rw [hookedIn, joined, events, List.filterMap_append, List.filter_append, hookedIn]
    rw [split, joined]
    refine .trans ?_ (h.line key)
    rw [List.append_assoc]
    refine .append_left ?_ _
    by_cases here : key = other
    · subst here
      rw [ended, List.append_nil]
      exact (List.filter_sublist.trans called).trans (reachable.heldIn_sublist key)
    · have apart : (news.filterMap Event.hooked?).filter
          (fun save => save ∈ joinedIn key w.events) = [] := by
        refine List.filter_eq_nil_iff.mpr fun save mem there => here ?_
        exact reachable.inLine.eq_of_joined (of_decide_eq_true there) (mine save mem)
      have rest := openIn_append_sublist key w.events news
      rwa [none, List.append_nil, ← events, ← List.nil_append (openIn key w'.events), ← apart]
        at rest

theorem Reachable.calledInLine (h : Reachable limit w) : CalledInLine w := by
  induction h with
  | initial => exact ⟨by simp [Ledger.events], fun _ => .slnil⟩
  | @step v w before step ih =>
    have reachable := before.step step
    rcases step.hooked_cases with
      ⟨news, events, none⟩ | ⟨rest, others, b, response, hu, hb, hb', same⟩
    · exact ih.of_no_call reachable.inLine events none
    · obtain ⟨reports, reported, -, called⟩ := Ledger.exists_calls_redistribute b.key.typeName
        (b.held ++ response.toList) v.toLedger
      rw [← before.held.heldIn_closing before.tokens hu hb] at called
      refine ih.of_calls before (same ▸ reported.events) reported.isReport called ?_
      refine reachable.openIn_of_idle fun c hc here => ?_
      rw [reachable.tokens.eq_of_key (b := { b with held := [], inFlight := false })
        (by simp [hb']) hc here]

end Queue.Workload

end Writeback

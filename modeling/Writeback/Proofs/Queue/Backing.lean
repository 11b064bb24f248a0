import Writeback.Proofs.Queue.Asking
import Writeback.Proofs.Queue.Requests

/-!
# What is in hand is on record

A job has a batch in hand that the journal says was taken, and an answer that the journal says came
for that batch; a bucket holds answers that are on record for the batches next to them. A save is
in one batch and stands in one place, whatever that place is.
-/

namespace Writeback

/-- An element of lists that repeat nothing stands at one position of one of them. -/
theorem position_unique {α : Type} {lists : List (List α)} (nodup : lists.flatten.Nodup)
    {m n i j : Nat} {first second : List α} {x : α} (hm : lists[m]? = some first)
    (hi : first[i]? = some x) (hn : lists[n]? = some second) (hj : second[j]? = some x) :
    m = n ∧ i = j := by
  obtain ⟨each, apart⟩ := List.nodup_flatten.mp nodup
  obtain ⟨m_lt, rfl⟩ := List.getElem?_eq_some_iff.mp hm
  obtain ⟨n_lt, rfl⟩ := List.getElem?_eq_some_iff.mp hn
  rw [List.pairwise_iff_getElem] at apart
  have same : m = n := by
    rcases Nat.lt_trichotomy m n with lt | eq | gt
    · exact absurd (List.mem_of_getElem? hj) (apart m n m_lt n_lt lt (List.mem_of_getElem? hi))
    · exact eq
    · exact absurd (List.mem_of_getElem? hi) (apart n m n_lt m_lt gt (List.mem_of_getElem? hj))
  subst same
  obtain ⟨i_lt, -⟩ := List.getElem?_eq_some_iff.mp hi
  refine ⟨rfl, ?_⟩
  exact (List.getElem?_inj i_lt (each _ (List.getElem_mem m_lt))).mp (hi.trans hj.symm)

namespace Queue

/-- An answer is on record for the batch it stands next to, and is no background task. -/
def OnRecord (events : List Event) (key : BucketKey) (response : HeldResponse) : Prop :=
  ∃ request, .answered key response.batch request (.body response.body) ∈ events ∧
    response.body.field? "background_task" = none

/-- What a job has in hand is on record. -/
def Phase.Backed (events : List Event) : Phase → Prop
  | leaving cycle | sent cycle => .taken cycle.key cycle.batch ∈ events
  | answered cycle answer => .taken cycle.key cycle.batch ∈ events ∧
      .answered cycle.key cycle.batch cycle.request answer ∈ events
  | closing key response => ∀ r ∈ response, OnRecord events key r
  | failing key batch => .taken key batch ∈ events
  | replied save reply => .replied save reply ∈ events
  | waiting _ | saving _ => True

section Growth

variable {events news : List Event}

theorem OnRecord.append {key : BucketKey} {response : HeldResponse}
    (h : OnRecord events key response) : OnRecord (events ++ news) key response := by
  obtain ⟨request, answered, plain⟩ := h
  exact ⟨request, List.mem_append_left _ answered, plain⟩

theorem Phase.Backed.append {p : Phase} (h : p.Backed events) : p.Backed (events ++ news) := by
  cases p with
  | answered cycle answer => exact ⟨List.mem_append_left _ h.1, List.mem_append_left _ h.2⟩
  | closing key response => exact fun r hr => (h r hr).append
  | leaving cycle | sent cycle | failing key batch | replied save reply =>
    exact List.mem_append_left _ h
  | waiting | saving => trivial

end Growth

namespace Workload

variable {limit : Nat} {w w' : Workload} {key : BucketKey} {save : Save}

/-- What jobs and buckets have in hand is on record. -/
structure Backed (w : Workload) : Prop where
  phases : ∀ p ∈ w.underway, p.Backed w.events
  held : ∀ b ∈ w.buckets, ∀ r ∈ b.held, OnRecord w.events b.key r

/-- Jobs that come to be underway have on record what they have in hand. -/
def BacksNew (w w' : Workload) : Prop :=
  ∀ p ∈ w'.underway, p ∈ w.underway ∨ p.Backed w'.events

/-- Answers that a bucket comes to hold are on record. -/
def RecordsNew (w w' : Workload) : Prop :=
  ∀ b ∈ w'.buckets, ∀ r ∈ b.held,
    (∃ c ∈ w.buckets, c.key = b.key ∧ r ∈ c.held) ∨ OnRecord w'.events b.key r

theorem BacksNew.of_eq (same : w'.underway = w.underway) : BacksNew w w' := by
  intro p hp
  exact .inl (same ▸ hp)

theorem BacksNew.of_cons {p : Phase} (hu : w'.underway = p ::ₘ w.underway)
    (backed : p.Backed w'.events) : BacksNew w w' := by
  intro q hq
  rw [hu, Multiset.mem_cons] at hq
  rcases hq with rfl | hq
  · exact .inr backed
  · exact .inl hq

/-- One job comes further, and the others stay as they were. -/
theorem BacksNew.of_advance {p q : Phase} {rest : Multiset Phase} (hu : w.underway = p ::ₘ rest)
    (hu' : w'.underway = q ::ₘ rest) (backed : q.Backed w'.events) : BacksNew w w' := by
  intro r hr
  rw [hu', Multiset.mem_cons] at hr
  rcases hr with rfl | hr
  · exact .inr backed
  · exact .inl (hu ▸ Multiset.mem_cons_of_mem hr)

theorem BacksNew.of_end {p : Phase} (hu : w.underway = p ::ₘ w'.underway) : BacksNew w w' := by
  intro q hq
  exact .inl (hu ▸ Multiset.mem_cons_of_mem hq)

theorem RecordsNew.of_eq (same : w'.buckets = w.buckets) : RecordsNew w w' := by
  intro b hb r hr
  exact .inl ⟨b, same ▸ hb, rfl, hr⟩

theorem RecordsNew.of_cons {b : Bucket} (hb : w'.buckets = b ::ₘ w.buckets)
    (empty : b.held = []) : RecordsNew w w' := by
  intro c hc r hr
  rw [hb, Multiset.mem_cons] at hc
  rcases hc with rfl | hc
  · rw [empty] at hr
    exact absurd hr List.not_mem_nil
  · exact .inl ⟨c, hc, rfl, hr⟩

/-- One bucket changes, and the others stay as they were. -/
theorem RecordsNew.of_replace {b b' : Bucket} {others : Multiset Bucket}
    (hb : w.buckets = b ::ₘ others) (hb' : w'.buckets = b' ::ₘ others) (key : b'.key = b.key)
    (held : ∀ r ∈ b'.held, r ∈ b.held ∨ OnRecord w'.events b.key r) : RecordsNew w w' := by
  intro c hc r hr
  rw [hb', Multiset.mem_cons] at hc
  rcases hc with rfl | hc
  · rw [key]
    exact (held r hr).imp_left fun old => ⟨b, hb ▸ Multiset.mem_cons_self b others, rfl, old⟩
  · exact .inl ⟨c, hb ▸ Multiset.mem_cons_of_mem hc, rfl, hr⟩

theorem Backed.extend (h : Backed w) {news : List Event} (events : w'.events = w.events ++ news)
    (backs : BacksNew w w') (records : RecordsNew w w') : Backed w' where
  phases p hp := by
    rcases backs p hp with old | new
    · rw [events]
      exact (h.phases p old).append
    · exact new
  held b hb r hr := by
    rcases records b hb r hr with ⟨c, hc, same, hr⟩ | new
    · rw [events, ← same]
      exact (h.held c hc r hr).append
    · exact new

theorem Step.backed (step : Step limit w w') (h : Backed w) : Backed w' := by
  have emptied {b : Bucket} {others : Multiset Bucket} (hb : w.buckets = b ::ₘ others)
      (hb' : w'.buckets = { b with held := [], inFlight := false } ::ₘ others) : RecordsNew w w' :=
    .of_replace hb hb' rfl fun r hr => absurd hr List.not_mem_nil
  cases step with
  | pass | create => exact h.extend (List.append_nil _).symm (.of_eq rfl) (.of_eq rfl)
  | remark => exact h.extend (Ledger.events_note _ _) (.of_eq rfl) (.of_eq rfl)
  | ask => exact h.extend (Ledger.events_note _ _) (.of_cons rfl trivial) (.of_eq rfl)
  | joinFirst => exact h.extend (Ledger.events_note _ _) (.of_cons rfl trivial) (.of_cons rfl rfl)
  | joinIdle object b _ _ _ hb =>
    exact h.extend (Ledger.events_note _ _) (.of_cons rfl trivial)
      (.of_replace hb rfl rfl fun r hr => .inl hr)
  | joinBusy object b _ _ _ hb =>
    exact h.extend (Ledger.events_note _ _) (.of_eq rfl)
      (.of_replace hb rfl rfl fun r hr => .inl hr)
  | take b body timer hu hb =>
    exact h.extend (Ledger.events_note _ _) (.of_advance hu rfl (by simp [Phase.Backed]))
      (.of_replace hb rfl rfl fun r hr => .inl hr)
  | spoil b hu hb =>
    exact h.extend (Ledger.events_note _ _) (.of_advance hu rfl (by simp [Phase.Backed]))
      (.of_replace hb rfl rfl fun r hr => .inl hr)
  | post cycle hu =>
    have taken : .taken cycle.key cycle.batch ∈ w.events := h.phases (.leaving cycle) (by simp [hu])
    exact h.extend (Ledger.events_note _ _) (.of_advance hu rfl (by simp [Phase.Backed, taken]))
      (.of_eq rfl)
  | answer cycle answer hu =>
    have taken : .taken cycle.key cycle.batch ∈ w.events := h.phases (.sent cycle) (by simp [hu])
    exact h.extend (Ledger.events_note _ _) (.of_advance hu rfl (by simp [Phase.Backed, taken]))
      (.of_eq rfl)
  | crash cycle hu =>
    have answered : Phase.Backed w.events (.answered cycle .crash) := h.phases _ (by simp [hu])
    exact h.extend (List.append_nil _).symm (.of_advance hu rfl answered.1) (.of_eq rfl)
  | refuse cycle cause hu | defer cycle value task hu =>
    exact h.extend (Ledger.events_settleAll _ _ _)
      (.of_advance hu rfl fun r hr => absurd hr (Option.not_mem_none r)) (.of_eq rfl)
  | hold cycle value hu plain =>
    have answered : Phase.Backed w.events (.answered cycle (.body value)) :=
      h.phases _ (by simp [hu])
    refine h.extend (List.append_nil _).symm (.of_advance hu rfl ?_) (.of_eq rfl)
    intro r hr
    obtain rfl : ⟨cycle.batch, value⟩ = r := by simpa using hr
    exact ⟨cycle.request, answered.2, plain⟩
  | closeNext b response hu hb =>
    have closing : Phase.Backed w.events (.closing b.key response) := h.phases _ (by simp [hu])
    refine h.extend (List.append_nil _).symm (.of_advance hu rfl trivial)
      (.of_replace hb rfl rfl fun r hr => ?_)
    exact (List.mem_append.mp hr).imp_right fun new => closing r (by simpa using new)
  | closeLast b response hu hb =>
    obtain ⟨reports, reported, -⟩ := Ledger.reported_redistribute b.key.typeName
      (b.held ++ response.toList) w.toLedger
    exact h.extend reported.events (.of_end hu) (emptied hb rfl)
  | abortNext b batch hu hb =>
    exact h.extend (Ledger.events_settleAll _ _ _) (.of_advance hu rfl trivial) (.of_eq rfl)
  | abortLast b batch hu hb =>
    exact h.extend (Ledger.events_settleAll _ _ _) (.of_end hu) (emptied hb rfl)
  | begin save hu =>
    exact h.extend (List.append_nil _).symm (.of_advance hu rfl trivial) (.of_eq rfl)
  | comeBack save hu =>
    exact h.extend (Ledger.events_note _ _) (.of_advance hu rfl (by simp [Phase.Backed]))
      (.of_eq rfl)
  | finish save reply hu =>
    exact h.extend (Ledger.events_note _ _) (.of_end hu) (.of_eq rfl)

theorem Reachable.backed (h : Reachable limit w) : Backed w := by
  induction h with
  | initial => exact ⟨by simp, by simp⟩
  | step _ step ih => exact step.backed ih

/-- The objects of the saves in all places exist. -/
theorem Reachable.known_of_load (h : Reachable limit w) (mem : save ∈ w.load) :
    save.object < w.records.length := by
  rw [h.load_eq_asked, Multiset.mem_coe] at mem
  obtain ⟨entry, he, rfl⟩ := List.mem_map.mp mem
  exact h.known he

/-- Saves that have not ended are there once, and their objects exist. -/
theorem Reachable.unended (h : Reachable limit w) {some others : Multiset Save}
    (parts : w.load = some + (others + ↑w.ended)) :
    some.Nodup ∧ ∀ save ∈ some, save ∉ w.ended ∧ save.object < w.records.length := by
  have nodup := h.nodup_load
  rw [parts] at nodup
  obtain ⟨once, -, apart⟩ := Multiset.nodup_add.mp nodup
  refine ⟨once, fun save mem => ⟨fun ended => ?_, h.known_of_load ?_⟩⟩
  · exact Multiset.disjoint_left.mp apart mem
      (Multiset.mem_add.mpr (.inr (Multiset.mem_coe.mpr ended)))
  · exact parts ▸ Multiset.mem_add.mpr (.inl mem)

theorem load_of_phase {p : Phase} {rest : Multiset Phase} (hu : w.underway = p ::ₘ rest) :
    w.load = p.saves + (rest.bind Phase.saves + w.buckets.bind Bucket.saves + ↑w.ended) := by
  rw [load, hu, Multiset.cons_bind, add_assoc, add_assoc, add_assoc]

theorem load_of_closing {rest : Multiset Phase} {others : Multiset Bucket} {b : Bucket}
    {response : Option HeldResponse} (hu : w.underway = .closing b.key response ::ₘ rest)
    (hb : w.buckets = b ::ₘ others) :
    w.load = ↑((b.held ++ response.toList).flatMap HeldResponse.batch) +
      (↑b.pending + rest.bind Phase.saves + others.bind Bucket.saves + ↑w.ended) := by
  rw [load_of_phase hu, hb, Multiset.cons_bind, List.flatMap_append, ← Multiset.coe_add,
    Bucket.saves, Phase.saves_closing]
  abel

theorem load_of_failing {rest : Multiset Phase} {others : Multiset Bucket} {b : Bucket}
    {batch : List Save} (hu : w.underway = .failing b.key batch ::ₘ rest)
    (hb : w.buckets = b ::ₘ others) :
    w.load = ↑(b.held.flatMap HeldResponse.batch ++ batch) +
      (↑b.pending + rest.bind Phase.saves + others.bind Bucket.saves + ↑w.ended) := by
  rw [load_of_phase hu, hb, Multiset.cons_bind, ← Multiset.coe_add, Bucket.saves,
    Phase.saves_failing]
  abel

theorem Reachable.posted_of_mem_answered (h : Reachable limit w) {batch : List Save}
    {request : Request} {answer : Answer}
    (answered : .answered key batch request answer ∈ w.events) :
    ∃ m : Nat, (w.posted key)[m]? = some (batch, request) ∧
      (w.answered key)[m]? = some (batch, request, answer) := by
  obtain ⟨m, at_m⟩ := List.mem_iff_getElem?.mp (Ledger.mem_answered.mpr answered)
  exact ⟨m, h.posted_of_answered at_m, at_m⟩

theorem Reachable.joined_of_answered (h : Reachable limit w) {batch : List Save}
    {request : Request} {answer : Answer}
    (answered : .answered key batch request answer ∈ w.events) (mem : save ∈ batch) :
    save ∈ joinedIn key w.events := by
  obtain ⟨m, sent, -⟩ := h.posted_of_mem_answered answered
  apply (h.posted_sublist key).subset
  exact List.mem_flatten.mpr ⟨batch, List.mem_map_of_mem (List.mem_of_getElem? sent), mem⟩

theorem InLine.eq_of_joined (h : InLine w) {other : BucketKey}
    (here : save ∈ joinedIn key w.events) (there : save ∈ joinedIn other w.events) :
    key = other :=
  (h.known key save here).2.symm.trans (h.known other save there).2

/-- A save was taken in one batch at most. -/
theorem Reachable.eq_of_taken (h : Reachable limit w) {other : BucketKey}
    {first second : List Save} (hf : .taken key first ∈ w.events) (in_first : save ∈ first)
    (hs : .taken other second ∈ w.events) (in_second : save ∈ second) :
    key = other ∧ first = second := by
  have here := h.inLine.mem_joined_of_taken (mem_takenIn.mpr hf) in_first
  have there := h.inLine.mem_joined_of_taken (mem_takenIn.mpr hs) in_second
  obtain rfl := h.inLine.eq_of_joined here there
  have nodup := (h.nodup_joinedIn key).sublist (h.inLine.taken_prefix key).sublist
  obtain ⟨m, at_m⟩ := List.mem_iff_getElem?.mp (mem_takenIn.mpr hf)
  obtain ⟨n, at_n⟩ := List.mem_iff_getElem?.mp (mem_takenIn.mpr hs)
  obtain ⟨i, at_i⟩ := List.mem_iff_getElem?.mp in_first
  obtain ⟨j, at_j⟩ := List.mem_iff_getElem?.mp in_second
  obtain ⟨rfl, -⟩ := position_unique nodup at_m at_i at_n at_j
  exact ⟨rfl, Option.some.inj (at_m.symm.trans at_n)⟩

/-- A request that was answered is one that was made of its batch. -/
theorem Reachable.requestsOf_of_answered (h : Reachable limit w) {batch : List Save}
    {request : Request} {answer : Answer}
    (answered : .answered key batch request answer ∈ w.events) :
    (batch, request) ∈ w.requestsOf key := by
  obtain ⟨m, sent, -⟩ := h.posted_of_mem_answered answered
  rw [← h.inTurn.sends key (w.toSend key).toList (Multiset.coe_toList _)]
  exact List.mem_append_left _ (List.mem_of_getElem? sent)

/-- A batch that was answered was taken, and each of its objects had been serialized. -/
theorem Reachable.taken_of_answered (h : Reachable limit w) {batch : List Save}
    {request : Request} {answer : Answer}
    (answered : .answered key batch request answer ∈ w.events) :
    .taken key batch ∈ w.events ∧
      ∀ save ∈ batch, (w.saveable save.object).body.isSome = true := by
  obtain ⟨taken, body, some, -⟩ := Ledger.mem_requestsOf (h.requestsOf_of_answered answered)
  refine ⟨mem_takenIn.mp taken, List.all_eq_true.mp ?_⟩
  rw [← w.isSome_batchBody? key, some]
  rfl

/-- A save is with one job at most. -/
theorem Reachable.phase_unique (h : Reachable limit w) {p q : Phase} (hp : p ∈ w.underway)
    (hq : q ∈ w.underway) (in_p : save ∈ p.saves) (in_q : save ∈ q.saves) : p = q := by
  obtain ⟨rest, hu⟩ := Multiset.exists_cons_of_mem hp
  rw [hu, Multiset.mem_cons] at hq
  refine (hq.resolve_right fun there => ?_).symm
  have nodup := h.nodup_load
  rw [load_of_phase hu] at nodup
  refine Multiset.disjoint_left.mp (Multiset.nodup_add.mp nodup).2.2 in_p ?_
  exact Multiset.mem_add.mpr (.inl (Multiset.mem_add.mpr
    (.inl (Multiset.mem_bind.mpr ⟨q, there, in_q⟩))))

/-- What is pending in a bucket is what joined it and was not taken out of it. -/
theorem InLine.pendingIn_eq (h : InLine w) {b : Bucket} (hb : b ∈ w.buckets) :
    pendingIn b.key w.events = b.pending := by
  have line : (takenIn b.key w.events).flatten ++ b.pending = joinedIn b.key w.events :=
    h.line b.line (Multiset.mem_map_of_mem Bucket.line hb)
  rw [pendingIn, ← line, List.drop_left]

end Workload

end Queue

end Writeback

import Writeback.Proofs.Queue.Backing

/-!
# Who holds the answers

The journal tells whose answers are held: the saves of the batches whose requests were accepted,
and not as a background task, in the order of the batches and without the saves that ended. It
agrees with the buckets, if an answer that a cycle is about to put into its bucket is counted in. A
step puts an answer into one bucket, or ends all that one bucket holds, or moves nothing.
-/

namespace Writeback

/-- The batch whose answer is to be held: its request was accepted, and not as a background
task. -/
def Event.plain? (key : BucketKey) : Event → Option (List Save)
  | .answered k batch _ (.body value) =>
    if k = key ∧ value.field? "background_task" = none then some batch else none
  | _ => none

/-- The saves of a bucket whose answers were to be held and that have not ended, in the order of
the batches. -/
def heldIn (key : BucketKey) (events : List Event) : List Save :=
  (events.filterMap (Event.plain? key)).flatten.filter fun save =>
    save ∉ events.filterMap Event.ended?

section HeldIn

variable {key : BucketKey} {events news : List Event} {save : Save}

theorem Event.plain?_eq_some_iff {e : Event} {batch : List Save} :
    e.plain? key = some batch ↔ ∃ request value, e = .answered key batch request (.body value) ∧
      value.field? "background_task" = none := by
  cases e with
  | answered k other request answer =>
    cases answer with
    | body value =>
      by_cases plain : k = key ∧ value.field? "background_task" = none
      · obtain ⟨rfl, none⟩ := plain
        simp [plain?, none]
      · simp only [plain?, plain, if_false, reduceCtorEq, false_iff]
        rintro ⟨request', value', same, none⟩
        simp only [answered.injEq, Answer.body.injEq] at same
        obtain ⟨rfl, -, -, rfl⟩ := same
        exact plain ⟨rfl, none⟩
    | failure | crash => simp [plain?]
  | _ => simp [plain?]

theorem mem_heldIn : save ∈ heldIn key events ↔
    (∃ batch request value, .answered key batch request (.body value) ∈ events ∧
      value.field? "background_task" = none ∧ save ∈ batch) ∧
      save ∉ events.filterMap Event.ended? := by
  simp only [heldIn, List.mem_filter, List.mem_flatten, List.mem_filterMap,
    Event.plain?_eq_some_iff, decide_eq_true_eq]
  constructor
  · rintro ⟨⟨batch, ⟨e, mem, request, value, rfl, plain⟩, hs⟩, unended⟩
    exact ⟨⟨batch, request, value, mem, plain, hs⟩, unended⟩
  · rintro ⟨⟨batch, request, value, mem, plain, hs⟩, unended⟩
    exact ⟨⟨batch, ⟨_, mem, request, value, rfl, plain⟩, hs⟩, unended⟩

/-- As long as no answer is to be held, saves only leave. -/
theorem heldIn_append (none : ∀ e ∈ news, e.plain? key = none) :
    heldIn key (events ++ news) =
      (heldIn key events).filter fun save => save ∉ news.filterMap Event.ended? := by
  have same : news.filterMap (Event.plain? key) = [] := List.filterMap_eq_nil_iff.mpr none
  simp only [heldIn, List.filterMap_append, same, List.append_nil, List.filter_filter]
  apply List.filter_congr
  intro save _
  simp [Bool.and_comm]

theorem heldIn_append_of_apart (none : ∀ e ∈ news, e.plain? key = none)
    (apart : ∀ save ∈ heldIn key events, save ∉ news.filterMap Event.ended?) :
    heldIn key (events ++ news) = heldIn key events := by
  rw [heldIn_append none, List.filter_eq_self]
  exact fun save mem => decide_eq_true (apart save mem)

/-- An answer that is to be held brings the saves of its batch. -/
theorem heldIn_append_plain {batch : List Save} {request : Request} {value : Json}
    (plain : value.field? "background_task" = none)
    (unended : ∀ save ∈ batch, save ∉ events.filterMap Event.ended?) :
    heldIn key (events ++ [.answered key batch request (.body value)]) =
      heldIn key events ++ batch := by
  have all : batch.filter (fun save => save ∉ events.filterMap Event.ended?) = batch :=
    List.filter_eq_self.mpr fun save mem => decide_eq_true (unended save mem)
  simp only [heldIn, List.filterMap_append, List.filterMap_cons, List.filterMap_nil, Event.plain?,
    Event.ended?, plain, and_self, if_true, List.append_nil, List.flatten_append,
    List.flatten_singleton, List.filter_append, all]

/-- An event that brings no answer and ends no save. -/
theorem heldIn_append_singleton {e : Event} (plain : e.plain? key = none)
    (unending : e.ended? = none) : heldIn key (events ++ [e]) = heldIn key events :=
  heldIn_append_of_apart (by simpa using plain) (by simp [unending])

theorem heldIn_note {l : Ledger} {e : Event} (plain : ∀ key, e.plain? key = none)
    (unending : e.ended? = none) (key : BucketKey) :
    heldIn key (l.note e).events = heldIn key l.events := by
  rw [Ledger.events_note]
  exact heldIn_append_singleton (plain key) unending

theorem Event.plain?_of_isReport {e : Event} (h : e.isReport = true) : e.plain? key = none := by
  cases e <;> simp_all [isReport, plain?]

end HeldIn

namespace Queue

/-- The batch whose answer a job is about to put into its bucket. -/
def Phase.handed (key : BucketKey) : Phase → Multiset (List Save)
  | answered cycle (.body value) =>
    if cycle.key = key ∧ value.field? "background_task" = none then {cycle.batch} else 0
  | closing k response => if k = key then ↑(response.toList.map HeldResponse.batch) else 0
  | _ => 0

theorem Phase.handed_eq_zero {p : Phase} {key : BucketKey} (h : key ∉ p.keys) :
    p.handed key = 0 := by
  cases p with
  | answered cycle answer => cases answer <;> simp_all [handed, eq_comm]
  | closing k response => simp_all [handed, eq_comm]
  | _ => rfl

theorem Phase.mem_saves_of_handed {p : Phase} {key : BucketKey} {batch : List Save} {save : Save}
    (hb : batch ∈ p.handed key) (hs : save ∈ batch) : save ∈ p.saves := by
  cases p with
  | answered cycle answer =>
    cases answer with
    | body value =>
      by_cases mine : cycle.key = key ∧ value.field? "background_task" = none
      · rw [handed, if_pos mine, Multiset.mem_singleton] at hb
        exact Multiset.mem_coe.mpr (hb ▸ hs)
      · simp [handed, mine] at hb
    | failure | crash => simp [handed] at hb
  | closing k response =>
    by_cases mine : k = key
    · rw [handed, if_pos mine] at hb
      obtain ⟨r, hr, rfl⟩ := List.mem_map.mp (Multiset.mem_coe.mp hb)
      exact Multiset.mem_coe.mpr (List.mem_flatMap.mpr ⟨r, hr, hs⟩)
    · simp [handed, mine] at hb
  | _ => simp [handed] at hb

namespace Workload

variable {limit : Nat} {w w' : Workload} {save : Save} {key : BucketKey} {p : Phase}
  {rest : Multiset Phase}

def handed (w : Workload) (key : BucketKey) : Multiset (List Save) :=
  w.underway.bind (Phase.handed key)

/-- While a job is a cycle of a bucket, no other has anything for it. -/
theorem Tokens.handed_rest (h : Tokens w) (hu : w.underway = p ::ₘ rest) (hk : key ∈ p.keys) :
    rest.bind (Phase.handed key) = 0 := by
  rw [Multiset.bind_congr fun q hq => Phase.handed_eq_zero (h.notMem_rest hu hk hq),
    Multiset.bind_zero]

theorem Tokens.handed_of_fresh (h : Tokens w) (fresh : key ∉ w.buckets.map Bucket.key) :
    w.handed key = 0 := by
  have none (q : Phase) (hq : q ∈ w.underway) : q.handed key = 0 := by
    apply Phase.handed_eq_zero
    intro hk
    obtain ⟨b, hb, -, same⟩ := h.exists_bucket hq hk
    exact fresh (same ▸ Multiset.mem_map_of_mem _ hb)
  rw [handed, Multiset.bind_congr none, Multiset.bind_zero]

/-- What the journal says is held is in the buckets, or about to be put into them. -/
structure Held (w : Workload) : Prop where
  bucket : ∀ b ∈ w.buckets, ∀ l : List (List Save), ↑l = w.handed b.key →
    b.held.flatMap HeldResponse.batch ++ l.flatten = heldIn b.key w.events
  absent : ∀ key ∉ w.buckets.map Bucket.key, heldIn key w.events = []

/-- What a step does to the saves that are held. -/
inductive Custody (w w' : Workload) : Prop
  /-- Nothing. -/
  | kept (held : ∀ key, heldIn key w'.events = heldIn key w.events)
      (handed : ∀ key, w'.handed key = w.handed key)
      (buckets : ∀ b ∈ w'.buckets, (∃ c ∈ w.buckets, c.key = b.key ∧ c.held = b.held) ∨
        b.key ∉ w.buckets.map Bucket.key ∧ b.held = [])
      (keys : ∀ b ∈ w.buckets, b.key ∈ w'.buckets.map Bucket.key)
  /-- A cycle puts an answer into its bucket, or ends with all that its bucket holds. -/
  | moved {b b' : Bucket} {others : Multiset Bucket} {p : Phase} {rest : Multiset Phase}
      (hu : w.underway = p ::ₘ rest) (mine : b.key ∈ p.keys) (gone : p ∉ w'.underway)
      (hb : w.buckets = b ::ₘ others) (hb' : w'.buckets = b' ::ₘ others) (same : b'.key = b.key)
      (other : ∀ key ≠ b.key,
        heldIn key w'.events = heldIn key w.events ∧ w'.handed key = w.handed key)
      (here : ∀ l : List (List Save), ↑l = w'.handed b.key →
        b'.held.flatMap HeldResponse.batch ++ l.flatten = heldIn b.key w'.events)
      (all : heldIn b.key w'.events = [] ∨
        heldIn b.key w.events ⊆ heldIn b.key w'.events)

theorem Held.of_custody (h : Held w) (tokens : Tokens w) (custody : Custody w w') : Held w' := by
  cases custody with
  | kept held handed buckets keys =>
    constructor
    · intro b hb l hl
      rw [held, handed] at *
      rcases buckets b hb with ⟨c, hc, same, holds⟩ | ⟨fresh, none⟩
      · rw [← holds, ← same]
        exact h.bucket c hc l (same ▸ hl)
      · rw [tokens.handed_of_fresh fresh] at hl
        rw [none, h.absent b.key fresh, (Multiset.coe_eq_zero l).mp hl]
        rfl
    · intro key fresh
      rw [held]
      apply h.absent key
      intro mem
      obtain ⟨b, hb, rfl⟩ := Multiset.mem_map.mp mem
      exact fresh (keys b hb)
  | @moved b b' others p rest hu mine gone hb hb' same other here all =>
    have nodup := tokens.keys
    rw [hb, Multiset.map_cons, Multiset.nodup_cons] at nodup
    constructor
    · intro c hc l hl
      rw [hb', Multiset.mem_cons] at hc
      rcases hc with rfl | hc
      · rw [same] at hl ⊢
        exact here l hl
      · have ne : c.key ≠ b.key := fun hk => nodup.1 (hk ▸ Multiset.mem_map_of_mem _ hc)
        obtain ⟨held, handed⟩ := other c.key ne
        rw [handed] at hl
        rw [held]
        exact h.bucket c (hb ▸ Multiset.mem_cons_of_mem hc) l hl
    · intro key fresh
      rw [hb', Multiset.map_cons, same] at fresh
      have ne : key ≠ b.key := fun hk => fresh (hk ▸ Multiset.mem_cons_self _ _)
      rw [(other key ne).1]
      apply h.absent key
      rwa [hb, Multiset.map_cons]

/-- A save that a job has in hand is not held, unless the job is about to put it into its
bucket. -/
theorem Held.notMem_of_phase (h : Held w) (reachable : Reachable limit w)
    (hu : w.underway = p ::ₘ rest) (none : ∀ key, p.handed key = 0) (mem : save ∈ p.saves)
    (key : BucketKey) : save ∉ heldIn key w.events := by
  intro held
  have nodup := reachable.nodup_load
  rw [load_of_phase hu] at nodup
  refine Multiset.disjoint_left.mp (Multiset.nodup_add.mp nodup).2.2 mem ?_
  refine Multiset.mem_add.mpr (.inl (Multiset.mem_add.mpr ?_))
  by_cases there : key ∈ w.buckets.map Bucket.key
  · obtain ⟨b, hb, rfl⟩ := Multiset.mem_map.mp there
    rw [← h.bucket b hb (w.handed b.key).toList (Multiset.coe_toList _)] at held
    rcases List.mem_append.mp held with inBucket | handed
    · refine .inr (Multiset.mem_bind.mpr ⟨b, hb, Multiset.mem_add.mpr (.inr ?_)⟩)
      exact Multiset.mem_coe.mpr inBucket
    · obtain ⟨batch, hl, hs⟩ := List.mem_flatten.mp handed
      rw [Multiset.mem_toList, Workload.handed, hu, Multiset.cons_bind, none, zero_add] at hl
      obtain ⟨q, hq, hl⟩ := Multiset.mem_bind.mp hl
      exact .inl (Multiset.mem_bind.mpr ⟨q, hq, Phase.mem_saves_of_handed hl hs⟩)
  · rw [h.absent key there] at held
    exact absurd held List.not_mem_nil

/-- What was held at any time had joined the bucket. -/
theorem Reachable.joined_of_held (h : Reachable limit w) {before after : List Event}
    (split : w.events = before ++ after) (held : save ∈ heldIn key before) :
    save ∈ joinedIn key w.events := by
  obtain ⟨⟨batch, request, value, answered, -, mem⟩, -⟩ := mem_heldIn.mp held
  exact h.joined_of_answered (split ▸ List.mem_append_left _ answered) mem

theorem Reachable.joined_of_heldIn (h : Reachable limit w) (held : save ∈ heldIn key w.events) :
    save ∈ joinedIn key w.events :=
  h.joined_of_held (List.append_nil _).symm held

theorem Custody.of_same (held : ∀ key, heldIn key w'.events = heldIn key w.events)
    (handed : ∀ key, w'.handed key = w.handed key) (same : w'.buckets = w.buckets) :
    Custody w w' :=
  .kept held handed (fun b hb => .inl ⟨b, same ▸ hb, rfl, rfl⟩)
    fun _ hb => Multiset.mem_map_of_mem _ (same ▸ hb)

theorem Custody.of_replace (held : ∀ key, heldIn key w'.events = heldIn key w.events)
    (handed : ∀ key, w'.handed key = w.handed key) {b b' : Bucket} {others : Multiset Bucket}
    (hb : w.buckets = b ::ₘ others) (hb' : w'.buckets = b' ::ₘ others) (key : b'.key = b.key)
    (holds : b'.held = b.held) : Custody w w' := by
  refine .kept held handed (fun c hc => ?_) fun c hc => ?_
  · rw [hb', Multiset.mem_cons] at hc
    rcases hc with rfl | hc
    · exact .inl ⟨b, by simp [hb], key.symm, holds.symm⟩
    · exact .inl ⟨c, by simp [hb, hc], rfl, rfl⟩
  · rw [hb', Multiset.map_cons, key, ← Multiset.map_cons, ← hb]
    exact Multiset.mem_map_of_mem _ hc

/-- A job ends saves that it has in hand and that are not held. -/
theorem Held.heldIn_of_settled (h : Held w) (reachable : Reachable limit w)
    (hu : w.underway = p ::ₘ rest) (none : ∀ key, p.handed key = 0) {news : List Event}
    (events : w'.events = w.events ++ news) (reports : ∀ e ∈ news, e.isReport = true)
    (own : ∀ save ∈ news.filterMap Event.ended?, save ∈ p.saves) (key : BucketKey) :
    heldIn key w'.events = heldIn key w.events := by
  rw [events]
  refine heldIn_append_of_apart (fun e he => Event.plain?_of_isReport (reports e he)) ?_
  intro save held ended
  exact h.notMem_of_phase reachable hu none (own save ended) key held

/-- A cycle ends with all that its bucket holds. -/
theorem Reachable.custody_of_end (reachable : Reachable limit w)
    (hu : w.underway = p ::ₘ rest) {b b' : Bucket} {others : Multiset Bucket}
    (mine : b.key ∈ p.keys) (own : ∀ key ≠ b.key, p.handed key = 0)
    (hb : w.buckets = b ::ₘ others) (hu' : w'.underway = rest)
    (hb' : w'.buckets = b' ::ₘ others) (same : b'.key = b.key) (empty : b'.held = [])
    {news : List Event} (events : w'.events = w.events ++ news)
    (reports : ∀ e ∈ news, e.isReport = true)
    (joined : ∀ save ∈ news.filterMap Event.ended?, save ∈ joinedIn b.key w.events)
    (all : ∀ save ∈ heldIn b.key w.events, save ∈ news.filterMap Event.ended?) :
    Custody w w' := by
  have plain (key : BucketKey) : ∀ e ∈ news, e.plain? key = none :=
    fun e he => Event.plain?_of_isReport (reports e he)
  have gone : p ∉ rest := fun there => reachable.tokens.notMem_rest hu mine there mine
  have nothing : heldIn b.key w'.events = [] := by
    rw [events, heldIn_append (plain b.key), List.filter_eq_nil_iff]
    exact fun save held => by simpa using all save held
  refine .moved hu mine (hu' ▸ gone) hb hb' same (fun key ne => ⟨?_, ?_⟩) (fun l hl => ?_)
    (.inl nothing)
  · rw [events]
    refine heldIn_append_of_apart (plain key) fun save held ended => ne ?_
    exact reachable.inLine.eq_of_joined
      (reachable.joined_of_heldIn held) (joined save ended)
  · rw [handed, handed, hu, hu', Multiset.cons_bind, own key ne, zero_add]
  · rw [handed, hu', reachable.tokens.handed_rest hu mine] at hl
    rw [(Multiset.coe_eq_zero l).mp hl, empty, nothing]
    rfl

theorem Held.heldIn_eq (h : Held w) (tokens : Tokens w) {b : Bucket} {others : Multiset Bucket}
    (hu : w.underway = p ::ₘ rest) (hb : w.buckets = b ::ₘ others) (mine : b.key ∈ p.keys)
    {l : List (List Save)} (hl : p.handed b.key = ↑l) :
    heldIn b.key w.events = b.held.flatMap HeldResponse.batch ++ l.flatten := by
  refine (h.bucket b (by simp [hb]) l ?_).symm
  rw [handed, hu, Multiset.cons_bind, tokens.handed_rest hu mine, add_zero, hl]

/-- When a cycle is about to end, all that is held is in its bucket or in its hands. -/
theorem Held.heldIn_closing (h : Held w) (tokens : Tokens w) {b : Bucket} {others : Multiset Bucket}
    {response : Option HeldResponse} (hu : w.underway = .closing b.key response ::ₘ rest)
    (hb : w.buckets = b ::ₘ others) :
    heldIn b.key w.events = (b.held ++ response.toList).flatMap HeldResponse.batch := by
  rw [h.heldIn_eq tokens hu hb (Multiset.mem_singleton_self _)
    (l := response.toList.map HeldResponse.batch) (if_pos rfl), ← List.flatMap_def,
    ← List.flatMap_append]

theorem Held.heldIn_failing (h : Held w) (tokens : Tokens w) {b : Bucket} {others : Multiset Bucket}
    {batch : List Save} (hu : w.underway = .failing b.key batch ::ₘ rest)
    (hb : w.buckets = b ::ₘ others) :
    heldIn b.key w.events = b.held.flatMap HeldResponse.batch := by
  rw [h.heldIn_eq tokens hu hb (Multiset.mem_singleton_self _) (l := []) rfl, List.flatten_nil,
    List.append_nil]

/-- An answer comes. Unless it is a failure or a background task, it is to be held. -/
theorem Held.custody_of_answer (h : Held w) (reachable : Reachable limit w) {cycle : Cycle}
    {answer : Answer} (hu : w.underway = .sent cycle ::ₘ rest)
    (events : w'.events =
      w.events ++ [.answered cycle.key cycle.batch cycle.request answer])
    (hu' : w'.underway = .answered cycle answer ::ₘ rest) (hb : w'.buckets = w.buckets) :
    Custody w w' := by
  have tokens := reachable.tokens
  have others (key : BucketKey) (ne : key ≠ cycle.key ∨ ∀ value, answer = .body value →
      value.field? "background_task" ≠ none) :
      heldIn key w'.events = heldIn key w.events ∧ w'.handed key = w.handed key := by
    have none : (Event.answered cycle.key cycle.batch cycle.request answer).plain? key = none := by
      rcases ne with ne | deferred <;> cases answer <;> simp_all [Event.plain?, Ne.symm]
    have nothing : (Phase.answered cycle answer).handed key = 0 := by
      rcases ne with ne | deferred <;> cases answer <;> simp_all [Phase.handed, Ne.symm]
    rw [events, heldIn_append_of_apart (by simpa using none) (by simp [Event.ended?]), handed,
      handed, hu, hu', Multiset.cons_bind, Multiset.cons_bind, nothing]
    exact ⟨rfl, rfl⟩
  by_cases plain : ∀ value, answer = .body value → value.field? "background_task" ≠ none
  · exact .of_same (fun key => (others key (.inr plain)).1) (fun key => (others key (.inr plain)).2)
      hb
  · push Not at plain
    obtain ⟨value, rfl, plain⟩ := plain
    have sent : .sent cycle ∈ w.underway := by simp [hu]
    obtain ⟨b, there, -, same⟩ :=
      tokens.exists_bucket sent (Multiset.mem_singleton_self cycle.key)
    obtain ⟨rest', hb₁⟩ := Multiset.exists_cons_of_mem there
    have grown : heldIn b.key w'.events = heldIn b.key w.events ++ cycle.batch := by
      rw [events, same]
      refine heldIn_append_plain plain fun save mem => ?_
      exact ((reachable.unended (load_of_phase hu)).2 save (Multiset.mem_coe.mpr mem)).1
    refine .moved hu (by simp [same]) ?_ hb₁ (hb.trans hb₁) rfl
      (fun key ne => others key (.inl (same ▸ ne))) (fun l hl => ?_)
      (.inr (grown ▸ List.subset_append_left _ _))
    · rw [hu', Multiset.mem_cons, not_or]
      exact ⟨by simp, fun there =>
        tokens.notMem_rest hu (Multiset.mem_singleton_self cycle.key) there (by simp)⟩
    · have batch : l = [cycle.batch] := by
        rw [handed, hu', Multiset.cons_bind, tokens.handed_rest hu (by simp [same]), add_zero] at hl
        simpa [Phase.handed, same, plain] using hl
      have before := h.heldIn_eq tokens hu hb₁ (by simp [same]) (l := []) rfl
      rw [List.flatten_nil, List.append_nil] at before
      rw [batch, List.flatten_singleton, grown, before]

theorem Step.custody (step : Step limit w w') (reachable : Reachable limit w) (h : Held w) :
    Custody w w' := by
  have tokens := reachable.tokens
  cases step with
  | pass | create => exact .of_same (fun _ => rfl) (fun _ => rfl) rfl
  | remark event remark =>
    refine .of_same (heldIn_note ?_ ?_) (fun _ => rfl) rfl
    · cases event <;> simp_all [Event.isRemark, Event.plain?]
    · cases event <;> simp_all [Event.isRemark, Event.ended?]
  | ask object =>
    exact .of_same (heldIn_note (fun _ => rfl) rfl)
      (by simp [handed, Phase.handed]) rfl
  | joinFirst object _ _ fresh =>
    refine .kept (heldIn_note (fun _ => rfl) rfl)
      (by simp [handed, Phase.handed]) (fun b hb => ?_) fun b hb => ?_
    · rcases Multiset.mem_cons.mp hb with rfl | hb
      · exact .inr ⟨fresh, rfl⟩
      · exact .inl ⟨b, hb, rfl, rfl⟩
    · exact Multiset.mem_map_of_mem _ (Multiset.mem_cons_of_mem hb)
  | joinIdle object b _ _ _ hb =>
    exact .of_replace (heldIn_note (fun _ => rfl) rfl)
      (by simp [handed, Phase.handed]) hb rfl rfl rfl
  | joinBusy object b _ _ _ hb =>
    exact .of_replace (heldIn_note (fun _ => rfl) rfl)
      (by simp [handed]) hb rfl rfl rfl
  | take b body timer hu hb | spoil b hu hb =>
    exact .of_replace (heldIn_note (fun _ => rfl) rfl)
      (by simp [handed, Phase.handed, hu]) hb rfl rfl rfl
  | post cycle hu =>
    exact .of_same (heldIn_note (fun _ => rfl) rfl)
      (by simp [handed, Phase.handed, hu]) rfl
  | answer cycle answer hu =>
    exact h.custody_of_answer reachable hu (Ledger.events_note _ _) rfl rfl
  | crash cycle hu =>
    exact .of_same (fun _ => rfl) (by simp [handed, Phase.handed, hu]) rfl
  | refuse cycle cause hu =>
    refine .of_same (h.heldIn_of_settled reachable hu (fun _ => rfl)
      (Ledger.events_settleAll _ _ _) (by simp [Event.isReport]) (by simp [Event.ended?]))
      (by simp [handed, Phase.handed, hu]) rfl
  | defer cycle value task hu deferred =>
    refine .of_same (h.heldIn_of_settled reachable hu (by simp [Phase.handed, deferred])
      (Ledger.events_settleAll _ _ _) (by simp [Event.isReport]) (by simp [Event.ended?]))
      (by simp [handed, Phase.handed, hu, deferred]) rfl
  | hold cycle value hu plain =>
    exact .of_same (fun _ => rfl) (by simp [handed, Phase.handed, hu, plain]) rfl
  | closeNext b response hu hb =>
    have before := h.heldIn_closing tokens hu hb
    refine .moved hu (Multiset.mem_singleton_self _) ?_ hb rfl rfl (fun key ne => ⟨rfl, ?_⟩)
      (fun l hl => ?_) (.inr (List.Subset.refl _))
    · rw [Multiset.mem_cons, not_or]
      exact ⟨by simp, fun there =>
        tokens.notMem_rest hu (Multiset.mem_singleton_self b.key) there (by simp)⟩
    · simp [handed, Phase.handed, hu, Ne.symm ne]
    · have none : l = [] := by
        rw [handed, Multiset.cons_bind, tokens.handed_rest hu (Multiset.mem_singleton_self b.key)]
          at hl
        exact (Multiset.coe_eq_zero l).mp hl
      rw [none, List.flatten_nil, List.append_nil]
      exact before.symm
  | closeLast b response hu hb =>
    have before := h.heldIn_closing tokens hu hb
    obtain ⟨reports, reported, ended⟩ := Ledger.reported_redistribute b.key.typeName
      (b.held ++ response.toList) w.toLedger
    rw [← before] at ended
    exact reachable.custody_of_end hu (Multiset.mem_singleton_self _)
      (fun key ne => if_neg ne.symm) hb rfl rfl rfl rfl reported.events reported.isReport
      (fun save mem => reachable.joined_of_heldIn (ended ▸ mem))
      fun save mem => ended ▸ mem
  | abortNext b batch hu =>
    refine .of_same (h.heldIn_of_settled reachable hu (fun _ => rfl)
      (Ledger.events_settleAll _ _ _) (by simp [Event.isReport]) (by simp [Event.ended?]))
      (by simp [handed, Phase.handed, hu]) rfl
  | abortLast b batch hu hb =>
    have before := h.heldIn_failing tokens hu hb
    have taken : .taken b.key batch ∈ w.events :=
      reachable.backed.phases (.failing b.key batch) (by simp [hu])
    have reported := Ledger.reported_settleAll w.toLedger (.error .cancelled)
      (b.held.flatMap HeldResponse.batch ++ batch)
    refine reachable.custody_of_end hu (Multiset.mem_singleton_self _) (fun _ _ => rfl) hb rfl rfl
      rfl rfl reported.events reported.isReport ?_ ?_
    · intro save ended
      rw [← before] at ended
      rcases (by simpa [Event.ended?] using ended) with held | own
      · exact reachable.joined_of_heldIn held
      · exact reachable.inLine.mem_joined_of_taken (mem_takenIn.mpr taken) own
    · intro save held
      rw [← before]
      simp [Event.ended?, held]
  | begin save hu =>
    exact .of_same (fun _ => rfl) (by simp [handed, Phase.handed, hu]) rfl
  | comeBack save hu =>
    exact .of_same (heldIn_note (fun _ => rfl) rfl)
      (by simp [handed, Phase.handed, hu]) rfl
  | finish save reply hu =>
    refine .of_same (h.heldIn_of_settled reachable hu (fun _ => rfl)
      (Ledger.events_note _ _) (by simp [Event.isReport]) (by simp [Event.ended?]))
      (by simp [handed, Phase.handed, hu]) rfl

/-- All that is held in a bucket ends in one step, or none of it does. -/
theorem Custody.all_or_none (custody : Custody w w') (key : BucketKey) :
    heldIn key w'.events = [] ∨ heldIn key w.events ⊆ heldIn key w'.events := by
  cases custody with
  | kept held => exact .inr (held key ▸ List.Subset.refl _)
  | @moved b _ _ _ _ _ _ _ _ _ _ other _ all =>
    by_cases here : key = b.key
    · exact here ▸ all
    · exact .inr ((other key here).1 ▸ List.Subset.refl _)

theorem Reachable.held (h : Reachable limit w) : Held w := by
  induction h with
  | initial => exact ⟨by simp, fun _ _ => rfl⟩
  | step before step ih => exact ih.of_custody before.tokens (step.custody before ih)

end Workload

end Queue

end Writeback

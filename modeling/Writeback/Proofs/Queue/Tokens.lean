import Writeback.Proofs.Queue.Workload

/-!
# One cycle for each bucket in flight

The buckets in flight are exactly those that a job under way is a cycle of, each of one job. The
flag of a bucket thus stands for a token that the job holds: it is made when a save joins an idle
bucket, handed on when a cycle ends and pushes the next one, and given up when a cycle ends with
its bucket empty. A bucket out of flight holds nothing, and a bucket whose cycle has not started
has something to send.
-/

namespace Writeback.Queue.Workload

/-- The buckets in flight and the cycles under way are the same. -/
structure Tokens (w : Workload) : Prop where
  keys : (w.buckets.map Bucket.key).Nodup
  token : w.underway.bind Phase.keys = (w.buckets.filter fun b => b.inFlight = true).map Bucket.key
  idle : ∀ b ∈ w.buckets, b.inFlight = false → b.pending = [] ∧ b.held = []
  filled : ∀ b ∈ w.buckets, .waiting (.cycle b.key) ∈ w.underway → b.pending ≠ []

namespace Tokens

variable {w w' : Workload} {p : Phase} {rest : Multiset Phase} {b b' : Bucket}
  {others : Multiset Bucket}

theorem eq_of_key (h : Tokens w) (hb : b ∈ w.buckets) (hb' : b' ∈ w.buckets)
    (hk : b'.key = b.key) : b' = b :=
  Multiset.inj_on_of_nodup_map h.keys b' hb' b hb hk

theorem nodup_tokens (h : Tokens w) : (w.underway.bind Phase.keys).Nodup := by
  rw [h.token]
  exact Multiset.nodup_of_le (Multiset.map_le_map (Multiset.filter_le _ _)) h.keys

/-- A bucket brings its own token along. -/
theorem map_key_filter_cons (b : Bucket) (others : Multiset Bucket) :
    ((b ::ₘ others).filter fun b => b.inFlight = true).map Bucket.key =
      (if b.inFlight = true then {b.key} else 0) +
        (others.filter fun b => b.inFlight = true).map Bucket.key := by
  by_cases hf : b.inFlight = true <;> simp [hf]

theorem exists_bucket (h : Tokens w) (hp : p ∈ w.underway) {key : BucketKey} (hk : key ∈ p.keys) :
    ∃ b ∈ w.buckets, b.inFlight = true ∧ b.key = key := by
  have hm : key ∈ w.underway.bind Phase.keys := Multiset.mem_bind.mpr ⟨p, hp, hk⟩
  rw [h.token] at hm
  simpa [and_assoc] using hm

theorem inFlight (h : Tokens w) (hb : b ∈ w.buckets) (hp : p ∈ w.underway)
    (hk : b.key ∈ p.keys) : b.inFlight = true := by
  obtain ⟨c, hc, flying, same⟩ := h.exists_bucket hp hk
  exact h.eq_of_key hb hc same ▸ flying

/-- No two jobs under way are cycles of the same bucket. -/
theorem notMem_rest (h : Tokens w) (hu : w.underway = p ::ₘ rest) {key : BucketKey}
    (hk : key ∈ p.keys) {q : Phase} (hq : q ∈ rest) : key ∉ q.keys := by
  intro hkq
  have hn := h.nodup_tokens
  rw [hu, Multiset.cons_bind, Multiset.nodup_add] at hn
  exact Multiset.disjoint_left.mp hn.2.2 hk (Multiset.mem_bind.mpr ⟨q, hq, hkq⟩)

theorem waiting_notMem_rest (h : Tokens w) (hu : w.underway = p ::ₘ rest) {key : BucketKey}
    (hk : key ∈ p.keys) : .waiting (.cycle key) ∉ rest :=
  fun hq => h.notMem_rest hu hk hq (by simp)

/-- A step that leaves the buckets alone and lets no cycle begin or end. -/
theorem of_buckets_eq (h : Tokens w) (hb : w'.buckets = w.buckets)
    (token : w'.underway.bind Phase.keys = w.underway.bind Phase.keys)
    (waiting : ∀ key, .waiting (.cycle key) ∈ w'.underway → .waiting (.cycle key) ∈ w.underway) :
    Tokens w' where
  keys := by rw [hb]; exact h.keys
  token := by rw [token, hb]; exact h.token
  idle := by rw [hb]; exact h.idle
  filled := by rw [hb]; exact fun c hc hw => h.filled c hc (waiting _ hw)

/-- A step that is about one bucket. -/
theorem of_replace (h : Tokens w) (hb : w.buckets = b ::ₘ others)
    (hb' : w'.buckets = b' ::ₘ others) (same : b'.key = b.key)
    (token : w'.underway.bind Phase.keys + (if b.inFlight = true then {b.key} else 0) =
      w.underway.bind Phase.keys + (if b'.inFlight = true then {b.key} else 0))
    (waiting : ∀ key ≠ b.key,
      .waiting (.cycle key) ∈ w'.underway → .waiting (.cycle key) ∈ w.underway)
    (idle : b'.inFlight = false → b'.pending = [] ∧ b'.held = [])
    (filled : .waiting (.cycle b.key) ∈ w'.underway → b'.pending ≠ []) : Tokens w' := by
  have nodup := h.keys
  rw [hb, Multiset.map_cons, Multiset.nodup_cons] at nodup
  have other_key (c : Bucket) (hc : c ∈ others) : c.key ≠ b.key :=
    fun hk => nodup.1 (hk ▸ Multiset.mem_map_of_mem _ hc)
  constructor
  · rw [hb', Multiset.map_cons, same, Multiset.nodup_cons]
    exact nodup
  -- The tokens of the other buckets cancel, which leaves the balance of this one.
  · rw [h.token, hb, map_key_filter_cons, add_right_comm, add_comm (ite _ _ _) (ite _ _ _),
      add_right_comm] at token
    rw [hb', map_key_filter_cons, same]
    exact add_right_cancel token
  · rw [hb']
    intro c hc
    rcases Multiset.mem_cons.mp hc with rfl | hc
    · exact idle
    · exact h.idle c (hb ▸ Multiset.mem_cons_of_mem hc)
  · rw [hb']
    intro c hc hw
    rcases Multiset.mem_cons.mp hc with rfl | hc
    · exact filled (same ▸ hw)
    · exact h.filled c (hb ▸ Multiset.mem_cons_of_mem hc) (waiting _ (other_key c hc) hw)

/-- A step about one job that stays with its bucket. -/
theorem of_advance (h : Tokens w) {q : Phase} (hu : w.underway = p ::ₘ rest)
    (hu' : w'.underway = q ::ₘ rest) (hb : w'.buckets = w.buckets) (same : q.keys = p.keys)
    (started : ∀ key, q ≠ .waiting (.cycle key)) : Tokens w' := by
  apply h.of_buckets_eq hb (by simp [hu, hu', same])
  intro key hw
  rw [hu', Multiset.mem_cons] at hw
  rcases hw with hw | hw
  · exact absurd hw.symm (started key)
  · exact hu ▸ Multiset.mem_cons_of_mem hw

/-- A cycle starts, and its bucket stays in flight. -/
theorem of_start (h : Tokens w) {q : Phase} (limit : Nat)
    (hu : w.underway = .waiting (.cycle b.key) ::ₘ rest) (hb : w.buckets = b ::ₘ others)
    (hu' : w'.underway = q ::ₘ rest) (hb' : w'.buckets = b.afterBatch limit ::ₘ others)
    (same : q.keys = {b.key}) (started : ∀ key, q ≠ .waiting (.cycle key)) : Tokens w' := by
  have hm : Phase.waiting (.cycle b.key) ∈ w.underway := by simp [hu]
  have flying : b.inFlight = true := h.inFlight (by simp [hb]) hm (by simp)
  have only : ∀ key, .waiting (.cycle key) ∈ w'.underway → .waiting (.cycle key) ∈ rest := by
    intro key hw
    rw [hu', Multiset.mem_cons] at hw
    exact hw.resolve_left fun hq => started key hq.symm
  apply h.of_replace hb hb' rfl
  · simp [hu, hu', same, Bucket.afterBatch, flying]
  · intro key _ hw
    exact hu ▸ Multiset.mem_cons_of_mem (only key hw)
  · intro idle
    exact absurd flying (by simp_all [Bucket.afterBatch])
  · intro hw
    exact absurd (only _ hw) (h.waiting_notMem_rest hu (by simp))

theorem of_end (h : Tokens w) (hu : w.underway = p ::ₘ rest) (hb : w.buckets = b ::ₘ others)
    (hu' : w'.underway = rest)
    (hb' : w'.buckets = { b with held := [], inFlight := false } ::ₘ others)
    (hk : p.keys = {b.key}) (empty : b.pending = []) : Tokens w' := by
  have there : p ∈ w.underway := by simp [hu]
  have flying : b.inFlight = true := h.inFlight (by simp [hb]) there (by simp [hk])
  apply h.of_replace hb hb' rfl
  · simp [hu, hu', hk, flying, add_comm]
  · intro key _ hw
    exact hu ▸ Multiset.mem_cons_of_mem (hu' ▸ hw)
  · intro _
    exact ⟨empty, rfl⟩
  · intro hw
    exact absurd (hu' ▸ hw) (h.waiting_notMem_rest hu (by simp [hk]))

/-- A cycle ends while objects are pending, and the next cycle of the bucket is pushed. -/
theorem of_next (h : Tokens w) (hu : w.underway = p ::ₘ rest) (hb : w.buckets = b ::ₘ others)
    (hu' : w'.underway = .waiting (.cycle b.key) ::ₘ rest) (hb' : w'.buckets = b' ::ₘ others)
    (hk : p.keys = {b.key}) (same : b'.key = b.key) (pending : b'.pending = b.pending)
    (flying' : b'.inFlight = b.inFlight) (more : b.pending ≠ []) : Tokens w' := by
  have there : p ∈ w.underway := by simp [hu]
  have flying : b.inFlight = true := h.inFlight (by simp [hb]) there (by simp [hk])
  apply h.of_replace hb hb' same
  · simp [hu, hu', hk, flying']
  · intro key hne hw
    rw [hu', Multiset.mem_cons] at hw
    exact hu ▸ Multiset.mem_cons_of_mem (hw.resolve_left fun e => hne (by simpa using e))
  · intro idle
    exact absurd flying (by simp [← flying', idle])
  · intro _
    exact pending ▸ more

theorem of_join (h : Tokens w) (save : Save) (hb : w.buckets = b ::ₘ others)
    (hb' : w'.buckets = { b.push save with inFlight := true } ::ₘ others)
    (hu' : w'.underway =
      (if b.inFlight = true then 0 else {.waiting (.cycle b.key)}) + w.underway) :
    Tokens w' := by
  apply h.of_replace hb hb' rfl
  · by_cases flying : b.inFlight = true <;> simp [hu', flying, add_comm]
  · intro key hne hw
    by_cases flying : b.inFlight = true <;> simp_all
  · intro idle
    exact absurd idle (by simp)
  · intro _
    simp [Bucket.push]

theorem of_joinFirst (h : Tokens w) (fresh : b.key ∉ w.buckets.map Bucket.key)
    (hb' : w'.buckets = b ::ₘ w.buckets)
    (hu' : w'.underway = .waiting (.cycle b.key) ::ₘ w.underway) (flying : b.inFlight = true)
    (some : b.pending ≠ []) : Tokens w' := by
  have other_key (c : Bucket) (hc : c ∈ w.buckets) : c.key ≠ b.key :=
    fun hk => fresh (hk ▸ Multiset.mem_map_of_mem _ hc)
  constructor
  · rw [hb', Multiset.map_cons, Multiset.nodup_cons]
    exact ⟨fresh, h.keys⟩
  · rw [hb', hu', Multiset.cons_bind, map_key_filter_cons, h.token, if_pos flying]
    rfl
  · rw [hb']
    intro c hc idle
    rcases Multiset.mem_cons.mp hc with rfl | hc
    · exact absurd flying (by simp [idle])
    · exact h.idle c hc idle
  · rw [hb', hu']
    intro c hc hw
    rcases Multiset.mem_cons.mp hc with rfl | hc
    · exact some
    · refine h.filled c hc ((Multiset.mem_cons.mp hw).resolve_left fun e => ?_)
      exact other_key c hc (by simpa using e)

end Tokens

theorem Step.tokens {limit : Nat} {w w' : Workload} (step : Step limit w w') (h : Tokens w) :
    Tokens w' := by
  cases step with
  | pass | create | remark => exact h.of_buckets_eq rfl rfl fun _ hw => hw
  | ask object => exact h.of_buckets_eq rfl (by simp) (by simp)
  | joinFirst object _ _ fresh => exact h.of_joinFirst fresh rfl rfl rfl (by simp)
  | joinIdle object b _ _ _ hb idle => exact h.of_join _ hb rfl (by simp [idle])
  | joinBusy object b _ _ _ hb busy => exact h.of_join _ hb rfl (by simp [busy])
  | take b body timer hu hb => exact h.of_start limit hu hb rfl rfl rfl (by simp)
  | spoil b hu hb => exact h.of_start limit hu hb rfl rfl rfl (by simp)
  | post cycle hu => exact h.of_advance hu rfl rfl rfl (by simp)
  | answer cycle answer hu => exact h.of_advance hu rfl rfl rfl (by simp)
  | crash cycle hu => exact h.of_advance hu rfl rfl rfl (by simp)
  | refuse cycle cause hu => exact h.of_advance hu rfl rfl rfl (by simp)
  | defer cycle value task hu => exact h.of_advance hu rfl rfl rfl (by simp)
  | hold cycle value hu => exact h.of_advance hu rfl rfl rfl (by simp)
  | closeNext b response hu hb more => exact h.of_next hu hb rfl rfl rfl rfl rfl rfl more
  | closeLast b response hu hb empty => exact h.of_end hu hb rfl rfl rfl empty
  | abortNext b batch hu hb more => exact h.of_next hu hb rfl hb rfl rfl rfl rfl more
  | abortLast b batch hu hb empty => exact h.of_end hu hb rfl rfl rfl empty
  | begin save hu => exact h.of_advance hu rfl rfl rfl (by simp)
  | comeBack save hu => exact h.of_advance hu rfl rfl rfl (by simp)
  | finish save reply hu =>
    exact h.of_buckets_eq rfl (by simp [hu]) fun _ hw => hu ▸ Multiset.mem_cons_of_mem hw

theorem Reachable.tokens {limit : Nat} {w : Workload} (h : Reachable limit w) : Tokens w := by
  induction h with
  | initial => exact ⟨by simp, by simp, by simp, by simp⟩
  | step _ step ih => exact step.tokens ih

end Writeback.Queue.Workload

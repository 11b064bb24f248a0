import Writeback.Proofs.Queue.Conservation
import Writeback.Proofs.Queue.Schedule
import Writeback.Proofs.Queue.Simulation

/-!
# Every save ends once

No handle ends twice, and none ends that was not given out. When nothing is left to do, every
handle has ended and the queue is as it was at first: since no task is left, every permit is free,
so no drain stands in line and no job waits; with no job under way, no bucket is in flight, and a
bucket out of flight is empty; so all saves that were asked for are among those that ended.
-/

namespace Writeback

namespace Ledger

theorem results_map_fst (l : Ledger) : l.results.map Prod.fst = l.ended.map Save.handle := by
  simp only [results, ended, history, events, List.filterMap_map, List.map_filterMap]
  congr 1
  funext entry
  cases h : entry.event <;> simp [h, Event.ended?]

theorem result?_isSome_iff {l : Ledger} {handle : Nat} :
    (l.result? handle).isSome = true ↔ handle ∈ l.ended.map Save.handle := by
  simp only [result?, ended, history, events, List.findSome?_isSome_iff, List.mem_map,
    List.mem_filterMap, List.mem_reverse, exists_exists_and_eq_and]
  constructor
  · rintro ⟨entry, mem, some⟩
    cases h : entry.event <;> simp only [h, Option.isSome_none, Bool.false_eq_true] at some
    next save result =>
      refine ⟨save, ⟨entry, mem, by simp [h, Event.ended?]⟩, ?_⟩
      by_contra other
      simp [other] at some
  · rintro ⟨save, ⟨entry, mem, ended⟩, same⟩
    refine ⟨entry, mem, ?_⟩
    cases h : entry.event <;> simp_all [Event.ended?]

theorem mem_results {l : Ledger} {handle : Nat} {result : SaveResult} :
    (handle, result) ∈ l.results ↔
      ∃ save : Save, save.handle = handle ∧ .settled save result ∈ l.events := by
  simp only [results, events, List.mem_filterMap, List.mem_map]
  constructor
  · rintro ⟨entry, mem, picked⟩
    cases h : entry.event <;> simp only [h, reduceCtorEq] at picked
    next save result' =>
      obtain ⟨same, rfl⟩ : save.handle = handle ∧ result' = result := by simpa using picked
      exact ⟨save, same, entry, mem, h⟩
  · rintro ⟨save, rfl, entry, mem, h⟩
    exact ⟨entry, mem, by rw [h]⟩

theorem mem_results_of_result? {l : Ledger} {handle : Nat} {result : SaveResult}
    (h : l.result? handle = some result) : (handle, result) ∈ l.results := by
  obtain ⟨entry, mem, picked⟩ := List.exists_of_findSome?_eq_some h
  refine List.mem_filterMap.mpr ⟨entry, List.mem_reverse.mpr mem, ?_⟩
  cases event : entry.event <;> simp only [event, reduceCtorEq] at picked
  next save result' =>
    obtain ⟨rfl, rfl⟩ : save.handle = handle ∧ result' = result := by simpa using picked
    rfl

/-- When no handle ends twice, what a handle ended with is what its save did. -/
theorem result?_of_settled {l : Ledger} (nodup : (l.ended.map Save.handle).Nodup) {save : Save}
    {result : SaveResult} (settled : .settled save result ∈ l.events) :
    l.result? save.handle = some result := by
  have known : (l.result? save.handle).isSome = true :=
    result?_isSome_iff.mpr (List.mem_map_of_mem (mem_ended.mpr ⟨result, settled⟩))
  obtain ⟨found, hf⟩ := Option.isSome_iff_exists.mp known
  rw [← results_map_fst] at nodup
  have one := List.inj_on_of_nodup_map nodup (mem_results_of_result? hf)
    (mem_results.mpr ⟨save, rfl, settled⟩) rfl
  rw [hf, (Prod.mk.inj one).2]

end Ledger

namespace Queue

namespace Workload

variable {limit : Nat} {w : Workload}

/-- No handle ends twice, and none that was not given out. -/
theorem Reachable.ended (h : Reachable limit w) :
    (w.ended.map Save.handle).Nodup ∧ ∀ handle ∈ w.ended.map Save.handle, handle < w.handles := by
  have part : (↑(w.ended.map Save.handle) : Multiset Nat) ≤ Multiset.range w.handles := by
    rw [← h.handles_load, ← Multiset.map_coe]
    exact Multiset.map_le_map (Multiset.le_add_left _ _)
  refine ⟨Multiset.coe_nodup.mp (Multiset.nodup_of_le part (Multiset.nodup_range _)), ?_⟩
  intro handle mem
  exact Multiset.mem_range.mp (Multiset.mem_of_le part mem)

theorem Tokens.idle_of_underway_eq_zero (h : Tokens w) (none : w.underway = 0) {b : Bucket}
    (hb : b ∈ w.buckets) : b.pending = [] ∧ b.held = [] ∧ b.inFlight = false := by
  have token := h.token
  rw [none, Multiset.zero_bind, eq_comm, Multiset.map_eq_zero, Multiset.filter_eq_nil] at token
  have idle : b.inFlight = false := Bool.eq_false_iff.mpr (token b hb)
  obtain ⟨pending, held⟩ := h.idle b hb idle
  exact ⟨pending, held, idle⟩

/-- When no job is under way, every save that was asked for has ended. -/
theorem Reachable.ended_eq_asked (h : Reachable limit w) (none : w.underway = 0) :
    (↑w.ended : Multiset Save) = ↑(w.asked.map Prod.snd) := by
  have nothing (b : Bucket) (hb : b ∈ w.buckets) : b.saves = 0 := by
    obtain ⟨pending, held, -⟩ := h.tokens.idle_of_underway_eq_zero none hb
    simp [Bucket.saves, pending, held]
  rw [← h.load_eq_asked, load, none, Multiset.zero_bind, Multiset.bind_congr nothing,
    Multiset.bind_zero, zero_add, zero_add]

theorem Reachable.ended_of_underway_eq_zero (h : Reachable limit w) (none : w.underway = 0)
    {handle : Nat} (given : handle < w.handles) : handle ∈ w.ended.map Save.handle := by
  have all := congrArg (Multiset.map Save.handle) (h.ended_eq_asked none)
  rw [← h.load_eq_asked, h.handles_load, Multiset.map_coe] at all
  rw [← Multiset.mem_coe, all]
  exact Multiset.mem_range.mpr given

end Workload

theorem State.Paced.of_quiescent {permits : Nat} {s : State} (h : Paced permits [] s)
    (pos : 0 < permits) (quiescent : s.Quiescent) :
    s.free = permits ∧ s.waiting = [] ∧ s.jobs = [] := by
  have none : s.tasks = [] := quiescent.tasks
  have free : s.free = permits := by simpa [none] using h.permits
  refine ⟨free, ?_, ?_⟩
  · by_contra line
    have taken := h.greedy line
    omega
  · by_contra some
    obtain ⟨timer, mem, -⟩ := h.timed some
    simp [none] at mem

theorem State.underway_of_quiescent {s : State} (quiescent : s.Quiescent) (waiting : s.waiting = [])
    (jobs : s.jobs = []) : s.underway = 0 := by
  simp [State.underway, quiescent.1, quiescent.2, waiting, jobs]

/-- When nothing is left to do, nothing is queued, no job is under way and every permit is free. -/
theorem ReachableInAnyOrder.of_quiescent {setup : Setup} {s : State}
    (h : ReachableInAnyOrder setup s) (quiescent : s.Quiescent) :
    s.jobs = [] ∧ s.waiting = [] ∧ s.workload.underway = 0 ∧
      s.free = max 1 setup.settings.maxInstances.toNat := by
  have pos := setup.settings.permits_pos
  obtain ⟨free, waiting, jobs⟩ := h.paced.of_quiescent pos quiescent
  exact ⟨jobs, waiting, State.underway_of_quiescent quiescent waiting jobs, free⟩

/-- No handle ends twice, whatever crashes: a serialization, a hook, a direct save or the
transport. When nothing is left to do, every handle has ended, the queue and its buckets are empty,
and every permit is free. -/
theorem ReachableInAnyOrder.ends_each_once {setup : Setup} {s : State}
    (h : ReachableInAnyOrder setup s) :
    (s.results.map Prod.fst).Nodup ∧ (∀ handle ∈ s.results.map Prod.fst, handle < s.handles) ∧
      (s.Quiescent →
        (∀ handle < s.handles, (s.result? handle).isSome = true) ∧
        s.jobs = [] ∧ s.waiting = [] ∧
        (∀ b ∈ s.buckets, b.pending = [] ∧ b.held = [] ∧ b.inFlight = false) ∧
        s.free = max 1 setup.settings.maxInstances.toNat) := by
  have reachable := h.workload
  rw [Ledger.results_map_fst]
  refine ⟨reachable.ended.1, reachable.ended.2, ?_⟩
  intro quiescent
  obtain ⟨jobs, waiting, none, free⟩ := h.of_quiescent quiescent
  refine ⟨fun handle given => ?_, jobs, waiting, fun b hb => ?_, free⟩
  · exact Ledger.result?_isSome_iff.mpr (reachable.ended_of_underway_eq_zero none given)
  · exact reachable.tokens.idle_of_underway_eq_zero none hb

/-- A hook and a direct save crash: all three handles end. -/
theorem ends_each_after_crash :
    let s := (Setup.echoing { batchSize := 1 }).after
      [⟨{}, true, 0, none⟩, ⟨{ hook := fun _ => .crashed }, true, 0, none⟩,
        ⟨{ saveReply := .crashed }, false, 0, none⟩] 11
    s.Quiescent ∧ s.handles = 3 ∧ ∀ handle < s.handles, (s.result? handle).isSome = true := by
  intro s
  have quiescent : s.Quiescent := by decide +kernel
  have reachable := (Setup.reachable_after _ _ _ : Reachable _ s).inAnyOrder
  exact ⟨quiescent, by decide +kernel, (reachable.ends_each_once.2.2 quiescent).1⟩

end Queue

end Writeback

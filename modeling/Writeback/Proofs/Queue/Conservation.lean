import Mathlib.Data.Multiset.Range
import Mathlib.Tactic.Abel
import Writeback.Proofs.Queue.Workload

/-!
# No save is lost or ended twice

Every save that was asked for stands in exactly one place: with a job, in a bucket, or among the
saves that ended. A step moves saves from place to place, and only an enqueue adds one. As handles
are given out in order, the handles in all places are those below the number of saves asked for,
each once.
-/

namespace Writeback

/-- The saves that a bucket holds, pending or with an answer. -/
def Bucket.saves (b : Bucket) : Multiset Save :=
  ↑b.pending + (↑(b.held.flatMap HeldResponse.batch) : Multiset Save)

theorem Bucket.nextBatch_add_afterBatch (b : Bucket) (limit : Nat) :
    (↑(b.nextBatch limit) : Multiset Save) + (b.afterBatch limit).saves = b.saves := by
  rw [saves, saves, ← add_assoc, Multiset.coe_add, nextBatch, afterBatch, List.take_append_drop]

theorem Bucket.saves_push (b : Bucket) (save : Save) :
    saves { b.push save with inFlight := true } = save ::ₘ b.saves := by
  simp only [saves, push, ← Multiset.coe_add, Multiset.coe_singleton, ← Multiset.singleton_add]
  abel

/-- The direct save whose reply a job has not seen. -/
def Queue.Phase.unreplied : Queue.Phase → Multiset Save
  | .waiting (.update save) | .saving save => {save}
  | _ => 0

namespace Queue.Workload

/-- The saves in all places. -/
def load (w : Workload) : Multiset Save :=
  w.underway.bind Phase.saves + w.buckets.bind Bucket.saves + ↑w.ended

variable {limit : Nat} {w w' : Workload}

/-- A step asks for no save, or for the next one. -/
theorem Step.asked (step : Step limit w w') :
    (w'.handles = w.handles ∧ w'.asked = w.asked) ∨
      ∃ key object, object < w.records.length ∧ w'.handles = w.handles + 1 ∧
        w'.asked = w.asked ++ [(key, w.nextSave object)] := by
  cases step with
  | remark event h => exact .inl ⟨rfl, by simp [Event.asked?_of_isRemark h]⟩
  | ask object known => exact .inr ⟨none, object, known, rfl, by simp [Event.asked?]⟩
  | joinFirst object known =>
    exact .inr ⟨some (w.keyOf object), object, known, rfl, by simp [Event.asked?]⟩
  | joinIdle object b known | joinBusy object b known =>
    exact .inr ⟨some b.key, object, known, rfl, by simp [Event.asked?]⟩
  | refuse cycle | defer cycle => exact .inl ⟨rfl, (Ledger.reported_settleAll _ _ _).asked⟩
  | abortNext b batch | abortLast b batch =>
    exact .inl ⟨rfl, (Ledger.reported_settleAll _ _ _).asked⟩
  | closeLast b response =>
    obtain ⟨reports, reported, -⟩ := Ledger.reported_redistribute b.key.typeName
      (b.held ++ response.toList) w.toLedger
    exact .inl ⟨rfl, reported.asked⟩
  | take | spoil | post | answer => exact .inl ⟨rfl, by simp [Event.asked?]⟩
  | comeBack save => exact .inl ⟨rfl, by simp [Event.asked?, Ledger.asked]⟩
  | finish save => exact .inl ⟨rfl, by simp [Event.asked?, Ledger.settle]⟩
  | _ => exact .inl ⟨rfl, rfl⟩

/-- A step keeps the saves, and adds those that it asks for. -/
theorem Step.load (step : Step limit w w') :
    w'.load + ↑(w.asked.map Prod.snd) = w.load + ↑(w'.asked.map Prod.snd) := by
  -- In each case the places that the step touches are taken apart; what is left is a sum of the
  -- same saves in another order.
  cases step with
  | pass | create => rfl
  | remark event h =>
    simp [Workload.load, Event.ended?_of_isRemark h, Event.asked?_of_isRemark h]
  | ask object | joinFirst object =>
    simp [Workload.load, Event.ended?, Event.asked?, Bucket.saves, ← Multiset.coe_add,
      ← Multiset.singleton_add]
    abel
  | joinIdle object b _ _ _ hb | joinBusy object b _ _ _ hb =>
    simp [Workload.load, Event.ended?, Event.asked?, hb, Bucket.saves_push, ← Multiset.coe_add,
      ← Multiset.singleton_add]
    abel
  | take b body timer hu hb | spoil b hu hb =>
    simp [Workload.load, Event.ended?, Event.asked?, hu, hb,
      ← b.nextBatch_add_afterBatch limit]
    abel
  | post cycle hu => simp [Workload.load, Event.ended?, Event.asked?, hu]
  | answer cycle answer hu => simp [Workload.load, Event.ended?, Event.asked?, hu]
  | crash cycle hu | hold cycle value hu | begin save hu => simp [Workload.load, hu]
  | refuse cycle cause hu | defer cycle value task hu =>
    simp [Workload.load, hu, (Ledger.reported_settleAll _ _ _).asked, ← Multiset.coe_add]
    abel
  | closeNext b response hu hb =>
    simp [Workload.load, hu, hb, Bucket.saves, ← Multiset.coe_add]
    abel
  | closeLast b response hu hb empty =>
    obtain ⟨reports, reported, -⟩ := Ledger.reported_redistribute b.key.typeName
      (b.held ++ response.toList) w.toLedger
    simp [Workload.load, hu, hb, Bucket.saves, empty, Ledger.ended_redistribute, reported.asked,
      ← Multiset.coe_add]
    abel
  | abortNext b batch hu =>
    simp [Workload.load, hu, (Ledger.reported_settleAll _ _ _).asked, ← Multiset.coe_add]
    abel
  | abortLast b batch hu hb empty =>
    simp [Workload.load, hu, hb, Bucket.saves, empty, (Ledger.reported_settleAll _ _ _).asked,
      ← Multiset.coe_add]
    abel
  | comeBack save hu => simp [Workload.load, Event.ended?, Event.asked?, hu, Ledger.asked]
  | finish save reply hu =>
    simp [Workload.load, hu, Ledger.settle, Event.ended?, Event.asked?, ← Multiset.coe_add,
      ← Multiset.singleton_add]
    abel

/-- The saves in all places are those that were asked for. -/
theorem Reachable.load_eq_asked (h : Reachable limit w) :
    w.load = ↑(w.asked.map Prod.snd) := by
  induction h with
  | initial => rfl
  | step _ step ih =>
    have both := step.load
    rw [ih, add_comm] at both
    exact add_left_cancel both

theorem Reachable.handles_asked (h : Reachable limit w) :
    w.asked.map (fun entry => entry.2.handle) = List.range w.handles := by
  induction h with
  | initial => rfl
  | step _ step ih =>
    rcases step.asked with ⟨handles, asked⟩ | ⟨key, object, -, handles, asked⟩
    · rw [handles, asked, ih]
    · rw [handles, asked, List.map_append, ih, List.range_succ]
      rfl

/-- The handles in all places are those given out, each once. -/
theorem Reachable.handles_load (h : Reachable limit w) :
    w.load.map Save.handle = Multiset.range w.handles := by
  rw [h.load_eq_asked, Multiset.map_coe, List.map_map]
  exact congrArg _ h.handles_asked

theorem Reachable.nodup_load (h : Reachable limit w) : w.load.Nodup := by
  have handles : (w.load.map Save.handle).Nodup := by
    rw [h.handles_load]
    exact Multiset.nodup_range _
  exact Multiset.Nodup.of_map _ handles

/-- A step gets replies to direct saves that were asked for, or asks for more. -/
theorem Step.replied (step : Step limit w w') :
    ↑w'.replied + w'.underway.bind Phase.unreplied + (↑w.updates : Multiset Save) =
      ↑w.replied + w.underway.bind Phase.unreplied + ↑w'.updates := by
  have reported {l l' : Ledger} {reports : List Event} (h : Ledger.Reported l reports l') :
      l'.replied = l.replied ∧ l'.updates = l.updates :=
    ⟨h.replied, by rw [Ledger.updates, h.asked, Ledger.updates]⟩
  have settled (result : SaveResult) (saves : List Save) :=
    reported (Ledger.reported_settleAll w.toLedger result saves)
  cases step with
  | pass | create => rfl
  | remark event remark =>
    have silent : event.replied? = none := by
      cases event <;> simp_all [Event.isRemark, Event.replied?]
    simp [silent, Event.asked?_of_isRemark remark]
  | ask object =>
    simp [Event.replied?, Event.asked?, Phase.unreplied, ← Multiset.coe_add,
      ← Multiset.singleton_add]
    abel
  | joinFirst object | joinIdle object b | joinBusy object b =>
    simp [Event.replied?, Event.asked?, Phase.unreplied]
  | take b body timer hu | spoil b hu | post cycle hu | answer cycle answer hu =>
    simp [Event.replied?, Event.asked?, Phase.unreplied, hu]
  | crash cycle hu | hold cycle value hu | closeNext b response hu | begin save hu =>
    simp [Phase.unreplied, hu]
  | refuse cycle cause hu | defer cycle value task hu =>
    simp [Phase.unreplied, hu, settled]
  | abortNext b batch hu | abortLast b batch hu =>
    simp [Phase.unreplied, hu, settled]
  | closeLast b response hu =>
    obtain ⟨reports, h, -⟩ := Ledger.reported_redistribute b.key.typeName
      (b.held ++ response.toList) w.toLedger
    simp [Phase.unreplied, hu, reported h]
  | comeBack save hu =>
    simp [Event.replied?, Event.asked?, Phase.unreplied, hu, ← Multiset.coe_add,
      ← Multiset.singleton_add, Ledger.updates, Ledger.replied, Ledger.asked]
    abel
  | finish save reply hu =>
    simp [Event.replied?, Event.asked?, Phase.unreplied, hu, Ledger.settle]

/-- The direct saves with a reply and those without are the ones asked for. -/
theorem Reachable.replied_eq_updates (h : Reachable limit w) :
    ↑w.replied + w.underway.bind Phase.unreplied = (↑w.updates : Multiset Save) := by
  induction h with
  | initial => rfl
  | step _ step ih =>
    have both := step.replied
    rw [ih, add_comm] at both
    exact add_left_cancel both

/-- Saves that were asked for under one handle are one save, with one bucket. -/
theorem Reachable.eq_of_handle (h : Reachable limit w) {first second : Option BucketKey × Save}
    (hf : first ∈ w.asked) (hs : second ∈ w.asked) (same : first.2.handle = second.2.handle) :
    first = second := by
  have nodup : (w.asked.map fun entry => entry.2.handle).Nodup := by
    rw [h.handles_asked]
    exact List.nodup_range
  exact List.inj_on_of_nodup_map nodup hf hs same

end Queue.Workload

end Writeback

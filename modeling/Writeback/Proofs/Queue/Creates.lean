import Writeback.Proofs.Queue.Asking
import Writeback.Proofs.Queue.Requests

/-!
# Creates on the wire

New objects go out in the order they were enqueued, each in at most one request and at one
position of it. Saves join a bucket by enqueueing alone, in the order of their handles; they leave
it in batches from the front, as many as the limit of the bucket allows; and the requests of the
bucket are what its batches serialize to.
-/

namespace Writeback.Queue

/-- The line of a bucket; that of a bucket which does not exist is empty. -/
theorem State.inLine_bucket? {s : State} (h : Workload.InLine s.workload) (key : BucketKey) :
    (takenIn key s.events).flatten ++ ((s.bucket? key).map Bucket.pending).getD [] =
      joinedIn key s.events := by
  cases hb : s.bucket? key with
  | none =>
    have fresh : key ∉ s.workload.lines.map Bucket.key := by
      rw [Workload.lines, Multiset.map_map]
      exact bucket?_eq_none_iff.mp hb
    obtain ⟨joined, taken⟩ := h.absent key fresh
    rw [show joinedIn key s.events = [] from joined, show takenIn key s.events = [] from taken]
    rfl
  | some b =>
    have mem : b ∈ s.buckets := List.mem_of_find?_eq_some hb
    rw [← key_of_bucket? hb]
    exact h.line b.line (Multiset.mem_map_of_mem Bucket.line (Multiset.mem_coe.mpr mem))

theorem Workload.Reachable.nodup_posted {limit : Nat} {w : Workload}
    (h : Workload.Reachable limit w) (key : BucketKey) :
    (((w.posted key).flatMap Prod.fst).map Save.handle).Nodup := by
  rw [List.flatMap_def]
  have distinct := (h.pairwise_joinedIn key).imp fun lt => Nat.ne_of_lt lt
  exact distinct.sublist ((h.posted_sublist key).map _)

/-- New objects go out in the order they were enqueued. Of every bucket, in every state: the
batches taken and then the line are the saves that joined, which enqueueing new objects alone adds
to and whose handles increase; a batch is not empty and is the front of the line, all of it in the
background and up to the limit in the foreground; the requests sent, with one that may be about to
leave, are those of the batches that serialize, in order, position by position; and no handle is
sent twice. -/
theorem ReachableInAnyOrder.creates_in_order {setup : Setup} {s : State}
    (h : ReachableInAnyOrder setup s) (key : BucketKey) :
    (takenIn key s.events).flatten ++ ((s.bucket? key).map Bucket.pending).getD [] =
        joinedIn key s.events ∧
      (∀ object, joinedIn key (s.enqueue object).events = joinedIn key s.events ++
        if (s.record object).isNew = true ∧ BucketKey.ofSaveable (s.saveable object) = key
        then [⟨object, s.handles⟩] else []) ∧
      (∀ t, Move setup s t → joinedIn key t.events = joinedIn key s.events ∨
        ∃ object, object < s.records.length ∧ t = s.enqueue object) ∧
      ((joinedIn key s.events).map Save.handle).Pairwise (· < ·) ∧
      (∀ save ∈ joinedIn key s.events, save.handle < s.handles ∧
        BucketKey.ofSaveable (s.saveable save.object) = key ∧
        ∀ other, ∀ save' ∈ joinedIn other s.events, save'.handle = save.handle → other = key) ∧
      (∀ before batch after, s.events = before ++ .taken key batch :: after →
        batch ≠ [] ∧ batch <+: pendingIn key before ∧
          batch.length = if key.background then (pendingIn key before).length
            else min (max 1 setup.settings.batchSize.toNat) (pendingIn key before).length) ∧
      (s.posted key ++ s.departing key).map Prod.fst =
        ((takenIn key s.events).filter fun batch =>
          batch.all fun save => (s.saveable save.object).body.isSome) ∧
      (∀ batch request, (batch, request) ∈ s.posted key ++ s.departing key →
        (∃ first, (joinedIn key s.events).head? = some first ∧
          request.plural = (s.saveable first.object).model.plural) ∧
        request.background = key.background ∧ request.body.length = batch.length ∧
        ∀ (i : Nat) (save : Save), batch[i]? = some save →
          ∃ value, (s.saveable save.object).body = some value ∧
            request.body[i]? = some (.obj [(key.typeName, value)])) ∧
      (((s.posted key).flatMap Prod.fst).map Save.handle).Nodup := by
  have reachable := h.workload
  have inLine := reachable.inLine
  have pos := setup.settings.batchLimit_pos
  have taken := reachable.takenInTurn pos
  have sent := h.posted_departing key
  refine ⟨State.inLine_bucket? inLine key, fun object => s.joinedIn_enqueue object key,
    fun t move => h.joinedIn_move move key, reachable.pairwise_joinedIn key, ?_,
    fun before batch after split => taken before key batch after split, ?_, ?_,
    reachable.nodup_posted key⟩
  · intro save mem
    have asked := Workload.mem_asked_of_mem_joinedIn mem
    refine ⟨reachable.handle_lt asked, (inLine.known key save mem).2, ?_⟩
    intro other save' mem' same
    have one := reachable.eq_of_handle (Workload.mem_asked_of_mem_joinedIn mem') asked same
    exact Option.some.inj (Prod.mk.inj one).1
  · rw [sent, Ledger.map_fst_requestsOf]
  · intro batch request mem
    rw [sent] at mem
    obtain ⟨batch_mem, body, hb, rfl⟩ := Ledger.mem_requestsOf mem
    obtain ⟨length, entries⟩ := Ledger.getElem?_batchBody? hb
    refine ⟨?_, rfl, length, entries⟩
    obtain ⟨before, after, split⟩ := List.append_of_mem (mem_takenIn.mp batch_mem)
    obtain ⟨some, -⟩ := taken before key batch after split
    obtain ⟨save, hs⟩ := List.exists_mem_of_ne_nil batch some
    have joined := inLine.mem_joined_of_taken batch_mem hs
    cases first : (joinedIn key s.events).head? with
    | none => exact absurd (List.head?_eq_none_iff.mp first) (List.ne_nil_of_mem joined)
    | some save => exact ⟨save, rfl, by simp [Ledger.pluralOf, first]⟩

/-- Two objects that were enqueued together go out in two requests, in order. -/
theorem creates_in_order_one_by_one :
    let s := (Setup.echoing { batchSize := 1 }).after [⟨{}, true, 0, none⟩, ⟨{}, true, 0, none⟩] 8
    (s.requests.map fun request => request.body.length) = [1, 1] ∧
      (takenIn (.ofSaveable {}) s.events).flatten = [⟨0, 0⟩, ⟨1, 1⟩] := by
  intro s
  have requests : (s.requests.map fun request => request.body.length) = [1, 1] := by decide +kernel
  have joined : joinedIn (.ofSaveable {}) s.events = [⟨0, 0⟩, ⟨1, 1⟩] := by decide +kernel
  have nothing : ((s.bucket? (.ofSaveable {})).map Bucket.pending).getD [] = [] := by
    decide +kernel
  have reachable := (Setup.reachable_after _ _ _ : Reachable _ s).inAnyOrder
  have line := (reachable.creates_in_order (.ofSaveable {})).1
  rw [nothing, List.append_nil, joined] at line
  exact ⟨requests, line⟩

end Writeback.Queue

import Writeback.Proofs.Queue.Tokens

/-!
# What buckets and requests see of a step

Most steps are silent: they leave the lines of saves in the buckets alone, and no request comes
any further by them. The others are of four kinds. A save joins the end of the line of its bucket;
a batch is taken from the front of a line; a request is posted; or one is answered. `Step.noticed`
sorts the steps, so that what follows about batches and requests is proved by cases on five kinds.

Of each bucket at most one request was made and not posted, or posted and not answered, as a bucket
has at most one cycle.
-/

namespace Writeback

/-- A bucket with nothing but its line of saves. -/
def Bucket.line (b : Bucket) : Bucket := { b with held := [], inFlight := false }

/-- The request that a bucket with this collection makes of a batch, unless the serialization of an
object crashes. -/
def Ledger.request? (l : Ledger) (key : BucketKey) (plural : String) (batch : List Save) :
    Option (List Save × Request) :=
  (l.batchBody? key batch).map fun body => (batch, ⟨plural, key.background, body⟩)

/-- The objects of a ledger are in another, with what the model layer supplies for them. -/
structure Ledger.Keeps (l l' : Ledger) : Prop where
  length : l.records.length ≤ l'.records.length
  saveable : ∀ object < l.records.length, l'.saveable object = l.saveable object

theorem Ledger.Reported.keeps {l l' : Ledger} {reports : List Event}
    (h : Ledger.Reported l reports l') : l.Keeps l' :=
  ⟨h.records.ge, fun object _ => h.saveable object⟩

namespace Event

/-- Whether an event is about the line of a bucket or about a request. -/
def isWire : Event → Bool
  | joined _ _ | taken _ _ | posted _ _ _ | answered _ _ _ _ => true
  | _ => false

theorem isWire_of_isReport {e : Event} (h : e.isReport = true) : e.isWire = false := by
  cases e <;> simp_all [isReport, isWire]

theorem isWire_of_isRemark {e : Event} (h : e.isRemark = true) : e.isWire = false := by
  cases e <;> simp_all [isRemark, isWire]

end Event

namespace Queue

namespace Phase

def toSend (key : BucketKey) : Phase → Multiset (List Save × Request)
  | leaving cycle => if cycle.key = key then {(cycle.batch, cycle.request)} else 0
  | _ => 0

def toAnswer (key : BucketKey) : Phase → Multiset (List Save × Request)
  | sent cycle => if cycle.key = key then {(cycle.batch, cycle.request)} else 0
  | _ => 0

@[simp] theorem toSend_waiting (key : BucketKey) (job : Job) : (waiting job).toSend key = 0 := rfl
@[simp] theorem toAnswer_waiting (key : BucketKey) (job : Job) :
    (waiting job).toAnswer key = 0 := rfl

theorem toSend_eq_zero {p : Phase} {key : BucketKey} (h : key ∉ p.keys) : p.toSend key = 0 := by
  cases p <;> simp_all [toSend, eq_comm]

theorem toAnswer_eq_zero {p : Phase} {key : BucketKey} (h : key ∉ p.keys) : p.toAnswer key = 0 := by
  cases p <;> simp_all [toAnswer, eq_comm]

end Phase

namespace Workload

def toSend (w : Workload) (key : BucketKey) : Multiset (List Save × Request) :=
  w.underway.bind (Phase.toSend key)

def toAnswer (w : Workload) (key : BucketKey) : Multiset (List Save × Request) :=
  w.underway.bind (Phase.toAnswer key)

def lines (w : Workload) : Multiset Bucket := w.buckets.map Bucket.line

variable {limit : Nat} {w w' : Workload} {p : Phase} {rest : Multiset Phase} {key : BucketKey}

/-- While a job is a cycle of a bucket, no other is about to send anything for it. -/
theorem Tokens.toSend_rest (h : Tokens w) (hu : w.underway = p ::ₘ rest) (hk : key ∈ p.keys) :
    rest.bind (Phase.toSend key) = 0 := by
  rw [Multiset.bind_congr fun q hq => Phase.toSend_eq_zero (h.notMem_rest hu hk hq),
    Multiset.bind_zero]

theorem Tokens.toAnswer_rest (h : Tokens w) (hu : w.underway = p ::ₘ rest) (hk : key ∈ p.keys) :
    rest.bind (Phase.toAnswer key) = 0 := by
  rw [Multiset.bind_congr fun q hq => Phase.toAnswer_eq_zero (h.notMem_rest hu hk hq),
    Multiset.bind_zero]

theorem Step.keeps (step : Step limit w w') : w.Keeps w'.toLedger := by
  cases step with
  | create record =>
    constructor
    · simp
    · intro object known
      simp [Ledger.saveable, Ledger.record, List.getElem?_append_left known]
  | refuse cycle | defer cycle => exact (Ledger.reported_settleAll _ _ _).keeps
  | abortNext b batch | abortLast b batch => exact (Ledger.reported_settleAll _ _ _).keeps
  | closeLast b response =>
    obtain ⟨reports, reported, -⟩ := Ledger.reported_redistribute b.key.typeName
      (b.held ++ response.toList) w.toLedger
    exact reported.keeps
  | comeBack save =>
    constructor
    · simp [Ledger.note, Ledger.modifyRecord]
    · intro object _
      exact Ledger.saveable_modifyRecord w.toLedger save.object
        (f := (·.markReplied _)) (fun r => r.saveable_markReplied _) object
  | _ => exact ⟨le_rfl, fun _ _ => rfl⟩

/-- The journal is only added to. -/
theorem Step.exists_news (step : Step limit w w') : ∃ news, w'.events = w.events ++ news := by
  cases step with
  | pass | create | crash | hold | closeNext | begin => exact ⟨[], (List.append_nil _).symm⟩
  | refuse | defer | abortNext | abortLast => exact ⟨_, Ledger.events_settleAll _ _ _⟩
  | closeLast b response =>
    obtain ⟨reports, reported, -⟩ := Ledger.reported_redistribute b.key.typeName
      (b.held ++ response.toList) w.toLedger
    exact ⟨reports, reported.events⟩
  | _ => exact ⟨_, Ledger.events_note _ _⟩

/-- What buckets and requests see of a step. -/
inductive Noticed (limit : Nat) (w w' : Workload) : Prop
  /-- Nothing. -/
  | silent (news : List Event) (events : w'.events = w.events ++ news)
      (none : ∀ e ∈ news, e.isWire = false)
      (lines : w'.lines = w.lines) (toSend : ∀ key, w'.toSend key = w.toSend key)
      (toAnswer : ∀ key, w'.toAnswer key = w.toAnswer key)
  /-- A new object joins its bucket, which may be added for it. -/
  | joined (object : Nat) (plural : String) (before : List Save) (others : Multiset Bucket)
      (known : object < w.records.length)
      (events : w'.events = w.events ++ [.joined (w.keyOf object) (w.nextSave object)])
      (lines : w'.lines =
        ⟨w.keyOf object, plural, before ++ [w.nextSave object], [], false⟩ ::ₘ others)
      (bucket : w.lines = ⟨w.keyOf object, plural, before, [], false⟩ ::ₘ others ∨
        before = [] ∧ plural = (w.saveable object).model.plural ∧
          w.keyOf object ∉ w.lines.map Bucket.key ∧ w.lines = others)
      (toSend : ∀ key, w'.toSend key = w.toSend key)
      (toAnswer : ∀ key, w'.toAnswer key = w.toAnswer key)
  /-- A batch is taken from the front of a line. -/
  | taken (line : Bucket) (others : Multiset Bucket) (filled : line.pending ≠ [])
      (events : w'.events = w.events ++ [.taken line.key (line.nextBatch limit)])
      (bucket : w.lines = line ::ₘ others)
      (lines : w'.lines = line.afterBatch limit ::ₘ others) (nothing : w.toSend line.key = 0)
      (made : w'.toSend line.key =
        ↑(w.request? line.key line.plural (line.nextBatch limit)).toList)
      (toSend : ∀ key ≠ line.key, w'.toSend key = w.toSend key)
      (toAnswer : ∀ key, w'.toAnswer key = w.toAnswer key)
  /-- The request of a batch is sent. -/
  | posted (cycle : Cycle)
      (events : w'.events = w.events ++ [.posted cycle.key cycle.batch cycle.request])
      (lines : w'.lines = w.lines)
      (before : w.toSend cycle.key = {(cycle.batch, cycle.request)})
      (after : w'.toSend cycle.key = 0) (nothing : w.toAnswer cycle.key = 0)
      (sent : w'.toAnswer cycle.key = {(cycle.batch, cycle.request)})
      (toSend : ∀ key ≠ cycle.key, w'.toSend key = w.toSend key)
      (toAnswer : ∀ key ≠ cycle.key, w'.toAnswer key = w.toAnswer key)
  /-- The request of a batch is answered. -/
  | answered (cycle : Cycle) (answer : Answer)
      (events : w'.events = w.events ++ [.answered cycle.key cycle.batch cycle.request answer])
      (lines : w'.lines = w.lines)
      (before : w.toAnswer cycle.key = {(cycle.batch, cycle.request)})
      (after : w'.toAnswer cycle.key = 0) (toSend : ∀ key, w'.toSend key = w.toSend key)
      (toAnswer : ∀ key ≠ cycle.key, w'.toAnswer key = w.toAnswer key)

theorem isWire_settled {saves : List Save} {result : SaveResult} :
    ∀ e ∈ saves.map fun save => Event.settled save result, e.isWire = false := by
  simp [Event.isWire]

theorem lines_cons {b : Bucket} {others : Multiset Bucket} (hb : w.buckets = b ::ₘ others) :
    w.lines = b.line ::ₘ others.map Bucket.line := by
  rw [lines, hb, Multiset.map_cons]

theorem lines_of_replace {b b' : Bucket} {others : Multiset Bucket} (hb : w.buckets = b ::ₘ others)
    (hb' : w'.buckets = b' ::ₘ others) (same : b'.line = b.line) : w'.lines = w.lines := by
  rw [lines_cons hb, lines_cons hb', same]

/-- A cycle takes a batch, whether or not a request can be made of it. -/
theorem Tokens.noticed_taken (h : Tokens w) {b : Bucket} {others : Multiset Bucket} {q : Phase}
    (hu : w.underway = .waiting (.cycle b.key) ::ₘ rest) (hb : w.buckets = b ::ₘ others)
    (filled : b.pending ≠ []) (hu' : w'.underway = q ::ₘ rest)
    (hb' : w'.buckets = b.afterBatch limit ::ₘ others)
    (events : w'.events = w.events ++ [.taken b.key (b.nextBatch limit)])
    (keys : q.keys = {b.key})
    (made : q.toSend b.key = ↑(w.request? b.key b.plural (b.nextBatch limit)).toList)
    (unsent : ∀ key, q.toAnswer key = 0) : Noticed limit w w' := by
  have idle : rest.bind (Phase.toSend b.key) = 0 := h.toSend_rest hu (by simp)
  have nothing : w.toSend b.key = 0 := by simpa [toSend, hu] using idle
  have made' : w'.toSend b.key = ↑(w.request? b.key b.plural (b.nextBatch limit)).toList := by
    simpa [toSend, hu', idle] using made
  have other (key : BucketKey) (ne : key ≠ b.key) : w'.toSend key = w.toSend key := by
    have none : q.toSend key = 0 := Phase.toSend_eq_zero (by simpa [keys] using ne)
    simp [toSend, hu, hu', none]
  have answers (key : BucketKey) : w'.toAnswer key = w.toAnswer key := by
    simp [toAnswer, hu, hu', unsent key]
  exact .taken b.line (others.map Bucket.line) filled events (lines_cons hb)
    (lines_cons hb') nothing made' other answers

/-- Every step is of one of the five kinds. -/
theorem Step.noticed (step : Step limit w w') (h : Tokens w) : Noticed limit w w' := by
  cases step with
  | pass | create =>
    exact .silent [] (List.append_nil _).symm (by simp) rfl (fun _ => rfl) fun _ => rfl
  | remark event remark =>
    have quiet := Event.isWire_of_isRemark remark
    exact .silent [event] (Ledger.events_note _ _) (by simp [quiet]) rfl
      (fun _ => rfl) fun _ => rfl
  | ask object =>
    exact .silent _ (Ledger.events_note _ _) (by simp [Event.isWire]) rfl
      (by simp [toSend, Phase.toSend]) (by simp [toAnswer, Phase.toAnswer])
  | joinFirst object known _ fresh =>
    refine .joined object _ [] w.lines known (Ledger.events_note _ _) ?_
      (.inr ⟨rfl, rfl, ?_, rfl⟩) (by simp [toSend, Phase.toSend])
      (by simp [toAnswer, Phase.toAnswer])
    · simp [lines, Bucket.line]
    · simpa [lines, Bucket.line] using fresh
  | @joinIdle others object b known _ same hb =>
    refine .joined object b.plural b.pending (others.map Bucket.line) known ?_ ?_ (.inl ?_)
      (by simp [toSend, Phase.toSend]) (by simp [toAnswer, Phase.toAnswer])
    · simp [same]
    · simp [lines, Bucket.line, Bucket.push, ← same]
    · simp [lines, hb, Bucket.line, ← same]
  | @joinBusy others object b known _ same hb =>
    refine .joined object b.plural b.pending (others.map Bucket.line) known ?_ ?_ (.inl ?_)
      (by simp [toSend]) (by simp [toAnswer])
    · simp [same]
    · simp [lines, Bucket.line, Bucket.push, ← same]
    · simp [lines, hb, Bucket.line, ← same]
  | take b body timer hu hb filled hbody =>
    exact h.noticed_taken hu hb filled rfl rfl (Ledger.events_note _ _) rfl
      (by simp [Phase.toSend, Ledger.request?, hbody]) fun _ => rfl
  | spoil b hu hb filled hbody =>
    exact h.noticed_taken hu hb filled rfl rfl (Ledger.events_note _ _) rfl
      (by simp [Phase.toSend, Ledger.request?, hbody]) fun _ => rfl
  | post cycle hu =>
    -- The cycle is the only one of its bucket, so what it has is all there is.
    have unsent := h.toSend_rest hu (Multiset.mem_singleton_self cycle.key)
    have unanswered := h.toAnswer_rest hu (Multiset.mem_singleton_self cycle.key)
    refine .posted cycle (Ledger.events_note _ _) rfl ?_ ?_ ?_ ?_ ?_ ?_
    · simp [toSend, hu, Phase.toSend, unsent]
    · simp [toSend, Phase.toSend, unsent]
    · simp [toAnswer, hu, Phase.toAnswer, unanswered]
    · simp [toAnswer, Phase.toAnswer, unanswered]
    · intro key ne
      simp [toSend, hu, Phase.toSend, ne.symm]
    · intro key ne
      simp [toAnswer, hu, Phase.toAnswer, ne.symm]
  | answer cycle answer hu =>
    have unanswered := h.toAnswer_rest hu (Multiset.mem_singleton_self cycle.key)
    refine .answered cycle answer (Ledger.events_note _ _) rfl ?_ ?_ ?_ ?_
    · simp [toAnswer, hu, Phase.toAnswer, unanswered]
    · simp [toAnswer, Phase.toAnswer, unanswered]
    · simp [toSend, hu, Phase.toSend]
    · intro key ne
      simp [toAnswer, hu, Phase.toAnswer, ne.symm]
  | crash cycle hu | hold cycle value hu | begin save hu =>
    exact .silent [] (List.append_nil _).symm (by simp) rfl
      (by simp [toSend, hu, Phase.toSend]) (by simp [toAnswer, hu, Phase.toAnswer])
  | refuse cycle cause hu | defer cycle value task hu =>
    exact .silent _ (Ledger.events_settleAll _ _ _) isWire_settled rfl
      (by simp [toSend, hu, Phase.toSend]) (by simp [toAnswer, hu, Phase.toAnswer])
  | closeNext b response hu hb =>
    exact .silent [] (List.append_nil _).symm (by simp) (lines_of_replace hb rfl rfl)
      (by simp [toSend, hu, Phase.toSend]) (by simp [toAnswer, hu, Phase.toAnswer])
  | closeLast b response hu hb empty =>
    obtain ⟨reports, reported, -⟩ := Ledger.reported_redistribute b.key.typeName
      (b.held ++ response.toList) w.toLedger
    exact .silent reports reported.events
      (fun e he => Event.isWire_of_isReport (reported.isReport e he))
      (lines_of_replace hb rfl rfl) (by simp [toSend, hu, Phase.toSend])
      (by simp [toAnswer, hu, Phase.toAnswer])
  | abortNext b batch hu hb =>
    exact .silent _ (Ledger.events_settleAll _ _ _) isWire_settled rfl
      (by simp [toSend, hu, Phase.toSend]) (by simp [toAnswer, hu, Phase.toAnswer])
  | abortLast b batch hu hb empty =>
    exact .silent _ (Ledger.events_settleAll _ _ _) isWire_settled
      (lines_of_replace hb rfl rfl) (by simp [toSend, hu, Phase.toSend])
      (by simp [toAnswer, hu, Phase.toAnswer])
  | comeBack save hu =>
    exact .silent _ (Ledger.events_note _ _) (by simp [Event.isWire]) rfl
      (by simp [toSend, hu, Phase.toSend]) (by simp [toAnswer, hu, Phase.toAnswer])
  | finish save reply hu =>
    exact .silent _ (Ledger.events_note _ _) (by simp [Event.isWire]) rfl
      (by simp [toSend, hu, Phase.toSend]) (by simp [toAnswer, hu, Phase.toAnswer])

end Workload

end Queue

end Writeback

import Mathlib.Data.List.Forall2
import Writeback.Proofs.Json.Values
import Writeback.Proofs.Queue.Reports

/-!
# The form of numbers in an answer

A server may write a number of an answer as an integer or as a float. Redistributing two answers
that are equal by value ends every save in the same way: the status at the head of an entry is
compared, and told, by the float that it is or is rounded to, and numbers that are the same have the
same float.
-/

namespace Writeback

namespace Number

theorem scaled_toFloat_of_sameValue {x y : Number} (h : x.sameValue y = true) :
    x.toFloat.scaled = y.toFloat.scaled := by
  cases x with
  | int n hn =>
    cases y with
    | int m hm =>
      obtain rfl := sameValue_int_int.mp h
      rfl
    | float y => exact agrees_int_float.mp ((sameValue_iff _ _).mp h)
  | float x =>
    cases y with
    | int m hm => exact agrees_float_int.mp ((sameValue_iff _ _).mp h)
    | float y => exact agrees_float_float.mp ((sameValue_iff _ _).mp h)

theorem isSuccess_of_sameValue {x y : Number} (h : x.sameValue y = true) :
    x.isSuccess = y.isSuccess := by
  rw [isSuccess, isSuccess, scaled_toFloat_of_sameValue h]

theorem toInt?_of_sameValue {x y : Number} (h : x.sameValue y = true) :
    x.toFloat.toInt? = y.toFloat.toInt? := by
  rw [Binary64.toInt?, Binary64.toInt?, scaled_toFloat_of_sameValue h]

end Number

theorem Failure.status?_eq_some_iff {failure : Failure} {n : Nat} :
    failure.status? = some n ↔
      ∃ x rest, failure = .rejected (some (.arr (.num x :: rest))) ∧ x.value = n ∧ n ≤ 65535 := by
  constructor
  · intro status
    cases failure with
    | rejected entry =>
      cases entry with
      | none => cases status
      | some entry =>
        obtain ⟨x, rest, rfl, told⟩ := entryStatus?_eq_some_iff.mp status
        exact ⟨x, rest, rfl, told⟩
    | _ => cases status
  · rintro ⟨x, rest, rfl, told⟩
    exact entryStatus?_eq_some_iff.mpr ⟨x, rest, rfl, told⟩

/-! ### Equal entries -/

theorem entryStatus?_of_equal {a b : Json} (h : a.equal b = true) :
    entryStatus? a = entryStatus? b := by
  unfold entryStatus?
  rcases DeepEq.option_cases (Json.equal_item? h 0) with ⟨hx, hy⟩ | ⟨x, y, hx, hy, same⟩
  · rw [hx, hy]
  · rw [hx, hy]
    cases x <;> cases y <;> try first | rfl | cases same
    case num.num n m => simp only [Number.toInt?_of_sameValue same]

theorem Failure.status?_of_equal {a b : Option Json} (h : deepEq a b = true) :
    (rejected a).status? = (rejected b).status? := by
  rcases DeepEq.option_cases h with ⟨rfl, rfl⟩ | ⟨x, y, rfl, rfl, same⟩
  · rfl
  · exact entryStatus?_of_equal same

theorem Json.equal_getD_null {a b : Option Json} (h : deepEq a b = true) :
    (a.getD .null).equal (b.getD .null) = true := by
  rcases DeepEq.option_cases h with ⟨rfl, rfl⟩ | ⟨x, y, rfl, rfl, same⟩
  · rfl
  · exact same

/-- An entry that equals a pair with a number at its head is such a pair. -/
theorem Json.exists_pair_of_equal {status : Number} {payload b : Json}
    (h : (arr [.num status, payload]).equal b = true) :
    ∃ other value, b = arr [.num other, value] ∧ status.sameValue other = true ∧
      payload.equal value = true := by
  cases b <;> try cases h
  case arr items =>
    rw [equal] at h
    rcases items with _ | ⟨first, _ | ⟨value, _ | ⟨third, rest⟩⟩⟩
    · cases h
    · simp [equalItems] at h
    · rw [equalItems, equalItems, equalItems, Bool.and_true, Bool.and_eq_true] at h
      cases first <;> try cases h.1
      case num other => exact ⟨other, value, rfl, h⟩
    · simp [equalItems] at h

theorem Verdict.accepted_of_equal {status : Number} {payload b : Json}
    (h : (Json.arr [.num status, payload]).equal b = true)
    (low : 200 ≤ status.value) (high : status.value < 300) (typeName : String) :
    ∃ value, payload.equal value = true ∧
      ofEntry typeName (some b) = .accepted ((value.field? typeName).getD .null) := by
  obtain ⟨other, value, rfl, statuses, payloads⟩ := Json.exists_pair_of_equal h
  have success : other.isSuccess = true := by
    rw [← Number.isSuccess_of_sameValue statuses]
    exact status.isSuccess_iff.mpr ⟨low, high⟩
  exact ⟨value, payloads, if_pos success⟩

/-- Equal entries both accept an object, with equal payloads, or both do not. -/
theorem Verdict.ofEntry_of_equal {a b : Option Json} (ha : ∀ x ∈ a, x.Ordered)
    (hb : ∀ y ∈ b, y.Ordered) (h : deepEq a b = true) (typeName : String) :
    (∃ p q, ofEntry typeName a = .accepted p ∧ ofEntry typeName b = .accepted q ∧
        p.equal q = true) ∨
      ofEntry typeName a = .rejected a ∧ ofEntry typeName b = .rejected b := by
  rcases DeepEq.option_cases h with ⟨rfl, rfl⟩ | ⟨x, y, rfl, rfl, same⟩
  · exact Or.inr ⟨rfl, rfl⟩
  have hx := ha x rfl
  have hy := hb y rfl
  rcases ofEntry_cases typeName (some x) with ⟨status, payload, form, low, high, accepted⟩ |
    ⟨-, rejected⟩
  · obtain rfl := Option.some.inj form
    obtain ⟨value, payloads, again⟩ := accepted_of_equal same low high typeName
    have inside : payload.Ordered := Json.ordered_arr.mp hx payload (by simp)
    exact Or.inl ⟨_, _, accepted, again,
      Json.equal_getD_null (Json.equal_field? inside payloads typeName)⟩
  · rcases ofEntry_cases typeName (some y) with ⟨status, payload, form, low, high, accepted⟩ |
      ⟨-, again⟩
    · obtain rfl := Option.some.inj form
      have back := (Json.equal_comm hy hx).trans same
      obtain ⟨_, -, accepts⟩ := accepted_of_equal back low high typeName
      rw [rejected] at accepts
      cases accepts
    · exact Or.inr ⟨rejected, again⟩

/-! ### Equal answers -/

/-- The hook of a mock gives its payload back, or always fails with one text. -/
def Saveable.IsMock (s : Saveable) : Prop :=
  s.hook = .returned ∨ ∃ text, s.hook = fun _ => .failed (.hook text)

/-- Two saves ended in the same way: created with equal payloads, with the same failure of the hook,
or rejected with equal entries that tell the same status. -/
inductive SameResult : SaveResult → SaveResult → Prop where
  | created {a b : Json} (payloads : a.equal b = true) :
      SameResult (.ok (.created a)) (.ok (.created b))
  | hook (text : String) : SameResult (.error (.hook text)) (.error (.hook text))
  | rejected {a b : Option Json} (entries : deepEq a b = true)
      (status : (Failure.rejected a).status? = (Failure.rejected b).status?) :
      SameResult (.error (.rejected a)) (.error (.rejected b))

/-- Two reports on one save: its hook was called with equal payloads, or it ended in the same
way. -/
inductive SameReport : Event → Event → Prop where
  | hooked (save : Save) {p q : Json} (payloads : p.equal q = true) :
      SameReport (.hooked save p) (.hooked save q)
  | settled (save : Save) {first second : SaveResult} (results : SameResult first second) :
      SameReport (.settled save first) (.settled save second)

namespace Ledger

variable {l l' : Ledger} {typeName : String} {save : Save}

theorem sameReports_reportsFor (mock : (l.saveable save.object).IsMock)
    (twin : l'.saveable save.object = l.saveable save.object) {a b : Option Json}
    (ha : ∀ x ∈ a, x.Ordered) (hb : ∀ y ∈ b, y.Ordered) (h : deepEq a b = true) :
    List.Forall₂ SameReport (l.reportsFor typeName save a) (l'.reportsFor typeName save b) := by
  rcases Verdict.ofEntry_of_equal ha hb h typeName with ⟨p, q, first, second, payloads⟩ |
    ⟨first, second⟩
  · have called : SameReport (.hooked save p) (.hooked save q) := .hooked save payloads
    rcases mock with returns | ⟨text, fails⟩
    · simp only [reportsFor, first, second, twin, returns]
      exact .cons called (.cons (.settled save (.created payloads)) .nil)
    · simp only [reportsFor, first, second, twin, fails]
      exact .cons called (.cons (.settled save (.hook text)) .nil)
  · simp only [reportsFor, first, second]
    exact .cons (.settled save (.rejected h (Failure.status?_of_equal h))) .nil

theorem events_redistribute_of_mocks (typeName : String) {responses : List HeldResponse}
    (mocks : ∀ save ∈ responses.flatMap HeldResponse.batch, (l.saveable save.object).IsMock) :
    (l.redistribute typeName responses).1.events =
      l.events ++ (assignEntries responses).flatMap fun pair =>
        l.reportsFor typeName pair.1 pair.2 := by
  rcases l.events_deliverAll typeName (assignEntries responses) with ⟨-, events⟩ |
    ⟨front, save, entry, back, payload, split, -, crashes, -, -⟩
  · exact events
  · have mem : save ∈ responses.flatMap HeldResponse.batch := by
      rw [← map_fst_assignEntries, split]
      simp
    rcases mocks save mem with returns | ⟨text, fails⟩
    · rw [returns] at crashes
      cases crashes
    · rw [fails] at crashes
      cases crashes

/-- Two answers to one batch that are equal by value. -/
structure SameAnswer (first second : HeldResponse) : Prop where
  batch : second.batch = first.batch
  ordered : first.body.Ordered ∧ second.body.Ordered
  equal : first.body.equal second.body = true

theorem sameReports_assignEntries {responses responses' : List HeldResponse}
    (same : List.Forall₂ SameAnswer responses responses')
    (mocks : ∀ save ∈ responses.flatMap HeldResponse.batch,
      (l.saveable save.object).IsMock ∧ l'.saveable save.object = l.saveable save.object) :
    List.Forall₂ SameReport
      ((assignEntries responses).flatMap fun pair => l.reportsFor typeName pair.1 pair.2)
      ((assignEntries responses').flatMap fun pair => l'.reportsFor typeName pair.1 pair.2) := by
  induction same with
  | nil => exact .nil
  | @cons first second rest rest' head _ ih =>
    rw [List.flatMap_cons, List.forall_mem_append] at mocks
    simp only [assignEntries, List.flatMap_cons, List.flatMap_append, List.flatMap_map]
    refine List.rel_append ?_ (ih mocks.2)
    have places : List.Forall₂ (fun p q => p = q ∧ p.1 ∈ first.batch) first.batch.zipIdx
        second.batch.zipIdx := by
      rw [head.batch]
      exact List.forall₂_same.mpr fun place mem => ⟨rfl, List.fst_mem_of_mem_zipIdx mem⟩
    refine List.rel_flatMap places ?_
    rintro place _ ⟨rfl, mem⟩
    obtain ⟨mock, twin⟩ := mocks.1 place.1 mem
    exact sameReports_reportsFor mock twin head.ordered.1.item? head.ordered.2.item?
      (Json.equal_item? head.equal place.2)

theorem flatMap_batch_of_same {responses responses' : List HeldResponse}
    (same : List.Forall₂ SameAnswer responses responses') :
    responses'.flatMap HeldResponse.batch = responses.flatMap HeldResponse.batch := by
  induction same with
  | nil => rfl
  | cons head _ ih => rw [List.flatMap_cons, List.flatMap_cons, head.batch, ih]

/-- A pair that is rejected tells no status of success. -/
theorem status_of_rejected_pair (mock : (l.saveable save.object).IsMock) {entry : Option Json}
    {x y : Json} {n : Nat}
    (said : .settled save (.error (.rejected (some (.arr [x, y])))) ∈
      l.reportsFor typeName save entry)
    (status : (Failure.rejected (some (.arr [x, y]))).status? = some n) :
    ¬(200 ≤ n ∧ n ≤ 299) := by
  rcases Verdict.ofEntry_cases typeName entry with ⟨_, _, _, _, _, accepted⟩ | ⟨refused, rejected⟩
  · rcases mock with returns | ⟨text, fails⟩
    · simp [reportsFor, accepted, returns] at said
    · simp [reportsFor, accepted, fails] at said
  · obtain rfl : some (.arr [x, y]) = entry := by simpa [reportsFor, rejected] using said
    obtain ⟨code, rest, same, value, -⟩ := Failure.status?_eq_some_iff.mp status
    obtain ⟨rfl, -⟩ : x = .num code ∧ [y] = rest := by simpa using same
    rintro ⟨low, high⟩
    refine refused code y rfl ?_
    rw [value]
    exact ⟨by exact_mod_cast low, by exact_mod_cast Nat.lt_succ_of_le high⟩

/-- Two lists of answers to the same batches are equal by value. Then the redistributions of mocks
report the same in the same order, and end every save once and in the same way. A pair that is
rejected tells no status from 200 to 299; and a failure tells a status exactly when it is a
rejection by an array whose first element is a number with the value of an integer from 0 to
65535. -/
theorem redistribute_of_number_forms (typeName : String) {responses responses' : List HeldResponse}
    (same : List.Forall₂ SameAnswer responses responses')
    (mocks : ∀ save ∈ responses.flatMap HeldResponse.batch,
      (l.saveable save.object).IsMock ∧ l'.saveable save.object = l.saveable save.object) :
    (∃ news news', (l.redistribute typeName responses).1.events = l.events ++ news ∧
      (l'.redistribute typeName responses').1.events = l'.events ++ news' ∧
      news.filterMap Event.ended? = responses.flatMap HeldResponse.batch ∧
      List.Forall₂ SameReport news news' ∧
      ∀ save x y n, .settled save (.error (.rejected (some (.arr [x, y])))) ∈ news →
        (Failure.rejected (some (.arr [x, y]))).status? = some n → ¬(200 ≤ n ∧ n ≤ 299)) ∧
    ∀ (failure : Failure) (n : Nat), failure.status? = some n ↔
      ∃ x rest, failure = .rejected (some (.arr (.num x :: rest))) ∧ x.value = n ∧ n ≤ 65535 := by
  have mocks' : ∀ save ∈ responses'.flatMap HeldResponse.batch,
      (l'.saveable save.object).IsMock := by
    rw [flatMap_batch_of_same same]
    intro save mem
    rw [(mocks save mem).2]
    exact (mocks save mem).1
  have events := events_redistribute_of_mocks typeName fun save mem =>
    (mocks save mem).1
  refine ⟨⟨_, _, events, events_redistribute_of_mocks typeName mocks', ?_,
    sameReports_assignEntries same mocks, ?_⟩, fun _ _ => Failure.status?_eq_some_iff⟩
  · have ends := l.ended_redistribute typeName responses
    rw [ended, history, events, List.filterMap_append] at ends
    exact List.append_cancel_left ends
  · intro save x y n said
    obtain ⟨⟨other, entry⟩, mem, said⟩ := List.mem_flatMap.mp said
    obtain rfl : save = other :=
      of_decide_eq_true (l.about_reportsFor typeName other entry _ said)
    have listed : save ∈ responses.flatMap HeldResponse.batch :=
      map_fst_assignEntries responses ▸ List.mem_map_of_mem mem
    exact status_of_rejected_pair (mocks save listed).1 said

/-- The statuses and an id are written as integers in one answer and as floats in the other. One
object is created, the hook of one fails, and one is rejected. -/
theorem redistribute_of_floats :
    let float (n : Int) : Json := .num (.float (Number.floatOfInt n))
    let body (status failure id : Json) : Json :=
      .arr [.arr [status, .obj [("control", .obj [("id", id)])]], .arr [status, .null],
        .arr [failure, .str "stale"]]
    let failing : Record := { saveable := { hook := fun _ => .failed (.hook "no") } }
    let l : Ledger := { records := [default, failing, default] }
    let batch : List Save := [⟨0, 0⟩, ⟨1, 1⟩, ⟨2, 2⟩]
    let responses : List HeldResponse := [⟨batch, body (.int 201) (.int 409) (.int 7)⟩]
    let responses' : List HeldResponse := [⟨batch, body (float 201) (float 409) (float 7)⟩]
    List.Forall₂ SameAnswer responses responses' ∧
      (∀ save ∈ responses.flatMap HeldResponse.batch, (l.saveable save.object).IsMock) ∧
      List.Forall₂ SameReport (l.redistribute "control" responses).1.events
        (l.redistribute "control" responses').1.events ∧
      (l.redistribute "control" responses').1.ended = batch ∧
      (Failure.rejected (some (.arr [float 409, .str "stale"]))).status? = some 409 := by
  intro float body failing l batch responses responses'
  have same : List.Forall₂ SameAnswer responses responses' :=
    .cons ⟨rfl, by decide +kernel, by decide +kernel⟩ .nil
  have mocks : ∀ save ∈ responses.flatMap HeldResponse.batch,
      (l.saveable save.object).IsMock ∧ l.saveable save.object = l.saveable save.object := by
    intro save mem
    obtain rfl | rfl | rfl : save = ⟨0, 0⟩ ∨ save = ⟨1, 1⟩ ∨ save = ⟨2, 2⟩ := by
      simpa [responses, batch] using mem
    · exact ⟨.inl rfl, rfl⟩
    · exact ⟨.inr ⟨"no", rfl⟩, rfl⟩
    · exact ⟨.inl rfl, rfl⟩
  obtain ⟨⟨news, news', events, events', -, reports, -⟩, status⟩ :=
    redistribute_of_number_forms "control" same mocks
  have first : (l.redistribute "control" responses).1.events = news := events
  have second : (l.redistribute "control" responses').1.events = news' := events'
  rw [first, second]
  refine ⟨same, fun save mem => (mocks save mem).1, reports, by decide +kernel, ?_⟩
  refine (status _ 409).mpr ⟨.float (Number.floatOfInt 409), [.str "stale"], rfl, ?_, by decide⟩
  refine (Number.scaled_toFloat_eq_iff (by decide) _).mp ?_
  decide +kernel

end Ledger

end Writeback

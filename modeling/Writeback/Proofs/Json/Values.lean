import Writeback.Merge.Change
import Writeback.Proofs.Json.Equality
import Writeback.Proofs.Number.Rounding

/-!
# Deep equality and the values of numbers

Two integers are compared by value, and so are two floats. An integer and a float are compared after
the integer is rounded, so beyond `2 ^ 53` an integer also equals the float nearest to it, and two
integers that differ may equal one float. Documents are compared number by number: they are equal
when they match in all but their numbers and every two corresponding numbers agree in this sense.

So deep equality is equality by value, or transitive, only among documents whose numbers do not
collide by rounding. Each of the two has its condition on a set of numbers, which is necessary too.
-/

namespace Writeback

namespace Number

/-! ### When two numbers are the same -/

/-- Of an integer and a float: the integer is rounded to a float of the same value. -/
def RoundsTo : Number → Number → Prop
  | int n _, float y => (float (floatOfInt n)).value = (float y).value
  | _, _ => False

/-- The numbers have one value, or one of them is an integer that is rounded to the other. -/
def Agrees (x y : Number) : Prop := x.value = y.value ∨ x.RoundsTo y ∨ y.RoundsTo x

/-- No integer among the numbers is rounded to a float among them of another value. -/
def Exact (S : Number → Prop) : Prop :=
  ∀ x y, S x → S y → x.RoundsTo y → x.value = y.value

/-- No two integers among the numbers that differ are rounded to one float among them. -/
def Apart (S : Number → Prop) : Prop :=
  ∀ x y z, S x → S y → S z → x.RoundsTo z → y.RoundsTo z → x.value = y.value

theorem Exact.apart {S : Number → Prop} (h : Exact S) : Apart S :=
  fun x y z hx hy hz down up => (h x z hx hz down).trans (h y z hy hz up).symm

theorem Agrees.symm {x y : Number} (h : x.Agrees y) : y.Agrees x := by
  rcases h with same | forth | back
  · exact Or.inl same.symm
  · exact Or.inr (Or.inr forth)
  · exact Or.inr (Or.inl back)

theorem value_float_eq_iff {x y : Binary64} :
    (float x).value = (float y).value ↔ x.scaled = y.scaled := by
  rw [value, value, div_left_inj' (by positivity), Int.cast_inj]

section Integers

variable {n m : Int} {hn : -0x8000000000000000 ≤ n ∧ n < 0x10000000000000000}
  {hm : -0x8000000000000000 ≤ m ∧ m < 0x10000000000000000} {x : Binary64}

theorem value_int_eq_float_iff :
    (int n hn).value = (float x).value ↔ n * Binary64.scale = x.scaled := by
  have unit : (2 : ℚ) ^ 1074 ≠ 0 := by positivity
  rw [← mul_left_inj' unit, value_int_mul, value_float_mul, Int.cast_inj]

theorem roundsTo_int_float : (int n hn).RoundsTo (float x) ↔ (floatOfInt n).scaled = x.scaled :=
  value_float_eq_iff

@[simp] theorem not_roundsTo_int (y : Number) : ¬ y.RoundsTo (int n hn) := by
  cases y <;> exact id

@[simp] theorem not_float_roundsTo (y : Number) : ¬ (float x).RoundsTo y := by
  cases y <;> exact id

theorem agrees_int_int : (int n hn).Agrees (int m hm) ↔ n = m := by
  simp [Agrees, value]

theorem agrees_float_float {y : Binary64} : (float x).Agrees (float y) ↔ x.scaled = y.scaled := by
  simp [Agrees, value_float_eq_iff]

/-- An integer that has the value of a float is rounded to it. -/
theorem agrees_int_float : (int n hn).Agrees (float x) ↔ (floatOfInt n).scaled = x.scaled := by
  rw [Agrees, roundsTo_int_float, value_int_eq_float_iff]
  simp only [not_float_roundsTo, or_false, or_iff_right_iff_imp]
  exact scaled_floatOfInt_of_eq hn

theorem agrees_float_int : (float x).Agrees (int n hn) ↔ x.scaled = (floatOfInt n).scaled := by
  rw [eq_comm, ← @agrees_int_float n hn]
  exact ⟨Agrees.symm, Agrees.symm⟩

theorem scaled_floatOfInt_pos (large : 2 ^ 53 ≤ n)
    (range : -0x8000000000000000 ≤ n ∧ n < 0x10000000000000000) : 0 < (floatOfInt n).scaled := by
  have ne : n ≠ 0 := by omega
  have size := (floatOfInt_spec range ne).2.2 (by omega)
  have pos : 0 < 2 ^ 53 * Binary64.scale := by
    rw [Binary64.scale_eq]
    positivity
  rw [scaled_floatOfInt range ne, if_neg (by omega)]
  exact Int.natCast_pos.mpr (pos.trans_le size)

theorem scaled_floatOfInt_nonpos (negative : n < 0)
    (range : -0x8000000000000000 ≤ n ∧ n < 0x10000000000000000) : (floatOfInt n).scaled ≤ 0 := by
  rw [scaled_floatOfInt range negative.ne, if_pos negative]
  omega

/-- Two integers of which neither range holds both have opposite signs, and keep them. -/
theorem scaled_floatOfInt_ne (apart : n < 0 ∧ 2 ^ 53 ≤ m ∨ m < 0 ∧ 2 ^ 53 ≤ n)
    (hn : -0x8000000000000000 ≤ n ∧ n < 0x10000000000000000)
    (hm : -0x8000000000000000 ≤ m ∧ m < 0x10000000000000000) :
    (floatOfInt n).scaled ≠ (floatOfInt m).scaled := by
  rcases apart with ⟨negative, large⟩ | ⟨negative, large⟩
  · have below := scaled_floatOfInt_nonpos negative hn
    have above := scaled_floatOfInt_pos large hm
    exact (below.trans_lt above).ne
  · have below := scaled_floatOfInt_nonpos negative hm
    have above := scaled_floatOfInt_pos large hn
    exact (below.trans_lt above).ne'

theorem sameValue_int_int : (int n hn).sameValue (int m hm) = true ↔ n = m := by
  simp only [sameValue, signed?, unsigned?, toFloat]
  split
  · next x y hx hy =>
    rw [Option.ite_none_right_eq_some] at hx hy
    rw [beq_iff_eq, ← Option.some.inj hx.2, ← Option.some.inj hy.2]
  · next unsigned =>
    split
    · next x y hx hy =>
      rw [Option.ite_none_right_eq_some] at hx hy
      rw [beq_iff_eq, ← Option.some.inj hx.2, ← Option.some.inj hy.2]
    · next signed =>
      have large : 0x8000000000000000 ≤ n ∨ 0x8000000000000000 ≤ m := by
        by_contra small
        rw [not_or, not_le, not_le] at small
        exact unsigned n m (if_pos small.1) (if_pos small.2)
      have negative : n < 0 ∨ m < 0 := by
        by_contra natural
        rw [not_or, not_lt, not_lt] at natural
        exact signed n m (if_pos natural.1) (if_pos natural.2)
      have apart : n < 0 ∧ 2 ^ 53 ≤ m ∨ m < 0 ∧ 2 ^ 53 ≤ n := by omega
      have differ : n ≠ m := by omega
      simpa [differ] using scaled_floatOfInt_ne apart hn hm

end Integers

theorem sameValue_iff (x y : Number) : x.sameValue y = true ↔ x.Agrees y := by
  cases x with
  | int n hn =>
    cases y with
    | int m hm => rw [sameValue_int_int, agrees_int_int]
    | float y => simp [sameValue, signed?, unsigned?, toFloat, agrees_int_float]
  | float x =>
    cases y with
    | int m hm => simp [sameValue, signed?, unsigned?, toFloat, agrees_float_int]
    | float y => simp [sameValue, signed?, unsigned?, toFloat, agrees_float_float]

/-- Numbers that agree with one number agree, unless both are integers that are rounded to it. -/
theorem Agrees.trans {x y z : Number} (first : x.Agrees y) (second : y.Agrees z) :
    x.Agrees z ∨ x.RoundsTo y ∧ z.RoundsTo y := by
  cases x <;> cases y <;> cases z <;>
    simp only [agrees_int_int, agrees_int_float, agrees_float_int, agrees_float_float,
      roundsTo_int_float] at first second ⊢ <;>
    grind

theorem RoundsTo.agrees {x y : Number} (h : x.RoundsTo y) : x.Agrees y := Or.inr (Or.inl h)

/-- Only integers are rounded, and only to floats. -/
theorem RoundsTo.not_roundsTo {x y z : Number} (h : x.RoundsTo z) : ¬ y.RoundsTo x := by
  cases x with
  | int n hn => exact not_roundsTo_int y
  | float x => exact absurd h (not_float_roundsTo z)

theorem distance_mul {n : Int} (hn : -0x8000000000000000 ≤ n ∧ n < 0x10000000000000000)
    (x : Binary64) :
    |(int n hn).value - (float x).value| * 2 ^ 1074 =
      (|n * (Binary64.scale : Int) - x.scaled| : Int) := by
  have unit : (0 : ℚ) < 2 ^ 1074 := by positivity
  rw [← abs_of_pos unit, ← abs_mul, sub_mul, value_int_mul, value_float_mul,
    Int.cast_abs, Int.cast_sub]

/-- A number is rounded to a nearest float, and up to `2 ^ 53` to one of its own value. -/
theorem RoundsTo.nearest {x y : Number} (h : x.RoundsTo y) :
    (∀ z, |x.value - y.value| ≤ |x.value - (float z).value|) ∧
      (|x.value| ≤ 2 ^ 53 → x.value = y.value) := by
  cases x with
  | float x => exact absurd h (not_float_roundsTo y)
  | int n hn =>
    cases y with
    | int m hm => exact absurd h (not_roundsTo_int _)
    | float y =>
      rw [roundsTo_int_float] at h
      refine ⟨fun z => ?_, fun small => ?_⟩
      · have nearest := floatOfInt_nearest hn z
        rw [h] at nearest
        have unit : (0 : ℚ) < 2 ^ 1074 := by positivity
        rw [← mul_le_mul_iff_left₀ unit, distance_mul, distance_mul]
        exact_mod_cast nearest
      · rw [value_int_eq_float_iff, ← h]
        refine (scaled_floatOfInt_of_small hn ?_).symm
        rw [value, abs_le] at small
        have low : -(2 ^ 53) ≤ n := by exact_mod_cast small.1
        have high : n ≤ 2 ^ 53 := by exact_mod_cast small.2
        omega

end Number

namespace Json

/-! ### Documents that match in all but their numbers -/

/-- The documents have the same shape, strings and booleans, and any two corresponding numbers are
related. -/
inductive Matches (R : Number → Number → Prop) : Json → Json → Prop
  | null : Matches R null null
  | bool (b : Bool) : Matches R (bool b) (bool b)
  | num {x y : Number} (related : R x y) : Matches R (num x) (num y)
  | str (s : String) : Matches R (str s) (str s)
  | arr {xs ys : List Json} (length : xs.length = ys.length)
      (items : ∀ (i : Nat) (x y : Json), xs[i]? = some x → ys[i]? = some y → Matches R x y) :
      Matches R (arr xs) (arr ys)
  | obj {xs ys : Fields} (keys : ∀ key, key ∈ Fields.keys xs ↔ key ∈ Fields.keys ys)
      (values : ∀ key x y, Fields.get? xs key = some x → Fields.get? ys key = some y →
        Matches R x y) :
      Matches R (obj xs) (obj ys)

/-- The number occurs in the document. -/
inductive Has (n : Number) : Json → Prop
  | num : Has n (num n)
  | item {items : List Json} {x : Json} (mem : x ∈ items) (inside : Has n x) : Has n (arr items)
  | value {fields : Fields} {key : String} {x : Json} (mem : (key, x) ∈ fields)
      (inside : Has n x) : Has n (obj fields)

section Has

variable {n : Number}

@[simp] theorem has_num {m : Number} : (num m).Has n ↔ n = m := by
  constructor
  · rintro ⟨⟩
    rfl
  · rintro rfl
    exact .num

@[simp] theorem has_arr {items : List Json} : (arr items).Has n ↔ ∃ x ∈ items, x.Has n := by
  constructor
  · rintro (_ | ⟨mem, inside⟩)
    exact ⟨_, mem, inside⟩
  · rintro ⟨x, mem, inside⟩
    exact .item mem inside

@[simp] theorem has_obj {fields : Fields} :
    (obj fields).Has n ↔ ∃ field ∈ fields, field.2.Has n := by
  constructor
  · rintro (_ | _ | ⟨mem, inside⟩)
    exact ⟨_, mem, inside⟩
  · rintro ⟨field, mem, inside⟩
    exact .value mem inside

end Has

/-- An ordered document with numbers of one set. -/
def Over (S : Number → Prop) (x : Json) : Prop := x.Ordered ∧ ∀ n, x.Has n → S n

theorem over_num {S : Number → Prop} {n : Number} (h : S n) : Over S (num n) := by
  refine ⟨trivial, fun m inside => ?_⟩
  rwa [has_num.mp inside]

namespace Matches

variable {R T U : Number → Number → Prop} {a b c : Json}

/-- The relation of the numbers may be replaced by another one that holds of those that occur. -/
theorem imp (h : Matches R a b) (step : ∀ x y, a.Has x → b.Has y → R x y → T x y) :
    Matches T a b := by
  induction h with
  | null => exact .null
  | bool b => exact .bool b
  | num related => exact .num (step _ _ .num .num related)
  | str s => exact .str s
  | arr length _ ih =>
    refine .arr length fun i x y hx hy => ih i x y hx hy fun n m hn hm => ?_
    exact step n m (.item (List.mem_of_getElem? hx) hn) (.item (List.mem_of_getElem? hy) hm)
  | obj keys _ ih =>
    refine .obj keys fun key x y hx hy => ih key x y hx hy fun n m hn hm => ?_
    exact step n m (.value (Fields.mem_of_get? hx) hn) (.value (Fields.mem_of_get? hy) hm)

theorem symm (h : Matches R a b) : Matches (fun x y => R y x) b a := by
  induction h with
  | null => exact .null
  | bool b => exact .bool b
  | num related => exact .num related
  | str s => exact .str s
  | arr length _ ih => exact .arr length.symm fun i x y hx hy => ih i y x hy hx
  | obj keys _ ih => exact .obj (fun key => (keys key).symm) fun key x y hx hy => ih key y x hy hx

theorem trans (first : Matches R a b) (second : Matches T b c)
    (step : ∀ x y z, a.Has x → b.Has y → c.Has z → R x y → T y z → U x z) : Matches U a c := by
  induction first generalizing c with
  | null =>
    cases second
    exact .null
  | bool b =>
    cases second
    exact .bool b
  | num related =>
    cases second with
    | num next => exact .num (step _ _ _ .num .num .num related next)
  | str s =>
    cases second
    exact .str s
  | @arr xs ys length _ ih =>
    cases second with
    | @arr _ zs more items =>
      refine .arr (length.trans more) fun i x z hx hz => ?_
      have inside : i < ys.length := length ▸ (List.getElem?_eq_some_iff.mp hx).1
      have hy := List.getElem?_eq_getElem inside
      refine ih i x _ hx hy (items i _ z hy hz) fun n m k hn hm hk => ?_
      exact step n m k (.item (List.mem_of_getElem? hx) hn) (.item (List.mem_of_getElem? hy) hm)
        (.item (List.mem_of_getElem? hz) hk)
  | @obj xs ys keys _ ih =>
    cases second with
    | @obj _ zs more values =>
      refine .obj (fun key => (keys key).trans (more key)) fun key x z hx hz => ?_
      have present : Fields.get? ys key ≠ none := by
        rw [ne_eq, Fields.get?_eq_none_iff, ← keys, ← Fields.get?_eq_none_iff, hx]
        exact Option.some_ne_none x
      obtain ⟨y, hy⟩ := Option.ne_none_iff_exists'.mp present
      refine ih key x y hx hy (values key y z hy hz) fun n m k hn hm hk => ?_
      exact step n m k (.value (Fields.mem_of_get? hx) hn) (.value (Fields.mem_of_get? hy) hm)
        (.value (Fields.mem_of_get? hz) hk)

end Matches

/-! ### What deep equality decides -/

theorem matches_of_equal {a b : Json} (ha : Ordered a) (hb : Ordered b) (h : a.equal b = true) :
    Matches Number.Agrees a b := by
  induction a using induction generalizing b with
  | null =>
    cases b <;> first | exact .null | cases h
  | bool x =>
    cases b <;> try cases h
    case bool y => exact beq_iff_eq.mp h ▸ .bool x
  | num x =>
    cases b <;> try cases h
    case num y => exact .num ((Number.sameValue_iff x y).mp h)
  | str x =>
    cases b <;> try cases h
    case str y => exact beq_iff_eq.mp h ▸ .str x
  | arr xs ih =>
    cases b <;> try cases h
    case arr ys =>
      rw [ordered_arr] at ha hb
      obtain ⟨length, items⟩ := equalItems_iff.mp h
      refine .arr length fun i x y hx hy => ?_
      have left := List.mem_of_getElem? hx
      exact ih x left (ha x left) (hb y (List.mem_of_getElem? hy)) (items i x y hx hy)
  | obj xs ih =>
    cases b <;> try cases h
    case obj ys =>
      have hx := ordered_obj.mp ha
      have hy := ordered_obj.mp hb
      obtain ⟨keys, values⟩ := (equal_obj_iff hx.1 hy.1).mp h
      refine .obj keys fun key x y found there => ?_
      exact ih (key, x) (Fields.mem_of_get? found) (ha.value x found) (hb.value y there)
        (values key x y found there)

theorem equal_of_matches {a b : Json} (ha : Ordered a) (hb : Ordered b)
    (h : Matches Number.Agrees a b) : a.equal b = true := by
  induction h with
  | null => rfl
  | bool b => exact beq_self_eq_true b
  | num related => exact (Number.sameValue_iff _ _).mpr related
  | str s => exact beq_self_eq_true s
  | arr length _ ih =>
    rw [ordered_arr] at ha hb
    refine equalItems_iff.mpr ⟨length, fun i x y hx hy => ?_⟩
    exact ih i x y hx hy (ha x (List.mem_of_getElem? hx)) (hb y (List.mem_of_getElem? hy))
  | obj keys _ ih =>
    have hx := ordered_obj.mp ha
    have hy := ordered_obj.mp hb
    refine (equal_obj_iff hx.1 hy.1).mpr ⟨keys, fun key x y found there => ?_⟩
    exact ih key x y found there (ha.value x found) (hb.value y there)

theorem equal_iff_matches {a b : Json} (ha : Ordered a) (hb : Ordered b) :
    a.equal b = true ↔ Matches Number.Agrees a b :=
  ⟨matches_of_equal ha hb, equal_of_matches ha hb⟩

/-! ### Documents over a set of numbers -/

section Sets

variable {S : Number → Prop} {a b c : Json}

theorem equal_comm (ha : Ordered a) (hb : Ordered b) : a.equal b = b.equal a := by
  rw [Bool.eq_iff_iff, equal_iff_matches ha hb, equal_iff_matches hb ha]
  have swap {x y : Json} (h : Matches Number.Agrees x y) : Matches Number.Agrees y x :=
    h.symm.imp fun _ _ _ _ agree => agree.symm
  exact ⟨swap, swap⟩

theorem equal_iff_values (exact_set : Number.Exact S) (ha : Over S a) (hb : Over S b) :
    a.equal b = true ↔ Matches (fun x y => x.value = y.value) a b := by
  rw [equal_iff_matches ha.1 hb.1]
  refine ⟨fun h => h.imp fun x y hx hy agree => ?_, fun h => h.imp fun x y _ _ => Or.inl⟩
  rcases agree with same | forth | back
  · exact same
  · exact exact_set x y (ha.2 x hx) (hb.2 y hy) forth
  · exact (exact_set y x (hb.2 y hy) (ha.2 x hx) back).symm

theorem equal_trans (apart : Number.Apart S) (ha : Over S a) (hb : Over S b) (hc : Over S c)
    (first : a.equal b = true) (second : b.equal c = true) : a.equal c = true := by
  rw [equal_iff_matches ha.1 hb.1] at first
  rw [equal_iff_matches hb.1 hc.1] at second
  rw [equal_iff_matches ha.1 hc.1]
  refine first.trans second fun x y z hx hy hz left right => ?_
  rcases left.trans right with agree | ⟨down, up⟩
  · exact agree
  · exact Or.inl (apart x z y (ha.2 x hx) (hc.2 z hz) (hb.2 y hy) down up)

theorem equal_congr_left (apart : Number.Apart S) (ha : Over S a) (hb : Over S b) (hc : Over S c)
    (same : a.equal b = true) : a.equal c = b.equal c := by
  have back : b.equal a = true := equal_comm ha.1 hb.1 ▸ same
  rw [Bool.eq_iff_iff]
  exact ⟨equal_trans apart hb ha hc back, equal_trans apart ha hb hc same⟩

theorem equal_congr_right (apart : Number.Apart S) (ha : Over S a) (hb : Over S b) (hc : Over S c)
    (same : a.equal b = true) : c.equal a = c.equal b := by
  rw [equal_comm hc.1 ha.1, equal_comm hc.1 hb.1, equal_congr_left apart ha hb hc same]

theorem between_congr (apart : Number.Apart S) {d : Json} (ha : Over S a) (hb : Over S b)
    (hc : Over S c) (hd : Over S d) (same : a.equal b = true) :
    Change.between a c d = Change.between b c d ∧ Change.between c a d = Change.between c b d ∧
      Change.between c d a = Change.between c d b := by
  have left {e : Json} (he : Over S e) : deepEq a e = deepEq b e :=
    equal_congr_left apart ha hb he same
  have right {e : Json} (he : Over S e) : deepEq e a = deepEq e b :=
    equal_congr_right apart ha hb he same
  refine ⟨?_, ?_, ?_⟩
  · simp only [Change.between, left hc, left hd]
  · simp only [Change.between, right hc, left hd]
  · simp only [Change.between, right hc, right hd]

theorem equal_num {x y : Number} : (num x).equal (num y) = true ↔ x.Agrees y := by
  rw [equal, Number.sameValue_iff]

/-- Two integers that are rounded to one float count as equal only when they are. -/
theorem value_eq_of_equal {x y z : Number} (hx : x.RoundsTo z) (hy : y.RoundsTo z)
    (h : (num x).equal (num y) = true) : x.value = y.value := by
  rcases equal_num.mp h with same | forth | back
  · exact same
  · exact absurd forth hy.not_roundsTo
  · exact absurd back hx.not_roundsTo

end Sets

/-- Deep equality of documents, in five parts. Documents are equal exactly when they match and their
numbers agree. A number that is rounded to another is rounded to a nearest float, and up to `2 ^ 53`
to its own value. Among the documents with numbers of a set, equality compares the values of the
numbers exactly when no integer of the set is rounded to a float of the set with another value. It
is transitive, and what changed is the same for every equal argument, exactly when no two integers
of the set that differ are rounded to one float of the set. -/
theorem equal_spec (S : Number → Prop) :
    (∀ a b, Ordered a → Ordered b → (a.equal b = true ↔ Matches Number.Agrees a b)) ∧
      (∀ x y : Number, x.RoundsTo y →
        (∀ z, |x.value - y.value| ≤ |x.value - (Number.float z).value|) ∧
          (|x.value| ≤ 2 ^ 53 → x.value = y.value)) ∧
      ((∀ a b, Over S a → Over S b →
        (a.equal b = true ↔ Matches (fun x y => x.value = y.value) a b)) ↔ Number.Exact S) ∧
      ((∀ a b c, Over S a → Over S b → Over S c →
        a.equal b = true → b.equal c = true → a.equal c = true) ↔ Number.Apart S) ∧
      ((∀ a b c d, Over S a → Over S b → Over S c → Over S d → a.equal b = true →
        Change.between a c d = Change.between b c d ∧
          Change.between c a d = Change.between c b d ∧
          Change.between c d a = Change.between c d b) ↔ Number.Apart S) := by
  refine ⟨fun _ _ => equal_iff_matches, fun _ _ => Number.RoundsTo.nearest, ⟨?_, ?_⟩, ⟨?_, ?_⟩,
    ⟨?_, ?_⟩⟩
  · intro values x y hx hy rounded
    have same := (values _ _ (over_num hx) (over_num hy)).mp (equal_num.mpr rounded.agrees)
    cases same with
    | num related => exact related
  · intro exact_set a b
    exact equal_iff_values exact_set
  · intro trans x y z hx hy hz down up
    refine value_eq_of_equal down up ?_
    exact trans _ _ _ (over_num hx) (over_num hz) (over_num hy) (equal_num.mpr down.agrees)
      (equal_num.mpr up.agrees.symm)
  · intro apart a b c
    exact equal_trans apart
  · -- The float in the place of the first integer is no change for the second one.
    intro congr x y z hx hy hz down up
    have replaced := (congr _ _ _ _ (over_num hx) (over_num hz) (over_num hy) (over_num hy)
      (equal_num.mpr down.agrees)).2.1
    have unchanged : (num y).equal (num z) = true := equal_num.mpr up.agrees
    have moved : (num y).equal (num x) = (num y).equal (num z) :=
      Bool.not_inj (congrArg Change.isLocal replaced)
    exact (value_eq_of_equal up down (moved.trans unchanged)).symm
  · intro apart a b c d
    exact between_congr apart

/-- Two lists of ids, in which one id is written as a float in one of them. The other id is beyond
`2 ^ 53`, but it is not rounded to that float. -/
theorem equal_spec_of_ids :
    let small : Number := .int 5 (by decide)
    let written : Number := .float ⟨false, 5629499534213120, 1024, by decide, by decide, by decide⟩
    let large : Number := .int 9007199254740993 (by decide)
    let S (n : Number) : Prop := n = small ∨ n = written ∨ n = large
    let a : Json := obj [("ids", arr [num small, num large])]
    let b : Json := obj [("ids", arr [num written, num large])]
    Over S a ∧ Over S b ∧ Number.Exact S ∧
      Matches (fun x y => x.value = y.value) a b ∧
      Change.between a b b = Change.between b b b := by
  intro small written large S a b
  have overA : Over S a := by
    refine ⟨by decide, ?_⟩
    simp [S, a]
  have overB : Over S b := by
    refine ⟨by decide, ?_⟩
    simp [S, b]
  have exact_set : Number.Exact S := by
    have five : small.value = written.value := Number.value_int_eq_float_iff.mpr (by decide +kernel)
    have far : ¬ large.RoundsTo written := by
      rw [Number.roundsTo_int_float]
      decide +kernel
    rintro x y hx (rfl | rfl | rfl) rounded
    · exact absurd rounded (Number.not_roundsTo_int x)
    · rcases hx with rfl | rfl | rfl
      · exact five
      · rfl
      · exact absurd rounded far
    · exact absurd rounded (Number.not_roundsTo_int x)
  have values := (equal_spec S).2.2.1.mpr exact_set
  have unchanged := (equal_spec S).2.2.2.2.mpr exact_set.apart
  have equal : a.equal b = true := by decide +kernel
  exact ⟨overA, overB, exact_set, (values a b overA overB).mp equal,
    (unchanged a b b b overA overB overB overB equal).1⟩

/-- An integer just above `2 ^ 53` equals the float `2 ^ 53`, and so does the integer `2 ^ 53`,
while the two integers differ. With the one in place of the other, a value counts as changed. -/
theorem equal_rounded_integer :
    let above : Number := .int 9007199254740993 (by decide)
    let below : Number := .int 9007199254740992 (by decide)
    let written : Number := .float ⟨false, 4503599627370496, 1075, by decide, by decide, by decide⟩
    written.value = below.value ∧ above.value ≠ written.value ∧
      (num above).equal (num written) = true ∧
      ¬ Matches (fun x y => x.value = y.value) (num above) (num written) ∧
      (num written).equal (num below) = true ∧ (num above).equal (num below) = false ∧
      Change.between (num below) (num written) (num written) = ⟨false, false⟩ ∧
      Change.between (num below) (num above) (num written) = ⟨false, true⟩ := by
  intro above below written
  have held : below.value = written.value := Number.value_int_eq_float_iff.mpr (by decide +kernel)
  have differ : above.value ≠ written.value := by
    rw [ne_eq, Number.value_int_eq_float_iff]
    decide +kernel
  refine ⟨held.symm, differ, by decide +kernel, ?_, by decide +kernel, by decide +kernel,
    by decide +kernel, by decide +kernel⟩
  rintro (_ | _ | related)
  exact differ related

end Json

end Writeback

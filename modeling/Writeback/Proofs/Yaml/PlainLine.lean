import Mathlib.Data.List.Basic
import Writeback.Yaml.Lexing

/-!
# Plain scalars of one line

A plain scalar goes on through a line until a colon before a gap, a comment after a blank, or the
end of the line. `isPlainLine` tells of a text, and of the character behind it, that the scalar
which begins with the text ends where the text does. Outside flow collections it is then read as one
token, unless it begins a line as a marker of the document.
-/

namespace Writeback.Yaml

/-- Whether a character may stand within a line. -/
def isLineChar (c : Char) : Bool := isAllowed c && !isBreak c && c != '\r' && c != '\x85'

/-- Whether a plain scalar that has begun goes through a text of its line and ends with it, when
`after` stands behind. `blank` tells whether a blank came last. -/
def goesThrough (after : Char) : (blank : Bool) → List Char → Bool
  | blank, [] => !blank
  | blank, c :: rest =>
    if isBlank c then goesThrough after true rest
    else isLineChar c && !(blank && c = '#') && !endsAtColon c (rest ++ [after]) &&
      goesThrough after false rest

/-- Whether a text with `after` behind it is a plain scalar on one line, outside flow
collections. -/
def isPlainLine (after : Char) (text : List Char) : Bool :=
  !text.isEmpty && startsPlain false (text ++ [after]) && goesThrough after false text

/-- Whether a text is empty or begins with something else than a blank or a line break. -/
def startsSolid (cs : List Char) : Bool := cs.head?.all fun c => !isBlank c && !isBreak c

/-! ### What stands behind -/

theorem atGap_append_cons (text : List Char) (after : Char) (rest : List Char) :
    atGap (text ++ after :: rest) = atGap (text ++ [after]) := by
  cases text <;> rfl

theorem startsWithMarker_of_ne {mark c : Char} (ne : c ≠ mark) (rest : List Char) :
    startsWithMarker mark (c :: rest) = false := by
  unfold startsWithMarker
  split
  · simp_all
  · rfl

theorem startsWithMarker_append_cons {mark after : Char} (ne : after ≠ mark)
    (text rest : List Char) :
    startsWithMarker mark (text ++ after :: rest) = startsWithMarker mark (text ++ [after]) := by
  match text with
  | [] => simp only [List.nil_append, startsWithMarker_of_ne ne]
  | [x] => cases rest <;> simp [startsWithMarker, ne]
  | [x, y] => simp [startsWithMarker, ne]
  | x :: y :: z :: text => simp [startsWithMarker, atGap_append_cons]

/-- What begins a plain scalar of one line. Only the next two characters matter to that. -/
theorem exists_cons_of_isPlainLine {after : Char} {text : List Char}
    (plain : isPlainLine after text = true) :
    ∃ c cs, text = c :: cs ∧ ∀ rest, startsPlain false (c :: (cs ++ after :: rest)) = true := by
  simp only [isPlainLine, Bool.and_eq_true] at plain
  cases text with
  | nil => simp at plain
  | cons c cs =>
    refine ⟨c, cs, rfl, fun rest => ?_⟩
    have starts : startsPlain false (c :: (cs ++ [after])) = true := plain.1.2
    rw [startsPlain] at starts ⊢
    rwa [atGap_append_cons]

theorem startsPlain_cases {c : Char} {rest : List Char}
    (starts : startsPlain false (c :: rest) = true) :
    (c = '-' ∨ c = '?' ∨ c = ':') ∧ atGap rest = false ∨
      (isBlank c || isBreak c || isFlowMark c || "#&*!|>'\"%@`-?:".toList.contains c) = false := by
  rw [startsPlain] at starts
  split at starts
  · next dash => exact Or.inl ⟨Or.inl dash, by simpa using starts⟩
  · next dash =>
    split at starts
    · next mark => exact Or.inl ⟨Or.inr (by simpa using mark), by simpa using starts⟩
    · next mark => exact Or.inr (by simp_all)

theorem isLineChar_of_goesThrough {after : Char} {blank : Bool} {text : List Char}
    (through : goesThrough after blank text = true) : ∀ c ∈ text, isLineChar c = true := by
  induction text generalizing blank with
  | nil => simp
  | cons c text ih =>
    rw [List.forall_mem_cons]
    unfold goesThrough at through
    split at through
    · next gap =>
      refine ⟨?_, ih through⟩
      rcases (by simpa [isBlank] using gap : c = ' ' ∨ c = '\t') with rfl | rfl
      · decide
      · decide
    · simp only [Bool.and_eq_true] at through
      exact ⟨through.1.1.1, ih through.2⟩

theorem isLineChar_of_isPlainLine {after : Char} {text : List Char}
    (plain : isPlainLine after text = true) : ∀ c ∈ text, isLineChar c = true := by
  rw [isPlainLine, Bool.and_eq_true] at plain
  exact isLineChar_of_goesThrough plain.2

/-! ### Reading the text -/

/-- Reading a plain scalar through a text of its line, after some blanks. -/
theorem plain?_goesThrough {after : Char} {level line column : Nat} {text blanks : List Char}
    (through : goesThrough after (!blanks.isEmpty) text = true)
    (inside : blanks ≠ [] → 0 < column) (rest : List Char) :
    plain? false level { blanks := blanks } line column (text ++ after :: rest) =
      (plain? false level {} line (column + text.length) (after :: rest)).map fun found =>
        (blanks ++ text ++ found.1, found.2) := by
  induction text generalizing blanks column with
  | nil =>
    obtain rfl : blanks = [] := by simpa [goesThrough] using through
    simp
  | cons c text ih =>
    have width : column + (c :: text).length = column + 1 + text.length := by
      rw [List.length_cons, Nat.add_right_comm, Nat.add_assoc]
    rw [List.cons_append, plain?, width]
    unfold goesThrough at through
    by_cases blank : isBlank c = true
    · rw [if_pos blank] at through ⊢
      have filled : (!(blanks ++ [c]).isEmpty) = true := by simp
      have more := @ih (column + 1) (blanks ++ [c]) (filled ▸ through) (by simp)
      simp [Gap.crossed, Gap.addBlank, more]
    · rw [if_neg blank] at through ⊢
      simp only [Bool.and_eq_true, Bool.not_eq_true'] at through
      obtain ⟨⟨⟨char, uncommented⟩, colon⟩, through⟩ := through
      have more := @ih (column + 1) [] through (by simp)
      simp only [isLineChar, Bool.and_eq_true, Bool.not_eq_true'] at char
      rw [endsAtColon, atGap_append_cons, ← endsAtColon, if_neg (by simp [char.1.1.2]), if_neg,
        if_neg (by simp), if_neg (by simp [colon]), more]
      · simp [Gap.text, Function.comp_def]
      · -- A comment needs a blank before it, and a boundary the beginning of the line.
        cases blanks with
        | nil => simp [Gap.isEmpty, Gap.crossed]
        | cons b blanks =>
          have positive := inside (List.cons_ne_nil b blanks)
          simp only [List.isEmpty_cons, Bool.not_false, Bool.true_and, decide_eq_false_iff_not]
            at uncommented
          simp [Gap.isEmpty, Gap.crossed, atBoundary, uncommented, Nat.ne_of_gt positive]

/-- A plain scalar on one line is read up to what ends it. -/
theorem plain?_of_isPlainLine {after : Char} {text : List Char}
    (plain : isPlainLine after text = true) (level line column : Nat) (rest : List Char) :
    plain? false level {} line column (text ++ after :: rest) =
      (plain? false level {} line (column + text.length) (after :: rest)).map fun found =>
        (text ++ found.1, found.2) := by
  rw [isPlainLine, Bool.and_eq_true] at plain
  exact plain?_goesThrough plain.2 (by simp) rest

/-- A plain scalar ends at a colon before a gap. -/
theorem plain?_colon {rest : List Char} (gap : atGap rest = true) (level line column : Nat) :
    plain? false level {} line column (':' :: rest) =
      some ([], ⟨':' :: rest, line, column⟩, false) := by
  simp [plain?, isBlank, isBreak, Gap.isEmpty, Gap.crossed, endsAtColon, gap]

/-- A plain scalar inside a block collection ends with its line, where the next line begins at the
left margin. -/
theorem plain?_lineFeed {rest : List Char} (solid : startsSolid rest = true)
    (level line column : Nat) :
    plain? false (level + 1) {} line column ('\n' :: rest) =
      some ([], ⟨rest, line + 1, 0⟩, true) := by
  rw [plain?, if_neg (by decide), if_pos (by decide)]
  cases rest with
  | nil => simp [plain?, Gap.addBreak, Gap.crossed]
  | cons c rest =>
    simp only [startsSolid, List.head?_cons, Option.all_some, Bool.and_eq_true,
      Bool.not_eq_true'] at solid
    simp [plain?, solid, Gap.addBreak, Gap.isEmpty, Gap.crossed]

/-! ### Reading the token -/

namespace Lexing

/-- Nothing is passed over where a plain scalar begins. -/
theorem atToken_of_startsPlain {s : Lexing} {c : Char} {rest : List Char}
    (text : s.cursor.rest = c :: rest) (starts : startsPlain false (c :: rest) = true)
    (unmarked : s.cursor.column = 0 → c ≠ '\ufeff') : s.atToken = s := by
  have solid : isBreak c = false ∧ c ≠ '#' ∧ c ≠ ' ' ∧ c ≠ '\t' := by
    rcases startsPlain_cases starts with ⟨rfl | rfl | rfl, -⟩ | other
    · decide
    · decide
    · decide
    · simp only [isBlank, Bool.or_eq_false_iff, decide_eq_false_iff_not] at other
      obtain ⟨⟨⟨⟨space, tab⟩, broken⟩, -⟩, mark⟩ := other
      refine ⟨broken, ?_, space, tab⟩
      rintro rfl
      cases mark
  have mark : ¬ (c = '\ufeff' && s.cursor.column = 0) = true := by
    simpa using fun same margin => unmarked margin same
  rw [atToken, text, Cursor.gap]
  simp [solid, mark, ← text]

/-- No other token begins where a plain scalar does. -/
theorem token?_of_startsPlain {s : Lexing} {c : Char} {rest : List Char} (block : s.outer = [])
    (starts : startsPlain false (c :: rest) = true)
    (unmarked : s.cursor.column = 0 → startsWithMarker '-' (c :: rest) = false ∧
      startsWithMarker '.' (c :: rest) = false) :
    s.token? c rest = s.plain? := by
  have outside : s.inFlow = false := by simp [inFlow, block]
  have content : (s.cursor.column = 0 && startsWithMarker '-' (c :: rest)) = false ∧
      (s.cursor.column = 0 && startsWithMarker '.' (c :: rest)) = false := by
    by_cases margin : s.cursor.column = 0
    · simp [margin, unmarked margin]
    · simp [margin]
  unfold token?
  rw [content.1, content.2]
  rcases startsPlain_cases starts with ⟨rfl | rfl | rfl, gap⟩ | other
  · simp [gap, outside, starts]
  · simp [gap, outside, starts]
  · simp [gap, outside, starts]
  · simp only [isFlowMark, String.reduceToList, List.contains_eq_mem, List.mem_cons,
      List.not_mem_nil, or_false, Bool.decide_or, Bool.or_eq_false_iff,
      decide_eq_false_iff_not] at other
    simp [other, outside, starts]

/-- Reading a plain scalar as a token. -/
theorem token?_of_plain {s s' : Lexing} {c : Char} {rest text : List Char} {next : Cursor}
    {crossed : Bool} (block : s.outer = []) (starts : startsPlain false (c :: rest) = true)
    (unmarked : s.cursor.column = 0 → startsWithMarker '-' (c :: rest) = false ∧
      startsWithMarker '.' (c :: rest) = false)
    (key : s.rememberKey? = some s') (read : Yaml.plain? s'.inFlow s'.level {} s'.cursor.line
      s'.cursor.column s'.cursor.rest = some (text, next, crossed)) :
    s.token? c rest =
      some ((s'.allowing crossed).add (.scalar .plain (String.ofList text)) next) := by
  rw [token?_of_startsPlain block starts unmarked]
  simp [Lexing.plain?, key, read]

end Lexing

end Writeback.Yaml

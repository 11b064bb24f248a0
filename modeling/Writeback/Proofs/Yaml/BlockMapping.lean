import Writeback.Proofs.Yaml.PlainLine
import Writeback.Yaml.Document

/-!
# Block mappings of one line for each entry

A block mapping at the left margin, each entry of which is a plain key, a colon, a blank and a plain
value on a line of its own, is read as the mapping of its keys to its values: first as its tokens,
three for each line of which one is marked as the key when its colon comes, and then as a node.
-/

namespace Writeback.Yaml

/-- Whether a text is a plain scalar that can stand at the left margin, before the colon of a
key. -/
def isPlainKey (text : List Char) : Bool :=
  isPlainLine ':' text && !startsWithMarker '-' (text ++ [':']) &&
    !startsWithMarker '.' (text ++ [':']) && text.head? != some '\ufeff' && text.length ≤ 1024

theorem isPlainLine_of_isPlainKey {text : List Char} (key : isPlainKey text = true) :
    isPlainLine ':' text = true := by
  simp only [isPlainKey, Bool.and_eq_true] at key
  exact key.1.1.1.1

theorem length_le_of_isPlainKey {text : List Char} (key : isPlainKey text = true) :
    text.length ≤ 1024 := by
  simp only [isPlainKey, Bool.and_eq_true, decide_eq_true_eq] at key
  exact key.2

namespace Lexing

theorem endBlocks_of_margin {s : Lexing} (margin : s.columns = [] ∨ s.columns = [0])
    (column : Nat) : s.endBlocks (column + 1) = s := by
  have kept : s.columns.dropWhile (fun c => column + 1 ≤ c) = s.columns := by
    rcases margin with none | one
    · rw [none, List.dropWhile_nil]
    · rw [one, List.dropWhile_cons_of_neg (by simp)]
  simp only [endBlocks, kept, Nat.sub_self, List.replicate_zero, List.nil_append, ite_self]

/-- Reading one token where no block collection stands further right than the margin. -/
theorem tokens?_of_token {s s' next : Lexing} {c : Char} {rest : List Char}
    (there : s.atToken.forgetPast? = some s') (text : s'.cursor.rest = c :: rest)
    (margin : s'.columns = [] ∨ s'.columns = [0]) (read : s'.token? c rest = some next)
    (left : Nat) : tokens? (left + 1) s = tokens? left next := by
  simp [tokens?, there, text, endBlocks_of_margin margin, read]

/-- The state at the left margin of a block mapping, before an entry. -/
def atLine (columns : List Nat) (line : Nat) (rest : List Char) (tokens : List Token) : Lexing :=
  { cursor := { rest := rest, line := line }, columns := columns, tokens := tokens }

/-- The state after the key of an entry, where its colon comes. -/
def atColon (columns : List Nat) (line : Nat) (name rest : List Char) (tokens : List Token) :
    Lexing :=
  { cursor := ⟨':' :: rest, line, name.length⟩
    columns := columns
    keyStart := some ⟨line, 0, tokens.length, columns.head? = some 0⟩
    keyAllowed := false
    tokens := .scalar .plain (String.ofList name) :: tokens }

/-- The state after the colon of an entry. -/
def afterColon (line column : Nat) (rest : List Char) (tokens : List Token) : Lexing :=
  { cursor := ⟨rest, line, column⟩, columns := [0], keyAllowed := false, tokens := tokens }

/-- What the first entry of a mapping adds to the tokens. -/
def opening (columns : List Nat) : List Token := if columns.isEmpty then [.blockMapping] else []

section Entry

variable {columns : List Nat} (margin : columns = [] ∨ columns = [0]) {name rest : List Char}
  (gap : atGap rest = true) (left line : Nat) (tokens : List Token)

include margin gap

theorem tokens?_name (key : isPlainKey name = true) :
    tokens? (left + 1) (atLine columns line (name ++ ':' :: rest) tokens) =
      tokens? left (atColon columns line name rest tokens) := by
  simp only [isPlainKey, Bool.and_eq_true, Bool.not_eq_true', bne_iff_ne] at key
  obtain ⟨⟨⟨⟨plain, dashes⟩, dots⟩, mark⟩, -⟩ := key
  obtain ⟨c, cs, rfl, starts⟩ := exists_cons_of_isPlainLine plain
  set s := atLine columns line (c :: cs ++ ':' :: rest) tokens
  have current : s.atToken.forgetPast? = some s := by
    rw [atToken_of_startsPlain rfl (starts rest) fun _ => by simpa using mark]
    rfl
  have read := plain?_of_isPlainLine plain s.level line 0 rest
  rw [plain?_colon gap] at read
  have remembered : s.rememberKey? = some { s with
      keyStart := some ⟨line, 0, tokens.length, columns.head? = some 0⟩ } := rfl
  have content : startsWithMarker '-' (c :: cs ++ ':' :: rest) = false ∧
      startsWithMarker '.' (c :: cs ++ ':' :: rest) = false := by
    rw [startsWithMarker_append_cons (by decide), dashes, startsWithMarker_append_cons (by decide),
      dots]
    exact ⟨rfl, rfl⟩
  rw [tokens?_of_token current rfl margin
    (token?_of_plain rfl (starts rest) (fun _ => content) remembered read)]
  simp [allowing, add, s, atLine, atColon]

theorem tokens?_colon (short : name.length ≤ 1024) :
    tokens? (left + 1) (atColon columns line name rest tokens) =
      tokens? left (afterColon line (name.length + 1) rest
        (.value :: .scalar .plain (String.ofList name) :: .key ::
          (opening columns ++ tokens))) := by
  set s := atColon columns line name rest tokens with hs
  have there : s.atToken = s := by simp [atToken, Cursor.gap, isBreak, hs, atColon]
  have current : s.atToken.forgetPast? = some s := by
    rw [there]
    simp [forgetPast?, current?, isPast, hs, atColon, Nat.not_lt_of_le short]
  have marked : s.token? ':' rest = s.value? := by
    simp [token?, startsWithMarker_of_ne, inFlow, gap, hs, atColon]
  have read : s.value? = some (afterColon line (name.length + 1) rest
      (.value :: .scalar .plain (String.ofList name) :: .key :: (opening columns ++ tokens))) := by
    rcases margin with rfl | rfl <;>
      simp [value?, markKey, inFlow, level, allowing, addMark, add, Cursor.advance, opening, hs,
        atColon, afterColon]
  exact tokens?_of_token current rfl margin (marked.trans read) left

end Entry

theorem atToken_afterColon_blank (line column : Nat) (rest : List Char) (tokens : List Token) :
    (afterColon line column (' ' :: rest) tokens).atToken =
      (afterColon line (column + 1) rest tokens).atToken := by
  have passed : Cursor.gap false false false line column (' ' :: rest) =
      Cursor.gap false false false line (column + 1) rest := by
    rw [Cursor.gap, if_neg (by decide), if_neg (by decide), if_pos (by simp)]
  simp [atToken, afterColon, inFlow, passed]

/-- The value of an entry is read with its line, before one that begins at the margin. -/
theorem tokens?_value {value rest : List Char} (plain : isPlainLine '\n' value = true)
    (solid : startsSolid rest = true) (left line column : Nat) (tokens : List Token) :
    tokens? (left + 1) (afterColon line column (' ' :: (value ++ '\n' :: rest)) tokens) =
      tokens? left
        (atLine [0] (line + 1) rest (.scalar .plain (String.ofList value) :: tokens)) := by
  obtain ⟨c, cs, rfl, starts⟩ := exists_cons_of_isPlainLine plain
  set s := afterColon line (column + 1) (c :: cs ++ '\n' :: rest) tokens with hs
  have there : s.atToken = s :=
    atToken_of_startsPlain rfl (starts rest) fun margin => by cases margin
  have current :
      (afterColon line column (' ' :: (c :: cs ++ '\n' :: rest)) tokens).atToken.forgetPast? =
        some s := by
    rw [atToken_afterColon_blank, there]
    rfl
  have read := plain?_of_isPlainLine plain s.level line (column + 1) rest
  rw [show s.level = 0 + 1 from rfl, plain?_lineFeed solid] at read
  have remembered : s.rememberKey? = some s := rfl
  rw [tokens?_of_token current rfl (Or.inr rfl)
    (token?_of_plain rfl (starts rest) (fun margin => by cases margin) remembered read)]
  simp [allowing, add, s, atLine, afterColon]

end Lexing

/-- The lines of a block mapping, each with a key and its value. -/
def entryLines (entries : List (String × String)) : List Char :=
  entries.flatMap fun entry => entry.1.toList ++ ':' :: ' ' :: (entry.2.toList ++ ['\n'])

def entryTokens (entry : String × String) : List Token :=
  [.key, .scalar .plain entry.1, .value, .scalar .plain entry.2]

/-- Whether an entry can be written on a line, as two plain scalars. -/
def IsPlainEntry (entry : String × String) : Prop :=
  isPlainKey entry.1.toList = true ∧ isPlainLine '\n' entry.2.toList = true

theorem entryLines_cons (entry : String × String) (rest : List (String × String)) :
    entryLines (entry :: rest) =
      entry.1.toList ++ ':' :: ' ' :: (entry.2.toList ++ '\n' :: entryLines rest) := by
  simp [entryLines]

theorem startsSolid_entryLines {entries : List (String × String)}
    (plain : ∀ entry ∈ entries, IsPlainEntry entry) : startsSolid (entryLines entries) = true := by
  cases entries with
  | nil => rfl
  | cons entry rest =>
    obtain ⟨key, -⟩ := plain entry List.mem_cons_self
    obtain ⟨c, cs, split, starts⟩ := exists_cons_of_isPlainLine (isPlainLine_of_isPlainKey key)
    rw [entryLines_cons, split, List.cons_append, startsSolid, List.head?_cons, Option.all_some]
    rcases startsPlain_cases (starts []) with ⟨rfl | rfl | rfl, -⟩ | other
    · decide
    · decide
    · decide
    · simp only [Bool.or_eq_false_iff] at other
      simp [other]

namespace Lexing

/-- An entry is read as its key and its value, and the first one opens the mapping. -/
theorem tokens?_entry {columns : List Nat} (margin : columns = [] ∨ columns = [0])
    {entry : String × String} (plain : IsPlainEntry entry) {rest : List Char}
    (solid : startsSolid rest = true) (left line : Nat) (tokens : List Token) :
    tokens? (left + 3) (atLine columns line
        (entry.1.toList ++ ':' :: ' ' :: (entry.2.toList ++ '\n' :: rest)) tokens) =
      tokens? left (atLine [0] (line + 1) rest
        ((entryTokens entry).reverse ++ (opening columns ++ tokens))) := by
  obtain ⟨key, value⟩ := plain
  rw [tokens?_name margin rfl (left + 2) line tokens key,
    tokens?_colon margin rfl (left + 1) line tokens (length_le_of_isPlainKey key),
    tokens?_value value solid left]
  simp [entryTokens]

/-- The tokens of the entries that are left, up to the end of the mapping. -/
theorem tokens?_entries {entries : List (String × String)}
    (plain : ∀ entry ∈ entries, IsPlainEntry entry) (left line : Nat) (tokens : List Token) :
    tokens? (left + 1 + 3 * entries.length) (atLine [0] line (entryLines entries) tokens) =
      some (tokens.reverse ++ (entries.flatMap entryTokens ++ [.blockEnd])) := by
  induction entries generalizing line tokens with
  | nil =>
    simp [tokens?, atToken, atLine, entryLines, Cursor.gap, forgetPast?, current?, endBlocks,
      inFlow, forgetKey?]
  | cons entry rest ih =>
    obtain ⟨first, others⟩ := List.forall_mem_cons.mp plain
    rw [entryLines_cons, List.length_cons, Nat.mul_succ, ← Nat.add_assoc,
      tokens?_entry (Or.inr rfl) first (startsSolid_entryLines others), ih others]
    simp [opening, entryTokens]

end Lexing

theorem unifyBreaks_of_unified {cs : List Char} (unified : ∀ c ∈ cs, c ≠ '\r' ∧ c ≠ '\x85') :
    unifyBreaks cs = cs := by
  induction cs with
  | nil => rfl
  | cons c cs ih =>
    obtain ⟨⟨carriage, next⟩, others⟩ := List.forall_mem_cons.mp unified
    rw [unifyBreaks, ih others]
    · simp [carriage, next]
    · rintro rest rfl
      exact absurd rfl carriage

/-- The lines of entries have no character that is refused, and none that is another line break. -/
theorem mem_entryLines {entries : List (String × String)}
    (plain : ∀ entry ∈ entries, IsPlainEntry entry) {c : Char} (mem : c ∈ entryLines entries) :
    isAllowed c = true ∧ c ≠ '\r' ∧ c ≠ '\x85' := by
  have ofLine {after : Char} {text : List Char} (line : isPlainLine after text = true)
      (mem : c ∈ text) : isAllowed c = true ∧ c ≠ '\r' ∧ c ≠ '\x85' := by
    have char := isLineChar_of_isPlainLine line c mem
    simp only [isLineChar, Bool.and_eq_true, bne_iff_ne] at char
    exact ⟨char.1.1.1, char.1.2, char.2⟩
  obtain ⟨entry, inside, mem⟩ := List.mem_flatMap.mp mem
  obtain ⟨key, value⟩ := plain entry inside
  simp only [List.mem_append, List.mem_cons, List.not_mem_nil, or_false] at mem
  rcases mem with mem | rfl | rfl | mem | rfl
  · exact ofLine (isPlainLine_of_isPlainKey key) mem
  · decide
  · decide
  · exact ofLine value mem
  · decide

theorem length_entryLines (entries : List (String × String)) :
    3 * entries.length ≤ (entryLines entries).length := by
  induction entries with
  | nil => simp
  | cons entry rest ih =>
    rw [entryLines_cons]
    simp only [List.length_append, List.length_cons]
    omega

/-- A block mapping is read as the mark of its beginning, the tokens of its entries, and the mark of
its end. -/
theorem tokens?_entryLines {entries : List (String × String)} (filled : entries ≠ [])
    (plain : ∀ entry ∈ entries, IsPlainEntry entry) {text : String}
    (lines : text.toList = entryLines entries) :
    tokens? text = some (.blockMapping :: (entries.flatMap entryTokens ++ [.blockEnd])) := by
  have allowed : (entryLines entries).all isAllowed = true :=
    List.all_eq_true.mpr fun c mem => (mem_entryLines plain mem).1
  have unified : unifyBreaks (entryLines entries) = entryLines entries :=
    unifyBreaks_of_unified fun c mem => (mem_entryLines plain mem).2
  rw [tokens?, lines, if_pos allowed, unified]
  obtain ⟨entry, rest, rfl⟩ := List.exists_cons_of_ne_nil filled
  obtain ⟨first, others⟩ := List.forall_mem_cons.mp plain
  obtain ⟨left, enough⟩ := Nat.exists_eq_add_of_le (length_entryLines (entry :: rest))
  have bound : (entryLines (entry :: rest)).length + 1 = left + 1 + 3 * rest.length + 3 := by
    rw [enough, List.length_cons]
    omega
  have start : ({ cursor := { rest := entryLines (entry :: rest) } } : Lexing) =
      Lexing.atLine [] 0 (entryLines (entry :: rest)) [] := rfl
  dsimp only
  rw [bound, start, entryLines_cons, Lexing.tokens?_entry (Or.inl rfl) first
    (startsSolid_entryLines others), Lexing.tokens?_entries others]
  simp [Lexing.opening, entryTokens]

/-- A document without lines has no tokens. -/
theorem tokens?_of_empty {text : String} (empty : text.toList = []) : tokens? text = some [] := by
  simp [tokens?, empty, unifyBreaks, Lexing.tokens?, Lexing.atToken, Cursor.gap,
    Lexing.forgetPast?, Lexing.current?, Lexing.endBlocks, Lexing.inFlow, Lexing.forgetKey?]

/-! ### The document -/

@[simp] theorem Reading.moved_tokens (r : Reading) (tokens : List Token) :
    (r.moved tokens).tokens = tokens := rfl

@[simp] theorem Reading.moved_moved (r : Reading) (tokens others : List Token) :
    (r.moved tokens).moved others = r.moved others := rfl

def plainNode (text : String) : Node := .scalar { style := .plain, text := text }

theorem node?_plain {fuel : Nat} {r : Reading} {text : String} {rest : List Token}
    (tokens : r.tokens = .scalar .plain text :: rest) (block indentless : Bool) :
    node? (fuel + 1) block indentless r = some (plainNode text, r.moved rest) := by
  simp [node?, tokens, Reading.properties?, Reading.scalar, Reading.bind, plainNode]

theorem node?_blockMapping (fuel : Nat) {r : Reading} {rest : List Token}
    (tokens : r.tokens = .blockMapping :: rest) (indentless : Bool) :
    node? (fuel + 1) true indentless r =
      (blockEntries? fuel (r.moved rest)).map fun found => (.mapping found.1, found.2) := by
  cases read : blockEntries? fuel (r.moved rest) <;>
    simp [node?, tokens, Reading.properties?, Reading.bind, read]

theorem blockPart?_plain (fuel : Nat) {r : Reading} {text : String} {rest : List Token}
    (tokens : r.tokens = .scalar .plain text :: rest) :
    blockPart? (fuel + 2) r = some (plainNode text, r.moved rest) := by
  rw [blockPart?, node?_plain tokens]
  simp [endsAt, tokens, Token.endsBlockNode]

/-- The tokens of entries are read as their keys with their values. -/
theorem blockEntries?_entries {entries : List (String × String)} {fuel : Nat} {r : Reading}
    {rest : List Token}
    (tokens : r.tokens = entries.flatMap entryTokens ++ .blockEnd :: rest)
    (enough : entries.length + 3 ≤ fuel) :
    blockEntries? fuel r =
      some (entries.map fun entry => (plainNode entry.1, plainNode entry.2), r.moved rest) := by
  induction entries generalizing fuel r with
  | nil =>
    obtain ⟨fuel, rfl⟩ := Nat.exists_eq_add_of_le' enough
    simp [blockEntries?, tokens]
  | cons entry entries ih =>
    obtain ⟨fuel, rfl⟩ := Nat.exists_eq_add_of_le' enough
    set more := entries.flatMap entryTokens ++ .blockEnd :: rest
    have first : r.tokens = .key :: .scalar .plain entry.1 :: .value ::
        .scalar .plain entry.2 :: more := by
      rw [tokens]
      simp [entryTokens, more]
    have key := blockPart?_plain (fuel + entries.length + 1)
      (r := r.moved (.scalar .plain entry.1 :: .value :: .scalar .plain entry.2 :: more)) rfl
    have value := blockPart?_plain (fuel + entries.length + 1)
      (r := r.moved (.scalar .plain entry.2 :: more)) rfl
    have others := @ih (fuel + entries.length + 3) (r.moved more) rfl (by omega)
    have width : fuel + ((entry :: entries).length + 3) = fuel + entries.length + 3 + 1 := by
      rw [List.length_cons]
      omega
    rw [width, blockEntries?, first]
    simp [key, value, others]

theorem root?_entries (entries : List (String × String)) :
    root? (.blockMapping :: (entries.flatMap entryTokens ++ [.blockEnd])) =
      some (.mapping (entries.map fun entry => (plainNode entry.1, plainNode entry.2)),
        { tokens := [], handles := defaultHandles }) := by
  set tokens := entries.flatMap entryTokens ++ [Token.blockEnd] with ht
  have enough : entries.length + 3 ≤ 4 * (tokens.length + 1) + 3 := by
    have four : (entries.flatMap entryTokens).length = entries.length * 4 := by
      simp [List.length_flatMap, entryTokens]
    rw [ht, List.length_append, four]
    omega
  set r : Reading := { tokens := .blockMapping :: tokens, handles := defaultHandles }
  have opened : root? (.blockMapping :: tokens) =
      node? (4 * (tokens.length + 1) + 3 + 1) true false r := by
    simp [root?, endsAt, Token.startsDocument, directives?, r]
  have read := blockEntries?_entries (r := r.moved tokens) ht enough
  rw [opened, node?_blockMapping _ rfl, read]
  rfl

/-- A text of plain entries, one on each line, is a document that maps the keys to the values. -/
theorem document?_entryLines {entries : List (String × String)} (filled : entries ≠ [])
    (plain : ∀ entry ∈ entries, IsPlainEntry entry) {text : String}
    (lines : text.toList = entryLines entries) :
    document? text = some (some {
      root := .mapping (entries.map fun entry => (plainNode entry.1, plainNode entry.2))
      named := [] }) := by
  rw [document?, tokens?_entryLines filled plain lines, Option.bind_eq_bind, Option.bind_some,
    if_neg (by simp), root?_entries]
  rfl

end Writeback.Yaml

import Raid.Proofs.Toml.Quoting
import Raid.Toml.Reader

/-!
Printed keys, values and lines are read back as they were. A printed text takes the reader from one
table under construction to another, and so do two such texts one after the other.
-/

namespace Raid.Toml

/-! Keys. -/

def KeyEnds (rest : List Char) : Prop := ∀ c, rest.head? = some c → isBareKeyChar c = false

theorem keyText_bare {key : String} (bare : isBareKey key.toList = true) : keyText key = key := by
  simp [keyText, bare]

/-- What a key begins with begins nothing else: no blank, no comment, no line break. -/
theorem keyText_head (key : String) :
    ∃ c tail, (keyText key).toList = c :: tail ∧
      (isBareKeyChar c = true ∨ c = '"' ∨ c = '\'') := by
  by_cases bare : isBareKey key.toList = true
  · rw [keyText_bare bare]
    simp only [isBareKey, Bool.and_eq_true, Bool.not_eq_true', List.isEmpty_eq_false_iff] at bare
    obtain ⟨filled, each⟩ := bare
    obtain ⟨c, tail, same⟩ := List.exists_cons_of_ne_nil filled
    refine ⟨c, tail, same, .inl ?_⟩
    rw [same] at each
    exact List.all_eq_true.mp each c List.mem_cons_self
  · simp only [keyText, if_neg bare]
    split
    · exact ⟨'\'', _, by rw [String.toList_ofList]; rfl, .inr (.inr rfl)⟩
    · exact ⟨'"', _, by rw [String.toList_ofList]; rfl, .inr (.inl rfl)⟩

theorem simpleKey_keyText (key : String) {rest : List Char} (ends : KeyEnds rest) :
    simpleKey ((keyText key).toList ++ rest) = some (key, rest) := by
  by_cases bare : isBareKey key.toList = true
  · rw [keyText_bare bare]
    simp only [isBareKey, Bool.and_eq_true, Bool.not_eq_true', List.isEmpty_eq_false_iff] at bare
    obtain ⟨filled, each⟩ := bare
    have each : ∀ c ∈ key.toList, isBareKeyChar c = true := List.all_eq_true.mp each
    have stops : rest.takeWhile isBareKeyChar = [] ∧ rest.dropWhile isBareKeyChar = rest := by
      cases rest with
      | nil => simp
      | cons c rest => simp [ends c rfl]
    have front : (key.toList ++ rest).takeWhile isBareKeyChar = key.toList := by
      rw [List.takeWhile_append_of_pos each, stops.1, List.append_nil]
    have back : (key.toList ++ rest).dropWhile isBareKeyChar = rest := by
      rw [List.dropWhile_append_of_pos each, stops.2]
    obtain ⟨c, tail, same⟩ := List.exists_cons_of_ne_nil filled
    have letter : isBareKeyChar c = true := each c (by rw [same]; exact List.mem_cons_self)
    unfold simpleKey
    split
    · rename_i quoted
      rw [same] at quoted
      cases quoted
      cases letter
    · rename_i quoted
      rw [same] at quoted
      cases quoted
      cases letter
    · simp [front, back, filled]
  · simp only [keyText, if_neg bare]
    split
    · rename_i literal
      simp only [Bool.and_eq_true, Bool.not_eq_true', decide_eq_true_eq] at literal
      have plain := plain_of_contents literal.1.2.1 literal.2 literal.1.2.2
      simpa [between, simpleKey] using lineText_literal plain [] rest
    · simpa [between, simpleKey] using lineText_escapedText key.toList [] rest

theorem dropWhile_keyText (key : String) (rest : List Char) :
    ((keyText key).toList ++ rest).dropWhile isBlank = (keyText key).toList ++ rest := by
  obtain ⟨c, tail, same, first⟩ := keyText_head key
  have filled : isBlank c = false := by
    rcases first with bare | rfl | rfl
    · rw [Bool.eq_false_iff]
      intro blank
      simp only [isBlank, Bool.or_eq_true, decide_eq_true_eq] at blank
      rcases blank with rfl | rfl <;> cases bare
    · rfl
    · rfl
  rw [same, List.cons_append, List.dropWhile_cons_of_neg (by simp [filled])]

theorem keys_one (fuel : Nat) (key : String) {rest after : List Char} (ends : KeyEnds rest)
    (next : rest.dropWhile isBlank = after) (last : after.head? ≠ some '.') :
    keys (fuel + 1) ((keyText key).toList ++ rest) = some ([key], after) := by
  rw [keys, dropWhile_keyText, simpleKey_keyText key ends]
  simp only [Option.bind_eq_bind, Option.bind_some, next]
  split
  · exact absurd rfl last
  · rfl

def pathText (path : List String) : List Char := (".".intercalate (path.map keyText)).toList

theorem pathText_one (key : String) : pathText [key] = (keyText key).toList := by
  simp [pathText]

theorem pathText_cons (key next : String) (more : List String) :
    pathText (key :: next :: more) = (keyText key).toList ++ '.' :: pathText (next :: more) := by
  simp [pathText]

theorem keys_pathText (key : String) (more : List String) {fuel : Nat} (enough : more.length < fuel)
    (rest : List Char) :
    keys fuel (pathText (key :: more) ++ ']' :: rest) = some (key :: more, ']' :: rest) := by
  have closes : KeyEnds (']' :: rest) := by
    rintro c ⟨⟩
    rfl
  induction more generalizing key fuel with
  | nil =>
    obtain ⟨fuel, rfl⟩ := Nat.exists_eq_succ_of_ne_zero (Nat.ne_of_gt enough)
    rw [pathText_one]
    exact keys_one fuel key closes rfl (by simp)
  | cons next more ih =>
    obtain ⟨fuel, rfl⟩ := Nat.exists_eq_succ_of_ne_zero (Nat.ne_of_gt (Nat.zero_lt_of_lt enough))
    have dot : KeyEnds ('.' :: (pathText (next :: more) ++ ']' :: rest)) := by
      rintro c ⟨⟩
      rfl
    have others := @ih next fuel (by simp only [List.length_cons] at enough; omega)
    rw [pathText_cons, List.append_assoc, List.cons_append, keys, dropWhile_keyText,
      simpleKey_keyText key dot]
    simp [isBlank, others]

/-! Values. -/

inductive Plain where
  | text (value : String)
  | flag (value : Bool)
  | texts (items : List String)

namespace Plain

def written : Plain → String
  | text value => textValue value
  | flag value => flagValue value
  | texts items => listValue items

def item : Plain → Toml
  | text value => .text value
  | flag value => .flag value
  | texts items => .list false (items.map .text)

end Plain

theorem value_textValue (fuel depth : Nat) (text : String) (rest : List Char)
    (ends : TextEnds rest) :
    value (fuel + 1) depth ((textValue text).toList ++ rest) = some (.text text, rest) := by
  simp [value, quoted?_textValue text ends]

theorem value_flagValue (fuel depth : Nat) (flag : Bool) (rest : List Char) :
    value (fuel + 1) depth ((flagValue flag).toList ++ '\n' :: rest) =
      some (.flag flag, '\n' :: rest) := by
  cases flag <;>
    simp [flagValue, value, quoted?, bareValue, isBareValueChar, isBlank]

theorem textValue_head (text : String) :
    ∃ c tail, (textValue text).toList = c :: tail ∧ (c = '"' ∨ c = '\'') := by
  simp only [textValue, String.toList_ofList]
  split
  · exact ⟨_, _, rfl, .inl rfl⟩
  · exact ⟨_, _, rfl, .inr rfl⟩
  · exact ⟨_, _, rfl, .inl rfl⟩
  · exact ⟨_, _, rfl, .inr rfl⟩

theorem skipLines_textValue (text : String) (rest : List Char) :
    skipLines false ((textValue text).toList ++ rest) = some ((textValue text).toList ++ rest) := by
  obtain ⟨c, tail, same, first⟩ := textValue_head text
  rw [same]
  rcases first with rfl | rfl <;> simp [skipLines, isBlank]

def itemLine (item : String) : String := "    " ++ textValue item ++ ",\n"

theorem items_congr {input other : List Char} (same : skipLines false input = skipLines false other)
    (fuel depth : Nat) : items fuel depth input = items fuel depth other := by
  cases fuel with
  | zero => rfl
  | succ fuel => rw [items, items, same]

theorem items_one (fuel depth : Nat) (item : String) (rest : List Char) :
    items (fuel + 2) depth ((textValue item).toList ++ ']' :: rest) = some ([.text item], rest) := by
  have read := value_textValue fuel depth item (']' :: rest) (by simp [TextEnds])
  obtain ⟨c, tail, same, first⟩ := textValue_head item
  rw [items, skipLines_textValue]
  rw [same, List.cons_append] at read ⊢
  rcases first with rfl | rfl <;> simp [read, skipLines, isBlank]

theorem items_line (fuel depth : Nat) (item : String) (rest : List Char) :
    items (fuel + 2) depth ((itemLine item).toList ++ rest) =
      (items (fuel + 1) depth rest).map fun found => (.text item :: found.1, found.2) := by
  have blanks : skipLines false ((itemLine item).toList ++ rest) =
      skipLines false ((textValue item).toList ++ ',' :: '\n' :: rest) := by
    simp [itemLine, skipLines, isBlank]
  have read := value_textValue fuel depth item (',' :: '\n' :: rest) (by simp [TextEnds])
  have line : items (fuel + 1) depth ('\n' :: rest) = items (fuel + 1) depth rest :=
    items_congr (by simp [skipLines]) _ _
  obtain ⟨c, tail, same, first⟩ := textValue_head item
  rw [items_congr blanks, items, skipLines_textValue]
  rw [same, List.cons_append] at read ⊢
  cases others : items (fuel + 1) depth rest <;> rcases first with rfl | rfl <;>
    simp [read, skipLines, isBlank, line, others]

theorem items_lines (texts : List String) {fuel : Nat} (enough : texts.length < fuel) (depth : Nat)
    (rest : List Char) :
    items fuel depth ((String.join (texts.map itemLine)).toList ++ ']' :: rest) =
      some (texts.map .text, rest) := by
  induction texts generalizing fuel with
  | nil =>
    obtain ⟨fuel, rfl⟩ := Nat.exists_eq_succ_of_ne_zero (Nat.ne_of_gt enough)
    simp [items, skipLines, isBlank]
  | cons item texts ih =>
    obtain ⟨fuel, rfl⟩ : ∃ less, fuel = less + 2 := ⟨fuel - 2, by simp at enough; omega⟩
    have later := @ih (fuel + 1) (by simp at enough; omega)
    rw [List.map_cons, String.join_cons, String.toList_append, List.append_assoc, items_line, later]
    rfl

theorem length_le_lines (texts : List String) :
    texts.length ≤ (String.join (texts.map itemLine)).length := by
  induction texts with
  | nil => simp
  | cons item texts ih =>
    have line : 1 ≤ (itemLine item).length := by
      have blanks : "    ".length = 4 := rfl
      simp only [itemLine, String.length_append, blanks]
      omega
    rw [List.map_cons, String.join_cons, String.length_append, List.length_cons]
    omega

theorem value_list (fuel depth : Nat) (input : List Char) :
    value (fuel + 1) (depth + 1) ('[' :: input) =
      (items fuel depth input).map fun found => (.list false found.1, found.2) := by
  simp [value, quoted?]

theorem value_listValue (texts : List String) {fuel : Nat}
    (enough : (listValue texts).length + 1 < fuel) (depth : Nat) (rest : List Char) :
    value fuel (depth + 1) ((listValue texts).toList ++ rest) =
      some (.list false (texts.map .text), rest) := by
  have sizes : "[]".length = 2 ∧ "[".length = 1 ∧ "]".length = 1 ∧ "[\n".length = 2 := by decide
  unfold listValue at enough ⊢
  split at enough
  · obtain ⟨fuel, rfl⟩ : ∃ less, fuel = less + 2 := ⟨fuel - 2, by omega⟩
    simp [value_list, items, skipLines, isBlank]
  · rename_i item
    simp only [String.length_append] at enough
    obtain ⟨fuel, rfl⟩ : ∃ less, fuel = less + 3 := ⟨fuel - 3, by omega⟩
    simp [value_list, items_one]
  · obtain ⟨fuel, rfl⟩ := Nat.exists_eq_succ_of_ne_zero (Nat.ne_of_gt (Nat.zero_lt_of_lt enough))
    change ("[\n" ++ String.join (texts.map itemLine) ++ "]").length + 1 < _ at enough
    simp only [String.length_append] at enough
    have long := length_le_lines texts
    have lines := @items_lines texts fuel (by omega) depth rest
    have line : items fuel depth ('\n' :: ((String.join (texts.map itemLine)).toList ++ ']' :: rest))
        = some (texts.map .text, rest) := by
      rw [← lines]
      exact items_congr (by simp [skipLines]) _ _
    have whole : ("[\n" ++ String.join (texts.map itemLine) ++ "]").toList ++ rest =
        '[' :: '\n' :: ((String.join (texts.map itemLine)).toList ++ ']' :: rest) := by simp
    change value _ _ (("[\n" ++ String.join (texts.map itemLine) ++ "]").toList ++ rest) = _
    rw [whole, value_list, line]
    rfl

/-- A printed value is read back at the end of its line. -/
theorem value_written (plain : Plain) {fuel : Nat} (enough : plain.written.length + 1 < fuel)
    (depth : Nat) (rest : List Char) :
    value fuel (depth + 1) (plain.written.toList ++ '\n' :: rest) =
      some (plain.item, '\n' :: rest) := by
  cases plain with
  | text text =>
    obtain ⟨fuel, rfl⟩ := Nat.exists_eq_succ_of_ne_zero (Nat.ne_of_gt (Nat.zero_lt_of_lt enough))
    exact value_textValue fuel _ text _ (by simp [TextEnds])
  | flag flag =>
    obtain ⟨fuel, rfl⟩ := Nat.exists_eq_succ_of_ne_zero (Nat.ne_of_gt (Nat.zero_lt_of_lt enough))
    exact value_flagValue fuel _ flag rest
  | texts items => exact value_listValue items enough depth ('\n' :: rest)

theorem written_head (plain : Plain) :
    ∃ c tail, plain.written.toList = c :: tail ∧ isBlank c = false := by
  cases plain with
  | text text =>
    obtain ⟨c, tail, same, rfl | rfl⟩ := textValue_head text
    · exact ⟨_, tail, same, rfl⟩
    · exact ⟨_, tail, same, rfl⟩
  | flag flag =>
    cases flag
    · exact ⟨'f', ['a', 'l', 's', 'e'], rfl, rfl⟩
    · exact ⟨'t', ['r', 'u', 'e'], rfl, rfl⟩
  | texts items =>
    simp only [Plain.written, listValue]
    split
    · exact ⟨'[', [']'], rfl, rfl⟩
    · exact ⟨'[', _, by rw [String.append_assoc, String.toList_append]; rfl, rfl⟩
    · exact ⟨'[', _, by rw [String.append_assoc, String.toList_append]; rfl, rfl⟩

/-! Lines. -/

theorem skipLines_skipped {inComment : Bool} {input rest : List Char}
    (skipped : skipLines inComment input = some rest) : skipLines false rest = some rest := by
  induction input generalizing inComment with
  | nil =>
    cases skipped
    rfl
  | cons c input ih =>
    unfold skipLines at skipped
    repeat' split at skipped
    all_goals first
      | exact ih skipped
      | cases skipped
    simp_all [skipLines]

/-- What the reader skips in front of a line makes no difference to it. -/
theorem lines_skipped (fuel : Nat) (current : List String) (body : Body) (input : List Char) :
    (skipLines false input).bind (lines fuel current body) = lines fuel current body input := by
  cases fuel with
  | zero => cases skipLines false input <;> rfl
  | succ fuel =>
    cases skipped : skipLines false input with
    | none => simp [lines, skipped]
    | some rest => simp [lines, skipped, skipLines_skipped skipped]

theorem lines_endLine (fuel : Nat) (current : List String) (body : Body) (rest : List Char) :
    (endLine ('\n' :: rest)).bind (lines fuel current body) = lines fuel current body rest := by
  have ended : endLine ('\n' :: rest) = skipLines false rest := by
    simp [endLine, isBlank, startsBreak, skipLines]
  rw [ended, lines_skipped]

theorem length_le_pathText (key : String) (more : List String) :
    more.length ≤ (pathText (key :: more)).length := by
  induction more generalizing key with
  | nil => simp
  | cons next more ih =>
    have later := ih next
    simp only [pathText_cons, List.length_append, List.length_cons] at later ⊢
    omega

theorem pathText_head (key : String) (more : List String) :
    ∃ tail, pathText (key :: more) = (keyText key).toList ++ tail := by
  cases more with
  | nil => exact ⟨[], by rw [pathText_one, List.append_nil]⟩
  | cons next more => exact ⟨_, pathText_cons key next more⟩

theorem keyText_ne_bracket (key : String) (rest : List Char) :
    ∀ tail, (keyText key).toList ++ rest ≠ '[' :: tail := by
  intro tail same
  obtain ⟨c, text, written, first⟩ := keyText_head key
  rw [written] at same
  obtain ⟨rfl, -⟩ := List.cons.inj same
  rcases first with bare | quote | quote
  · cases bare
  · cases quote
  · cases quote

theorem lines_header (fuel : Nat) (current : List String) (body : Body) (key : String)
    (more : List String) (rest : List Char) :
    lines (fuel + 1) current body ((headerLine (key :: more)).toList ++ rest) =
      (extend false (openTable ((key :: more).getLastD "")) (key :: more).dropLast body).bind
        fun body => lines fuel (key :: more) body rest := by
  have text : (headerLine (key :: more)).toList ++ rest =
      '[' :: (pathText (key :: more) ++ ']' :: '\n' :: rest) := by
    simp [headerLine, pathText]
  have long := length_le_pathText key more
  have read : header (pathText (key :: more) ++ ']' :: '\n' :: rest) =
      some (key :: more, '\n' :: rest) := by
    rw [header, keys_pathText key more (by simp; omega)]
    rfl
  have single : ∀ tail, pathText (key :: more) ++ ']' :: '\n' :: rest ≠ '[' :: tail := by
    obtain ⟨tail, same⟩ := pathText_head key more
    rw [same, List.append_assoc]
    exact keyText_ne_bracket key _
  have start : skipLines false ('[' :: (pathText (key :: more) ++ ']' :: '\n' :: rest)) =
      some ('[' :: (pathText (key :: more) ++ ']' :: '\n' :: rest)) := by
    simp [skipLines, isBlank]
  rw [text, lines, start]
  simp only [Option.bind_eq_bind, Option.bind_some, read]
  congr
  funext body
  exact lines_endLine fuel _ body rest

theorem skipLines_keyText (key : String) (rest : List Char) :
    skipLines false ((keyText key).toList ++ rest) = some ((keyText key).toList ++ rest) := by
  obtain ⟨c, tail, same, first⟩ := keyText_head key
  rw [same, List.cons_append]
  rcases first with bare | rfl | rfl
  · have other : c ≠ '\n' ∧ c ≠ '\r' ∧ c ≠ '#' ∧ c ≠ ' ' ∧ c ≠ '\t' := by
      refine ⟨?_, ?_, ?_, ?_, ?_⟩ <;> (rintro rfl; cases bare)
    simp [skipLines, isBlank, other]
  · simp [skipLines, isBlank]
  · simp [skipLines, isBlank]

theorem lines_value (fuel : Nat) (current : List String) (body : Body) (key : String)
    (plain : Plain) (rest : List Char) :
    lines (fuel + 1) current body ((valueLine key plain.written).toList ++ rest) =
      (extend false (addValue false key plain.item) current body).bind
        fun body => lines fuel current body rest := by
  obtain ⟨after, afterEq⟩ : ∃ after, after = plain.written.toList ++ '\n' :: rest := ⟨_, rfl⟩
  have text : (valueLine key plain.written).toList ++ rest =
      (keyText key).toList ++ ' ' :: '=' :: ' ' :: after := by
    simp [valueLine, afterEq]
  have named : keys (((keyText key).toList ++ ' ' :: '=' :: ' ' :: after).length + 1)
      ((keyText key).toList ++ ' ' :: '=' :: ' ' :: after) = some ([key], '=' :: ' ' :: after) := by
    refine keys_one _ key ?_ (by simp [isBlank]) (by simp)
    rintro c ⟨⟩
    rfl
  have start : (' ' :: after).dropWhile isBlank = after := by
    obtain ⟨c, tail, same, filled⟩ := written_head plain
    rw [afterEq, same, List.dropWhile_cons_of_pos (by rfl), List.cons_append,
      List.dropWhile_cons_of_neg (by simp [filled])]
  have read : value (2 * after.length + 2) greatestDepth after = some (plain.item, '\n' :: rest) := by
    rw [afterEq]
    refine value_written plain ?_ 79 rest
    rw [← String.length_toList, List.length_append]
    omega
  rw [text, lines, skipLines_keyText]
  simp only [Option.bind_eq_bind, Option.bind_some]
  split
  · rename_i none
    simp at none
  · rename_i double
    exact absurd double (keyText_ne_bracket key _ _)
  · rename_i single
    exact absurd single (keyText_ne_bracket key _ _)
  · simp only [named, Option.bind_some, start, read]
    congr
    funext body
    exact lines_endLine fuel _ body rest

end Raid.Toml

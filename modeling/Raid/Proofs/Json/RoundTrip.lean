import Raid.Proofs.Json.Token

/-!
Values that were printed over several lines are read back as they were, where every number is whole
and fits the reader, and where nothing is nested too deeply for it.
-/

namespace Raid.Json

mutual

/-- The value fits the reader: its numbers do, and it is nested no deeper than this. -/
def fits (depth : Nat) : Json → Bool
  | .null => true
  | .flag _ => true
  | .number value => value.fits
  | .text _ => true
  | .list items =>
    match depth with
    | 0 => false
    | depth + 1 => fitsItems depth items
  | .object members =>
    match depth with
    | 0 => false
    | depth + 1 => fitsMembers depth members

def fitsItems (depth : Nat) : List Json → Bool
  | [] => true
  | item :: rest => fits depth item && fitsItems depth rest

def fitsMembers (depth : Nat) : List (String × Json) → Bool
  | [] => true
  | (_, value) :: rest => fits depth value && fitsMembers depth rest

end

theorem indent_blank (level : Nat) : ∀ c ∈ (indent level).toList, Reader.isBlank c = true := by
  intro c member
  rw [indent, String.toList_ofList] at member
  rw [List.eq_of_mem_replicate member]
  rfl

def linesText (level : Nat) (lines : List String) : List Char :=
  (",\n".intercalate (lines.map (indent (level + 1) ++ ·))).toList

theorem linesText_one (level : Nat) (line : String) :
    linesText level [line] = (indent (level + 1)).toList ++ line.toList := by
  simp [linesText]

theorem linesText_cons (level : Nat) (line next : String) (more : List String) :
    linesText level (line :: next :: more) = (indent (level + 1)).toList ++ (line.toList ++
      ',' :: '\n' :: linesText level (next :: more)) := by
  simp [linesText]

theorem bracketed_toList (opening closing : String) (level : Nat) (line : String)
    (more : List String) :
    (bracketed opening closing level (line :: more)).toList = opening.toList ++
      '\n' :: (linesText level (line :: more) ++
        '\n' :: ((indent level).toList ++ closing.toList)) := by
  simp [bracketed, linesText]

theorem value_skip {blanks : List Char} (blank : ∀ c ∈ blanks, Reader.isBlank c = true)
    (fuel depth : Nat) (input : List Char) :
    Reader.value fuel depth (blanks ++ input) = Reader.value fuel depth input := by
  cases fuel with
  | zero => rfl
  | succ fuel => simp only [Reader.value, skipBlanks_append blank]

theorem value_number {c : Char} (first : c.isDigit = true ∨ c = '-') (fuel depth : Nat)
    (input : List Char) :
    Reader.value (fuel + 1) depth (c :: input) =
      (Reader.number (c :: input)).map fun read => (.number read.1, read.2) := by
  rw [Reader.value, skipBlanks_cons (filled_of_number first)]
  split <;> simp_all

attribute [local simp] Reader.value Reader.items Reader.members prettyAt

theorem prettyAt_head {value : Json} {depth : Nat} (fine : fits depth value = true) (level : Nat) :
    ∃ c text, (prettyAt level value).toList = c :: text ∧ Reader.isBlank c = false ∧ c ≠ ']' := by
  have lines (opening closing : Char) (lines : List String) :
      ∃ text, (bracketed (String.singleton opening) (String.singleton closing) level lines).toList =
        opening :: text := by
    unfold bracketed
    split
    · exact ⟨_, by rw [String.toList_append, String.toList_singleton]; rfl⟩
    · exact ⟨_, by simp only [String.toList_append, String.toList_singleton, List.cons_append]; rfl⟩
  cases value with
  | null => exact ⟨'n', ['u', 'l', 'l'], by simp, by decide, by decide⟩
  | flag value =>
    cases value with
    | true => exact ⟨'t', ['r', 'u', 'e'], by simp, by decide, by decide⟩
    | false => exact ⟨'f', ['a', 'l', 's', 'e'], by simp, by decide, by decide⟩
  | text value =>
    exact ⟨'"', _, by rw [prettyAt, quoted, String.toList_ofList]; rfl, by decide, by decide⟩
  | list items =>
    obtain ⟨text, same⟩ := lines '[' ']' (prettyItems level items)
    exact ⟨_, _, same, rfl, by decide⟩
  | object members =>
    obtain ⟨text, same⟩ := lines '\x7b' '\x7d' (prettyMembers level members)
    exact ⟨_, _, same, rfl, by decide⟩
  | number value =>
    cases value with
    | real value => simp [fits, Number.fits] at fine
    | whole value =>
      obtain ⟨c, text, same, first⟩ := toString_head value
      refine ⟨c, text, same, ?_, ?_⟩
      · exact filled_of_number first
      · rintro rfl
        simp at first

def Reads (value : Json) (depth level : Nat) : Prop :=
  ∀ fuel rest, 2 * (prettyAt level value).toList.length ≤ fuel → NumberEnds rest →
    Reader.value fuel depth ((prettyAt level value).toList ++ rest) = some (value, rest)

def ItemsRead (items : List Json) (depth level : Nat) : Prop :=
  ∀ fuel rest, 2 * (linesText level (prettyItems level items)).length < fuel →
    Reader.items fuel depth (linesText level (prettyItems level items) ++
      '\n' :: ((indent level).toList ++ ']' :: rest)) = some (items, rest)

def MembersRead (members : List (String × Json)) (depth level : Nat) : Prop :=
  ∀ fuel rest, 2 * (linesText level (prettyMembers level members)).length < fuel →
    Reader.members fuel depth (linesText level (prettyMembers level members) ++
      '\n' :: ((indent level).toList ++ '\x7d' :: rest)) = some (members, rest)

theorem reads_null (depth level : Nat) : Reads .null depth level := by
  intro fuel rest enough ends
  cases fuel with
  | zero => simp at enough
  | succ fuel => simp [skipBlanks_cons, Reader.isBlank, Reader.word]

theorem reads_flag (value : Bool) (depth level : Nat) : Reads (.flag value) depth level := by
  intro fuel rest enough ends
  cases fuel with
  | zero => cases value <;> simp at enough
  | succ fuel =>
    cases value <;>
      simp [skipBlanks_cons, Reader.isBlank, Reader.word]

theorem reads_text (value : String) (depth level : Nat) : Reads (.text value) depth level := by
  intro fuel rest enough ends
  cases fuel with
  | zero => simp [quoted] at enough
  | succ fuel =>
    have read := quoted_escaped value.toList [] rest
    simp [quoted, skipBlanks_cons, Reader.isBlank, read]

theorem reads_number {value : Number} (fine : value.fits = true) (depth level : Nat) :
    Reads (.number value) depth level := by
  intro fuel rest enough ends
  cases value with
  | real value => simp [Number.fits] at fine
  | whole value =>
    obtain ⟨c, text, same, first⟩ := toString_head value
    have read := number_toString fine ends
    cases fuel with
    | zero =>
      rw [prettyAt, numberText, same, List.length_cons] at enough
      omega
    | succ fuel =>
      rw [prettyAt, numberText]
      rw [same] at read ⊢
      rw [List.cons_append, value_number first, ← List.cons_append, read]
      rfl

theorem value_list {fuel depth : Nat} {input tail : List Char} {c : Char}
    (start : Reader.skipBlanks input = c :: tail) (other : c ≠ ']') :
    Reader.value (fuel + 1) (depth + 1) ('[' :: input) =
      (Reader.items fuel depth input).map fun read => (.list read.1, read.2) := by
  simp [skipBlanks_cons, Reader.isBlank, start, other]

theorem value_object {fuel depth : Nat} {input tail : List Char} {c : Char}
    (start : Reader.skipBlanks input = c :: tail) (other : c ≠ '\x7d') :
    Reader.value (fuel + 1) (depth + 1) ('\x7b' :: input) =
      (Reader.members fuel depth input).map fun read => (.object read.1, read.2) := by
  simp [skipBlanks_cons, Reader.isBlank, start, other]

theorem skipBlanks_newline (input : List Char) :
    Reader.skipBlanks ('\n' :: input) = Reader.skipBlanks input := by
  simp [Reader.skipBlanks, Reader.isBlank]

theorem skipBlanks_line (level : Nat) (input : List Char) :
    Reader.skipBlanks ('\n' :: ((indent level).toList ++ input)) = Reader.skipBlanks input := by
  rw [skipBlanks_newline, skipBlanks_append (indent_blank level)]

theorem items_newline (fuel depth : Nat) (input : List Char) :
    Reader.items fuel depth ('\n' :: input) = Reader.items fuel depth input := by
  cases fuel with
  | zero => rfl
  | succ fuel =>
    have same : Reader.value fuel depth (['\n'] ++ input) = Reader.value fuel depth input :=
      value_skip (by simp [Reader.isBlank]) fuel depth input
    rw [List.singleton_append] at same
    simp only [Reader.items, same]

theorem members_newline (fuel depth : Nat) (input : List Char) :
    Reader.members fuel depth ('\n' :: input) = Reader.members fuel depth input := by
  cases fuel with
  | zero => rfl
  | succ fuel => simp only [Reader.members, skipBlanks_newline]

theorem linesText_head (level : Nat) (line : String) (more : List String) :
    ∃ tail, linesText level (line :: more) =
      (indent (level + 1)).toList ++ (line.toList ++ tail) := by
  cases more with
  | nil => exact ⟨[], by rw [linesText_one, List.append_nil]⟩
  | cons next more => exact ⟨_, linesText_cons level line next more⟩

theorem reads_list_nil (depth level : Nat) : Reads (.list []) (depth + 1) level := by
  intro fuel rest enough ends
  cases fuel with
  | zero => simp [bracketed, prettyItems] at enough
  | succ fuel =>
    simp [bracketed, prettyItems, skipBlanks_cons, Reader.isBlank]

theorem reads_list {item : Json} {more : List Json} {depth level : Nat}
    (fine : fits depth item = true) (read : ItemsRead (item :: more) depth level) :
    Reads (.list (item :: more)) (depth + 1) level := by
  intro fuel rest enough ends
  have text : (prettyAt level (.list (item :: more))).toList =
      '[' :: '\n' :: (linesText level (prettyItems level (item :: more)) ++
        '\n' :: ((indent level).toList ++ [']'])) := by
    rw [prettyAt, prettyItems, bracketed_toList]
    simp
  obtain ⟨c, tail, head, filled, other⟩ := prettyAt_head fine (level + 1)
  obtain ⟨later, lines⟩ := linesText_head level (prettyAt (level + 1) item) (prettyItems level more)
  have start (input : List Char) : Reader.skipBlanks
      ('\n' :: (linesText level (prettyItems level (item :: more)) ++ input)) =
        c :: (tail ++ later ++ input) := by
    rw [prettyItems, lines, List.append_assoc, skipBlanks_line, head]
    simp [skipBlanks_cons filled]
  rw [text] at enough ⊢
  simp only [List.length_cons, List.length_append] at enough
  cases fuel with
  | zero => omega
  | succ fuel =>
    have inner := read fuel rest (by omega)
    simp only [List.cons_append, List.append_assoc, List.nil_append]
    rw [value_list (start _) other, items_newline, inner]
    rfl

theorem itemsRead_one {item : Json} {depth level : Nat} (read : Reads item depth (level + 1)) :
    ItemsRead [item] depth level := by
  intro fuel rest enough
  cases fuel with
  | zero => omega
  | succ fuel =>
    simp only [prettyItems, linesText_one, List.length_append] at enough ⊢
    have ends : NumberEnds ('\n' :: ((indent level).toList ++ ']' :: rest)) := by
      rintro c ⟨⟩
      decide
    have inner := read fuel _ (by omega) ends
    rw [Reader.items, List.append_assoc, value_skip (indent_blank _), inner]
    simp [skipBlanks_line, skipBlanks_cons, Reader.isBlank]

theorem itemsRead_cons {item next : Json} {more : List Json} {depth level : Nat}
    (read : Reads item depth (level + 1)) (others : ItemsRead (next :: more) depth level) :
    ItemsRead (item :: next :: more) depth level := by
  intro fuel rest enough
  cases fuel with
  | zero => omega
  | succ fuel =>
    have lines : linesText level (prettyItems level (item :: next :: more)) =
        (indent (level + 1)).toList ++ ((prettyAt (level + 1) item).toList ++
          ',' :: '\n' :: linesText level (prettyItems level (next :: more))) := by
      rw [prettyItems, prettyItems, linesText_cons]
    rw [lines] at enough ⊢
    simp only [List.length_append, List.length_cons] at enough
    have inner := read fuel (',' :: '\n' :: (linesText level (prettyItems level (next :: more)) ++
      '\n' :: ((indent level).toList ++ ']' :: rest))) (by omega) (by rintro c ⟨⟩; decide)
    have later := others fuel rest (by omega)
    simp only [List.append_assoc, List.cons_append]
    rw [Reader.items, value_skip (indent_blank _), inner]
    simp [skipBlanks_cons, Reader.isBlank, items_newline, later]

/-- The line of a member is read as its key and its value, and the reader goes on behind it. -/
theorem members_line {fuel depth level : Nat} {key : String} {value : Json} {input : List Char}
    (inner : Reader.value fuel depth ((prettyAt (level + 1) value).toList ++ input) =
      some (value, input)) :
    Reader.members (fuel + 1) depth ((indent (level + 1)).toList ++
        ((quoted key ++ ": " ++ prettyAt (level + 1) value).toList ++ input)) =
      match Reader.skipBlanks input with
      | '\x7d' :: rest => some ([(key, value)], rest)
      | ',' :: rest => (Reader.members fuel depth rest).map fun read =>
        ((key, value) :: read.1, read.2)
      | _ => none := by
  have line : (quoted key ++ ": " ++ prettyAt (level + 1) value).toList ++ input =
      '"' :: (key.toList.flatMap escaped ++
        '"' :: ':' :: ([' '] ++ ((prettyAt (level + 1) value).toList ++ input))) := by
    simp [quoted]
  have space : ∀ c ∈ [' '], Reader.isBlank c = true := List.forall_mem_singleton.mpr rfl
  have key_read := quoted_escaped key.toList []
    (':' :: ([' '] ++ ((prettyAt (level + 1) value).toList ++ input)))
  rw [Reader.members, skipBlanks_append (indent_blank _), line, skipBlanks_cons (by decide)]
  simp only [key_read, Option.bind_eq_bind, Option.bind_some]
  rw [skipBlanks_cons (by decide)]
  simp only [value_skip space, inner, Option.bind_some, List.reverse_nil, List.nil_append,
    String.ofList_toList, Option.map_eq_bind]
  rfl

theorem membersRead_one {key : String} {value : Json} {depth level : Nat}
    (read : Reads value depth (level + 1)) : MembersRead [(key, value)] depth level := by
  intro fuel rest enough
  cases fuel with
  | zero => omega
  | succ fuel =>
    simp only [prettyMembers, linesText_one, List.length_append, String.toList_append] at enough
    have ends : NumberEnds ('\n' :: ((indent level).toList ++ '\x7d' :: rest)) := by
      rintro c ⟨⟩
      decide
    have inner := read fuel _ (by omega) ends
    rw [prettyMembers, prettyMembers, linesText_one, List.append_assoc, members_line inner,
      skipBlanks_line, skipBlanks_cons (by decide)]
    rfl

theorem membersRead_cons {key : String} {value : Json} {next : String × Json}
    {more : List (String × Json)} {depth level : Nat} (read : Reads value depth (level + 1))
    (others : MembersRead (next :: more) depth level) :
    MembersRead ((key, value) :: next :: more) depth level := by
  intro fuel rest enough
  cases fuel with
  | zero => omega
  | succ fuel =>
    have lines : linesText level (prettyMembers level ((key, value) :: next :: more)) =
        (indent (level + 1)).toList ++ ((quoted key ++ ": " ++ prettyAt (level + 1) value).toList ++
          ',' :: '\n' :: linesText level (prettyMembers level (next :: more))) := by
      obtain ⟨other, second⟩ := next
      rw [prettyMembers, prettyMembers, linesText_cons]
    rw [lines] at enough ⊢
    simp only [List.length_append, List.length_cons, String.toList_append] at enough
    have inner := read fuel (',' :: '\n' ::
      (linesText level (prettyMembers level (next :: more)) ++
        '\n' :: ((indent level).toList ++ '\x7d' :: rest))) (by omega) (by rintro c ⟨⟩; decide)
    have later := others fuel rest (by omega)
    rw [List.append_assoc, List.append_assoc, List.cons_append, List.cons_append, members_line inner,
      skipBlanks_cons (by decide)]
    simp only [members_newline, later]
    rfl

theorem reads_object_nil (depth level : Nat) : Reads (.object []) (depth + 1) level := by
  intro fuel rest enough ends
  cases fuel with
  | zero => simp [bracketed, prettyMembers] at enough
  | succ fuel =>
    simp [bracketed, prettyMembers, skipBlanks_cons, Reader.isBlank]

theorem reads_object {member : String × Json} {more : List (String × Json)} {depth level : Nat}
    (read : MembersRead (member :: more) depth level) :
    Reads (.object (member :: more)) (depth + 1) level := by
  intro fuel rest enough ends
  obtain ⟨key, value⟩ := member
  have text : (prettyAt level (.object ((key, value) :: more))).toList =
      '\x7b' :: '\n' :: (linesText level (prettyMembers level ((key, value) :: more)) ++
        '\n' :: ((indent level).toList ++ ['\x7d'])) := by
    rw [prettyAt, prettyMembers, bracketed_toList]
    simp
  obtain ⟨later, lines⟩ := linesText_head level (quoted key ++ ": " ++ prettyAt (level + 1) value)
    (prettyMembers level more)
  have start (input : List Char) : ∃ tail, Reader.skipBlanks
      ('\n' :: (linesText level (prettyMembers level ((key, value) :: more)) ++ input)) =
        '"' :: tail := by
    rw [prettyMembers, lines, List.append_assoc, skipBlanks_line]
    simp [quoted, skipBlanks_cons, Reader.isBlank]
  rw [text] at enough ⊢
  simp only [List.length_cons, List.length_append] at enough
  cases fuel with
  | zero => omega
  | succ fuel =>
    have inner := read fuel rest (by omega)
    simp only [List.cons_append, List.append_assoc, List.nil_append]
    obtain ⟨tail, start⟩ := start ('\n' :: ((indent level).toList ++ '\x7d' :: rest))
    rw [value_object start (by decide), members_newline, inner]
    rfl

mutual

/-- Every value that fits is read back from its text. -/
theorem reads : (value : Json) → ∀ {depth : Nat} (level : Nat), fits depth value = true →
    Reads value depth level
  | .null, depth, level, _ => reads_null depth level
  | .flag value, depth, level, _ => reads_flag value depth level
  | .number _, depth, level, fine => reads_number fine depth level
  | .text value, depth, level, _ => reads_text value depth level
  | .list [], depth + 1, level, _ => reads_list_nil depth level
  | .list (item :: more), depth + 1, level, fine => by
    have fine : fitsItems depth (item :: more) = true := fine
    have first : fits depth item = true := by
      rw [fitsItems, Bool.and_eq_true] at fine
      exact fine.1
    exact reads_list first (itemsRead (item :: more) level fine (List.cons_ne_nil item more))
  | .object [], depth + 1, level, _ => reads_object_nil depth level
  | .object (member :: more), depth + 1, level, fine =>
    reads_object (membersRead (member :: more) level fine (List.cons_ne_nil member more))

theorem itemsRead : (items : List Json) → ∀ {depth : Nat} (level : Nat),
    fitsItems depth items = true → items ≠ [] → ItemsRead items depth level
  | [], _, _, _, filled => absurd rfl filled
  | [item], depth, level, fine, _ => by
    rw [fitsItems, Bool.and_eq_true] at fine
    exact itemsRead_one (reads item (level + 1) fine.1)
  | item :: next :: more, depth, level, fine, _ => by
    rw [fitsItems, Bool.and_eq_true] at fine
    exact itemsRead_cons (reads item (level + 1) fine.1)
      (itemsRead (next :: more) level fine.2 (List.cons_ne_nil next more))

theorem membersRead : (members : List (String × Json)) → ∀ {depth : Nat} (level : Nat),
    fitsMembers depth members = true → members ≠ [] → MembersRead members depth level
  | [], _, _, _, filled => absurd rfl filled
  | [(key, value)], depth, level, fine, _ => by
    rw [fitsMembers, Bool.and_eq_true] at fine
    exact membersRead_one (reads value (level + 1) fine.1)
  | (key, value) :: next :: more, depth, level, fine, _ => by
    rw [fitsMembers, Bool.and_eq_true] at fine
    exact membersRead_cons (reads value (level + 1) fine.1)
      (membersRead (next :: more) level fine.2 (List.cons_ne_nil next more))

end

theorem parse_pretty {value : Json} (fine : fits Reader.greatestDepth value = true) :
    parse (pretty value) = some value := by
  have read := reads value 0 fine (2 * (prettyAt 0 value).toList.length + 2) []
    (Nat.le_add_right _ 2) (by rintro c ⟨⟩)
  rw [List.append_nil] at read
  simp only [parse, pretty, read]
  rfl

end Raid.Json

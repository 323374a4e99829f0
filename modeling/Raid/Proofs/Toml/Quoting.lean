import Raid.Toml.Printer
import Raid.Toml.Scalar

/-!
Quoted texts are read back as they were, whatever characters they hold and whatever quotes the
printer gave them.
-/

namespace Raid.Toml

open Text (upperHex codePoint? codePointAt?)

theorem isControl_iff {c : Char} : isControl c = true ↔ needsEscape c = true ∨ c = '\n' := by
  by_cases line : c = '\n'
  · subst line
    exact iff_of_true rfl (.inr rfl)
  · simp [isControl, needsEscape, line]

theorem codePointAt?_upperHex {c : Char} (small : c.toNat < 128) (rest : List Char) :
    codePointAt? 4 (upperHex 4 c.toNat ++ rest) = some c := by
  have each : ∀ code : Fin 128, (upperHex 4 code).length = 4 ∧
      codePoint? (upperHex 4 code) = some (Char.ofNat code) := by decide
  obtain ⟨four, read⟩ := each ⟨c.toNat, small⟩
  have front : (upperHex 4 c.toNat ++ rest).take 4 = upperHex 4 c.toNat := List.take_left' four
  rw [codePointAt?, front, if_pos four, read, Char.ofNat_toNat]

inductive Spelled (c : Char) : List Char → Prop where
  | plain (printed : isControl c = false) (quote : c ≠ '"') (slash : c ≠ '\\') : Spelled c [c]
  | escape {first : Char} {tail : List Char} (letter : isControl first = false)
      (dark : isBlank first = false)
      (read : ∀ rest, escape? (first :: (tail ++ rest)) = some (c, tail.length + 1)) :
      Spelled c ('\\' :: first :: tail)

theorem spelled_quote : Spelled '"' ['\\', '"'] :=
  .escape rfl rfl fun _ => rfl

theorem spelled_break : Spelled '\n' ['\\', 'n'] :=
  .escape rfl rfl fun _ => rfl

theorem spelled_escaped {c : Char} (quote : c ≠ '"') (line : c ≠ '\n') : Spelled c (escaped c) := by
  unfold escaped
  split
  case h_6 slash =>
    split
    · rename_i escape
      have small : c.toNat < 128 := by
        simp only [needsEscape] at escape
        grind
      refine .escape rfl rfl fun rest => ?_
      have four : (upperHex 4 c.toNat).length = 4 := by
        have each : ∀ code : Fin 128, (upperHex 4 code).length = 4 := by decide
        exact each ⟨c.toNat, small⟩
      simp [escape?, codePointAt?_upperHex small, four]
    · rename_i printed
      refine .plain ?_ quote slash
      rw [Bool.eq_false_iff]
      intro control
      exact (isControl_iff.mp control).elim printed line
  all_goals exact .escape rfl rfl fun _ => rfl

/-! Texts on one line. -/

theorem lineText_skip (quote : Char) (read piece rest : List Char) :
    lineText quote piece.length read (piece ++ rest) = lineText quote 0 read rest := by
  induction piece with
  | nil => rfl
  | cons c piece ih => rw [List.length_cons, List.cons_append, lineText, ih]

theorem lineText_spelled {c : Char} {piece : List Char} (spelled : Spelled c piece)
    (read rest : List Char) :
    lineText '"' 0 read (piece ++ rest) = lineText '"' 0 (c :: read) rest := by
  cases spelled with
  | plain printed quote slash => simp [lineText, printed, quote, slash]
  | @escape first tail letter dark found =>
    have skipped := lineText_skip '"' (c :: read) (first :: tail) rest
    rw [List.length_cons] at skipped
    simp only [List.cons_append] at skipped ⊢
    rw [lineText, if_neg (by decide), if_pos (by decide), found]
    exact skipped

theorem escapedText_cons (c : Char) (text : List Char) :
    ∃ piece, Spelled c piece ∧
      escapedText 0 false 0 (c :: text) = piece ++ escapedText 0 false 0 text := by
  rw [escapedText]
  split
  · rename_i same
    subst same
    exact ⟨_, spelled_quote, rfl⟩
  · split
    · rename_i same
      subst same
      exact ⟨_, spelled_break, rfl⟩
    · rename_i quote line
      exact ⟨_, spelled_escaped quote line, rfl⟩

/-- A text with escapes is read back up to the closing quote. -/
theorem lineText_escapedText (text read rest : List Char) :
    lineText '"' 0 read (escapedText 0 false 0 text ++ '"' :: rest) =
      some (String.ofList (read.reverse ++ text), rest) := by
  induction text generalizing read with
  | nil => simp [escapedText, lineText]
  | cons c text ih =>
    obtain ⟨piece, spelled, whole⟩ := escapedText_cons c text
    rw [whole, List.append_assoc, lineText_spelled spelled, ih]
    simp

/-- A text without escapes is read back up to the closing quote. -/
theorem lineText_literal {text : List Char}
    (plain : ∀ c ∈ text, c ≠ '\'' ∧ isControl c = false) (read rest : List Char) :
    lineText '\'' 0 read (text ++ '\'' :: rest) =
      some (String.ofList (read.reverse ++ text), rest) := by
  induction text generalizing read with
  | nil => simp [lineText]
  | cons c text ih =>
    obtain ⟨⟨quote, printed⟩, later⟩ := List.forall_mem_cons.mp plain
    have step := ih later (c :: read)
    simp only [List.cons_append, lineText, if_neg quote, printed]
    simpa using step

/-! Texts over several lines. -/

theorem linesText_skip (quote : Char) (read piece rest : List Char) :
    linesText quote piece.length read (piece ++ rest) = linesText quote 0 read rest := by
  induction piece with
  | nil => rfl
  | cons c piece ih => rw [List.length_cons, List.cons_append, linesText, ih]

/-- What is written for a character between three quotes: it is read as the character and does not
go on a run of quotes. Only a line break begins like one. -/
structure Piece (quote c : Char) (piece : List Char) : Prop where
  reads : ∀ read rest, linesText quote 0 read (piece ++ rest) = linesText quote 0 (c :: read) rest
  begins : ∃ first tail, piece = first :: tail ∧ first ≠ quote ∧
    (isControl first = true → c = '\n')

theorem piece_break {quote : Char} (other : quote ≠ '\n') : Piece quote '\n' ['\n'] where
  reads read rest := by
    have slash : ¬('\n' = '\\') := by decide
    simp [linesText, Ne.symm other, slash]
  begins := ⟨'\n', [], rfl, Ne.symm other, fun _ => rfl⟩

theorem piece_spelled {c : Char} {piece : List Char} (spelled : Spelled c piece) :
    Piece '"' c piece := by
  cases spelled with
  | plain printed quote slash =>
    have line : c ≠ '\n' := by
      rintro rfl
      cases printed
    have feed : c ≠ '\r' := by
      rintro rfl
      cases printed
    refine ⟨fun read rest => ?_, c, [], rfl, quote, by simp [printed]⟩
    simp [linesText, printed, quote, slash, line, feed]
  | @escape first tail letter dark found =>
    refine ⟨fun read rest => ?_, '\\', first :: tail, rfl, by decide, fun control => by cases control⟩
    have closed : continuation? (first :: (tail ++ rest)) = none := by
      have line : first ≠ '\n' := by
        rintro rfl
        cases letter
      have feed : first ≠ '\r' := by
        rintro rfl
        cases letter
      simp [continuation?, List.dropWhile, dark, startsBreak, line, feed]
    have skipped := linesText_skip '"' (c :: read) (first :: tail) rest
    rw [List.length_cons] at skipped
    simp only [List.cons_append] at skipped ⊢
    rw [linesText, if_neg (by decide), if_pos (by decide), closed, found]
    exact skipped

theorem piece_literal {c : Char} (quote : c ≠ '\'') (free : needsEscape c = false) :
    Piece '\'' c [c] := by
  by_cases line : c = '\n'
  · subst line
    exact piece_break (by decide)
  · have printed : isControl c = false := by
      rw [Bool.eq_false_iff]
      intro control
      simp [isControl_iff, free, line] at control
    have feed : c ≠ '\r' := by
      rintro rfl
      cases printed
    refine ⟨fun read rest => ?_, c, [], rfl, quote, by simp [printed]⟩
    simp [linesText, printed, quote, line, feed]

/-- A text as it is written between three quotes: at most two quotes of the kind stand side by side,
`run` of them right before it. -/
inductive Written (quote : Char) : Nat → List Char → List Char → Prop where
  | nil (run : Nat) : Written quote run [] []
  | quote {run : Nat} {text written : List Char} (few : run < 2)
      (later : Written quote (run + 1) text written) :
      Written quote run (quote :: text) (quote :: written)
  | other {run : Nat} {c : Char} {front text written : List Char} (piece : Piece quote c front)
      (later : Written quote 0 text written) : Written quote run (c :: text) (front ++ written)

/-- The quotes that a text begins with are all of it, or something else follows them. -/
theorem Written.lead {quote : Char} {run : Nat} {text written : List Char}
    (given : Written quote run text written) (few : run ≤ 2) :
    ∃ lead, lead + run ≤ 2 ∧
      ((text = List.replicate lead quote ∧ written = List.replicate lead quote) ∨
        ∃ first tail, written = List.replicate lead quote ++ first :: tail ∧ first ≠ quote) := by
  induction given with
  | nil => exact ⟨0, by omega, .inl ⟨rfl, rfl⟩⟩
  | quote less later ih =>
    obtain ⟨lead, bound, rest⟩ := ih (by omega)
    refine ⟨lead + 1, by omega, ?_⟩
    rcases rest with ⟨rfl, rfl⟩ | ⟨first, tail, rfl, other⟩
    · exact .inl ⟨rfl, rfl⟩
    · exact .inr ⟨first, tail, rfl, other⟩
  | other piece later ih =>
    obtain ⟨first, tail, rfl, other, -⟩ := piece.begins
    exact ⟨0, by omega, .inr ⟨first, _, rfl, other⟩⟩

theorem takeWhile_run {quote : Char} {rest : List Char} (count : Nat)
    (ends : rest.head? ≠ some quote) :
    (List.replicate count quote ++ rest).takeWhile (· = quote) = List.replicate count quote := by
  have stops : rest.takeWhile (· = quote) = [] := by
    cases rest with
    | nil => rfl
    | cons c rest =>
      have other : c ≠ quote := by simpa using ends
      simp [other]
  rw [List.takeWhile_append_of_pos (by simp), stops, List.append_nil]

/-- A run of quotes at the end of a text closes it with its last three. -/
theorem linesText_close {quote : Char} {own : Nat} (few : own ≤ 2) (read : List Char)
    {rest : List Char} (ends : rest.head? ≠ some quote) :
    linesText quote 0 read (List.replicate own quote ++ (List.replicate 3 quote ++ rest)) =
      some (String.ofList (read.reverse ++ List.replicate own quote), rest) := by
  have run := takeWhile_run (own + 3) ends
  have more : min (own + 3 - 3) 2 = own := by omega
  rw [← List.append_assoc, List.replicate_append_replicate]
  rw [List.replicate_succ, List.cons_append] at run ⊢
  rw [linesText, if_pos rfl]
  simp only [run, List.length_cons, List.length_replicate, more]
  rw [if_pos (by omega), List.drop_left' (by simp)]
  simp

/-- A run of one or two quotes within a text belongs to it. -/
theorem linesText_quote {quote : Char} {lead : Nat} (few : lead ≤ 1) (read : List Char)
    {rest : List Char} (ends : rest.head? ≠ some quote) :
    linesText quote 0 read (quote :: (List.replicate lead quote ++ rest)) =
      linesText quote 0 (quote :: read) (List.replicate lead quote ++ rest) := by
  have run := takeWhile_run (lead + 1) ends
  rw [List.replicate_succ, List.cons_append] at run
  rw [linesText, if_pos rfl]
  simp only [run, List.length_cons, List.length_replicate]
  rw [if_neg (by omega)]

/-- A text over several lines is read back up to its closing quotes. -/
theorem Written.reads {quote : Char} {run : Nat} {text written : List Char}
    (given : Written quote run text written) (few : run ≤ 2) (read : List Char) {rest : List Char}
    (ends : rest.head? ≠ some quote) :
    linesText quote 0 read (written ++ (List.replicate 3 quote ++ rest)) =
      some (String.ofList (read.reverse ++ text), rest) := by
  induction given generalizing read with
  | nil => exact linesText_close (Nat.zero_le 2) read ends
  | quote less later ih =>
    obtain ⟨lead, bound, here⟩ := later.lead less
    rcases here with ⟨rfl, rfl⟩ | ⟨first, tail, rfl, other⟩
    · rw [← List.replicate_succ]
      exact linesText_close (by omega) read ends
    · rw [List.cons_append, List.append_assoc, linesText_quote (by omega) read (by simpa using other),
        ← List.append_assoc, ih (by omega)]
      simp
  | other piece later ih =>
    rw [List.append_assoc, piece.reads, ih (by omega)]
    simp

theorem Written.begins {quote : Char} {run : Nat} {text written : List Char}
    (given : Written quote run text written) (printed : isControl quote = false)
    (line : '\n' ∉ text) (rest : List Char) :
    ∀ c, (written ++ quote :: rest).head? = some c → isControl c = false := by
  intro c found
  cases given with
  | nil | quote =>
    cases found
    exact printed
  | other piece later =>
    obtain ⟨first, tail, rfl, -, control⟩ := piece.begins
    cases found
    rw [Bool.eq_false_iff]
    intro bad
    exact line (control bad ▸ List.mem_cons_self)

theorem dropBreak_of_printed {input : List Char}
    (printed : ∀ c, input.head? = some c → isControl c = false) : dropBreak input = input := by
  unfold dropBreak
  split
  · exact absurd (printed _ rfl) (by decide)
  · exact absurd (printed _ rfl) (by decide)
  · rfl

theorem written_escapedText (run : Nat) (text : List Char) :
    Written '"' run text (escapedText 2 true run text) := by
  induction text generalizing run with
  | nil => exact .nil run
  | cons c text ih =>
    unfold escapedText
    split
    · rename_i same
      subst same
      split
      · rename_i few
        exact .quote few (ih _)
      · exact .other (piece_spelled spelled_quote) (ih 0)
    · split
      · rename_i same
        subst same
        exact .other (piece_break (by decide)) (ih 0)
      · rename_i quote line
        exact .other (piece_spelled (spelled_escaped quote line)) (ih 0)

theorem le_longestRun (c : Char) (run longest : Nat) (text : List Char) :
    longest ≤ longestRun c run longest text := by
  induction text generalizing run longest with
  | nil => exact Nat.le_refl _
  | cons d rest ih =>
    unfold longestRun
    split
    · exact Nat.le_trans (Nat.le_max_left _ _) (ih _ _)
    · exact ih _ _

theorem not_mem_of_longestRun {c : Char} {run longest : Nat} {text : List Char}
    (none : longestRun c run longest text = 0) : c ∉ text := by
  induction text generalizing run longest with
  | nil => exact List.not_mem_nil
  | cons d rest ih =>
    unfold longestRun at none
    split at none
    · have low := le_longestRun c (run + 1) (max longest (run + 1)) rest
      omega
    · rename_i other
      rw [List.mem_cons, not_or]
      exact ⟨Ne.symm other, ih none⟩

theorem written_literal {text : List Char} (free : ∀ c ∈ text, needsEscape c = false)
    {run longest : Nat} (few : longestRun '\'' run longest text ≤ 2) :
    Written '\'' run text text := by
  induction text generalizing run longest with
  | nil => exact .nil run
  | cons c text ih =>
    obtain ⟨here, later⟩ := List.forall_mem_cons.mp free
    unfold longestRun at few
    split at few
    · rename_i same
      subst same
      have low := le_longestRun '\'' (run + 1) (max longest (run + 1)) text
      exact .quote (by omega) (ih later few)
    · rename_i other
      exact .other (piece_literal other here) (ih later few)

/-! Every text between its quotes. -/

def TextEnds (rest : List Char) : Prop := rest.head? ≠ some '"' ∧ rest.head? ≠ some '\''

/-- A quote that two more do not follow opens a text on one line. -/
theorem quoted?_line {quote : Char} (kind : quote = '"' ∨ quote = '\'') {body : List Char}
    (single : ∀ tail, body ≠ quote :: quote :: tail) :
    quoted? (quote :: body) = some (lineText quote 0 [] body) := by
  rcases kind with rfl | rfl
  · rw [quoted?]
    exact single
  · rw [quoted?]
    exact single

theorem quoted?_basic (text : List Char) {rest : List Char} (ends : rest.head? ≠ some '"') :
    quoted? (between ['"'] false (escapedText 0 false 0 text) ++ rest) =
      some (some (String.ofList text, rest)) := by
  have single : ∀ tail, escapedText 0 false 0 text ++ '"' :: rest ≠ '"' :: '"' :: tail := by
    intro tail same
    cases text with
    | nil =>
      obtain ⟨-, same⟩ := List.cons.inj same
      exact ends (by rw [same]; rfl)
    | cons c text =>
      obtain ⟨piece, spelled, whole⟩ := escapedText_cons c text
      rw [whole] at same
      cases spelled with
      | plain printed quote slash => exact quote (List.cons.inj same).1
      | escape => cases (List.cons.inj same).1
  have read := quoted?_line (.inl rfl) single
  rw [lineText_escapedText] at read
  simpa [between] using read

theorem quoted?_literal {text : List Char} (filled : text ≠ [])
    (plain : ∀ c ∈ text, c ≠ '\'' ∧ isControl c = false) (rest : List Char) :
    quoted? (between ['\''] false text ++ rest) = some (some (String.ofList text, rest)) := by
  have single : ∀ tail, text ++ '\'' :: rest ≠ '\'' :: '\'' :: tail := by
    intro tail same
    obtain ⟨c, others, rfl⟩ := List.exists_cons_of_ne_nil filled
    exact (plain c List.mem_cons_self).1 (List.cons.inj same).1
  have read := quoted?_line (.inr rfl) single
  rw [lineText_literal plain] at read
  simpa [between] using read

theorem quoted?_lines {quote : Char} (kind : quote = '"' ∨ quote = '\'')
    {text written : List Char} (given : Written quote 0 text written)
    {rest : List Char} (ends : rest.head? ≠ some quote) :
    quoted? (between [quote, quote, quote] (text.contains '\n') written ++ rest) =
      some (some (String.ofList text, rest)) := by
  have read := given.reads (Nat.zero_le 2) [] ends
  have printed : isControl quote = false := by rcases kind with rfl | rfl <;> rfl
  have body : dropBreak ((if text.contains '\n' then ['\n'] else []) ++
      (written ++ (List.replicate 3 quote ++ rest))) =
        written ++ (List.replicate 3 quote ++ rest) := by
    cases line : text.contains '\n' with
    | true => rfl
    | false =>
      refine dropBreak_of_printed (given.begins printed ?_ _)
      simpa using line
  rw [← body] at read
  have whole : between [quote, quote, quote] (text.contains '\n') written ++ rest =
      quote :: quote :: quote :: ((if text.contains '\n' then ['\n'] else []) ++
        (written ++ (List.replicate 3 quote ++ rest))) := by
    simp [between, List.replicate]
  rw [whole]
  rcases kind with rfl | rfl
  · simp only [quoted?, read, List.reverse_nil, List.nil_append]
  · simp only [quoted?, read, List.reverse_nil, List.nil_append]

/-- A text that holds no quote of the kind and nothing to escape may stand on one line. -/
theorem plain_of_contents {text : List Char} (free : (contents text).escapes = false)
    (single : (contents text).single = 0) (line : (contents text).lineBreak = false) :
    ∀ c ∈ text, c ≠ '\'' ∧ isControl c = false := by
  intro c member
  refine ⟨fun same => not_mem_of_longestRun single (same ▸ member), ?_⟩
  have printed : needsEscape c = false := by
    rw [Bool.eq_false_iff]
    exact List.any_eq_false.mp free c member
  rw [Bool.eq_false_iff, Ne, isControl_iff, printed]
  rintro (bad | rfl)
  · cases bad
  · simp [contents] at line
    exact line member

theorem quoting_literal {found : Contents} (kind : quoting found = .literal) :
    found.escapes = false ∧ found.single = 0 ∧ found.lineBreak = false := by
  simp only [quoting] at kind
  grind

theorem quoting_literalLines {found : Contents} (kind : quoting found = .literalLines) :
    found.escapes = false ∧ found.single ≤ 2 := by
  simp only [quoting] at kind
  grind

/-- A printed text is read back where no quote follows it. -/
theorem quoted?_textValue (text : String) {rest : List Char} (ends : TextEnds rest) :
    quoted? ((textValue text).toList ++ rest) = some (some (text, rest)) := by
  rw [textValue]
  cases kind : quoting (contents text.toList) with
  | basic => simpa [kind] using quoted?_basic text.toList ends.1
  | literal =>
    obtain ⟨free, single, line⟩ := quoting_literal kind
    have filled : text.toList ≠ [] := by
      intro none
      rw [none] at kind
      cases kind
    simpa [kind] using quoted?_literal filled (plain_of_contents free single line) rest
  | basicLines =>
    simpa [kind, contents] using quoted?_lines (.inl rfl) (written_escapedText 0 text.toList) ends.1
  | literalLines =>
    obtain ⟨free, few⟩ := quoting_literalLines kind
    have free : ∀ c ∈ text.toList, needsEscape c = false := by
      simpa [contents] using free
    simpa [kind, contents] using quoted?_lines (.inr rfl) (written_literal free few) ends.2

end Raid.Toml

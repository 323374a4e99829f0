import Raid.Json.Printer
import Raid.Json.Reader

/-!
The parts of printed values are read back as they were: quoted texts, and whole numbers that the
reader keeps exactly. Blanks in front of a part are skipped.
-/

namespace Raid

def Number.fits : Number → Bool
  | .whole (.ofNat value) => value ≤ Json.Reader.greatestWhole
  | .whole (.negSucc value) => value < Nat.pow 2 63
  | .real _ => false

namespace Json

open Text (hexText)

def hexOf? : List Char → Option Nat
  | [a, b, c, d] => Reader.hexQuad? a b c d
  | _ => none

theorem hexText_control {code : Nat} (control : code < 32) :
    ∃ a b c d, hexText 4 code = [a, b, c, d] ∧ Reader.hexQuad? a b c d = some code := by
  have each : ∀ code : Fin 32, hexOf? (hexText 4 code) = some code.val := by decide
  have own := each ⟨code, control⟩
  unfold hexOf? at own
  split at own
  · exact ⟨_, _, _, _, ‹_›, own⟩
  · cases own

/-- A character is read back as it was escaped. -/
theorem quoted_escaped_one (c : Char) (read input : List Char) :
    Reader.quoted read (escaped c ++ input) = Reader.quoted (c :: read) input := by
  unfold escaped
  split
  case h_8 quote slash _ _ _ _ _ =>
    split
    · rename_i control
      obtain ⟨a, b, d, e, written, number⟩ := hexText_control control
      have low : ¬(0xD800 ≤ c.toNat) := by omega
      have lower : ¬(0xDC00 ≤ c.toNat) := by omega
      simp [written, Reader.quoted, number, low, lower]
    · rename_i printed
      rw [List.singleton_append, Reader.quoted, if_neg printed]
      · exact fun same => quote same
      · exact fun _ _ _ _ _ same => (slash same).elim
      · exact fun _ _ same => (slash same).elim
  all_goals simp [Reader.quoted, Reader.shortEscape?]

/-- A text is read back up to the closing quote. -/
theorem quoted_escaped (text read rest : List Char) :
    Reader.quoted read (text.flatMap escaped ++ '"' :: rest) =
      some (String.ofList (read.reverse ++ text), rest) := by
  induction text generalizing read with
  | nil => simp [Reader.quoted]
  | cons c text ih =>
    rw [List.flatMap_cons, List.append_assoc, quoted_escaped_one, ih]
    simp

theorem le_ofDigitChars (digits : List Char) (total : Nat) :
    total ≤ Nat.ofDigitChars 10 digits total := by
  induction digits generalizing total with
  | nil => simp
  | cons c rest ih =>
    rw [Nat.ofDigitChars_cons]
    have later := ih (10 * total + (c.toNat - '0'.toNat))
    omega

theorem significand_digits {digits : List Char} {total : Nat}
    (small : Nat.ofDigitChars 10 digits total ≤ Reader.greatestWhole) :
    Reader.significand total digits = (Nat.ofDigitChars 10 digits total, []) := by
  induction digits generalizing total with
  | nil => simp [Reader.significand]
  | cons c rest ih =>
    have zero : '0'.toNat = 48 := rfl
    rw [Nat.ofDigitChars_cons, Nat.mul_comm, zero] at small ⊢
    have inside := Nat.le_trans (le_ofDigitChars rest _) small
    rw [Reader.significand, if_neg (Nat.not_lt.mpr inside)]
    exact ih small

theorem toDigits_head {n : Nat} (positive : 0 < n) : (Nat.toDigits 10 n).head? ≠ some '0' := by
  induction n using Nat.strongRecOn with
  | ind n ih =>
    by_cases small : n < 10
    · rw [Nat.toDigits_of_lt_base small]
      have each : ∀ n : Fin 10, 0 < n.val → n.val.digitChar ≠ '0' := by decide
      simpa using each ⟨n, small⟩ positive
    · rw [Nat.toDigits_of_base_le (by omega) (by omega), List.head?_append]
      have front := ih (n / 10) (by omega) (by omega)
      cases digits : Nat.toDigits 10 (n / 10) with
      | nil => exact absurd digits Nat.toDigits_ne_nil
      | cons c rest =>
        rw [digits] at front
        exact front

def NumberEnds (rest : List Char) : Prop :=
  ∀ c, rest.head? = some c → c.isDigit = false ∧ c ≠ '.' ∧ c ≠ 'e' ∧ c ≠ 'E'

/-- What is read of digits is the number that they are, without a fraction or an exponent. -/
theorem number_digits {digits : List Char} (each : ∀ c ∈ digits, c.isDigit = true)
    (first : digits ≠ []) (single : ¬(digits.head? = some '0' ∧ 1 < digits.length))
    {rest : List Char} (ends : NumberEnds rest) :
    Reader.number (digits ++ rest) =
        (Reader.numberOfParts false digits none none).map (·, rest) ∧
      Reader.number ('-' :: (digits ++ rest)) =
        (Reader.numberOfParts true digits none none).map (·, rest) := by
  have stops : rest.takeWhile Char.isDigit = [] ∧ rest.dropWhile Char.isDigit = rest := by
    cases rest with
    | nil => simp
    | cons c rest => simp [(ends c rfl).1]
  have front : (digits ++ rest).takeWhile Char.isDigit = digits := by
    rw [List.takeWhile_append_of_pos each, stops.1, List.append_nil]
  have back : (digits ++ rest).dropWhile Char.isDigit = rest := by
    rw [List.dropWhile_append_of_pos each, stops.2]
  have refused : ¬(digits.isEmpty = true ∨ (digits.head? = some '0' ∧ 1 < digits.length)) := by
    simpa [first] using single
  have unsigned : ∀ tail, digits ++ rest ≠ '-' :: tail := by
    rintro tail same
    obtain ⟨c, others, rfl⟩ := List.exists_cons_of_ne_nil first
    obtain ⟨rfl, -⟩ := List.cons.inj same
    simp at each
  have stop {c : Char} {tail : List Char} (same : rest = c :: tail) :
      c ≠ '.' ∧ ¬(c = 'e' ∨ c = 'E') := by
    obtain ⟨-, point, small, great⟩ := ends c (by rw [same]; rfl)
    exact ⟨point, by simp [small, great]⟩
  constructor
  all_goals
    simp only [Reader.number, front, back, if_neg refused]
    cases rest with
    | nil => simp only [Option.bind_eq_bind, Option.bind_some, Option.map_eq_bind]; rfl
    | cons c rest =>
      obtain ⟨point, whole⟩ := stop rfl
      simp only [List.cons.injEq, point, false_and, imp_self, implies_true, Option.bind_eq_bind,
        Option.bind_some, whole, if_false, Option.map_eq_bind]
      rfl

theorem number_nat {n : Nat} {rest : List Char} (ends : NumberEnds rest) :
    Reader.number (Nat.toDigits 10 n ++ rest) =
        (Reader.numberOfParts false (Nat.toDigits 10 n) none none).map (·, rest) ∧
      Reader.number ('-' :: (Nat.toDigits 10 n ++ rest)) =
        (Reader.numberOfParts true (Nat.toDigits 10 n) none none).map (·, rest) := by
  refine number_digits (fun c member => Nat.isDigit_of_mem_toDigits (by decide) (by decide) member)
    Nat.toDigits_ne_nil ?_ ends
  rintro ⟨zero, long⟩
  cases n with
  | zero => simp at long
  | succ n => exact toDigits_head (Nat.succ_pos n) zero

theorem numberOfParts_nat {n : Nat} (small : n ≤ Reader.greatestWhole) (negative : Bool) :
    Reader.numberOfParts negative (Nat.toDigits 10 n) none none =
      if negative then
        if n = 0 then some (.real (Binary64.zero true))
        else if n ≤ Nat.pow 2 63 then some (.whole (-(n : Int)))
        else (Reader.realOfParts true n 0).map .real
      else some (.whole n) := by
  have whole : Nat.ofDigitChars 10 (Nat.toDigits 10 n) 0 = n :=
    Nat.ofDigitChars_toDigits (by decide) (by decide)
  have read : Reader.significand 0 (Nat.toDigits 10 n) = (n, []) := by
    rw [significand_digits (by rwa [whole]), whole]
  simp [Reader.numberOfParts, read]

/-- A whole number is read back. -/
theorem number_toString {value : Int} (fits : (Number.whole value).fits = true)
    {rest : List Char} (ends : NumberEnds rest) :
    Reader.number ((toString value).toList ++ rest) = some (.whole value, rest) := by
  cases value with
  | ofNat n =>
    have small : n ≤ Reader.greatestWhole := by simpa [Number.fits] using fits
    change Reader.number ((Nat.repr n).toList ++ rest) = _
    rw [Nat.toList_repr, (number_nat ends).1, numberOfParts_nat small]
    rfl
  | negSucc n =>
    have small : n < Nat.pow 2 63 := by simpa [Number.fits] using fits
    change Reader.number (("-" ++ Nat.repr (n + 1)).toList ++ rest) = _
    have inside : n + 1 ≤ Reader.greatestWhole :=
      Nat.le_trans (Nat.succ_le_of_lt small) (by decide)
    rw [String.toList_append, Nat.toList_repr]
    change Reader.number ('-' :: (Nat.toDigits 10 (n + 1) ++ rest)) = _
    rw [(number_nat ends).2, numberOfParts_nat inside]
    simp [Nat.succ_le_of_lt small, Int.negSucc_eq]

theorem toString_head (value : Int) :
    ∃ c text, (toString value).toList = c :: text ∧ (c.isDigit = true ∨ c = '-') := by
  cases value with
  | ofNat n =>
    obtain ⟨c, text, digits⟩ := List.exists_cons_of_ne_nil (@Nat.toDigits_ne_nil n 10)
    have digit : c.isDigit = true :=
      @Nat.isDigit_of_mem_toDigits 10 n c (by decide) (by decide)
        (by rw [digits]; exact List.mem_cons_self)
    refine ⟨c, text, ?_, .inl digit⟩
    change (Nat.repr n).toList = _
    rw [Nat.toList_repr, digits]
  | negSucc n =>
    refine ⟨'-', (Nat.repr (n + 1)).toList, ?_, .inr rfl⟩
    change ("-" ++ Nat.repr (n + 1)).toList = _
    rw [String.toList_append]
    rfl

theorem skipBlanks_append {blanks : List Char} (blank : ∀ c ∈ blanks, Reader.isBlank c = true)
    (input : List Char) : Reader.skipBlanks (blanks ++ input) = Reader.skipBlanks input :=
  List.dropWhile_append_of_pos blank

theorem skipBlanks_cons {c : Char} (filled : Reader.isBlank c = false) (input : List Char) :
    Reader.skipBlanks (c :: input) = c :: input := by
  simp [Reader.skipBlanks, filled]

theorem filled_of_number {c : Char} (first : c.isDigit = true ∨ c = '-') :
    Reader.isBlank c = false := by
  simp only [Reader.isBlank, Bool.or_eq_false_iff, decide_eq_false_iff_not]
  refine ⟨⟨⟨?_, ?_⟩, ?_⟩, ?_⟩
  all_goals
    rintro rfl
    simp at first

end Json

end Raid

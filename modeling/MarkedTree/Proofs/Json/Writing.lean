import Mathlib.Data.List.Forall2
import Mathlib.Data.List.TakeDrop
import MarkedTree.Json.Record
import MarkedTree.Proofs.Json.Reading

/-!
# Reading what was written

What the writers write is JSON, and the readers get back from it what was written.
Words come first: a word in decimal is a JSON number without fraction and exponent.
Reading takes the digits one at a time, and no digit takes it beyond the number that
was written.
-/

namespace MarkedTree.Json

/-- Only zero is written with the digit zero in front. -/
theorem head?_writeNat {n : Nat} (positive : 0 < n) : (writeNat n).head? ≠ some '0' := by
  induction n using Nat.strongRecOn with
  | ind n hypothesis =>
      rw [writeNat, Nat.toDigits_eq_if (by decide)]
      split
      case isTrue =>
        rw [List.head?_cons, Ne, Option.some.injEq, Nat.digitChar_eq_zero]
        exact Nat.ne_of_gt positive
      case isFalse large =>
        have isHead := hypothesis (n / 10) (by omega) (by omega)
        rw [writeNat] at isHead
        rwa [List.head?_append_of_ne_nil _ Nat.toDigits_ne_nil]

theorem isDigits_writeNat (n : Nat) : IsDigits (writeNat n) :=
  ⟨Nat.toDigits_ne_nil, fun _ member => Nat.isDigit_of_mem_toDigits (by decide) (by decide) member⟩

theorem exists_digit_writeNat (n : Nat) :
    ∃ c others, writeNat n = c :: others ∧ c.isDigit = true := by
  rcases isDigits_writeNat n with ⟨notEmpty, areDigits⟩
  cases written : writeNat n with
  | nil => exact absurd written notEmpty
  | cons c others => exact ⟨c, others, rfl, areDigits c (written ▸ List.mem_cons_self)⟩

theorem isNumber_writeNat (n : Nat) : IsNumber (writeNat n) := by
  have isWhole : writeNat n = ['0'] ∨ IsDigits (writeNat n) ∧ (writeNat n).head? ≠ some '0' := by
    rcases Nat.eq_zero_or_pos n with rfl | positive
    · exact .inl rfl
    · exact .inr ⟨isDigits_writeNat n, head?_writeNat positive⟩
  have isNumber := IsNumber.intro (.inl rfl) isWhole (.inl rfl) (.inl rfl)
  rwa [List.nil_append, List.append_nil, List.append_nil] at isNumber

/-- Putting digits behind a number goes on as long as the result fits in a word. -/
theorem appendDigits_of_lt {read : List Char} {size : Nat}
    (fits : Nat.ofDigitChars 10 read size < UInt64.size) :
    appendDigits size read = (Nat.ofDigitChars 10 read size, []) := by
  induction read generalizing size with
  | nil => rfl
  | cons c read hypothesis =>
      rw [Nat.ofDigitChars_cons] at fits ⊢
      -- more digits only make the number larger, so it fits before them too
      have grows : 10 * size + (c.toNat - 48) < UInt64.size := by
        rw [Nat.ofDigitChars_eq_ofDigitChars_zero] at fits
        exact Nat.lt_of_le_of_lt (Nat.le_add_right_of_le
          (Nat.le_mul_of_pos_left _ (Nat.pow_pos (by decide)))) fits
      rw [appendDigits]
      exact (if_pos grows).trans (hypothesis fits)

theorem appendDigits_writeNat {n : Nat} (fits : n < UInt64.size) :
    appendDigits 0 (writeNat n) = (n, []) := by
  have value : Nat.ofDigitChars 10 (writeNat n) 0 = n := Nat.ofDigitChars_ten_toDigits
  rw [appendDigits_of_lt (by rwa [value]), value]

/-- What may follow a value does not go on with a number. -/
theorem Ends.notNumeral {c : Char} {rest : List Char} (ends : Ends (c :: rest)) :
    c.isDigit = false ∧ c ∉ ['.', 'e', 'E'] := by
  have isEnd := ends c rfl
  simp only [white, List.mem_cons, List.not_mem_nil, or_false] at isEnd
  rcases isEnd with (rfl | rfl | rfl | rfl) | rfl | rfl | rfl <;> decide

theorem digits_append {read rest : List Char} (areDigits : ∀ c ∈ read, c.isDigit = true)
    (ends : Ends rest) : digits (read ++ rest) = (read, rest) := by
  rw [digits, List.span_eq_takeWhile_dropWhile, List.takeWhile_append_of_pos areDigits,
    List.dropWhile_append_of_pos areDigits]
  cases rest with
  | nil => rw [List.takeWhile_nil, List.dropWhile_nil, List.append_nil]
  | cons c rest =>
      have notDigit := Bool.eq_false_iff.mp ends.notNumeral.1
      rw [List.takeWhile_cons_of_neg notDigit, List.dropWhile_cons_of_neg notDigit,
        List.append_nil]

theorem wholePart_writeNat {n : Nat} {rest : List Char} (ends : Ends rest) :
    wholePart (writeNat n ++ rest) = .ok (writeNat n, rest) := by
  rcases Nat.eq_zero_or_pos n with rfl | positive
  · have nothing : ∀ c ∈ ([] : List Char), c.isDigit = true :=
      fun _ member => absurd member List.not_mem_nil
    have noDigits : (digits rest).1 = [] := congrArg Prod.fst (digits_append nothing ends)
    change wholePart ('0' :: rest) = .ok (['0'], rest)
    rw [wholePart, if_pos rfl, noDigits]
    rfl
  · have areDigits := (isDigits_writeNat n).2
    have notZero := head?_writeNat positive
    rcases exists_digit_writeNat n with ⟨c, others, written, isDigit⟩
    rw [written] at areDigits notZero ⊢
    rw [List.cons_append, wholePart, if_neg fun same => notZero (congrArg some same),
      if_pos isDigit, ← List.cons_append, digits_append areDigits ends]

theorem fractionPart_of_ends {rest : List Char} (ends : Ends rest) :
    fractionPart rest = .ok ([], rest) := by
  unfold fractionPart
  split
  case h_1 => exact absurd ends.notNumeral.2 (by decide)
  case h_2 => rfl

theorem exponentPart_of_ends {rest : List Char} (ends : Ends rest) :
    exponentPart rest = .ok (none, rest) := by
  cases rest with
  | nil => rfl
  | cons c rest =>
      have notExponent : ¬(decide (c = 'e') || decide (c = 'E')) = true := by
        have notIn := ends.notNumeral.2
        rw [Bool.or_eq_true, decide_eq_true_iff, decide_eq_true_iff]
        rintro (rfl | rfl) <;> exact notIn (by decide)
      unfold exponentPart
      exact if_neg notExponent

def IsWord (value : Value) (word : UInt32) : Prop := value = .number (writeNat word.toNat)

theorem numeral_writeNat {n : Nat} {rest : List Char} (ends : Ends rest) :
    numeral (writeNat n ++ rest) = .ok (⟨false, writeNat n, [], none⟩, rest) := by
  have unsigned : ∀ others, writeNat n ++ rest ≠ '-' :: others := by
    intro others sign
    rcases exists_digit_writeNat n with ⟨c, digits, written, isDigit⟩
    rw [written] at sign
    cases sign
    exact absurd isDigit (by decide)
  unfold numeral
  split
  case h_1 negative text sign =>
    split at sign
    case h_1 others same => exact absurd same (unsigned others)
    case h_2 =>
      cases sign
      refine bind_eq_ok_iff.mpr ⟨_, wholePart_writeNat ends, ?_⟩
      refine bind_eq_ok_iff.mpr ⟨_, fractionPart_of_ends ends, ?_⟩
      exact bind_eq_ok_iff.mpr ⟨_, exponentPart_of_ends ends, rfl⟩

theorem number_writeNat {n : Nat} {rest : List Char} (fits : n < UInt64.size)
    (ends : Ends rest) : number (writeNat n ++ rest) = .ok (.integer n, rest) := by
  have isInteger : Numeral.found? ⟨false, writeNat n, [], none⟩ = some (.integer n) := by
    simp [Numeral.found?, Numeral.integer?, appendDigits_writeNat fits]
  refine bind_eq_ok_iff.mpr ⟨_, numeral_writeNat ends, ?_⟩
  simp only [isInteger]
  rfl

theorem reads_word32 : Reads word32 IsWord := by
  rintro text front rest value word before stands ends rfl
  have skipped := stands.skipSpace_eq before
  have small : word.toNat < UInt32.size := word.toNat_lt
  cases stands with
  | number =>
      have isNumber := number_writeNat (Nat.lt_trans small (by decide)) ends
      have inRange : (decide (0 ≤ (word.toNat : Int)) &&
          decide ((word.toNat : Int) < UInt32.size)) = true := by
        rw [Bool.and_eq_true, decide_eq_true_iff, decide_eq_true_iff]
        omega
      have kept : UInt32.ofNat (Int.toNat word.toNat) = word := by
        rw [Int.toNat_natCast, UInt32.ofNat_toNat]
      rcases exists_digit_writeNat word.toNat with ⟨c, digits, written, isDigit⟩
      rw [written] at isNumber skipped
      have isNumeral : (decide (c = '-') || c.isDigit) = true := by
        rw [isDigit, Bool.or_true]
      unfold word32
      dsimp only
      rw [skipped]
      refine (if_pos isNumeral).trans (bind_eq_ok_iff.mpr ⟨_, isNumber, ?_⟩)
      refine (if_pos inRange).trans ?_
      rw [kept]
      rfl

/-!
## What is written is JSON

Each writer is followed by the grammar, for any text that may stand behind what it
writes.  Escaping is the only place where characters count: every character is
spelled by its escape, control characters by code unit.
-/

variable {α : Type}

/-- The text stands for the value, whatever is behind it. -/
def Writes (text : List Char) (value : Value) : Prop :=
  ∀ rest, Stands (text ++ rest) value rest

theorem unitEscapes_control {c : Char} (isControl : c.toNat < 0x20) {rest : List Char} :
    UnitEscapes ('\\' :: 'u' :: '0' :: '0' :: (c.toNat / 16).digitChar ::
      (c.toNat % 16).digitChar :: rest) (utf16 c) rest := by
  have units : utf16 c = [((0 * 16 + 0) * 16 + c.toNat / 16) * 16 + c.toNat % 16] := by
    rw [utf16, if_pos (by omega)]
    congr 1
    omega
  rw [units]
  exact .cons ⟨by decide, .inl rfl⟩ ⟨by decide, .inl rfl⟩ ⟨by omega, .inl rfl⟩
    ⟨by omega, .inl rfl⟩ .nil

/-- A character is spelled by what is written for it. -/
theorem spelled_escaped (c : Char) {text characters rest : List Char}
    (others : Spelled text characters rest) :
    Spelled (escaped c ++ text) (c :: characters) rest := by
  unfold escaped
  split
  case h_8 noQuote noBackslash _ _ _ _ _ =>
    split
    case isTrue isControl => exact .units (unitEscapes_control isControl) others
    case isFalse notControl =>
      exact .plain noQuote noBackslash (Nat.le_of_not_lt notControl) others
  all_goals exact .letter (by decide) others

theorem spelled_flatMap_escaped (characters rest : List Char) :
    Spelled (characters.flatMap escaped ++ '"' :: rest) characters rest := by
  induction characters with
  | nil => exact .close
  | cons c characters hypothesis =>
      rw [List.flatMap_cons, List.append_assoc]
      exact spelled_escaped c hypothesis

theorem writeString_append (text : String) (rest : List Char) :
    writeString text ++ rest = '"' :: (text.toList.flatMap escaped ++ '"' :: rest) := by
  simp [writeString]

theorem writes_writeString (text : String) : Writes (writeString text) (.string text) := by
  intro rest
  rw [writeString_append]
  have stands := Stands.string (spelled_flatMap_escaped text.toList rest)
  rwa [String.ofList_toList] at stands

theorem writes_writeNat (n : Nat) : Writes (writeNat n) (.number (writeNat n)) :=
  fun _ => .number (isNumber_writeNat n)

/-- Items that are written one by one are written with commas between them. -/
theorem separated_of_written {form : List Char → α → List Char → Prop} {text : List Char}
    {texts : List (List Char)} {item : α} {items : List α}
    (written : List.Forall₂ (fun text item => ∀ rest, form (text ++ rest) item rest)
      (text :: texts) (item :: items)) (rest : List Char) :
    Separated form (separated (text :: texts) ++ rest) (item :: items) rest := by
  induction texts generalizing text item items with
  | nil =>
      cases written with
      | cons stands others =>
          cases others
          exact .one (stands rest)
  | cons next texts hypothesis =>
      cases written with
      | cons stands others =>
          cases others with
          | cons nextStands others =>
              rw [separated, List.append_assoc, List.append_assoc]
              · exact .more (stands _) (hypothesis (.cons nextStands others))
              · simp

theorem writes_writeSequence {texts : List (List Char)} {values : List Value}
    (written : List.Forall₂ Writes texts values) :
    Writes (writeSequence texts) (.array values) := by
  intro rest
  have padded : List.Forall₂ (fun text value => ∀ rest, Padded Stands (text ++ rest) value rest)
      texts values :=
    written.imp fun _ _ written rest => .item (written rest) .none
  cases written with
  | nil => exact .emptyArray .none
  | cons _ _ =>
      have stands := Stands.array (separated_of_written padded (']' :: rest))
      simpa [writeSequence] using stands

theorem member_of_written {key : String} {text : List Char} {value : Value}
    (written : Writes text value) (rest : List Char) :
    Member Stands (writeString key ++ [':'] ++ text ++ rest) (key, value) rest := by
  refine member_iff.mpr ⟨_, key.toList, _, _, ?_, spelled_flatMap_escaped _ _, .none,
    .item (written rest) .none, String.ofList_toList.symm⟩
  simp only [List.append_assoc, List.cons_append, List.nil_append, writeString_append]
  exact .none

theorem writes_writeObject {texts : List (String × List Char)} {fields : List (String × Value)}
    (written : List.Forall₂ (fun text field => text.1 = field.1 ∧ Writes text.2 field.2)
      texts fields) : Writes (writeObject texts) (.object fields) := by
  intro rest
  have members : List.Forall₂ (fun text field => ∀ rest, Member Stands (text ++ rest) field rest)
      (texts.map fun text => writeString text.1 ++ [':'] ++ text.2) fields := by
    rw [List.forall₂_map_left_iff]
    refine written.imp ?_
    rintro ⟨key, text⟩ ⟨_, value⟩ ⟨rfl, written⟩ rest
    exact member_of_written written rest
  cases written with
  | nil => exact .emptyObject .none
  | cons _ _ =>
      have stands := Stands.object (separated_of_written members ('\x7d' :: rest))
      simpa [writeObject] using stands

variable {shape : Value → α → Prop}

/-- The text stands for a value that has the shape for the item. -/
def Carries (shape : Value → α → Prop) (text : List Char) (item : α) : Prop :=
  ∃ value, Writes text value ∧ shape value item

theorem carries_writeSequence {texts : List (List Char)} {items : List α}
    (carried : List.Forall₂ (Carries shape) texts items) :
    Carries (IsSequence shape) (writeSequence texts) items := by
  have values : ∃ values, List.Forall₂ Writes texts values ∧ List.Forall₂ shape values items := by
    induction carried with
    | nil => exact ⟨[], .nil, .nil⟩
    | cons first _ hypothesis =>
        rcases first with ⟨value, written, isItem⟩
        rcases hypothesis with ⟨values, others, areItems⟩
        exact ⟨value :: values, .cons written others, .cons isItem areItems⟩
  rcases values with ⟨values, written, areItems⟩
  exact ⟨.array values, writes_writeSequence written, values, rfl, areItems⟩

/-- The text is JSON, and the reader gets the item back from it. -/
structure ReadsBack (read : Reader α) (text : List Char) (item : α) : Prop where
  isText : ∃ value, IsText (String.ofList text) value
  decoded : decode read (String.ofList text) = .ok item

theorem Reads.readsBack {read : Reader α} (reads : Reads read shape) {text : List Char} {item : α}
    (carried : Carries shape text item) : ReadsBack read text item := by
  rcases carried with ⟨value, written, isItem⟩
  have isText : IsText (String.ofList text) value := by
    have stands := written []
    rw [List.append_nil] at stands
    rw [IsText, String.toList_ofList]
    exact .item stands .none
  exact ⟨⟨value, isText⟩, reads.decode_eq_ok isText isItem⟩

end MarkedTree.Json

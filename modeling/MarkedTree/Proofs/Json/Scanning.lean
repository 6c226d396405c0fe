import MarkedTree.Json.Reader
import MarkedTree.Proofs.Json.Grammar

/-!
# What scanning passes over

The functions that readers are made of, in terms of the grammar: what is left when
white space, a word, a mark, a separator or a bracket has been passed.
-/

namespace MarkedTree.Json

variable {text rest : List Char} {c : Char}

theorem isSpace_iff : isSpace c = true ↔ c ∈ white := by
  simp [isSpace, white, or_assoc]

theorem spaces_skipSpace : ∀ text : List Char, Spaces text (skipSpace text)
  | [] => .none
  | c :: text => by
      rw [skipSpace, List.dropWhile_cons]
      split
      case isTrue isWhite => exact .more (isSpace_iff.mp isWhite) (spaces_skipSpace text)
      case isFalse => exact .none

theorem Spaces.skipSpace_eq (spaces : Spaces text rest) : skipSpace text = skipSpace rest := by
  induction spaces with
  | none => rfl
  | more isWhite _ hypothesis =>
      rw [skipSpace, List.dropWhile_cons, if_pos (isSpace_iff.mpr isWhite)]
      exact hypothesis

theorem skipSpace_cons (notWhite : c ∉ white) : skipSpace (c :: text) = c :: text := by
  rw [skipSpace, List.dropWhile_cons, if_neg (mt isSpace_iff.mp notWhite)]

theorem skipSpace_eq_nil_iff : skipSpace text = [] ↔ Spaces text [] := by
  constructor
  · intro skipped
    exact skipped ▸ spaces_skipSpace text
  · intro spaces
    exact spaces.skipSpace_eq

theorem skipSpace_eq_cons_iff (notWhite : c ∉ white) :
    skipSpace text = c :: rest ↔ Spaces text (c :: rest) := by
  constructor
  · intro skipped
    exact skipped ▸ spaces_skipSpace text
  · intro spaces
    rw [spaces.skipSpace_eq, skipSpace_cons notWhite]

theorem word_eq_ok_iff {wanted text : List Char} :
    word wanted text = .ok rest ↔ text = wanted ++ rest := by
  induction wanted generalizing text with
  | nil =>
      rw [word, List.nil_append]
      exact ⟨Except.ok.inj, congrArg Except.ok⟩
  | cons first wanted hypothesis =>
      cases text with
      | nil => simp [word]
      | cons c text =>
          rw [word, List.cons_append, List.cons.injEq]
          split
          case isTrue same => simp [same, hypothesis]
          case isFalse differs => simp [differs]

theorem mark_eq_ok_iff (notWhite : c ∉ white) :
    mark c text = .ok rest ↔ Spaces text (c :: rest) := by
  rw [mark, word_eq_ok_iff, ← skipSpace_eq_cons_iff notWhite]
  rfl

theorem nextItem_eq_close_iff {first : Bool} :
    nextItem first text = .ok (.close rest) ↔ Spaces text (']' :: rest) := by
  rw [← skipSpace_eq_cons_iff (by decide)]
  constructor
  · intro next
    unfold nextItem at next
    split at next
    case h_1 => cases next
    case h_2 skipped =>
      cases next
      exact skipped
    case h_3 =>
      split at next
      case isTrue => cases next
      case isFalse =>
        split at next
        case h_1 => split at next <;> cases next
        case h_2 => cases next
  · intro skipped
    rw [nextItem, skipped]
    rfl

/-- A first item is what comes next, unless it is the closing bracket. -/
theorem nextItem_true_eq_item_iff :
    nextItem true text = .ok (.item rest) ↔
      skipSpace text = rest ∧ rest ≠ [] ∧ ∀ others, rest ≠ ']' :: others := by
  rw [nextItem]
  constructor
  · intro next
    split at next
    case h_1 => cases next
    case h_2 => cases next
    case h_3 notNil notClose =>
      cases next
      exact ⟨rfl, notNil, notClose⟩
  · rintro ⟨rfl, notNil, notClose⟩
    split
    case h_1 skipped => exact absurd skipped notNil
    case h_2 others skipped => exact absurd skipped (notClose others)
    case h_3 => rfl

/-- A later item is like a first one behind a comma. -/
theorem nextItem_false_eq_item_iff :
    nextItem false text = .ok (.item rest) ↔
      ∃ next, Spaces text (',' :: next) ∧ nextItem true next = .ok (.item rest) := by
  simp only [← skipSpace_eq_cons_iff (show ',' ∉ white by decide), nextItem_true_eq_item_iff]
  rw [nextItem]
  constructor
  · intro found
    split at found
    case h_1 => cases found
    case h_2 => cases found
    case h_3 =>
      rw [if_neg Bool.false_ne_true] at found
      split at found
      case h_1 next skipped =>
        split at found
        case h_1 => cases found
        case h_2 => cases found
        case h_3 notNil notClose =>
          cases found
          exact ⟨next, skipped, rfl, notNil, notClose⟩
      case h_2 => cases found
  · rintro ⟨next, skipped, rfl, notNil, notClose⟩
    split
    case h_1 atEnd => simp [skipped] at atEnd
    case h_2 atClose => simp [skipped] at atClose
    case h_3 =>
      rw [if_neg Bool.false_ne_true]
      split
      case h_1 behind atComma =>
        cases skipped.symm.trans atComma
        split
        case h_1 atEnd => exact absurd atEnd notNil
        case h_2 others atClose => exact absurd atClose (notClose others)
        case h_3 => rfl
      case h_2 notComma => exact absurd skipped (notComma next)

theorem keyQuote_eq_ok_iff : keyQuote text = .ok rest ↔ Spaces text ('"' :: rest) := by
  rw [← skipSpace_eq_cons_iff (by decide), keyQuote]
  split
  case h_1 skipped => simp [skipped]
  case h_2 skipped => simp [skipped]
  case h_3 notQuote => simpa using notQuote rest

theorem nextKey_eq_close_iff {first : Bool} :
    nextKey first text = .ok (.close rest) ↔ Spaces text ('\x7d' :: rest) := by
  rw [← skipSpace_eq_cons_iff (by decide)]
  have noClose : ∀ quoted, (keyQuote quoted).map Next.item ≠ .ok (.close rest) := by
    intro quoted
    cases keyQuote quoted <;> simp [Except.map]
  constructor
  · intro next
    unfold nextKey at next
    split at next
    case h_1 => cases next
    case h_2 skipped =>
      cases next
      exact skipped
    case h_3 =>
      split at next
      case isTrue => exact absurd next (noClose _)
      case isFalse =>
        split at next
        case h_1 => exact absurd next (noClose _)
        case h_2 => cases next
  · intro skipped
    rw [nextKey, skipped]
    rfl

private theorem map_item_eq_ok_iff {quoted : Except Fault (List Char)} :
    quoted.map Next.item = .ok (.item rest) ↔ quoted = .ok rest := by
  cases quoted <;> simp [Except.map]

/-- The quote of a first key is what comes next. -/
theorem nextKey_true_eq_item_iff :
    nextKey true text = .ok (.item rest) ↔ Spaces text ('"' :: rest) := by
  constructor
  · intro next
    unfold nextKey at next
    split at next
    case h_1 => cases next
    case h_2 => cases next
    case h_3 =>
      rw [if_pos rfl, map_item_eq_ok_iff, keyQuote_eq_ok_iff] at next
      exact (spaces_skipSpace text).trans next
  · intro spaces
    have quote : keyQuote ('"' :: rest) = .ok rest := keyQuote_eq_ok_iff.mpr .none
    rw [nextKey, (skipSpace_eq_cons_iff (by decide)).mpr spaces]
    change (keyQuote ('"' :: rest)).map Next.item = _
    rw [map_item_eq_ok_iff, quote]

/-- The quote of a later key stands behind a comma. -/
theorem nextKey_false_eq_item_iff :
    nextKey false text = .ok (.item rest) ↔
      ∃ next, Spaces text (',' :: next) ∧ Spaces next ('"' :: rest) := by
  simp only [← keyQuote_eq_ok_iff, ← skipSpace_eq_cons_iff (show ',' ∉ white by decide)]
  constructor
  · intro found
    unfold nextKey at found
    split at found
    case h_1 => cases found
    case h_2 => cases found
    case h_3 =>
      rw [if_neg Bool.false_ne_true] at found
      split at found
      case h_1 next skipped => exact ⟨next, skipped, map_item_eq_ok_iff.mp found⟩
      case h_2 => cases found
  · rintro ⟨next, skipped, quote⟩
    rw [nextKey, skipped]
    change (keyQuote next).map Next.item = _
    rw [map_item_eq_ok_iff, quote]

/-!
## Reading strings

A string is read exactly as the grammar spells it.  The grammar gives an escaped
character by its code units and the reader puts the units together again, so that
the two meet only in the arithmetic of surrogate pairs.
-/

private theorem toNat_lt_of_hexValue? {c : Char} {value : Nat}
    (isDigit : hexValue? c = some value) : c.toNat < 103 := by
  unfold hexValue? at isDigit
  split at isDigit
  case isTrue decimal =>
    simp only [Char.isDigit, Bool.and_eq_true, decide_eq_true_eq, ge_iff_le,
      UInt32.le_iff_toNat_le] at decimal
    exact Nat.lt_of_le_of_lt decimal.2 (by decide)
  case isFalse =>
    simp only [Bool.and_eq_true, decide_eq_true_eq, Char.le_def, UInt32.le_iff_toNat_le] at isDigit
    split at isDigit
    case isTrue lower => exact Nat.lt_of_le_of_lt lower.2 (by decide)
    case isFalse =>
      split at isDigit
      case isTrue upper => exact Nat.lt_of_le_of_lt upper.2 (by decide)
      case isFalse => cases isDigit

theorem hexValue?_eq_some_iff {c : Char} {value : Nat} :
    hexValue? c = some value ↔ IsHexDigit c value := by
  have ofDigits : ∀ value < 16, hexValue? value.digitChar = some value ∧
      hexValue? value.digitChar.toUpper = some value := by decide
  have ofCharacters : ∀ code < 103, ∀ value ∈ hexValue? (Char.ofNat code),
      value < 16 ∧ (Char.ofNat code = value.digitChar ∨
        Char.ofNat code = value.digitChar.toUpper) := by decide
  constructor
  · intro isDigit
    have found := ofCharacters c.toNat (toNat_lt_of_hexValue? isDigit) value
    rw [Char.ofNat_toNat] at found
    exact found isDigit
  · rintro ⟨small, rfl | rfl⟩
    · exact (ofDigits value small).1
    · exact (ofDigits value small).2

/-- Four digits are read as one escape of a code unit spells them. -/
theorem hex4_eq_ok_iff {unit : Nat} :
    hex4 text = .ok (unit, rest) ↔ UnitEscapes ('\\' :: 'u' :: text) [unit] rest := by
  constructor
  · intro read
    unfold hex4 at read
    split at read
    case h_2 => cases read
    case h_1 a b c d text =>
      split at read
      case h_2 => cases read
      case h_1 value found =>
        cases read
        simp only [hexValue4?, Option.bind_eq_bind, Option.bind_eq_some_iff, hexValue?_eq_some_iff,
          Option.pure_def, Option.some.injEq] at found
        rcases found with ⟨w, first, x, second, y, third, z, fourth, rfl⟩
        exact .cons first second third fourth .nil
  · intro escapes
    cases escapes with
    | @cons a b c d _ _ _ w x y z first second third fourth others =>
        cases others
        have value : hexValue4? a b c d = some (((w * 16 + x) * 16 + y) * 16 + z) := by
          simp only [hexValue4?, hexValue?_eq_some_iff.mpr first, hexValue?_eq_some_iff.mpr second,
            hexValue?_eq_some_iff.mpr third, hexValue?_eq_some_iff.mpr fourth]
          rfl
        rw [hex4, value]

theorem unitEscapes_cons_iff {unit : Nat} {units : List Nat} :
    UnitEscapes text (unit :: units) rest ↔
      ∃ next, UnitEscapes text [unit] next ∧ UnitEscapes next units rest := by
  constructor
  · intro escapes
    cases escapes with
    | cons first second third fourth others =>
        exact ⟨_, .cons first second third fourth .nil, others⟩
  · rintro ⟨next, escape, others⟩
    cases escape with
    | cons first second third fourth nothing =>
        cases nothing
        exact .cons first second third fourth others

/-- Four hexadecimal digits fill a code unit. -/
theorem UnitEscapes.unit_lt {unit : Nat} (escape : UnitEscapes text [unit] rest) :
    unit < 0x10000 := by
  cases escape with
  | cons first second third fourth _ =>
      have bounds := And.intro (And.intro first.1 second.1) (And.intro third.1 fourth.1)
      omega

section

variable {c : Char} {unit high low : Nat}

private theorem toNat_ofNat (isValid : unit.isValidChar) : (Char.ofNat unit).toNat = unit := by
  rw [Char.ofNat, dif_pos isValid]
  rfl

/-- A character of one code unit is that unit, and no half of a pair is one. -/
theorem utf16_eq_singleton_iff :
    utf16 c = [unit] ↔ isLowSurrogate unit = false ∧ isHighSurrogate unit = false ∧
      unit < 0x10000 ∧ c = Char.ofNat unit := by
  simp only [isLowSurrogate, isHighSurrogate, Bool.and_eq_false_iff, decide_eq_false_iff_not]
  constructor
  · intro units
    have isValid : c.toNat.isValidChar := c.valid
    rw [utf16] at units
    split at units
    case isFalse => cases units
    case isTrue small =>
      cases units
      simp only [Nat.isValidChar] at isValid
      exact ⟨by omega, by omega, small, (Char.ofNat_toNat c).symm⟩
  · rintro ⟨notLow, notHigh, small, rfl⟩
    have isValid : unit.isValidChar := by
      simp only [Nat.isValidChar]
      omega
    rw [utf16, toNat_ofNat isValid, if_pos small]

/-- A character of two code units is put together from the halves of a pair. -/
theorem utf16_eq_pair_iff :
    utf16 c = [high, low] ↔ isHighSurrogate high = true ∧ isLowSurrogate low = true ∧
      c = Char.ofNat (0x10000 + (high - 0xD800) * 0x400 + (low - 0xDC00)) := by
  simp only [isLowSurrogate, isHighSurrogate, Bool.and_eq_true, decide_eq_true_eq]
  constructor
  · intro units
    have isValid : c.toNat.isValidChar := c.valid
    rw [utf16] at units
    split at units
    case isTrue => cases units
    case isFalse large =>
      simp only [List.cons.injEq, and_true] at units
      simp only [Nat.isValidChar] at isValid
      have together : 0x10000 + (high - 0xD800) * 0x400 + (low - 0xDC00) = c.toNat := by omega
      rw [together, Char.ofNat_toNat]
      exact ⟨by omega, by omega, rfl⟩
  · rintro ⟨isHigh, isLow, isPair⟩
    generalize together : 0x10000 + (high - 0xD800) * 0x400 + (low - 0xDC00) = code at isPair
    have isValid : code.isValidChar := by
      simp only [Nat.isValidChar]
      omega
    have firstHalf : 0xD800 + (code - 0x10000) / 0x400 = high := by omega
    have secondHalf : 0xDC00 + (code - 0x10000) % 0x400 = low := by omega
    rw [isPair, utf16, toNat_ofNat isValid, if_neg (by omega), firstHalf, secondHalf]

theorem utf16_cases (c : Char) :
    (∃ unit, utf16 c = [unit]) ∨ ∃ high low, utf16 c = [high, low] := by
  rw [utf16]
  split
  · exact .inl ⟨_, rfl⟩
  · exact .inr ⟨_, _, rfl⟩

/-- Every character has a code unit, whose escape starts with a backslash and the
letter u. -/
theorem exists_unitMark (escapes : UnitEscapes text (utf16 c) rest) :
    ∃ inside, text = '\\' :: 'u' :: inside := by
  rcases utf16_cases c with ⟨unit, single⟩ | ⟨high, low, pair⟩
  · rw [single] at escapes
    cases escapes
    exact ⟨_, rfl⟩
  · rw [pair] at escapes
    cases escapes
    exact ⟨_, rfl⟩

end

theorem letterEscape?_eq_some_iff {l c : Char} :
    letterEscape? l = some c ↔ (l, c) ∈ letterEscapes := by
  unfold letterEscape?
  split <;> simp_all [letterEscapes, eq_comm]

theorem lowSurrogate_eq_ok_iff {high : Nat} {c : Char} :
    lowSurrogate high text = .ok (c, rest) ↔
      ∃ low, UnitEscapes text [low] rest ∧ isLowSurrogate low = true ∧
        c = Char.ofNat (0x10000 + (high - 0xD800) * 0x400 + (low - 0xDC00)) := by
  rw [lowSurrogate, bind_eq_ok_iff]
  simp only [word_eq_ok_iff, bind_eq_ok_iff]
  constructor
  · rintro ⟨behind, rfl, ⟨low, next⟩, read, paired⟩
    split at paired
    case isFalse => cases paired
    case isTrue isLow =>
      simp only [pure, Except.pure, Except.ok.injEq, Prod.mk.injEq] at paired
      rcases paired with ⟨isPair, rfl⟩
      exact ⟨low, hex4_eq_ok_iff.mp read, isLow, isPair.symm⟩
  · rintro ⟨low, escape, isLow, isPair⟩
    cases escape with
    | cons first second third fourth nothing =>
        have read := hex4_eq_ok_iff.mpr (.cons first second third fourth nothing)
        refine ⟨_, rfl, (_, rest), read, ?_⟩
        rw [if_pos isLow, isPair]
        rfl

/-- A letter behind a backslash is read as the character that it stands for. -/
theorem escape_letter_eq_ok_iff {l c : Char} (notUnit : l ≠ 'u') :
    escape (l :: text) = .ok (c, rest) ↔ text = rest ∧ (l, c) ∈ letterEscapes := by
  rw [← letterEscape?_eq_some_iff]
  unfold escape
  split
  case h_1 => contradiction
  case h_2 same => simp_all
  case h_3 same =>
    cases same
    cases letterEscape? l with
    | none => simp
    | some character => simp [and_comm]

/-- The letter u behind a backslash begins the code units of a character. -/
theorem escape_units_eq_ok_iff {c : Char} :
    escape ('u' :: text) = .ok (c, rest) ↔ UnitEscapes ('\\' :: 'u' :: text) (utf16 c) rest := by
  constructor
  · intro read
    rcases bind_eq_ok_iff.mp read with ⟨⟨unit, next⟩, readUnit, paired⟩
    have escape := hex4_eq_ok_iff.mp readUnit
    dsimp only at paired
    split at paired
    case isTrue => cases paired
    case isFalse notLow =>
      split at paired
      case isTrue isHigh =>
        rcases lowSurrogate_eq_ok_iff.mp paired with ⟨low, lowEscape, isLow, isPair⟩
        rw [utf16_eq_pair_iff.mpr ⟨isHigh, isLow, isPair⟩]
        exact unitEscapes_cons_iff.mpr ⟨next, escape, lowEscape⟩
      case isFalse notHigh =>
        simp only [pure, Except.pure, Except.ok.injEq, Prod.mk.injEq] at paired
        rcases paired with ⟨isUnit, rfl⟩
        rw [utf16_eq_singleton_iff.mpr ⟨Bool.eq_false_iff.mpr notLow,
          Bool.eq_false_iff.mpr notHigh, escape.unit_lt, isUnit.symm⟩]
        exact escape
  · intro escapes
    rcases utf16_cases c with ⟨unit, single⟩ | ⟨high, low, pair⟩
    · rw [single] at escapes
      rcases utf16_eq_singleton_iff.mp single with ⟨notLow, notHigh, _, rfl⟩
      refine bind_eq_ok_iff.mpr ⟨_, hex4_eq_ok_iff.mpr escapes, ?_⟩
      simp only [notLow, notHigh, Bool.false_eq_true, if_false]
      rfl
    · rw [pair] at escapes
      rcases utf16_eq_pair_iff.mp pair with ⟨isHigh, isLow, isPair⟩
      rcases unitEscapes_cons_iff.mp escapes with ⟨next, first, second⟩
      have notLow : isLowSurrogate high = false := by
        simp only [isHighSurrogate, isLowSurrogate, Bool.and_eq_true, decide_eq_true_eq,
          Bool.and_eq_false_iff, decide_eq_false_iff_not] at isHigh ⊢
        omega
      refine bind_eq_ok_iff.mpr ⟨_, hex4_eq_ok_iff.mpr first, ?_⟩
      simp only [notLow, isHigh, Bool.false_eq_true, if_false, if_true]
      exact lowSurrogate_eq_ok_iff.mpr ⟨low, second, isLow, isPair⟩

/-- What follows a backslash is read as a letter or as the code units of a
character. -/
theorem escape_eq_ok_iff {c : Char} :
    escape text = .ok (c, rest) ↔
      (∃ l, text = l :: rest ∧ (l, c) ∈ letterEscapes) ∨
        UnitEscapes ('\\' :: text) (utf16 c) rest := by
  rcases text with _ | ⟨l, text⟩
  · refine iff_of_false (fun read => by cases read) ?_
    rintro (⟨_, impossible, _⟩ | escapes)
    · cases impossible
    · rcases exists_unitMark escapes with ⟨_, impossible⟩
      cases impossible
  · by_cases isUnit : l = 'u'
    · subst isUnit
      have noLetter : ('u', c) ∉ letterEscapes := by simp [letterEscapes]
      simp only [escape_units_eq_ok_iff, List.cons.injEq]
      refine ⟨.inr, ?_⟩
      rintro (⟨_, ⟨rfl, _⟩, isEscape⟩ | escapes)
      · exact absurd isEscape noLetter
      · exact escapes
    · rw [escape_letter_eq_ok_iff isUnit]
      constructor
      · rintro ⟨rfl, isEscape⟩
        exact .inl ⟨l, rfl, isEscape⟩
      · rintro (⟨_, same, isEscape⟩ | escapes)
        · cases same
          exact ⟨rfl, isEscape⟩
        · rcases exists_unitMark escapes with ⟨_, same⟩
          cases same
          exact absurd rfl isUnit

private theorem stringBody_of_escaped {c : Char} {next : List Char}
    (found : escape text = .ok (c, next)) :
    stringBody keep ('\\' :: text) =
      stringBody keep next >>= fun read => .ok (c :: read.1, read.2) := by
  rw [stringBody, if_neg (by decide), if_pos rfl]
  split
  case h_1 fault failed => cases failed.symm.trans found
  case h_2 other otherNext otherFound =>
    cases otherFound.symm.trans found
    rfl

/-- A string that is kept is read as the grammar spells it. -/
theorem stringBody_keep_eq_ok_iff {characters : List Char} :
    stringBody keep text = .ok (characters, rest) ↔ Spelled text characters rest := by
  constructor
  · intro read
    induction text using stringBody.induct keep generalizing characters with
    | case1 =>
        rw [stringBody] at read
        cases read
    | case2 text =>
        rw [stringBody, if_pos rfl] at read
        cases read
        exact .close
    | case3 text fault failed notQuote =>
        rw [stringBody, if_neg notQuote, if_pos rfl] at read
        split at read
        case h_1 => cases read
        case h_2 found => cases failed.symm.trans found
    | case4 text c next found notQuote hypothesis =>
        rw [stringBody_of_escaped found] at read
        rcases bind_eq_ok_iff.mp read with ⟨⟨others, behind⟩, readOthers, together⟩
        cases together
        rcases escape_eq_ok_iff.mp found with ⟨l, rfl, isEscape⟩ | escapes
        · exact .letter isEscape (hypothesis readOthers)
        · exact .units escapes (hypothesis readOthers)
    | case5 c text notQuote notBackslash control =>
        rw [stringBody, if_neg notQuote, if_neg notBackslash, if_pos control] at read
        cases read
    | case6 c text notQuote notBackslash noControl hypothesis =>
        rw [stringBody, if_neg notQuote, if_neg notBackslash, if_neg noControl] at read
        rcases bind_eq_ok_iff.mp read with ⟨⟨others, next⟩, readOthers, together⟩
        cases together
        exact .plain notQuote notBackslash (Nat.le_of_not_lt noControl) (hypothesis readOthers)
  · intro spelled
    induction spelled with
    | close => rw [stringBody, if_pos rfl]
    | plain notQuote notBackslash noControl _ hypothesis =>
        rw [stringBody, if_neg notQuote, if_neg notBackslash, if_neg (Nat.not_lt.mpr noControl),
          hypothesis]
        rfl
    | letter isEscape _ hypothesis =>
        rw [stringBody_of_escaped (escape_eq_ok_iff.mpr (.inl ⟨_, rfl, isEscape⟩)), hypothesis]
        rfl
    | units escapes _ hypothesis =>
        rcases exists_unitMark escapes with ⟨inside, rfl⟩
        rw [stringBody_of_escaped (escape_eq_ok_iff.mpr (.inr escapes)), hypothesis]
        rfl

/-- A string is read behind its opening quote. -/
theorem stringTail_eq_ok_iff {content : String} :
    stringTail text = .ok (content, rest) ↔
      ∃ characters, Spelled text characters rest ∧ content = String.ofList characters := by
  simp only [stringTail, bind_eq_ok_iff, ← stringBody_keep_eq_ok_iff]
  constructor
  · rintro ⟨⟨characters, next⟩, read, together⟩
    cases together
    exact ⟨characters, read, rfl⟩
  · rintro ⟨characters, read, rfl⟩
    exact ⟨_, read, rfl⟩

end MarkedTree.Json

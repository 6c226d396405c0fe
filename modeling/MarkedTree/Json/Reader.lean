import MarkedTree.Number
import MarkedTree.Text

/-!
# Reading JSON

The readers stand for the library `serde_json`, which is used as it is: that it reads
strict JSON, from left to right and with these faults, is assumed and not a decision of
this project.  What is proved about texts is proved about these readers.

A text is read once, from left to right, as a value of a known form.  The first
problem met ends the reading.  Either the text is not JSON, or it ends too
early, or it is JSON so far but does not have the wanted form.
-/

namespace MarkedTree.Json

/-- What stands where something else was wanted. -/
inductive Found
  | null
  | bool (value : Bool)
  | integer (value : Int)
  | fraction (negative : Bool) (size : Rat)
  | string (value : String)
  | sequence
  | map
deriving DecidableEq, Repr

/-- How a value fails to have the wanted form. -/
inductive Mismatch
  | wrongType (found : Found) (wanted : String)
  | outOfRange (value : Int) (wanted : String)
  | wrongLength (count : Nat) (wanted : String)
  | missingField (key : String)
  | duplicateField (key : String)
  | unknownField (key : String) (known : List String)
  | unknownVariant (name : String) (known : List String)
deriving DecidableEq, Repr

/-- Why a text was refused. -/
inductive Fault
  | malformed
  | truncated
  | mismatch (problem : Mismatch)
deriving DecidableEq, Repr

private def ticked (name : String) : String := "`" ++ name ++ "`"

/-- A choice between names: one of them alone, two joined by "or", and more
than two in a list. -/
private def choice : List String → String
  | [] => "nothing"
  | [name] => ticked name
  | [first, second] => ticked first ++ " or " ++ ticked second
  | names => "one of " ++ ", ".intercalate (names.map ticked)

namespace Found

def text : Found → String
  | .null => "null"
  | .bool value => "boolean " ++ ticked (if value then "true" else "false")
  | .integer value => "integer " ++ ticked value.repr
  | .fraction negative size => "floating point " ++ ticked (Number.text negative size)
  | .string value => "string " ++ Text.quoted value
  | .sequence => "sequence"
  | .map => "map"

end Found

namespace Mismatch

def text : Mismatch → String
  | .wrongType found wanted => "invalid type: " ++ found.text ++ ", expected " ++ wanted
  | .outOfRange value wanted =>
      "invalid value: " ++ (Found.integer value).text ++ ", expected " ++ wanted
  | .wrongLength count wanted => "invalid length " ++ count.repr ++ ", expected " ++ wanted
  | .missingField key => "missing field " ++ ticked key
  | .duplicateField key => "duplicate field " ++ ticked key
  | .unknownField key known => "unknown field " ++ ticked key ++ ", expected " ++ choice known
  | .unknownVariant name known =>
      "unknown variant " ++ ticked name ++ ", expected " ++ choice known

end Mismatch

/-!
## The small parts of a JSON text

White space, words and the escapes of strings.  Every function takes the characters
that are left and gives back what it read together with the characters left
behind it, or the fault that ended it.  A text that stops in the middle of a
part is truncated; any other departure from the grammar makes it malformed.
-/

/-- The four characters that JSON takes for white space. -/
def isSpace (c : Char) : Bool :=
  c == ' ' || c == '\t' || c == '\n' || c == '\r'

def skipSpace (text : List Char) : List Char := text.dropWhile isSpace

def word : List Char → List Char → Except Fault (List Char)
  | [], text => .ok text
  | _ :: _, [] => .error .truncated
  | wanted :: rest, c :: text => if c = wanted then word rest text else .error .malformed

def hexValue? (c : Char) : Option Nat :=
  if c.isDigit then some (c.toNat - 48)
  else if 'a' ≤ c && c ≤ 'f' then some (c.toNat - 87)
  else if 'A' ≤ c && c ≤ 'F' then some (c.toNat - 55)
  else none

def hexValue4? (a b c d : Char) : Option Nat := do
  let a ← hexValue? a
  let b ← hexValue? b
  let c ← hexValue? c
  let d ← hexValue? d
  pure (((a * 16 + b) * 16 + c) * 16 + d)

/-- Reads four hexadecimal digits.  A text counts as truncated here if fewer
than four bytes of UTF-8 are left. -/
def hex4 : List Char → Except Fault (Nat × List Char)
  | a :: b :: c :: d :: text =>
      match hexValue4? a b c d with
      | some value => .ok (value, text)
      | none => .error .malformed
  | text => .error (if (String.ofList text).utf8ByteSize < 4 then .truncated else .malformed)

/-- The characters with an escape of one letter. -/
def letterEscape? : Char → Option Char
  | '"' => some '"'
  | '\\' => some '\\'
  | '/' => some '/'
  | 'b' => some '\x08'
  | 'f' => some '\x0c'
  | 'n' => some '\n'
  | 'r' => some '\r'
  | 't' => some '\t'
  | _ => none

def isHighSurrogate (unit : Nat) : Bool := 0xD800 ≤ unit && unit ≤ 0xDBFF

def isLowSurrogate (unit : Nat) : Bool := 0xDC00 ≤ unit && unit ≤ 0xDFFF

/-- Reads the second half of a surrogate pair, escape and all. -/
def lowSurrogate (high : Nat) (text : List Char) : Except Fault (Char × List Char) := do
  let text ← word ['\\', 'u'] text
  let (low, text) ← hex4 text
  if isLowSurrogate low then
    pure (Char.ofNat (0x10000 + (high - 0xD800) * 0x400 + (low - 0xDC00)), text)
  else .error .malformed

/-- Reads what follows a backslash in a string.  Surrogates have to come in
pairs. -/
def escape : List Char → Except Fault (Char × List Char)
  | [] => .error .truncated
  | 'u' :: text => do
      let (unit, text) ← hex4 text
      if isLowSurrogate unit then .error .malformed
      else if isHighSurrogate unit then lowSurrogate unit text
      else pure (Char.ofNat unit, text)
  | c :: text =>
      match letterEscape? c with
      | some character => .ok (character, text)
      | none => .error .malformed

/-- Passes over what follows a backslash in a string that nobody wants.
Surrogates may stand alone there. -/
def skipEscape : List Char → Except Fault (Unit × List Char)
  | [] => .error .truncated
  | 'u' :: text => do
      let (_, text) ← hex4 text
      pure ((), text)
  | c :: text => if (letterEscape? c).isSome then .ok ((), text) else .error .malformed

/-!
## The inside of a string

A string ends at the first quote that no backslash escapes.  What an escape
stands for is a parameter, because a string that nobody wants is read by a
laxer rule than one that is kept.
-/

/-- A reader of escapes, which takes at least one character. -/
structure EscapeRule (α : Type) where
  plain : Char → α
  escaped : List Char → Except Fault (α × List Char)
  shorter : ∀ {text rest : List Char} {value : α}, escaped text = .ok (value, rest) →
    rest.length < text.length

/-- Reads up to and including the closing quote.  Control characters have to be
escaped. -/
def stringBody {α : Type} (rule : EscapeRule α) (text : List Char) :
    Except Fault (List α × List Char) :=
  match text with
  | [] => .error .truncated
  | c :: text =>
      if c = '"' then .ok ([], text)
      else if c = '\\' then
        match _ : rule.escaped text with
        | .error fault => .error fault
        | .ok (value, text) => do
            let (values, text) ← stringBody rule text
            pure (value :: values, text)
      else if c.toNat < 0x20 then .error .malformed
      else do
        let (values, text) ← stringBody rule text
        pure (rule.plain c :: values, text)
termination_by text.length
decreasing_by
  · have := rule.shorter ‹_›
    simp only [List.length_cons]
    omega
  · simp

/-- Reading one thing after another succeeds if both are read. -/
theorem bind_eq_ok_iff {α β : Type} {first : Except Fault α} {next : α → Except Fault β}
    {result : β} :
    first >>= next = .ok result ↔ ∃ value, first = .ok value ∧ next value = .ok result := by
  cases first with
  | error fault =>
      constructor
      · intro impossible
        cases impossible
      · rintro ⟨value, impossible, _⟩
        cases impossible
  | ok value =>
      constructor
      · intro read
        exact ⟨value, rfl, read⟩
      · rintro ⟨_, same, read⟩
        cases same
        exact read

theorem hex4_shorter {text rest : List Char} {value : Nat} (read : hex4 text = .ok (value, rest)) :
    rest.length < text.length := by
  unfold hex4 at read
  split at read
  · split at read <;> cases read
    simp only [List.length_cons]
    omega
  · cases read

theorem word_shorter : ∀ {wanted text rest : List Char}, word wanted text = .ok rest →
    rest.length + wanted.length = text.length
  | [], _, _, read => by cases read; rfl
  | _ :: _, [], _, read => by cases read
  | wanted :: more, c :: text, rest, read => by
      simp only [word] at read
      split at read
      · have := word_shorter read
        simp only [List.length_cons]
        omega
      · cases read

private theorem lowSurrogate_shorter {high : Nat} {text rest : List Char} {value : Char}
    (read : lowSurrogate high text = .ok (value, rest)) : rest.length < text.length := by
  rw [lowSurrogate, bind_eq_ok_iff] at read
  rcases read with ⟨behindWord, readWord, read⟩
  rcases bind_eq_ok_iff.mp read with ⟨⟨low, behind⟩, readHex, paired⟩
  have atWord := word_shorter readWord
  have atHex := hex4_shorter readHex
  simp only [List.length_cons, List.length_nil] at atWord
  dsimp only at paired
  split at paired
  case isTrue =>
    simp only [pure, Except.pure, Except.ok.injEq, Prod.mk.injEq] at paired
    rw [← paired.2]
    omega
  case isFalse => cases paired

theorem escape_shorter {text rest : List Char} {value : Char}
    (read : escape text = .ok (value, rest)) : rest.length < text.length := by
  unfold escape at read
  split at read
  · cases read
  · rcases bind_eq_ok_iff.mp read with ⟨⟨unit, behind⟩, readHex, paired⟩
    have atHex := hex4_shorter readHex
    rw [List.length_cons]
    dsimp only at paired
    split at paired
    case isTrue => cases paired
    case isFalse =>
      split at paired
      case isTrue =>
        have atPair := lowSurrogate_shorter paired
        omega
      case isFalse =>
        cases paired
        omega
  · split at read <;> cases read
    simp

theorem skipEscape_shorter {text rest : List Char} {value : Unit}
    (read : skipEscape text = .ok (value, rest)) : rest.length < text.length := by
  unfold skipEscape at read
  split at read
  · cases read
  · rcases bind_eq_ok_iff.mp read with ⟨⟨unit, behind⟩, readHex, passed⟩
    have atHex := hex4_shorter readHex
    cases passed
    rw [List.length_cons]
    omega
  · split at read <;> cases read
    simp

/-- The rule for strings that are kept: every character counts. -/
def keep : EscapeRule Char := ⟨id, escape, escape_shorter⟩

def passOver : EscapeRule Unit := ⟨fun _ => (), skipEscape, skipEscape_shorter⟩

/-- Reads a string behind its opening quote. -/
def stringTail (text : List Char) : Except Fault (String × List Char) := do
  let (characters, text) ← stringBody keep text
  pure (String.ofList characters, text)

/-!
## Numbers in a JSON text

A number is scanned first and valued then, because a number that nobody wants
only has to be well-formed.  Whole numbers are integers as far as words of 64
bits reach, with a sign or without one.  Negative zero and all other numbers
are fractions, which are approximated: the digits in front that fit in a word
of 64 bits are rounded to a binary number, and scaling that by a power of ten
rounds once more.
-/

/-- A number as it is written: its sign, its digits before and behind the
point, and its exponent.  Digits stand behind each point. -/
structure Numeral where
  negative : Bool
  whole : List Char
  fraction : List Char
  exponent : Option Int
deriving DecidableEq, Repr

/-- The decimal digits in front, and what follows them. -/
def digits (text : List Char) : List Char × List Char := text.span Char.isDigit

def digitsValue (read : List Char) : Nat :=
  read.foldl (fun value c => 10 * value + (c.toNat - 48)) 0

/-- Reads the digits of a number before any point or exponent.  Only zero
itself starts with the digit zero. -/
def wholePart : List Char → Except Fault (List Char × List Char)
  | [] => .error .truncated
  | c :: text =>
      if c = '0' then
        if (digits text).1.isEmpty then .ok (['0'], text) else .error .malformed
      else if c.isDigit then .ok (digits (c :: text))
      else .error .malformed

def someDigits (text : List Char) : Except Fault (List Char × List Char) :=
  match digits text with
  | ([], []) => .error .truncated
  | ([], _ :: _) => .error .malformed
  | read => .ok read

/-- Reads a point with the digits behind it, if there is a point. -/
def fractionPart : List Char → Except Fault (List Char × List Char)
  | '.' :: text => someDigits text
  | text => .ok ([], text)

/-- Reads an exponent, if there is one. -/
def exponentPart : List Char → Except Fault (Option Int × List Char)
  | [] => .ok (none, [])
  | c :: text =>
      if c = 'e' || c = 'E' then
        let (negative, text) :=
          match text with
          | '+' :: text => (false, text)
          | '-' :: text => (true, text)
          | text => (false, text)
        do
          let (read, text) ← someDigits text
          let size : Int := digitsValue read
          pure (some (if negative then -size else size), text)
      else .ok (none, c :: text)

def numeral (text : List Char) : Except Fault (Numeral × List Char) := do
  let (negative, text) :=
    match text with
    | '-' :: text => (true, text)
    | text => (false, text)
  let (whole, text) ← wholePart text
  let (fraction, text) ← fractionPart text
  let (exponent, text) ← exponentPart text
  pure (⟨negative, whole, fraction, exponent⟩, text)

/-- Puts digits behind a whole number for as long as it stays in a word of 64
bits.  Gives the longer number and the digits that are left. -/
def appendDigits (size : Nat) : List Char → Nat × List Char
  | [] => (size, [])
  | c :: rest =>
      let longer := 10 * size + (c.toNat - 48)
      if longer < UInt64.size then appendDigits longer rest else (size, c :: rest)

namespace Numeral

/-- The integer that is written, if it is one. -/
def integer? (numeral : Numeral) : Option Int :=
  match appendDigits 0 numeral.whole, numeral.fraction, numeral.exponent with
  | (size, []), [], none =>
      if numeral.negative then
        let value : Int := -size
        if value < 0 && Int64.minValue.toInt ≤ value then some value else none
      else some size
  | _, _, _ => none

/-- The number without its sign, approximated by a binary number, if it is not
too large.  Digits that were left out before the point count as zeros, and
those behind it do not count. -/
def size? (numeral : Numeral) : Option Rat :=
  let (whole, wholeLeft) := appendDigits 0 numeral.whole
  let (size, fractionLeft) := appendDigits whole numeral.fraction
  let kept := numeral.fraction.length - fractionLeft.length
  let places : Int := wholeLeft.length - kept + numeral.exponent.getD 0
  if places < 0 then some (Number.scaledDown (Number.rounded size) (-places).toNat)
  else Number.scaledUp (Number.rounded size) places.toNat

/-- What is written, if it is not too large. -/
def found? (numeral : Numeral) : Option Found :=
  match numeral.integer? with
  | some value => some (.integer value)
  | none => numeral.size?.map (.fraction numeral.negative)

end Numeral

/-- Reads a number.  One that is too large is malformed. -/
def number (text : List Char) : Except Fault (Found × List Char) := do
  let (numeral, text) ← numeral text
  match numeral.found? with
  | some found => pure (found, text)
  | none => .error .malformed

/-!
## Reading values of a known form

A reader wants a value of one form.  Where something of another form stands, it
reads enough of that to say what it is: a scalar in full, a sequence or a map
only as far as its opening bracket.
-/

/-- Reads one value from the front of a text. -/
abbrev Reader (α : Type) := List Char → Except Fault (α × List Char)

/-- What stands at the front of a text, apart from white space. -/
def found (text : List Char) : Except Fault Found :=
  match text with
  | [] => .error .truncated
  | 'n' :: text => do
      let _ ← word ['u', 'l', 'l'] text
      pure .null
  | 't' :: text => do
      let _ ← word ['r', 'u', 'e'] text
      pure (.bool true)
  | 'f' :: text => do
      let _ ← word ['a', 'l', 's', 'e'] text
      pure (.bool false)
  | '"' :: text => do
      let (value, _) ← stringTail text
      pure (.string value)
  | '[' :: _ => .ok .sequence
  | '\x7b' :: _ => .ok .map
  | c :: text =>
      if c = '-' || c.isDigit then do
        let (found, _) ← number (c :: text)
        pure found
      else .error .malformed

/-- The fault of a value of another form than the wanted one. -/
def wrongType (wanted : String) (text : List Char) : Fault :=
  match found text with
  | .ok found => .mismatch (.wrongType found wanted)
  | .error fault => fault

/-- Reads a string, for which messages say `wanted`. -/
def stringAs (wanted : String) : Reader String := fun text =>
  match skipSpace text with
  | '"' :: text => stringTail text
  | text => .error (wrongType wanted text)

def string : Reader String := stringAs "a string"

/-- Reads an unsigned word of 32 bits. -/
def word32 : Reader UInt32 := fun text =>
  let text := skipSpace text
  match text with
  | [] => .error .truncated
  | c :: _ =>
      if c = '-' || c.isDigit then do
        match ← number text with
        | (.integer value, text) =>
            if 0 ≤ value && value < UInt32.size then pure (UInt32.ofNat value.toNat, text)
            else .error (.mismatch (.outOfRange value "u32"))
        | (other, _) => .error (.mismatch (.wrongType other "u32"))
      else .error (wrongType "u32" text)

def unit : Reader Unit := fun text =>
  match skipSpace text with
  | 'n' :: text => do
      let text ← word ['u', 'l', 'l'] text
      pure ((), text)
  | text => .error (wrongType "unit" text)

def optional {α : Type} (read : Reader α) : Reader (Option α) := fun text =>
  match skipSpace text with
  | 'n' :: text => do
      let text ← word ['u', 'l', 'l'] text
      pure (none, text)
  | text => do
      let (value, text) ← read text
      pure (some value, text)

/-- What comes next between two brackets: their end, or one more item. -/
inductive Next
  | close (rest : List Char)
  | item (rest : List Char)

/-- Passes a closing square bracket, or goes to the next item.  Items behind the
first stand after a comma, and no comma stands before the bracket. -/
def nextItem (first : Bool) (text : List Char) : Except Fault Next :=
  match skipSpace text with
  | [] => .error .truncated
  | ']' :: text => .ok (.close text)
  | text =>
      if first then .ok (.item text)
      else
        match text with
        | ',' :: text =>
            match skipSpace text with
            | [] => .error .truncated
            | ']' :: _ => .error .malformed
            | text => .ok (.item text)
        | _ => .error .malformed

/-- Passes the opening quote of a key.  Nothing but a string may be a key. -/
def keyQuote (text : List Char) : Except Fault (List Char) :=
  match skipSpace text with
  | [] => .error .truncated
  | '"' :: text => .ok text
  | _ => .error .malformed

/-- Passes a closing brace, or goes to the opening quote of the next key and
passes that. -/
def nextKey (first : Bool) (text : List Char) : Except Fault Next :=
  match skipSpace text with
  | [] => .error .truncated
  | '\x7d' :: text => .ok (.close text)
  | text =>
      if first then (keyQuote text).map .item
      else
        match text with
        | ',' :: text => (keyQuote text).map .item
        | _ => .error .malformed

/-- Passes the mark given, which has to come next apart from white space. -/
def mark (wanted : Char) (text : List Char) : Except Fault (List Char) :=
  word [wanted] (skipSpace text)

/-- Reads the items of a sequence up to and including its closing bracket.  The
first argument bounds their number. -/
def itemsUpTo {α : Type} (read : Reader α) : Nat → Bool → Reader (List α)
  | 0, _ => fun _ => .error .truncated
  | bound + 1, first => fun text => do
      match ← nextItem first text with
      | .close text => pure ([], text)
      | .item text =>
          let (item, text) ← read text
          let (items, text) ← itemsUpTo read bound false text
          pure (item :: items, text)

/-- Reads a sequence.  Its items are fewer than the characters of the text. -/
def sequence {α : Type} (read : Reader α) : Reader (List α) := fun text =>
  match skipSpace text with
  | '[' :: text => itemsUpTo read (text.length + 1) true text
  | text => .error (wrongType "a sequence" text)

/-- Reads the name of one of the variants given, behind its opening quote. -/
def variantTail {α : Type} (variants : List (String × α)) : Reader α := fun text => do
  let (name, text) ← stringTail text
  match variants.find? fun variant => variant.1 == name with
  | some variant => pure (variant.2, text)
  | none => .error (.mismatch (.unknownVariant name (variants.map Prod.fst)))

/-- Reads a variant without data: its name, or an object whose only key is the
name and whose value is `null`. -/
def variant {α : Type} (variants : List (String × α)) : Reader α := fun text =>
  match skipSpace text with
  | [] => .error .truncated
  | '"' :: text => variantTail variants text
  | '\x7b' :: text => do
      let text ← keyQuote text
      let (value, text) ← variantTail variants text
      let text ← mark ':' text
      let (_, text) ← unit text
      let text ← mark '\x7d' text
      pure (value, text)
  | _ => .error .malformed

/-- Reads a text that holds one value and nothing else but white space. -/
def decode {α : Type} (read : Reader α) (text : String) : Except Fault α := do
  let (value, rest) ← read text.toList
  if (skipSpace rest).isEmpty then pure value else .error .malformed

end MarkedTree.Json

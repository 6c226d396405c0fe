import Mathlib.Data.List.Basic

/-!
# The grammar of JSON

A relation says that a value stands at the front of a text and what is left behind
it.  It is given rule by rule and refers to no reader.  White space may stand around
every value, key, comma and colon, and nowhere else.

The grammar is strict: there are no comments, no commas behind the last item, no
leading zeros, and control characters in strings have to be escaped.  A character
may be escaped by its code units in UTF-16, so that surrogates come in pairs or not
at all.  An object keeps its keys in the order in which they are written, with all
repetitions; which keys may be there is not a matter of the grammar.
-/

namespace MarkedTree.Json

/-- A JSON value.  A number is kept as it is written. -/
inductive Value
  | null
  | bool (value : Bool)
  | number (literal : List Char)
  | string (text : String)
  | array (items : List Value)
  | object (fields : List (String × Value))

def white : List Char := [' ', '\t', '\n', '\r']

/-- The first text is the second one behind white space. -/
inductive Spaces : List Char → List Char → Prop
  | none {rest} : Spaces rest rest
  | more {c text rest} (isWhite : c ∈ white) (others : Spaces text rest) : Spaces (c :: text) rest

/-- A hexadecimal digit of either case and its value. -/
def IsHexDigit (c : Char) (value : Nat) : Prop :=
  value < 16 ∧ (c = value.digitChar ∨ c = value.digitChar.toUpper)

/-- The code units of a character in UTF-16. -/
def utf16 (c : Char) : List Nat :=
  if c.toNat < 0x10000 then [c.toNat]
  else [0xD800 + (c.toNat - 0x10000) / 0x400, 0xDC00 + (c.toNat - 0x10000) % 0x400]

/-- Escapes of these code units, with four hexadecimal digits each. -/
inductive UnitEscapes : List Char → List Nat → List Char → Prop
  | nil {rest} : UnitEscapes rest [] rest
  | cons {a b c d text units rest w x y z} (first : IsHexDigit a w) (second : IsHexDigit b x)
      (third : IsHexDigit c y) (fourth : IsHexDigit d z) (others : UnitEscapes text units rest) :
      UnitEscapes ('\\' :: 'u' :: a :: b :: c :: d :: text)
        ((((w * 16 + x) * 16 + y) * 16 + z) :: units) rest

def letterEscapes : List (Char × Char) :=
  [('"', '"'), ('\\', '\\'), ('/', '/'), ('b', '\x08'), ('f', '\x0c'), ('n', '\n'), ('r', '\r'),
    ('t', '\t')]

/-- The inside of a string with its closing quote, and the characters that it
spells. -/
inductive Spelled : List Char → List Char → List Char → Prop
  | close {rest} : Spelled ('"' :: rest) [] rest
  | plain {c text characters rest} (noQuote : c ≠ '"') (noBackslash : c ≠ '\\')
      (noControl : 0x20 ≤ c.toNat) (others : Spelled text characters rest) :
      Spelled (c :: text) (c :: characters) rest
  | letter {l c text characters rest} (isEscape : (l, c) ∈ letterEscapes)
      (others : Spelled text characters rest) :
      Spelled ('\\' :: l :: text) (c :: characters) rest
  | units {c text next characters rest} (escapes : UnitEscapes text (utf16 c) next)
      (others : Spelled next characters rest) : Spelled text (c :: characters) rest

def IsDigits (digits : List Char) : Prop :=
  digits ≠ [] ∧ ∀ c ∈ digits, c.isDigit = true

/-- A number as it is written: a sign, digits without leading zeros, and a fraction
and an exponent if it has them. -/
inductive IsNumber : List Char → Prop
  | intro {sign whole fraction exponent} (signed : sign = [] ∨ sign = ['-'])
      (isWhole : whole = ['0'] ∨ IsDigits whole ∧ whole.head? ≠ some '0')
      (isFraction : fraction = [] ∨ ∃ digits, IsDigits digits ∧ fraction = '.' :: digits)
      (isExponent : exponent = [] ∨ ∃ e ∈ ['e', 'E'], ∃ sign ∈ [[], ['+'], ['-']], ∃ digits,
        IsDigits digits ∧ exponent = e :: (sign ++ digits)) :
      IsNumber (sign ++ whole ++ fraction ++ exponent)

section

variable {α : Type} (form : List Char → α → List Char → Prop)

/-- Something of the given form with white space around it. -/
inductive Padded : List Char → α → List Char → Prop
  | space {c text item rest} (isWhite : c ∈ white) (padded : Padded text item rest) :
      Padded (c :: text) item rest
  | item {text item behind rest} (stands : form text item behind) (after : Spaces behind rest) :
      Padded text item rest

/-- One item or more, with commas between them. -/
inductive Separated : List Char → List α → List Char → Prop
  | one {text item rest} (stands : form text item rest) : Separated text [item] rest
  | more {text item next items rest} (stands : form text item (',' :: next))
      (others : Separated next items rest) : Separated text (item :: items) rest

inductive Member : List Char → String × α → List Char → Prop
  | space {c text field rest} (isWhite : c ∈ white) (member : Member text field rest) :
      Member (c :: text) field rest
  | field {text characters behind next item rest} (key : Spelled text characters behind)
      (after : Spaces behind (':' :: next)) (stands : Padded form next item rest) :
      Member ('"' :: text) (String.ofList characters, item) rest

end

/-- A value stands at the front of the first text, and the second text is left
behind it. -/
inductive Stands : List Char → Value → List Char → Prop
  | null {rest} : Stands ('n' :: 'u' :: 'l' :: 'l' :: rest) .null rest
  | yes {rest} : Stands ('t' :: 'r' :: 'u' :: 'e' :: rest) (.bool true) rest
  | no {rest} : Stands ('f' :: 'a' :: 'l' :: 's' :: 'e' :: rest) (.bool false) rest
  | number {literal rest} (isNumber : IsNumber literal) :
      Stands (literal ++ rest) (.number literal) rest
  | string {text characters rest} (spelled : Spelled text characters rest) :
      Stands ('"' :: text) (.string (String.ofList characters)) rest
  | emptyArray {text rest} (spaces : Spaces text (']' :: rest)) :
      Stands ('[' :: text) (.array []) rest
  | array {text items rest} (elements : Separated (Padded Stands) text items (']' :: rest)) :
      Stands ('[' :: text) (.array items) rest
  | emptyObject {text rest} (spaces : Spaces text ('\x7d' :: rest)) :
      Stands ('\x7b' :: text) (.object []) rest
  | object {text fields rest} (members : Separated (Member Stands) text fields ('\x7d' :: rest)) :
      Stands ('\x7b' :: text) (.object fields) rest

/-- The text is one value with nothing but white space around it. -/
def IsText (text : String) (value : Value) : Prop :=
  Padded Stands text.toList value []

theorem Spaces.trans {text middle rest : List Char} (first : Spaces text middle)
    (second : Spaces middle rest) : Spaces text rest := by
  induction first with
  | none => exact second
  | more isWhite _ hypothesis => exact .more isWhite (hypothesis second)

section

variable {α : Type} {form : List Char → α → List Char → Prop} {text rest : List Char}

theorem padded_iff {item : α} : Padded form text item rest ↔
    ∃ front behind, Spaces text front ∧ form front item behind ∧ Spaces behind rest := by
  constructor
  · intro padded
    induction padded with
    | space isWhite _ hypothesis =>
        rcases hypothesis with ⟨front, behind, before, stands, after⟩
        exact ⟨front, behind, .more isWhite before, stands, after⟩
    | item stands after => exact ⟨_, _, .none, stands, after⟩
  · rintro ⟨front, behind, before, stands, after⟩
    induction before with
    | none => exact .item stands after
    | more isWhite _ hypothesis => exact .space isWhite (hypothesis stands)

theorem member_iff {key : String} {item : α} : Member form text (key, item) rest ↔
    ∃ inside characters behind next, Spaces text ('"' :: inside) ∧
      Spelled inside characters behind ∧ Spaces behind (':' :: next) ∧
      Padded form next item rest ∧ key = String.ofList characters := by
  constructor
  · intro member
    generalize sameField : (key, item) = field at member
    induction member with
    | space isWhite _ hypothesis =>
        rcases hypothesis sameField with ⟨inside, characters, behind, next, before, others⟩
        exact ⟨inside, characters, behind, next, .more isWhite before, others⟩
    | field spelled after stands =>
        cases sameField
        exact ⟨_, _, _, _, .none, spelled, after, stands, rfl⟩
  · rintro ⟨inside, characters, behind, next, before, spelled, after, stands, rfl⟩
    generalize atQuote : '"' :: inside = front at before
    induction before with
    | none =>
        rw [← atQuote]
        exact .field spelled after stands
    | more isWhite _ hypothesis => exact .space isWhite (hypothesis atQuote)

end

theorem Spaces.length_le {text rest : List Char} (spaces : Spaces text rest) :
    rest.length ≤ text.length := by
  induction spaces with
  | none => exact Nat.le_refl _
  | more _ _ hypothesis => exact Nat.le_succ_of_le hypothesis

theorem UnitEscapes.length_le {text rest : List Char} {units : List Nat}
    (escapes : UnitEscapes text units rest) : rest.length + units.length ≤ text.length := by
  induction escapes with
  | nil => exact Nat.le_refl _
  | cons _ _ _ _ _ hypothesis =>
      simp only [List.length_cons]
      omega

theorem Spelled.length_lt {text characters rest : List Char}
    (spelled : Spelled text characters rest) : rest.length < text.length := by
  induction spelled with
  | close => exact Nat.lt_succ_self _
  | plain _ _ _ _ hypothesis => exact Nat.lt_succ_of_lt hypothesis
  | letter _ _ hypothesis => exact Nat.lt_succ_of_lt (Nat.lt_succ_of_lt hypothesis)
  | units escapes _ hypothesis =>
      have shorter := escapes.length_le
      omega

section

variable {α : Type} {form : List Char → α → List Char → Prop} {text rest : List Char}

theorem Padded.length_lt {item : α}
    (shorter : ∀ {text rest}, form text item rest → rest.length < text.length)
    (padded : Padded form text item rest) : rest.length < text.length := by
  rcases padded_iff.mp padded with ⟨front, behind, before, stands, after⟩
  have lengths := And.intro before.length_le after.length_le
  have step := shorter stands
  omega

theorem Member.length_lt {field : String × α}
    (shorter : ∀ {text rest}, form text field.2 rest → rest.length < text.length)
    (member : Member form text field rest) : rest.length < text.length := by
  rcases member_iff.mp member with ⟨inside, characters, behind, next, before, spelled, after,
    padded, _⟩
  have lengths := And.intro before.length_le after.length_le
  have keyLength := spelled.length_lt
  have valueLength := padded.length_lt shorter
  simp only [List.length_cons] at lengths
  omega

theorem Separated.length_le {items : List α}
    (shorter : ∀ item ∈ items, ∀ {text rest}, form text item rest → rest.length < text.length)
    (separated : Separated form text items rest) : rest.length + items.length ≤ text.length := by
  induction separated with
  | one stands => exact shorter _ List.mem_cons_self stands
  | more stands _ hypothesis =>
      have step := shorter _ List.mem_cons_self stands
      have others := hypothesis fun item member => shorter item (List.mem_cons_of_mem _ member)
      simp only [List.length_cons] at step ⊢
      omega

end

/-- A number starts with its sign or with a digit. -/
theorem IsNumber.exists_cons {literal : List Char} (isNumber : IsNumber literal) :
    ∃ c others, literal = c :: others ∧ (c = '-' ∨ c.isDigit = true) := by
  cases isNumber with
  | @intro sign whole fraction exponent signed isWhole _ _ =>
      rcases signed with rfl | rfl
      · rcases isWhole with rfl | ⟨⟨notEmpty, areDigits⟩, _⟩
        · exact ⟨'0', _, rfl, .inr rfl⟩
        · cases whole with
          | nil => exact absurd rfl notEmpty
          | cons c others => exact ⟨c, _, rfl, .inr (areDigits c List.mem_cons_self)⟩
      · exact ⟨'-', _, rfl, .inl rfl⟩

theorem Stands.length_lt : ∀ {value : Value} {text rest : List Char}, Stands text value rest →
    rest.length < text.length
  | .null, _, _, .null => by simp only [List.length_cons]; omega
  | .bool true, _, _, .yes => by simp only [List.length_cons]; omega
  | .bool false, _, _, .no => by simp only [List.length_cons]; omega
  | .number _, _, _, .number isNumber => by
      rcases isNumber.exists_cons with ⟨c, others, rfl, _⟩
      simp only [List.length_append, List.length_cons]
      omega
  | .string _, _, _, .string spelled => Nat.lt_succ_of_lt spelled.length_lt
  | .array _, _, _, .emptyArray spaces => by
      have shorter := spaces.length_le
      simp only [List.length_cons] at shorter ⊢
      omega
  | .array items, _, _, .array elements => by
      have shorter := elements.length_le fun item member _ _ padded =>
        padded.length_lt fun stands => stands.length_lt
      simp only [List.length_cons] at shorter ⊢
      omega
  | .object _, _, _, .emptyObject spaces => by
      have shorter := spaces.length_le
      simp only [List.length_cons] at shorter ⊢
      omega
  | .object fields, _, _, .object members => by
      have shorter := members.length_le fun field member _ _ isMember =>
        isMember.length_lt fun stands => stands.length_lt
      simp only [List.length_cons] at shorter ⊢
      omega
termination_by value => sizeOf value
decreasing_by
  · have smaller := List.sizeOf_lt_of_mem member
    simp only [Value.array.sizeOf_spec]
    omega
  · have smaller := List.sizeOf_lt_of_mem member
    have inside : sizeOf field.2 < sizeOf field := by
      rcases field with ⟨key, value⟩
      simp only [Prod.mk.sizeOf_spec]
      omega
    simp only [Value.object.sizeOf_spec]
    omega

end MarkedTree.Json

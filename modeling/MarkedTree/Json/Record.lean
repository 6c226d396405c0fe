import MarkedTree.Json.Reader

/-!
# Records in JSON

How records are decoded and written by `serde` and `serde_json`.  The derived forms of
structs, the standard escapes of strings and what is passed over are assumed of these
libraries, as the readers are.

A record may allow keys that it does not know.  Their values have to be JSON,
but no more: strings may hold surrogates that stand alone, and there is no
limit on depth, because open brackets are kept in a list.
-/

namespace MarkedTree.Json

/-- A bracket that is still open. -/
inductive Bracket
  | square
  | curly

def skipString (text : List Char) : Except Fault (List Char) := do
  let (_, text) ← stringBody passOver text
  pure text

/-- Passes over a number of any size.  One that breaks off counts as malformed
here. -/
def skipNumber (text : List Char) : Except Fault (List Char) :=
  match numeral text with
  | .ok (_, text) => .ok text
  | .error _ => .error .malformed

def skipKey (text : List Char) : Except Fault (List Char) := do
  let text ← skipString text
  mark ':' text

/-- What is left to do after passing over some of the text: nothing, or one
more value inside the open brackets. -/
inductive Pending
  | done (rest : List Char)
  | value (inside : List Bracket) (rest : List Char)

/-- Goes on behind a value: closes the brackets that end there, up to the next
value or to the end of the outermost one.  The list of brackets bounds the
work. -/
def afterValue : List Bracket → List Char → Except Fault Pending
  | [], text => .ok (.done text)
  | .square :: outer, text => do
      match ← nextItem false text with
      | .close text => afterValue outer text
      | .item text => pure (.value (.square :: outer) text)
  | .curly :: outer, text => do
      match ← nextKey false text with
      | .close text => afterValue outer text
      | .item text => pure (.value (.curly :: outer) (← skipKey text))

/-- Passes over a scalar, or over the opening bracket of a value that holds
others, up to the next value. -/
def startValue (inside : List Bracket) (text : List Char) : Except Fault Pending :=
  match skipSpace text with
  | [] => .error .truncated
  | 'n' :: text => do afterValue inside (← word ['u', 'l', 'l'] text)
  | 't' :: text => do afterValue inside (← word ['r', 'u', 'e'] text)
  | 'f' :: text => do afterValue inside (← word ['a', 'l', 's', 'e'] text)
  | '"' :: text => do afterValue inside (← skipString text)
  | '[' :: text => do
      match ← nextItem true text with
      | .close text => afterValue inside text
      | .item text => pure (.value (.square :: inside) text)
  | '\x7b' :: text => do
      match ← nextKey true text with
      | .close text => afterValue inside text
      | .item text => pure (.value (.curly :: inside) (← skipKey text))
  | c :: text =>
      if c = '-' || c.isDigit then do afterValue inside (← skipNumber (c :: text))
      else .error .malformed

/-- Passes over values until none is left to do.  The first argument bounds
their number. -/
def skipUpTo : Nat → List Bracket → List Char → Except Fault (List Char)
  | 0, _, _ => .error .truncated
  | bound + 1, inside, text => do
      match ← startValue inside text with
      | .done text => pure text
      | .value inside text => skipUpTo bound inside text

/-- Passes over one value.  Each value in it takes a character at least. -/
def skipValue (text : List Char) : Except Fault (List Char) :=
  skipUpTo (text.length + 1) [] text

/-!
## Records

A record is written as an object, with its fields in any order, or as a
sequence of its fields in their own order.  Fields are collected in a draft;
the record is built from the draft once the closing bracket is reached.  A key
that is unknown or comes twice is refused as soon as it is read, before its
value.
-/

/-- A field of a record whose drafts have type `δ`. -/
structure RecordField (δ : Type) where
  key : String
  isSet : δ → Bool
  read : δ → Reader δ

/-- The form of a record.  `build` gives the record, or the first field that it
cannot do without. -/
structure Record (δ α : Type) where
  name : String
  fields : List (RecordField δ)
  skipsUnknown : Bool
  blank : δ
  build : δ → Except String α

namespace Record

variable {δ α : Type}

/-- Reads the value of a key whose name has just been read. -/
def fieldOf (record : Record δ α) (draft : δ) (key : String) : Reader δ := fun text =>
  match record.fields.find? fun field => field.key == key with
  | some field =>
      if field.isSet draft then .error (.mismatch (.duplicateField key))
      else do field.read draft (← mark ':' text)
  | none =>
      if record.skipsUnknown then do
        let text ← skipValue (← mark ':' text)
        pure (draft, text)
      else .error (.mismatch (.unknownField key (record.fields.map RecordField.key)))

/-- Reads the fields of an object up to and including its closing brace.  The
first argument bounds their number. -/
def keyedUpTo (record : Record δ α) : Nat → Bool → δ → Reader δ
  | 0, _, _ => fun _ => .error .truncated
  | bound + 1, first, draft => fun text => do
      match ← nextKey first text with
      | .close text => pure (draft, text)
      | .item text =>
          let (key, text) ← stringTail text
          let (draft, text) ← record.fieldOf draft key text
          keyedUpTo record bound false draft text

/-- Reads fields in their own order up to and including the closing bracket, and
counts them.  Nothing may stand behind the last field. -/
def ordered : List (RecordField δ) → Bool → Nat → δ → Reader (Nat × δ)
  | [], _, count, draft => fun text => do
      let text ← mark ']' text
      pure ((count, draft), text)
  | field :: fields, first, count, draft => fun text => do
      match ← nextItem first text with
      | .close text => pure ((count, draft), text)
      | .item text =>
          let (draft, text) ← field.read draft text
          ordered fields false (count + 1) draft text

def read (record : Record δ α) : Reader α := fun text =>
  match skipSpace text with
  | '[' :: text => do
      let ((count, draft), text) ← ordered record.fields true 0 record.blank text
      match record.build draft with
      | .ok value => pure (value, text)
      | .error _ =>
          .error (.mismatch (.wrongLength count ("struct " ++ record.name ++ " with " ++
            record.fields.length.repr ++ " elements")))
  | '\x7b' :: text => do
      let (draft, text) ← keyedUpTo record (text.length + 1) true record.blank text
      match record.build draft with
      | .ok value => pure (value, text)
      | .error key => .error (.mismatch (.missingField key))
  | text => .error (wrongType ("struct " ++ record.name) text)

/-- A field that holds one value of its own kind, taken from and put into a
draft by `part` and `put`. -/
def field {β : Type} (key : String) (part : δ → Option β) (put : δ → β → δ)
    (readValue : Reader β) : RecordField δ where
  key := key
  isSet draft := (part draft).isSome
  read draft := fun text => do
    let (value, text) ← readValue text
    pure (put draft value, text)

/-- The value of a field that a record cannot do without. -/
def need {β : Type} (key : String) : Option β → Except String β
  | some value => .ok value
  | none => .error key

end Record

/-!
## Writing JSON

Values are written without white space.  In strings only what has to be escaped
is: quotes, backslashes and control characters.
-/

/-- A character inside a string: itself or its escape.  Control characters
without a letter of their own are written by code point. -/
def escaped (c : Char) : List Char :=
  match c with
  | '"' => ['\\', '"']
  | '\\' => ['\\', '\\']
  | '\x08' => ['\\', 'b']
  | '\x0c' => ['\\', 'f']
  | '\n' => ['\\', 'n']
  | '\r' => ['\\', 'r']
  | '\t' => ['\\', 't']
  | _ =>
      if c.toNat < 0x20 then ['\\', 'u', '0', '0', (c.toNat / 16).digitChar, (c.toNat % 16).digitChar]
      else [c]

def writeString (text : String) : List Char :=
  ['"'] ++ text.toList.flatMap escaped ++ ['"']

def writeNat (n : Nat) : List Char := Nat.toDigits 10 n

def separated : List (List Char) → List Char
  | [] => []
  | [value] => value
  | value :: values => value ++ [','] ++ separated values

def writeSequence (values : List (List Char)) : List Char :=
  ['['] ++ separated values ++ [']']

/-- An object with these keys and written values, in the order given. -/
def writeObject (fields : List (String × List Char)) : List Char :=
  ['\x7b'] ++ separated (fields.map fun field => writeString field.1 ++ [':'] ++ field.2) ++ ['\x7d']

end MarkedTree.Json

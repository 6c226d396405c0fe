import MarkedTree.Proofs.Json.Scanning

/-!
# Reading values of a shape

A reader is for the values of a shape.  That it reads them all (`Reads`) and that it
reads nothing else (`ReadsOnly`) are kept apart, because some readers are needed in
one direction only.  A number goes on for as long as digits follow, so what stands
behind a value has to end it; in a text that is white space, a comma, a closing
bracket or nothing, and that is all that is asked of it.
-/

namespace MarkedTree.Json

variable {α : Type}

/-- What may follow a value in a text. -/
def Ends (rest : List Char) : Prop :=
  ∀ c ∈ rest.head?, c ∈ white ∨ c ∈ [',', ']', '\x7d']

theorem ends_nil : Ends [] := fun _ isHead => nomatch isHead

theorem ends_cons {c : Char} {rest : List Char} (isEnd : c ∈ [',', ']', '\x7d']) :
    Ends (c :: rest) := by
  intro other isHead
  cases isHead
  exact .inr isEnd

theorem Spaces.ends {text rest : List Char} (spaces : Spaces text rest) (ends : Ends rest) :
    Ends text := by
  cases spaces with
  | none => exact ends
  | more isWhite _ =>
      intro other isHead
      cases isHead
      exact .inl isWhite

section

variable {form : List Char → α → List Char → Prop} {close : Char} {first : Bool}
  {text middle rest : List Char}

/-- Where the next item begins: behind a comma, unless it is the first. -/
def Begins (first : Bool) (text next : List Char) : Prop :=
  if first then next = text else Spaces text (',' :: next)

/-- The items that are left up to and including the closing bracket. -/
def Remaining (form : List Char → α → List Char → Prop) (close : Char) (first : Bool)
    (text : List Char) (items : List α) (rest : List Char) : Prop :=
  (items = [] ∧ Spaces text (close :: rest)) ∨
    ∃ next, Begins first text next ∧ Separated form next items (close :: rest)

theorem remaining_nil_iff :
    Remaining form close first text [] rest ↔ Spaces text (close :: rest) := by
  constructor
  · rintro (⟨_, spaces⟩ | ⟨next, _, separated⟩)
    · exact spaces
    · cases separated
  · exact fun spaces => .inl ⟨rfl, spaces⟩

theorem Spaces.remaining {items : List α} (spaces : Spaces text middle)
    (remaining : Remaining form close false middle items rest) :
    Remaining form close false text items rest := by
  rcases remaining with ⟨empty, others⟩ | ⟨next, begins, separated⟩
  · exact .inl ⟨empty, spaces.trans others⟩
  · exact .inr ⟨next, spaces.trans begins, separated⟩

theorem Remaining.ends {items : List α} (remaining : Remaining form close false text items rest)
    (isClose : close ∈ [']', '\x7d']) : Ends text := by
  rcases remaining with ⟨_, spaces⟩ | ⟨next, begins, _⟩
  · exact spaces.ends (ends_cons (List.mem_cons_of_mem _ isClose))
  · exact Spaces.ends begins (ends_cons List.mem_cons_self)

/-- The items that are left are the next one and what remains behind it. -/
theorem remaining_cons_iff {item : α} {items : List α}
    (trans : ∀ {text middle rest}, form text item middle → Spaces middle rest →
      form text item rest) :
    Remaining form close first text (item :: items) rest ↔
      ∃ next middle, Begins first text next ∧ form next item middle ∧
        Remaining form close false middle items rest := by
  constructor
  · rintro (⟨impossible, _⟩ | ⟨next, begins, separated⟩)
    · cases impossible
    · cases separated with
      | one stands => exact ⟨next, _, begins, stands, .inl ⟨rfl, .none⟩⟩
      | more stands others => exact ⟨next, _, begins, stands, .inr ⟨_, Spaces.none, others⟩⟩
  · rintro ⟨next, middle, begins, stands, ⟨rfl, spaces⟩ | ⟨_, comma, others⟩⟩
    · exact .inr ⟨next, begins, .one (trans stands spaces)⟩
    · exact .inr ⟨next, begins, .more (trans stands comma) others⟩

theorem Remaining.length_le {items : List α}
    (shorter : ∀ item ∈ items, ∀ {text rest}, form text item rest → rest.length < text.length)
    (remaining : Remaining form close true text items rest) : items.length ≤ text.length := by
  rcases remaining with ⟨rfl, _⟩ | ⟨next, begins, separated⟩
  · exact Nat.zero_le _
  · cases show next = text from begins
    have atMost := separated.length_le shorter
    omega

/-- White space behind an item belongs to it. -/
theorem Padded.trans {item : α} (padded : Padded form text item middle)
    (spaces : Spaces middle rest) : Padded form text item rest := by
  rcases padded_iff.mp padded with ⟨front, behind, before, stands, after⟩
  exact padded_iff.mpr ⟨front, behind, before, stands, after.trans spaces⟩

theorem Member.trans {field : String × α} (member : Member form text field middle)
    (spaces : Spaces middle rest) : Member form text field rest := by
  rcases member_iff.mp member with ⟨inside, characters, behind, next, before, spelled, after,
    padded, isKey⟩
  exact member_iff.mpr ⟨inside, characters, behind, next, before, spelled, after,
    padded.trans spaces, isKey⟩

end

theorem nextItem_eq_item_iff {first : Bool} {text rest : List Char} :
    nextItem first text = .ok (.item rest) ↔ ∃ next, Begins first text next ∧
      skipSpace next = rest ∧ rest ≠ [] ∧ ∀ others, rest ≠ ']' :: others := by
  cases first with
  | false =>
      rw [nextItem_false_eq_item_iff]
      simp only [nextItem_true_eq_item_iff]
      rfl
  | true =>
      rw [nextItem_true_eq_item_iff]
      simp [Begins]

theorem nextKey_eq_item_iff {first : Bool} {text rest : List Char} :
    nextKey first text = .ok (.item rest) ↔
      ∃ next, Begins first text next ∧ Spaces next ('"' :: rest) := by
  cases first with
  | false => exact nextKey_false_eq_item_iff
  | true =>
      rw [nextKey_true_eq_item_iff]
      simp [Begins]

/-- What a value starts with is not white space and no closing bracket, and tells
`null` from other values. -/
theorem Stands.exists_cons {text rest : List Char} {value : Value}
    (stands : Stands text value rest) :
    ∃ c others, text = c :: others ∧ c ∉ white ∧ c ≠ ']' ∧ (c = 'n' → value = .null) := by
  cases stands with
  | null => exact ⟨_, _, rfl, by decide, by decide, fun _ => rfl⟩
  | number isNumber =>
      rcases isNumber.exists_cons with ⟨c, others, rfl, isHead⟩
      refine ⟨c, _, rfl, ?_, ?_, ?_⟩
      · intro isWhite
        rcases isHead with rfl | isDigit
        · revert isWhite
          decide
        · simp only [white, List.mem_cons, List.not_mem_nil, or_false] at isWhite
          rcases isWhite with rfl | rfl | rfl | rfl <;> cases isDigit
      · rintro rfl
        simp at isHead
      · rintro rfl
        simp at isHead
  | yes | no | string | emptyArray | array | emptyObject | object =>
      exact ⟨_, _, rfl, by decide, by decide, fun impossible => absurd impossible (by decide)⟩

theorem Stands.skipSpace_eq {text front rest : List Char} {value : Value}
    (stands : Stands front value rest) (before : Spaces text front) : skipSpace text = front := by
  rcases stands.exists_cons with ⟨c, others, rfl, notWhite, _⟩
  exact (skipSpace_eq_cons_iff notWhite).mpr before

theorem Stands.nextItem_eq_ok {first : Bool} {text next front rest : List Char} {value : Value}
    (stands : Stands front value rest) (begins : Begins first text next)
    (before : Spaces next front) : nextItem first text = .ok (.item front) := by
  rcases stands.exists_cons with ⟨c, others, rfl, _, notClose, _⟩
  refine nextItem_eq_item_iff.mpr ⟨next, begins, stands.skipSpace_eq before, by simp, ?_⟩
  rintro _ same
  cases same
  exact notClose rfl

/-- The reader reads every value of the shape. -/
def Reads (read : Reader α) (shape : Value → α → Prop) : Prop :=
  ∀ ⦃text front rest : List Char⦄ ⦃value : Value⦄ ⦃item : α⦄, Spaces text front →
    Stands front value rest → Ends rest → shape value item → read text = .ok (item, rest)

/-- The reader reads values of the shape only. -/
def ReadsOnly (read : Reader α) (shape : Value → α → Prop) : Prop :=
  ∀ ⦃text rest : List Char⦄ ⦃item : α⦄, read text = .ok (item, rest) →
    ∃ front value, Spaces text front ∧ Stands front value rest ∧ shape value item

variable {read : Reader α} {shape : Value → α → Prop}

theorem Reads.of_imp {other : Value → α → Prop} (reads : Reads read shape)
    (imp : ∀ value item, other value item → shape value item) : Reads read other :=
  fun _ _ _ value item before stands ends isItem =>
    reads before stands ends (imp value item isItem)

theorem ReadsOnly.imp {other : Value → α → Prop} (readsOnly : ReadsOnly read shape)
    (imp : ∀ value item, shape value item → other value item) : ReadsOnly read other := by
  intro text rest item result
  rcases readsOnly result with ⟨front, value, before, stands, isItem⟩
  exact ⟨front, value, before, stands, imp value item isItem⟩

/-- A text is decoded to the items that the value in it has the shape of. -/
theorem Reads.decode_eq_ok (reads : Reads read shape) {text : String} {value : Value} {item : α}
    (isText : IsText text value) (isItem : shape value item) : decode read text = .ok item := by
  rcases padded_iff.mp isText with ⟨front, behind, before, stands, after⟩
  have result := reads before stands (after.ends ends_nil) isItem
  rw [decode, result]
  change (if (skipSpace behind).isEmpty then _ else _) = _
  rw [if_pos (List.isEmpty_iff.mpr (skipSpace_eq_nil_iff.mpr after))]
  rfl

theorem ReadsOnly.exists_isText (readsOnly : ReadsOnly read shape) {text : String} {item : α}
    (decoded : decode read text = .ok item) : ∃ value, IsText text value ∧ shape value item := by
  rw [decode, bind_eq_ok_iff] at decoded
  rcases decoded with ⟨⟨found, behind⟩, result, atEnd⟩
  dsimp only at atEnd
  split at atEnd
  case isTrue empty =>
    cases atEnd
    rcases readsOnly result with ⟨front, value, before, stands, isItem⟩
    have after := skipSpace_eq_nil_iff.mp (List.isEmpty_iff.mp empty)
    exact ⟨value, padded_iff.mpr ⟨front, behind, before, stands, after⟩, isItem⟩
  case isFalse => cases atEnd

/-- What is read as the next item is a value of the shape where that item begins. -/
theorem ReadsOnly.exists_padded (readsOnly : ReadsOnly read shape) {first : Bool}
    {text front middle : List Char} {item : α} (isNext : nextItem first text = .ok (.item front))
    (isItem : read front = .ok (item, middle)) :
    ∃ next value, Begins first text next ∧ Padded Stands next value middle ∧ shape value item := by
  rcases nextItem_eq_item_iff.mp isNext with ⟨next, begins, rfl, _⟩
  rcases readsOnly isItem with ⟨start, value, before, stands, hasShape⟩
  exact ⟨next, value, begins,
    padded_iff.mpr ⟨start, middle, (spaces_skipSpace next).trans before, stands, .none⟩, hasShape⟩

def IsString (value : Value) (text : String) : Prop := value = .string text

theorem Stands.stringTail_eq_ok {front rest : List Char} {content : String}
    (stands : Stands front (.string content) rest) :
    ∃ inside, front = '"' :: inside ∧ stringTail inside = .ok (content, rest) := by
  cases stands with
  | string spelled => exact ⟨_, rfl, stringTail_eq_ok_iff.mpr ⟨_, spelled, rfl⟩⟩

theorem reads_string : Reads string IsString := by
  rintro text front rest value item before stands - rfl
  rcases stands.stringTail_eq_ok with ⟨inside, rfl, result⟩
  rw [string, stringAs, stands.skipSpace_eq before]
  exact result

theorem readsOnly_string : ReadsOnly string IsString := by
  intro text rest item result
  rw [string, stringAs] at result
  split at result
  case h_1 inside skipped =>
    rcases stringTail_eq_ok_iff.mp result with ⟨characters, spelled, rfl⟩
    exact ⟨_, _, skipped ▸ spaces_skipSpace text, .string spelled, rfl⟩
  case h_2 => cases result

/-- `null`, for nothing, or a value of the shape. -/
inductive OrNull (shape : Value → α → Prop) : Value → Option α → Prop
  | null : OrNull shape .null none
  | value {value item} (isItem : shape value item) : OrNull shape value (some item)

theorem reads_optional (reads : Reads read shape) (notNull : ∀ item, ¬shape .null item) :
    Reads (optional read) (OrNull shape) := by
  intro text front rest value item before stands ends isItem
  have skipped := stands.skipSpace_eq before
  rw [optional, skipped]
  cases isItem with
  | null =>
      cases stands
      rfl
  | value isItem =>
      rcases stands.exists_cons with ⟨c, others, rfl, _, _, isNull⟩
      split
      case h_1 same =>
        cases same
        cases isNull rfl
        exact absurd isItem (notNull _)
      case h_2 =>
        rw [reads .none stands ends isItem]
        rfl

theorem readsOnly_optional (readsOnly : ReadsOnly read shape) :
    ReadsOnly (optional read) (OrNull shape) := by
  intro text rest item result
  rw [optional] at result
  split at result
  case h_1 others skipped =>
    rcases bind_eq_ok_iff.mp result with ⟨behind, isWord, same⟩
    cases same
    cases word_eq_ok_iff.mp isWord
    exact ⟨_, _, skipped ▸ spaces_skipSpace text, .null, .null⟩
  case h_2 =>
    rcases bind_eq_ok_iff.mp result with ⟨⟨found, behind⟩, inside, same⟩
    cases same
    rcases readsOnly inside with ⟨front, value, before, stands, isItem⟩
    exact ⟨front, value, (spaces_skipSpace text).trans before, stands, .value isItem⟩

def IsVariant (variants : List (String × α)) (value : Value) (item : α) : Prop :=
  ∃ name, value = .string name ∧
    variants.find? (fun variant => variant.1 == name) = some (name, item)

theorem reads_variant (variants : List (String × α)) :
    Reads (variant variants) (IsVariant variants) := by
  rintro text front rest value item before stands - ⟨name, rfl, known⟩
  rcases stands.stringTail_eq_ok with ⟨inside, rfl, result⟩
  rw [variant, stands.skipSpace_eq before]
  refine bind_eq_ok_iff.mpr ⟨_, result, ?_⟩
  simp only [known]
  rfl

def IsSequence (shape : Value → α → Prop) (value : Value) (items : List α) : Prop :=
  ∃ values, value = .array values ∧ List.Forall₂ shape values items

theorem stands_array_iff {front rest : List Char} {values : List Value} :
    Stands front (.array values) rest ↔
      ∃ inner, front = '[' :: inner ∧ Remaining (Padded Stands) ']' true inner values rest := by
  constructor
  · intro stands
    cases stands with
    | emptyArray spaces => exact ⟨_, rfl, .inl ⟨rfl, spaces⟩⟩
    | array elements => exact ⟨_, rfl, .inr ⟨_, rfl, elements⟩⟩
  · rintro ⟨_, rfl, ⟨rfl, spaces⟩ | ⟨_, rfl, elements⟩⟩
    · exact .emptyArray spaces
    · exact .array elements

theorem itemsUpTo_eq_ok_iff {bound : Nat} {first : Bool} {text rest : List Char}
    {items : List α} :
    itemsUpTo read (bound + 1) first text = .ok (items, rest) ↔
      (items = [] ∧ Spaces text (']' :: rest)) ∨
        ∃ front item middle others, nextItem first text = .ok (.item front) ∧
          read front = .ok (item, middle) ∧
          itemsUpTo read bound false middle = .ok (others, rest) ∧ items = item :: others := by
  rw [itemsUpTo, bind_eq_ok_iff]
  constructor
  · rintro ⟨next | next, isNext, result⟩
    · cases result
      exact .inl ⟨rfl, nextItem_eq_close_iff.mp isNext⟩
    · rcases bind_eq_ok_iff.mp result with ⟨⟨item, middle⟩, isItem, result⟩
      rcases bind_eq_ok_iff.mp result with ⟨⟨others, behind⟩, areOthers, same⟩
      cases same
      exact .inr ⟨next, item, middle, others, isNext, isItem, areOthers, rfl⟩
  · rintro (⟨rfl, spaces⟩ | ⟨front, item, middle, others, isNext, isItem, areOthers, rfl⟩)
    · exact ⟨.close rest, nextItem_eq_close_iff.mpr spaces, rfl⟩
    · refine ⟨.item front, isNext, ?_⟩
      exact bind_eq_ok_iff.mpr ⟨_, isItem, bind_eq_ok_iff.mpr ⟨_, areOthers, rfl⟩⟩

/-- The loop over items reads those that are left, if its bound reaches so far. -/
theorem itemsUpTo_of_remaining (reads : Reads read shape) {values : List Value} {items : List α}
    (areItems : List.Forall₂ shape values items) {bound : Nat} {first : Bool}
    {text rest : List Char} (bounded : values.length < bound)
    (remaining : Remaining (Padded Stands) ']' first text values rest) :
    itemsUpTo read bound first text = .ok (items, rest) := by
  induction areItems generalizing bound first text with
  | nil =>
      cases bound with
      | zero => cases bounded
      | succ bound =>
          exact itemsUpTo_eq_ok_iff.mpr (.inl ⟨rfl, remaining_nil_iff.mp remaining⟩)
  | @cons value item values items isItem _ hypothesis =>
      cases bound with
      | zero => cases bounded
      | succ bound =>
          rcases (remaining_cons_iff Padded.trans).mp remaining with
            ⟨next, middle, begins, padded, others⟩
          rcases padded_iff.mp padded with ⟨front, behind, before, stands, after⟩
          have followed := after.remaining others
          have isRead := reads .none stands (followed.ends List.mem_cons_self) isItem
          have others := hypothesis (Nat.lt_of_succ_lt_succ bounded) followed
          exact itemsUpTo_eq_ok_iff.mpr (.inr ⟨front, item, behind, items,
            stands.nextItem_eq_ok begins before, isRead, others, rfl⟩)

theorem remaining_of_itemsUpTo (readsOnly : ReadsOnly read shape) {bound : Nat} {first : Bool}
    {text rest : List Char} {items : List α}
    (result : itemsUpTo read bound first text = .ok (items, rest)) :
    ∃ values, Remaining (Padded Stands) ']' first text values rest ∧
      List.Forall₂ shape values items := by
  induction bound generalizing first text items with
  | zero => cases result
  | succ bound hypothesis =>
      rcases itemsUpTo_eq_ok_iff.mp result with
        ⟨rfl, spaces⟩ | ⟨front, item, middle, others, isNext, isItem, areOthers, rfl⟩
      · exact ⟨[], remaining_nil_iff.mpr spaces, .nil⟩
      · rcases hypothesis areOthers with ⟨values, remaining, areItems⟩
        rcases readsOnly.exists_padded isNext isItem with ⟨next, value, begins, padded, hasShape⟩
        exact ⟨value :: values,
          (remaining_cons_iff Padded.trans).mpr ⟨next, middle, begins, padded, remaining⟩,
          .cons hasShape areItems⟩

theorem reads_sequence (reads : Reads read shape) : Reads (sequence read) (IsSequence shape) := by
  rintro text front rest value items before stands - ⟨values, rfl, areItems⟩
  have skipped := stands.skipSpace_eq before
  rcases stands_array_iff.mp stands with ⟨inner, rfl, remaining⟩
  rw [sequence, skipped]
  refine itemsUpTo_of_remaining reads areItems (Nat.lt_succ_of_le ?_) remaining
  exact remaining.length_le fun value _ _ _ padded => padded.length_lt Stands.length_lt

theorem readsOnly_sequence (readsOnly : ReadsOnly read shape) :
    ReadsOnly (sequence read) (IsSequence shape) := by
  intro text rest items result
  rw [sequence] at result
  split at result
  case h_1 inner skipped =>
    rcases remaining_of_itemsUpTo readsOnly result with ⟨values, remaining, areItems⟩
    exact ⟨_, _, spaces_skipSpace text, stands_array_iff.mpr ⟨inner, skipped, remaining⟩,
      values, rfl, areItems⟩
  case h_2 => cases result

end MarkedTree.Json

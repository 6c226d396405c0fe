import MarkedTree.Json.Record
import MarkedTree.Proofs.Json.Reading

/-!
# Reading records

What a field makes of a draft is given by a relation.  Objects fill a draft by their
keys and arrays by position, and a record is read from a value exactly if the value
fills a draft of which the record can be built.  Keys that a record passes over are
left out here: a record that allows them reads more than is said.
-/

namespace MarkedTree.Json

section

variable {δ α β : Type}

/-- Fields under keys, in the order of an object, take a draft to another.  Each key
is that of a field which the draft does not have yet. -/
inductive FillsByKey (fields : List (RecordField δ)) (takes : String → δ → Value → δ → Prop) :
    δ → List (String × Value) → δ → Prop
  | done {draft} : FillsByKey fields takes draft [] draft
  | field {draft key value filled others last field}
      (known : fields.find? (fun field => field.key == key) = some field)
      (unset : field.isSet draft = false) (taken : takes key draft value filled)
      (rest : FillsByKey fields takes filled others last) :
      FillsByKey fields takes draft ((key, value) :: others) last

/-- The items of an array, for as many fields as there are items, take a draft to
another. -/
inductive FillsInOrder (takes : String → δ → Value → δ → Prop) :
    List (RecordField δ) → δ → List Value → δ → Prop
  | done {fields draft} : FillsInOrder takes fields draft [] draft
  | field {field fields draft value filled others last}
      (taken : takes field.key draft value filled)
      (rest : FillsInOrder takes fields filled others last) :
      FillsInOrder takes (field :: fields) draft (value :: others) last

/-- A value fills a draft of which the record can be built. -/
inductive Record.Takes (record : Record δ α) (takes : String → δ → Value → δ → Prop) :
    Value → α → Prop
  | object {fields draft item} (fills : FillsByKey record.fields takes record.blank fields draft)
      (built : record.build draft = .ok item) : Takes record takes (.object fields) item
  | array {items draft item} (fills : FillsInOrder takes record.fields record.blank items draft)
      (built : record.build draft = .ok item) : Takes record takes (.array items) item

section

variable {key : String} {part : δ → Option β} {put : δ → β → δ} {readValue : Reader β}
  {shape : Value → β → Prop}

/-- A field of its own kind puts into the draft what its value has the shape for. -/
theorem reads_field (reads : Reads readValue shape) (draft : δ) :
    Reads ((Record.field key part put readValue).read draft) fun value filled =>
      ∃ item, shape value item ∧ filled = put draft item := by
  rintro text front rest value filled before stands ends ⟨item, isItem, rfl⟩
  exact bind_eq_ok_iff.mpr ⟨_, reads before stands ends isItem, rfl⟩

theorem readsOnly_field (readsOnly : ReadsOnly readValue shape) (draft : δ) :
    ReadsOnly ((Record.field key part put readValue).read draft) fun value filled =>
      ∃ item, shape value item ∧ filled = put draft item := by
  intro text rest filled result
  rcases bind_eq_ok_iff.mp result with ⟨⟨item, behind⟩, isRead, same⟩
  cases same
  rcases readsOnly isRead with ⟨front, value, before, stands, isItem⟩
  exact ⟨front, value, before, stands, item, isItem, rfl⟩

end

theorem stands_object_iff {front rest : List Char} {fields : List (String × Value)} :
    Stands front (.object fields) rest ↔
      ∃ inner, front = '\x7b' :: inner ∧
        Remaining (Member Stands) '\x7d' true inner fields rest := by
  constructor
  · intro stands
    cases stands with
    | emptyObject spaces => exact ⟨_, rfl, .inl ⟨rfl, spaces⟩⟩
    | object members => exact ⟨_, rfl, .inr ⟨_, rfl, members⟩⟩
  · rintro ⟨_, rfl, ⟨rfl, spaces⟩ | ⟨_, rfl, members⟩⟩
    · exact .emptyObject spaces
    · exact .object members

variable {record : Record δ α} {takes : String → δ → Value → δ → Prop}

theorem fieldOf_eq_ok {draft filled : δ} {key : String} {text next rest : List Char}
    {field : RecordField δ}
    (known : record.fields.find? (fun field => field.key == key) = some field)
    (unset : field.isSet draft = false) (colon : Spaces text (':' :: next))
    (taken : field.read draft next = .ok (filled, rest)) :
    record.fieldOf draft key text = .ok (filled, rest) := by
  rw [Record.fieldOf, known]
  simp only [unset, Bool.false_eq_true, if_false]
  exact bind_eq_ok_iff.mpr ⟨next, (mark_eq_ok_iff (by decide)).mpr colon, taken⟩

theorem exists_field_of_fieldOf (strict : record.skipsUnknown = false) {draft filled : δ}
    {key : String} {text rest : List Char}
    (result : record.fieldOf draft key text = .ok (filled, rest)) :
    ∃ field next, record.fields.find? (fun field => field.key == key) = some field ∧
      field.isSet draft = false ∧ Spaces text (':' :: next) ∧
      field.read draft next = .ok (filled, rest) := by
  rw [Record.fieldOf] at result
  split at result
  case h_1 field known =>
    split at result
    case isTrue => cases result
    case isFalse unset =>
      rcases bind_eq_ok_iff.mp result with ⟨next, colon, taken⟩
      exact ⟨field, next, known, Bool.eq_false_iff.mpr unset,
        (mark_eq_ok_iff (by decide)).mp colon, taken⟩
  case h_2 =>
    rw [strict, if_neg Bool.false_ne_true] at result
    cases result

theorem keyedUpTo_eq_ok_iff {bound : Nat} {first : Bool} {draft last : δ}
    {text rest : List Char} :
    record.keyedUpTo (bound + 1) first draft text = .ok (last, rest) ↔
      (last = draft ∧ Spaces text ('\x7d' :: rest)) ∨
        ∃ inside key behind filled middle, nextKey first text = .ok (.item inside) ∧
          stringTail inside = .ok (key, behind) ∧
          record.fieldOf draft key behind = .ok (filled, middle) ∧
          record.keyedUpTo bound false filled middle = .ok (last, rest) := by
  rw [Record.keyedUpTo, bind_eq_ok_iff]
  constructor
  · rintro ⟨next | inside, isNext, result⟩
    · cases result
      exact .inl ⟨rfl, nextKey_eq_close_iff.mp isNext⟩
    · rcases bind_eq_ok_iff.mp result with ⟨⟨key, behind⟩, isKey, result⟩
      rcases bind_eq_ok_iff.mp result with ⟨⟨filled, middle⟩, taken, others⟩
      exact .inr ⟨inside, key, behind, filled, middle, isNext, isKey, taken, others⟩
  · rintro (⟨rfl, spaces⟩ | ⟨inside, key, behind, filled, middle, isNext, isKey, taken, others⟩)
    · exact ⟨.close rest, nextKey_eq_close_iff.mpr spaces, rfl⟩
    · exact ⟨.item inside, isNext,
        bind_eq_ok_iff.mpr ⟨_, isKey, bind_eq_ok_iff.mpr ⟨_, taken, others⟩⟩⟩

/-- The loop over the keys of an object fills the draft, if its bound reaches so far. -/
theorem keyedUpTo_of_remaining
    (reads : ∀ field ∈ record.fields, ∀ draft,
      Reads (field.read draft) (takes field.key draft))
    {draft last : δ} {fields : List (String × Value)}
    (fills : FillsByKey record.fields takes draft fields last) {bound : Nat} {first : Bool}
    {text rest : List Char} (bounded : fields.length < bound)
    (remaining : Remaining (Member Stands) '\x7d' first text fields rest) :
    record.keyedUpTo bound first draft text = .ok (last, rest) := by
  induction fills generalizing bound first text with
  | done =>
      cases bound with
      | zero => cases bounded
      | succ bound => exact keyedUpTo_eq_ok_iff.mpr (.inl ⟨rfl, remaining_nil_iff.mp remaining⟩)
  | @field draft key value filled others last field known unset taken _ hypothesis =>
      cases bound with
      | zero => cases bounded
      | succ bound =>
          rcases (remaining_cons_iff Member.trans).mp remaining with
            ⟨next, middle, begins, member, left⟩
          rcases member_iff.mp member with
            ⟨inside, characters, behind, content, before, spelled, colon, padded, rfl⟩
          rcases padded_iff.mp padded with ⟨front, afterValue, beforeValue, stands, after⟩
          have followed := after.remaining left
          have isField : field.key = String.ofList characters := by
            simpa using List.find?_some known
          have isRead := reads field (List.mem_of_find?_eq_some known) draft beforeValue stands
            (followed.ends (by decide)) (isField.symm ▸ taken)
          exact keyedUpTo_eq_ok_iff.mpr (.inr ⟨inside, _, behind, filled, afterValue,
            nextKey_eq_item_iff.mpr ⟨next, begins, before⟩,
            stringTail_eq_ok_iff.mpr ⟨characters, spelled, rfl⟩,
            fieldOf_eq_ok known unset colon isRead,
            hypothesis (Nat.lt_of_succ_lt_succ bounded) followed⟩)

theorem remaining_of_keyedUpTo (strict : record.skipsUnknown = false)
    (readsOnly : ∀ field ∈ record.fields, ∀ draft,
      ReadsOnly (field.read draft) (takes field.key draft))
    {bound : Nat} {first : Bool} {draft last : δ} {text rest : List Char}
    (result : record.keyedUpTo bound first draft text = .ok (last, rest)) :
    ∃ fields, Remaining (Member Stands) '\x7d' first text fields rest ∧
      FillsByKey record.fields takes draft fields last := by
  induction bound generalizing first draft text with
  | zero => cases result
  | succ bound hypothesis =>
      rcases keyedUpTo_eq_ok_iff.mp result with
        ⟨rfl, spaces⟩ | ⟨inside, key, behind, filled, middle, isNext, isKey, taken, others⟩
      · exact ⟨[], remaining_nil_iff.mpr spaces, .done⟩
      · rcases hypothesis others with ⟨fields, remaining, fills⟩
        rcases nextKey_eq_item_iff.mp isNext with ⟨next, begins, before⟩
        rcases stringTail_eq_ok_iff.mp isKey with ⟨characters, spelled, rfl⟩
        rcases exists_field_of_fieldOf strict taken with
          ⟨field, content, known, unset, colon, isRead⟩
        rcases readsOnly field (List.mem_of_find?_eq_some known) draft isRead with
          ⟨front, value, beforeValue, stands, hasShape⟩
        have isField : field.key = String.ofList characters := by
          simpa using List.find?_some known
        have member : Member Stands next (String.ofList characters, value) middle :=
          member_iff.mpr ⟨inside, characters, behind, content, before, spelled, colon,
            padded_iff.mpr ⟨front, middle, beforeValue, stands, .none⟩, rfl⟩
        exact ⟨(_, value) :: fields,
          (remaining_cons_iff Member.trans).mpr ⟨next, middle, begins, member, remaining⟩,
          .field known unset (isField ▸ hasShape) fills⟩

theorem ordered_nil_eq_ok_iff {first : Bool} {count total : Nat} {draft last : δ}
    {text rest : List Char} :
    Record.ordered [] first count draft text = .ok ((total, last), rest) ↔
      total = count ∧ last = draft ∧ Spaces text (']' :: rest) := by
  rw [Record.ordered, bind_eq_ok_iff]
  simp only [mark_eq_ok_iff (show ']' ∉ white by decide)]
  constructor
  · rintro ⟨behind, spaces, same⟩
    cases same
    exact ⟨rfl, rfl, spaces⟩
  · rintro ⟨rfl, rfl, spaces⟩
    exact ⟨rest, spaces, rfl⟩

theorem ordered_cons_eq_ok_iff {field : RecordField δ} {fields : List (RecordField δ)}
    {first : Bool} {count total : Nat} {draft last : δ} {text rest : List Char} :
    Record.ordered (field :: fields) first count draft text = .ok ((total, last), rest) ↔
      (total = count ∧ last = draft ∧ Spaces text (']' :: rest)) ∨
        ∃ front filled middle, nextItem first text = .ok (.item front) ∧
          field.read draft front = .ok (filled, middle) ∧
          Record.ordered fields false (count + 1) filled middle = .ok ((total, last), rest) := by
  rw [Record.ordered, bind_eq_ok_iff]
  constructor
  · rintro ⟨next | front, isNext, result⟩
    · cases result
      exact .inl ⟨rfl, rfl, nextItem_eq_close_iff.mp isNext⟩
    · rcases bind_eq_ok_iff.mp result with ⟨⟨filled, middle⟩, taken, others⟩
      exact .inr ⟨front, filled, middle, isNext, taken, others⟩
  · rintro (⟨rfl, rfl, spaces⟩ | ⟨front, filled, middle, isNext, taken, others⟩)
    · exact ⟨.close rest, nextItem_eq_close_iff.mpr spaces, rfl⟩
    · exact ⟨.item front, isNext, bind_eq_ok_iff.mpr ⟨_, taken, others⟩⟩

/-- The fields of an array fill the draft and are counted. -/
theorem ordered_of_remaining {fields : List (RecordField δ)}
    (reads : ∀ field ∈ fields, ∀ draft, Reads (field.read draft) (takes field.key draft))
    {draft last : δ} {items : List Value} (fills : FillsInOrder takes fields draft items last)
    (count : Nat) {first : Bool} {text rest : List Char}
    (remaining : Remaining (Padded Stands) ']' first text items rest) :
    Record.ordered fields first count draft text = .ok ((count + items.length, last), rest) := by
  induction fills generalizing first count text with
  | @done fields draft =>
      have spaces := remaining_nil_iff.mp remaining
      cases fields with
      | nil => exact ordered_nil_eq_ok_iff.mpr ⟨rfl, rfl, spaces⟩
      | cons field fields => exact ordered_cons_eq_ok_iff.mpr (.inl ⟨rfl, rfl, spaces⟩)
  | @field field fields draft value filled others last taken _ hypothesis =>
      rcases (remaining_cons_iff Padded.trans).mp remaining with
        ⟨next, middle, begins, padded, left⟩
      rcases padded_iff.mp padded with ⟨front, behind, before, stands, after⟩
      have followed := after.remaining left
      have isNext := stands.nextItem_eq_ok begins before
      have isRead := reads field List.mem_cons_self draft .none stands
        (followed.ends List.mem_cons_self) taken
      have others := hypothesis (fun field member => reads field (List.mem_cons_of_mem _ member))
        (count + 1) followed
      rw [List.length_cons, Nat.add_comm _ 1, ← Nat.add_assoc]
      exact ordered_cons_eq_ok_iff.mpr (.inr ⟨_, filled, behind, isNext, isRead, others⟩)

theorem remaining_of_ordered {fields : List (RecordField δ)}
    (readsOnly : ∀ field ∈ fields, ∀ draft,
      ReadsOnly (field.read draft) (takes field.key draft))
    {first : Bool} {count total : Nat} {draft last : δ} {text rest : List Char}
    (result : Record.ordered fields first count draft text = .ok ((total, last), rest)) :
    ∃ items, Remaining (Padded Stands) ']' first text items rest ∧
      FillsInOrder takes fields draft items last := by
  induction fields generalizing first count draft text with
  | nil =>
      rcases ordered_nil_eq_ok_iff.mp result with ⟨_, rfl, spaces⟩
      exact ⟨[], remaining_nil_iff.mpr spaces, .done⟩
  | cons field fields hypothesis =>
      rcases ordered_cons_eq_ok_iff.mp result with
        ⟨_, rfl, spaces⟩ | ⟨front, filled, middle, isNext, taken, others⟩
      · exact ⟨[], remaining_nil_iff.mpr spaces, .done⟩
      · rcases hypothesis (fun field member => readsOnly field (List.mem_cons_of_mem _ member))
          others with ⟨items, remaining, fills⟩
        rcases (readsOnly field List.mem_cons_self draft).exists_padded isNext taken with
          ⟨next, value, begins, padded, hasShape⟩
        exact ⟨value :: items,
          (remaining_cons_iff Padded.trans).mpr ⟨next, middle, begins, padded, remaining⟩,
          .field hasShape fills⟩

theorem reads_record
    (reads : ∀ field ∈ record.fields, ∀ draft,
      Reads (field.read draft) (takes field.key draft)) :
    Reads record.read (record.Takes takes) := by
  intro text front rest value item before stands ends takesValue
  have skipped := stands.skipSpace_eq before
  rw [Record.read, skipped]
  cases takesValue with
  | @object fields draft _ fills built =>
      rcases stands_object_iff.mp stands with ⟨inner, rfl, remaining⟩
      have bounded : fields.length < inner.length + 1 :=
        Nat.lt_succ_of_le (remaining.length_le fun field _ _ _ member =>
          member.length_lt Stands.length_lt)
      have result := keyedUpTo_of_remaining reads fills bounded remaining
      refine bind_eq_ok_iff.mpr ⟨_, result, ?_⟩
      simp only [built]
      rfl
  | @array items draft _ fills built =>
      rcases stands_array_iff.mp stands with ⟨inner, rfl, remaining⟩
      refine bind_eq_ok_iff.mpr ⟨_, ordered_of_remaining reads fills 0 remaining, ?_⟩
      simp only [built]
      rfl

theorem readsOnly_record (strict : record.skipsUnknown = false)
    (readsOnly : ∀ field ∈ record.fields, ∀ draft,
      ReadsOnly (field.read draft) (takes field.key draft)) :
    ReadsOnly record.read (record.Takes takes) := by
  intro text rest item result
  rw [Record.read] at result
  split at result
  case h_1 inside skipped =>
    rcases bind_eq_ok_iff.mp result with ⟨⟨⟨count, draft⟩, behind⟩, ordered, result⟩
    dsimp only at result
    split at result
    case h_1 built =>
      cases result
      rcases remaining_of_ordered readsOnly ordered with ⟨items, remaining, fills⟩
      exact ⟨_, _, spaces_skipSpace text, stands_array_iff.mpr ⟨inside, skipped, remaining⟩,
        .array fills built⟩
    case h_2 => cases result
  case h_2 inside skipped =>
    rcases bind_eq_ok_iff.mp result with ⟨⟨draft, behind⟩, keyed, result⟩
    dsimp only at result
    split at result
    case h_1 built =>
      cases result
      rcases remaining_of_keyedUpTo strict readsOnly keyed with ⟨fields, remaining, fills⟩
      exact ⟨_, _, spaces_skipSpace text, stands_object_iff.mpr ⟨inside, skipped, remaining⟩,
        .object fills built⟩
    case h_2 => cases result
  case h_3 => cases result

end

/-!
## Records of two fields

An object fills the draft of such a record with each key once or not at all, in
either order.  An array fills it from the front.
-/

variable {α β γ : Type} {first second : String} {readFirst : Reader β} {readSecond : Reader γ}
  {left : Value → β → Prop} {right : Value → γ → Prop}

/-- Two fields, each with a part of the draft of its own. -/
def pairFields (first second : String) (readFirst : Reader β) (readSecond : Reader γ) :
    List (RecordField (Option β × Option γ)) :=
  [Record.field first Prod.fst (fun draft part => (some part, draft.2)) readFirst,
    Record.field second Prod.snd (fun draft part => (draft.1, some part)) readSecond]

/-- What each of two fields makes of a draft. -/
def PairTakes (first second : String) (left : Value → β → Prop) (right : Value → γ → Prop)
    (key : String) (draft : Option β × Option γ) (value : Value)
    (filled : Option β × Option γ) : Prop :=
  (key = first ∧ ∃ part, left value part ∧ filled = (some part, draft.2)) ∨
    (key = second ∧ ∃ part, right value part ∧ filled = (draft.1, some part))

/-- The record has two fields under distinct keys and starts without them. -/
structure Record.OfPair (record : Record (Option β × Option γ) α) (first second : String)
    (readFirst : Reader β) (readSecond : Reader γ) : Prop where
  fields : record.fields = pairFields first second readFirst readSecond
  blank : record.blank = (none, none)
  differ : first ≠ second

/-- The fields that fill a part of a draft: none, which leaves it as it is, or one,
which sets it. -/
inductive Gains (key : String) (shape : Value → β → Prop) :
    Option β → List (String × Value) → Option β → Prop
  | none {part} : Gains key shape part [] part
  | one {value part} (isPart : shape value part) :
      Gains key shape none [(key, value)] (some part)

theorem gains_some_iff {key : String} {shape : Value → β → Prop} {part : β}
    {fields : List (String × Value)} {last : Option β} :
    Gains key shape (some part) fields last ↔ fields = [] ∧ last = some part := by
  constructor
  · intro gains
    cases gains
    exact ⟨rfl, rfl⟩
  · rintro ⟨rfl, rfl⟩
    exact .none

theorem find?_pairFields_first :
    (pairFields first second readFirst readSecond).find? (fun field => field.key == first) =
      some (Record.field first Prod.fst (fun draft part => (some part, draft.2)) readFirst) := by
  rw [pairFields, List.find?_cons_of_pos]
  exact beq_self_eq_true first

theorem find?_pairFields_second (differ : first ≠ second) :
    (pairFields first second readFirst readSecond).find? (fun field => field.key == second) =
      some (Record.field second Prod.snd (fun draft part => (draft.1, some part)) readSecond) := by
  rw [pairFields, List.find?_cons_of_neg, List.find?_cons_of_pos]
  · exact beq_self_eq_true second
  · simpa [Record.field] using differ

/-- A key is taken only while its part is not set, so a part gains once at most. -/
theorem gains_of_fillsByKey {draft last : Option β × Option γ} {fields : List (String × Value)}
    (differ : first ≠ second)
    (fills : FillsByKey (pairFields first second readFirst readSecond)
      (PairTakes first second left right) draft fields last) :
    ∃ firsts seconds, Gains first left draft.1 firsts last.1 ∧
      Gains second right draft.2 seconds last.2 ∧ fields.Perm (firsts ++ seconds) := by
  induction fills with
  | done => exact ⟨[], [], .none, .none, .refl _⟩
  | @field draft _ _ _ _ _ _ known unset taken _ hypothesis =>
      rcases hypothesis with ⟨firsts, seconds, ofFirst, ofSecond, permutes⟩
      rcases taken with ⟨rfl, part, isPart, rfl⟩ | ⟨rfl, part, isPart, rfl⟩
      · cases find?_pairFields_first.symm.trans known
        rcases gains_some_iff.mp ofFirst with ⟨rfl, isLast⟩
        have isUnset : draft.1 = none :=
          Option.not_isSome_iff_eq_none.mp (ne_true_of_eq_false unset)
        rw [isLast, isUnset]
        exact ⟨_, seconds, .one isPart, ofSecond, permutes.cons _⟩
      · cases (find?_pairFields_second differ).symm.trans known
        rcases gains_some_iff.mp ofSecond with ⟨rfl, isLast⟩
        have isUnset : draft.2 = none :=
          Option.not_isSome_iff_eq_none.mp (ne_true_of_eq_false unset)
        rw [isLast, isUnset]
        refine ⟨firsts, _, ofFirst, .one isPart, ?_⟩
        rw [List.append_nil] at permutes
        exact (permutes.cons _).trans (List.perm_append_singleton _ _).symm

/-- In whatever order the gained fields come, each finds its part not yet set. -/
theorem fillsByKey_of_gains {draft last : Option β × Option γ}
    {fields firsts seconds : List (String × Value)} (differ : first ≠ second)
    (ofFirst : Gains first left draft.1 firsts last.1)
    (ofSecond : Gains second right draft.2 seconds last.2)
    (permutes : fields.Perm (firsts ++ seconds)) :
    FillsByKey (pairFields first second readFirst readSecond)
      (PairTakes first second left right) draft fields last := by
  rcases last with ⟨lastPart, lastOther⟩
  induction fields generalizing draft firsts seconds with
  | nil =>
      rcases List.append_eq_nil_iff.mp permutes.nil_eq.symm with ⟨rfl, rfl⟩
      rcases draft with ⟨part, other⟩
      cases ofFirst
      cases ofSecond
      exact .done
  | cons field fields hypothesis =>
      rcases draft with ⟨part, other⟩
      rcases List.mem_append.mp (permutes.mem_iff.mp List.mem_cons_self) with inFirsts | inSeconds
      · cases ofFirst with
        | none => cases inFirsts
        | one isPart =>
            cases List.mem_singleton.mp inFirsts
            exact .field find?_pairFields_first rfl (.inl ⟨rfl, _, isPart, rfl⟩)
              (hypothesis permutes.cons_inv .none ofSecond)
      · cases ofSecond with
        | none => cases inSeconds
        | one isPart =>
            cases List.mem_singleton.mp inSeconds
            have others : fields.Perm (firsts ++ []) := by
              rw [List.append_nil]
              exact (permutes.trans (List.perm_append_singleton _ _)).cons_inv
            exact .field (find?_pairFields_second differ) rfl (.inr ⟨rfl, _, isPart, rfl⟩)
              (hypothesis others ofFirst .none)

/-- A value of such a record fills a draft, as an object or as an array. -/
inductive IsPair (first second : String) (left : Value → β → Prop) (right : Value → γ → Prop) :
    Value → Option β × Option γ → Prop
  | object {fields firsts seconds part other} (ofFirst : Gains first left none firsts part)
      (ofSecond : Gains second right none seconds other)
      (permutes : fields.Perm (firsts ++ seconds)) :
      IsPair first second left right (.object fields) (part, other)
  | none : IsPair first second left right (.array []) (none, none)
  | one {value part} (isPart : left value part) :
      IsPair first second left right (.array [value]) (some part, none)
  | both {value next part other} (isPart : left value part) (isOther : right next other) :
      IsPair first second left right (.array [value, next]) (some part, some other)

theorem fillsInOrder_pair_iff {items : List Value} {draft : Option β × Option γ}
    (differ : first ≠ second) :
    FillsInOrder (PairTakes first second left right)
        (pairFields first second readFirst readSecond) (none, none) items draft ↔
      IsPair first second left right (.array items) draft := by
  constructor
  · intro fills
    cases fills with
    | done => exact .none
    | field taken rest =>
        rcases taken with ⟨_, part, isPart, rfl⟩ | ⟨same, _⟩
        · cases rest with
          | done => exact .one isPart
          | field taken rest =>
              rcases taken with ⟨same, _⟩ | ⟨_, other, isOther, rfl⟩
              · exact absurd same.symm differ
              · cases rest
                exact .both isPart isOther
        · exact absurd same differ
  · intro isPair
    cases isPair with
    | none => exact .done
    | one isPart => exact .field (.inl ⟨rfl, _, isPart, rfl⟩) .done
    | both isPart isOther =>
        exact .field (.inl ⟨rfl, _, isPart, rfl⟩) (.field (.inr ⟨rfl, _, isOther, rfl⟩) .done)

variable {record : Record (Option β × Option γ) α}

/-- A record of two fields has the shape of its draft. -/
theorem Record.OfPair.takes_iff (ofPair : record.OfPair first second readFirst readSecond)
    {value : Value} {item : α} :
    record.Takes (PairTakes first second left right) value item ↔
      ∃ draft, IsPair first second left right value draft ∧ record.build draft = .ok item := by
  constructor
  · intro takes
    cases takes with
    | @object fields draft _ fills built =>
        rw [ofPair.fields, ofPair.blank] at fills
        rcases gains_of_fillsByKey ofPair.differ fills with
          ⟨firsts, seconds, ofFirst, ofSecond, permutes⟩
        exact ⟨draft, .object ofFirst ofSecond permutes, built⟩
    | @array items draft _ fills built =>
        rw [ofPair.fields, ofPair.blank, fillsInOrder_pair_iff ofPair.differ] at fills
        exact ⟨draft, fills, built⟩
  · rintro ⟨draft, isPair, built⟩
    have asArray : ∀ {items}, value = .array items →
        record.Takes (PairTakes first second left right) value item := by
      rintro items rfl
      refine .array ?_ built
      rw [ofPair.fields, ofPair.blank]
      exact (fillsInOrder_pair_iff ofPair.differ).mpr isPair
    cases isPair with
    | object ofFirst ofSecond permutes =>
        refine .object ?_ built
        rw [ofPair.fields, ofPair.blank]
        exact fillsByKey_of_gains ofPair.differ ofFirst ofSecond permutes
    | none | one | both => exact asArray rfl

/-- Each of two fields reads what it takes. -/
theorem reads_pairFields (differ : first ≠ second) (readsFirst : Reads readFirst left)
    (readsSecond : Reads readSecond right) :
    ∀ field ∈ pairFields first second readFirst readSecond, ∀ draft,
      Reads (field.read draft) (PairTakes first second left right field.key draft) := by
  rw [pairFields]
  refine List.forall_mem_cons.mpr ⟨fun draft => (reads_field readsFirst draft).of_imp ?_,
    List.forall_mem_singleton.mpr fun draft => (reads_field readsSecond draft).of_imp ?_⟩
  · rintro value filled (⟨_, taken⟩ | ⟨same, _⟩)
    · exact taken
    · exact absurd same differ
  · rintro value filled (⟨same, _⟩ | ⟨_, taken⟩)
    · exact absurd same.symm differ
    · exact taken

theorem readsOnly_pairFields (readsFirst : ReadsOnly readFirst left)
    (readsSecond : ReadsOnly readSecond right) :
    ∀ field ∈ pairFields first second readFirst readSecond, ∀ draft,
      ReadsOnly (field.read draft) (PairTakes first second left right field.key draft) := by
  rw [pairFields]
  refine List.forall_mem_cons.mpr ⟨fun draft => (readsOnly_field readsFirst draft).imp ?_,
    List.forall_mem_singleton.mpr fun draft => (readsOnly_field readsSecond draft).imp ?_⟩
  · exact fun _ _ taken => .inl ⟨rfl, taken⟩
  · exact fun _ _ taken => .inr ⟨rfl, taken⟩

theorem Record.OfPair.reads (ofPair : record.OfPair first second readFirst readSecond)
    (readsFirst : Reads readFirst left) (readsSecond : Reads readSecond right) :
    Reads record.read fun value item =>
      ∃ draft, IsPair first second left right value draft ∧ record.build draft = .ok item := by
  intro text front rest value item before stands ends isItem
  refine reads_record ?_ before stands ends (ofPair.takes_iff.mpr isItem)
  rw [ofPair.fields]
  exact reads_pairFields ofPair.differ readsFirst readsSecond

theorem Record.OfPair.readsOnly (ofPair : record.OfPair first second readFirst readSecond)
    (strict : record.skipsUnknown = false) (readsFirst : ReadsOnly readFirst left)
    (readsSecond : ReadsOnly readSecond right) :
    ReadsOnly record.read fun value item =>
      ∃ draft, IsPair first second left right value draft ∧ record.build draft = .ok item := by
  intro text rest item result
  have ofFields : ∀ field ∈ record.fields, ∀ draft,
      ReadsOnly (field.read draft) (PairTakes first second left right field.key draft) := by
    rw [ofPair.fields]
    exact readsOnly_pairFields readsFirst readsSecond
  rcases readsOnly_record strict ofFields result with ⟨front, value, before, stands, takes⟩
  exact ⟨front, value, before, stands, ofPair.takes_iff.mp takes⟩

end MarkedTree.Json

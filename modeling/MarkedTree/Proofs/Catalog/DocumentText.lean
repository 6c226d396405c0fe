import MarkedTree.Json.Forms
import MarkedTree.Proofs.Catalog.Faults
import MarkedTree.Proofs.Catalog.Listing
import MarkedTree.Proofs.Json.Records
import MarkedTree.Proofs.Json.Writing

/-!
# The texts that hold a catalog

A text is read as a catalog document exactly if it is JSON of the form of documents.
That form has two sides for each record: an object with its keys in any order, or an
array.  What is wrong with the declarations themselves is no concern of the form.
-/

namespace MarkedTree

open Json

def MarkerType.IsName (value : Value) (type : MarkerType) : Prop := value = .string type.name

/-- A declaration has a name.  Its parent may be left out, which is the same as `null`. -/
inductive IsDeclaration : Value → MarkerDeclaration → Prop
  | nameKey {fields type} (permutes : fields.Perm [("name", .string type.name)]) :
      IsDeclaration (.object fields) ⟨type, none⟩
  | bothKeys {fields type value parent} (isParent : OrNull MarkerType.IsName value parent)
      (permutes : fields.Perm [("name", .string type.name), ("refines", value)]) :
      IsDeclaration (.object fields) ⟨type, parent⟩
  | nameItem {type : MarkerType} : IsDeclaration (.array [.string type.name]) ⟨type, none⟩
  | bothItems {type : MarkerType} {value parent}
      (isParent : OrNull MarkerType.IsName value parent) :
      IsDeclaration (.array [.string type.name, value]) ⟨type, parent⟩

/-- A document has a list of declarations, which may be left out. -/
inductive IsDocument : Value → CatalogDocument → Prop
  | noKey : IsDocument (.object []) ⟨[]⟩
  | key {value declarations} (areDeclarations : IsSequence IsDeclaration value declarations) :
      IsDocument (.object [("markers", value)]) ⟨declarations⟩
  | noItem : IsDocument (.array []) ⟨[]⟩
  | item {value declarations} (areDeclarations : IsSequence IsDeclaration value declarations) :
      IsDocument (.array [value]) ⟨declarations⟩

namespace MarkerType

theorem reads_read : Reads read IsName := by
  intro text front rest value type before stands ends isName
  exact bind_eq_ok_iff.mpr ⟨_, reads_string before stands ends isName, rfl⟩

theorem readsOnly_read : ReadsOnly read IsName := by
  intro text rest type result
  rcases bind_eq_ok_iff.mp result with ⟨⟨name, behind⟩, isRead, same⟩
  cases same
  exact readsOnly_string isRead

theorem reads_parent : Reads (optional read) (OrNull IsName) :=
  reads_optional reads_read fun _ isName => nomatch isName

theorem readsOnly_parent : ReadsOnly (optional read) (OrNull IsName) :=
  readsOnly_optional readsOnly_read

end MarkerType

namespace MarkerDeclaration

theorem format_ofPair :
    format.OfPair "name" "refines" MarkerType.read (optional MarkerType.read) :=
  ⟨rfl, rfl, by decide⟩

theorem build_eq_ok_iff {draft : Option MarkerType × Option (Option MarkerType)}
    {declaration : MarkerDeclaration} :
    format.build draft = .ok declaration ↔
      ∃ type, draft.1 = some type ∧ declaration = ⟨type, draft.2.join⟩ := by
  rcases draft with ⟨_ | type, parent⟩
  · constructor
    · intro impossible
      cases impossible
    · rintro ⟨_, impossible, _⟩
      cases impossible
  · constructor
    · intro built
      cases built
      exact ⟨type, rfl, rfl⟩
    · rintro ⟨_, same, rfl⟩
      cases same
      rfl

theorem isDeclaration_iff {value : Value} {declaration : MarkerDeclaration} :
    IsDeclaration value declaration ↔
      ∃ draft, IsPair "name" "refines" MarkerType.IsName (OrNull MarkerType.IsName) value draft ∧
        format.build draft = .ok declaration := by
  simp only [build_eq_ok_iff]
  constructor
  · intro isDeclaration
    cases isDeclaration with
    | nameKey permutes => exact ⟨_, .object (.one rfl) .none permutes, _, rfl, rfl⟩
    | bothKeys isParent permutes =>
        exact ⟨_, .object (.one rfl) (.one isParent) permutes, _, rfl, rfl⟩
    | nameItem => exact ⟨_, .one rfl, _, rfl, rfl⟩
    | bothItems isParent => exact ⟨_, .both rfl isParent, _, rfl, rfl⟩
  · rintro ⟨draft, isPair, type, isName, rfl⟩
    cases isPair with
    | object ofName ofParent permutes =>
        cases isName
        cases ofName with
        | one isName =>
            cases isName
            cases ofParent with
            | none => exact .nameKey permutes
            | one isParent => exact .bothKeys isParent permutes
    | none => cases isName
    | one isPart =>
        cases isName
        cases isPart
        exact .nameItem
    | both isPart isParent =>
        cases isName
        cases isPart
        exact .bothItems isParent

theorem reads_format : Reads format.read IsDeclaration :=
  (format_ofPair.reads MarkerType.reads_read MarkerType.reads_parent).of_imp fun _ _ =>
    isDeclaration_iff.mp

theorem readsOnly_format : ReadsOnly format.read IsDeclaration :=
  (format_ofPair.readsOnly rfl MarkerType.readsOnly_read MarkerType.readsOnly_parent).imp
    fun _ _ => isDeclaration_iff.mpr

end MarkerDeclaration

namespace CatalogDocument

/-- What the one field of a document makes of a draft. -/
def Takes (key : String) (_ : Option (List MarkerDeclaration)) (value : Value)
    (filled : Option (List MarkerDeclaration)) : Prop :=
  key = "markers" ∧ ∃ declarations, IsSequence IsDeclaration value declarations ∧
    filled = some declarations

theorem isDocument_iff {value : Value} {document : CatalogDocument} :
    IsDocument value document ↔ format.Takes Takes value document := by
  constructor
  · intro isDocument
    cases isDocument with
    | noKey => exact .object .done rfl
    | key areDeclarations =>
        exact .object (.field rfl rfl ⟨rfl, _, areDeclarations, rfl⟩ .done) rfl
    | noItem => exact .array .done rfl
    | item areDeclarations => exact .array (.field ⟨rfl, _, areDeclarations, rfl⟩ .done) rfl
  · intro takes
    cases takes with
    | object fills built =>
        cases built
        cases fills with
        | done => exact .noKey
        | field known _ taken rest =>
            rcases taken with ⟨rfl, declarations, areDeclarations, rfl⟩
            cases rest with
            | done => exact .key areDeclarations
            | field known unset taken _ =>
                rcases taken with ⟨rfl, _⟩
                cases known
                cases unset
    | array fills built =>
        cases built
        cases fills with
        | done => exact .noItem
        | field taken rest =>
            rcases taken with ⟨_, declarations, areDeclarations, rfl⟩
            cases rest
            exact .item areDeclarations

theorem reads_format : Reads format.read IsDocument := by
  refine (reads_record (List.forall_mem_singleton.mpr fun draft => ?_)).of_imp fun _ _ =>
    isDocument_iff.mp
  exact (reads_field (reads_sequence MarkerDeclaration.reads_format) draft).of_imp
    fun _ _ taken => taken.2

theorem readsOnly_format : ReadsOnly format.read IsDocument := by
  refine (readsOnly_record rfl (List.forall_mem_singleton.mpr fun draft => ?_)).imp fun _ _ =>
    isDocument_iff.mpr
  exact (readsOnly_field (readsOnly_sequence MarkerDeclaration.readsOnly_format) draft).imp
    fun _ _ taken => ⟨rfl, taken⟩

/-- A text is read as the document that it holds. -/
theorem ofText?_eq_ok_iff {text : String} {document : CatalogDocument} :
    ofText? text = .ok document ↔ ∃ value, IsText text value ∧ IsDocument value document := by
  constructor
  · exact readsOnly_format.exists_isText
  · rintro ⟨value, isText, isDocument⟩
    exact reads_format.decode_eq_ok isText isDocument

end CatalogDocument

namespace Catalog

/-- Whatever is wrong with the declarations of a document, it was readable. -/
theorem Verdict.ne_unreadable {declarations : List MarkerDeclaration}
    {answer : Except CatalogError Catalog} (verdict : Verdict declarations answer) (fault : Fault) :
    answer ≠ .error (.unreadable fault) := by
  rintro rfl
  by_cases apart : MarkerDeclaration.NamesApart declarations
  · by_cases known : MarkerDeclaration.ParentsAmong (declarations.map MarkerDeclaration.name)
        declarations
    · by_cases onCycle : ∃ marker, MarkerDeclaration.OnCycle declarations marker
      · rcases verdict.cycle apart known onCycle with ⟨_, _, impossible⟩
        cases impossible
      · rcases verdict.accepted apart known onCycle with ⟨_, impossible, _⟩
        cases impossible
    · rcases verdict.unknownParent apart known with ⟨_, _, _, _, _, _, _, _, impossible⟩
      cases impossible
  · rcases verdict.badName apart with ⟨_, _, _, _, _, ⟨_, impossible⟩ | ⟨_, _, impossible⟩⟩
    · cases impossible
    · cases impossible

theorem ofDocument?_ne_unreadable (document : CatalogDocument) (fault : Fault) :
    ofDocument? document ≠ .error (.unreadable fault) := by
  rw [← ofDocumentIn?_keys]
  exact (verdict_ofDocumentIn? fun _ => .refl _).ne_unreadable fault

/-- A text is readable exactly if it is JSON of the form of documents.  The answer is
then that for the document which it holds. -/
theorem ofText?_readable (text : String) :
    ((∀ fault, ofText? text ≠ .error (.unreadable fault)) ↔
      ∃ value document, IsText text value ∧ IsDocument value document) ∧
    ∀ value document, IsText text value → IsDocument value document →
      ofText? text = ofDocument? document := by
  have answered : ∀ value document, IsText text value → IsDocument value document →
      ofText? text = ofDocument? document := by
    intro value document isText isDocument
    rw [ofText?, CatalogDocument.ofText?_eq_ok_iff.mpr ⟨value, isText, isDocument⟩]
  refine ⟨⟨fun readable => ?_, fun holds fault => ?_⟩, answered⟩
  · cases read : CatalogDocument.ofText? text with
    | ok document =>
        rcases CatalogDocument.ofText?_eq_ok_iff.mp read with ⟨value, isText, isDocument⟩
        exact ⟨value, document, isText, isDocument⟩
    | error fault =>
        have refused : ofText? text = .error (.unreadable fault) := by rw [ofText?, read]
        exact absurd refused (readable fault)
  · rcases holds with ⟨value, document, isText, isDocument⟩
    rw [answered value document isText isDocument]
    exact ofDocument?_ne_unreadable document fault

/-- A document with white space around it, written as an array.  The first of its
declarations is an array and the second an object, with its keys the other way round
and a name that is spelled by code unit. -/
def terse : String :=
  "\t[[[\"A\",null],\x7b\"refines\":\"\\u0041\" ,\"name\":\"B\"\x7d]]\n"

theorem isText_terse : IsText terse (.array [.array [.array [.string "A", .null],
    .object [("refines", .string "A"), ("name", .string "B")]]]) := by
  have first : ∀ rest, Stands ("[\"A\",null]".toList ++ rest) (.array [.string "A", .null]) rest :=
    fun rest => .array (.more (.item (writes_writeString "A" _) .none) (.one (.item .null .none)))
  have codeUnit : utf16 'A' = [((0 * 16 + 0) * 16 + 4) * 16 + 1] := by decide
  have escape : ∀ rest, UnitEscapes ("\\u0041".toList ++ rest) (utf16 'A') rest := by
    intro rest
    rw [codeUnit]
    exact .cons ⟨by decide, .inl rfl⟩ ⟨by decide, .inl rfl⟩ ⟨by decide, .inl rfl⟩
      ⟨by decide, .inl rfl⟩ .nil
  have parent : ∀ rest, Member Stands ("\"refines\":\"\\u0041\" ".toList ++ rest)
      ("refines", .string "A") rest :=
    fun rest => .field (spelled_flatMap_escaped "refines".toList _) .none
      (.item (.string (.units (escape _) .close)) (.more (by decide) .none))
  have name : ∀ rest, Member Stands ("\"name\":\"B\"".toList ++ rest) ("name", .string "B") rest :=
    @member_of_written "name" _ _ (writes_writeString "B")
  have second : ∀ rest, Stands ("\x7b\"refines\":\"\\u0041\" ,\"name\":\"B\"\x7d".toList ++ rest)
      (.object [("refines", .string "A"), ("name", .string "B")]) rest :=
    fun rest => .object (.more (parent _) (.one (name _)))
  exact .space (by decide) (.item (.array (.one (.item (.array (.more (.item (first _) .none)
    (.one (.item (second _) .none)))) .none))) (.more (by decide) .none))

theorem ofText?_readable_terse :
    ofText? terse = ofDocument? ⟨[⟨⟨"A"⟩, none⟩, ⟨⟨"B"⟩, some ⟨"A"⟩⟩]⟩ ∧
    ∀ fault, ofText? terse ≠ .error (.unreadable fault) := by
  have isDocument : IsDocument (.array [.array [.array [.string "A", .null],
      .object [("refines", .string "A"), ("name", .string "B")]]])
      ⟨[⟨⟨"A"⟩, none⟩, ⟨⟨"B"⟩, some ⟨"A"⟩⟩]⟩ :=
    .item ⟨_, rfl, .cons (.bothItems .null) (.cons (.bothKeys (.value rfl) (.swap _ _ _)) .nil)⟩
  exact ⟨(ofText?_readable terse).2 _ _ isText_terse isDocument,
    (ofText?_readable terse).1.mpr ⟨_, _, isText_terse, isDocument⟩⟩

end Catalog

/-!
## What is written is read back

Documents, declarations, spans, positions and kinds are written as JSON that their
readers take for what was written.  A catalog that goes through its document and the
text of that comes back with the same types and parents.
-/

section

variable {β γ : Type} {first second : String} {left : Value → β → Prop} {right : Value → γ → Prop}

theorem carries_first {text : List Char} {part : β} (carried : Carries left text part) :
    Carries (IsPair first second left right) (writeObject [(first, text)]) (some part, none) := by
  rcases carried with ⟨value, written, isPart⟩
  exact ⟨.object [(first, value)], writes_writeObject (.cons ⟨rfl, written⟩ .nil),
    .object (.one isPart) .none (.refl _)⟩

theorem carries_both {text next : List Char} {part : β} {other : γ}
    (carried : Carries left text part) (otherCarried : Carries right next other) :
    Carries (IsPair first second left right) (writeObject [(first, text), (second, next)])
      (some part, some other) := by
  rcases carried with ⟨value, written, isPart⟩
  rcases otherCarried with ⟨otherValue, otherWritten, isOther⟩
  exact ⟨.object [(first, value), (second, otherValue)],
    writes_writeObject (.cons ⟨rfl, written⟩ (.cons ⟨rfl, otherWritten⟩ .nil)),
    .object (.one isPart) (.one isOther) (.refl _)⟩

end

namespace Position

theorem format_ofPair : format.OfPair "line" "column" word32 word32 := ⟨rfl, rfl, by decide⟩

def IsPosition (value : Value) (position : Position) : Prop :=
  ∃ draft, IsPair "line" "column" IsWord IsWord value draft ∧ format.build draft = .ok position

theorem reads_format : Reads format.read IsPosition :=
  format_ofPair.reads reads_word32 reads_word32

theorem carries_write (position : Position) : Carries IsPosition position.write position := by
  have carried : Carries (IsPair "line" "column" IsWord IsWord) position.write
      (some position.line, some position.column) :=
    carries_both ⟨_, writes_writeNat _, rfl⟩ ⟨_, writes_writeNat _, rfl⟩
  rcases carried with ⟨value, written, isPair⟩
  exact ⟨value, written, _, isPair, rfl⟩

end Position

namespace Span

theorem format_ofPair :
    format.OfPair "start" "end" Position.format.read Position.format.read :=
  ⟨rfl, rfl, by decide⟩

def IsSpan (value : Value) (span : Span) : Prop :=
  ∃ draft, IsPair "start" "end" Position.IsPosition Position.IsPosition value draft ∧
    format.build draft = .ok span

theorem reads_format : Reads format.read IsSpan :=
  format_ofPair.reads Position.reads_format Position.reads_format

theorem carries_write (span : Span) : Carries IsSpan span.write span := by
  have carried : Carries (IsPair "start" "end" Position.IsPosition Position.IsPosition) span.write
      (some span.start, some span.stop) :=
    carries_both span.start.carries_write span.stop.carries_write
  rcases carried with ⟨value, written, isPair⟩
  exact ⟨value, written, _, isPair, rfl⟩

end Span

namespace NodeKind

theorem carries_write (kind : NodeKind) :
    Carries (IsVariant (all.map fun kind => (kind.text, kind))) kind.write kind := by
  have known : (all.map fun kind => (kind.text, kind)).find?
      (fun variant => variant.1 == kind.text) = some (kind.text, kind) := by
    cases kind <;> rfl
  exact ⟨_, writes_writeString kind.text, _, rfl, known⟩

end NodeKind

theorem MarkerType.carries_write (type : MarkerType) : Carries IsName type.write type :=
  ⟨_, writes_writeString type.name, rfl⟩

theorem MarkerDeclaration.carries_write (declaration : MarkerDeclaration) :
    Carries IsDeclaration declaration.write declaration := by
  have draft : Carries (IsPair "name" "refines" MarkerType.IsName (OrNull MarkerType.IsName))
      declaration.write (some declaration.name, declaration.refines.map some) := by
    rcases declaration with ⟨type, _ | parent⟩
    · exact carries_first type.carries_write
    · rcases parent.carries_write with ⟨value, written, isName⟩
      exact carries_both type.carries_write ⟨value, written, .value isName⟩
  rcases draft with ⟨value, written, isPair⟩
  refine ⟨value, written, isDeclaration_iff.mpr ⟨_, isPair, ?_⟩⟩
  rcases declaration with ⟨type, _ | parent⟩
  · rfl
  · rfl

theorem CatalogDocument.carries_write (document : CatalogDocument) :
    Carries IsDocument document.write document := by
  have declarations : List.Forall₂ (Carries IsDeclaration)
      (document.markers.map MarkerDeclaration.write) document.markers := by
    rw [List.forall₂_map_left_iff]
    exact List.forall₂_same.mpr fun declaration _ => declaration.carries_write
  rcases carries_writeSequence declarations with ⟨value, written, areDeclarations⟩
  exact ⟨.object [("markers", value)], writes_writeObject (.cons ⟨rfl, written⟩ .nil),
    .key areDeclarations⟩

namespace Catalog

/-- Everything that is written is JSON and is read back as it was.  Through its
document a catalog comes back with the same types and parents. -/
theorem write_readsBack :
    (∀ document : CatalogDocument,
      ReadsBack CatalogDocument.format.read document.write document) ∧
    (∀ declaration : MarkerDeclaration,
      ReadsBack MarkerDeclaration.format.read declaration.write declaration) ∧
    (∀ span : Span, ReadsBack Span.format.read span.write span) ∧
    (∀ position : Position, ReadsBack Position.format.read position.write position) ∧
    (∀ kind : NodeKind, ReadsBack NodeKind.read kind.write kind) ∧
    ∀ catalog : Catalog, catalog.Reachable →
      ∃ loaded, ofText? catalog.toDocument.text = .ok loaded ∧ loaded.Agrees catalog := by
  refine ⟨fun document => CatalogDocument.reads_format.readsBack document.carries_write,
    fun declaration => MarkerDeclaration.reads_format.readsBack declaration.carries_write,
    fun span => Span.reads_format.readsBack span.carries_write,
    fun position => Position.reads_format.readsBack position.carries_write,
    fun kind => (reads_variant _).readsBack kind.carries_write, fun catalog reachable => ?_⟩
  have isRead : CatalogDocument.ofText? catalog.toDocument.text = .ok catalog.toDocument :=
    (CatalogDocument.reads_format.readsBack catalog.toDocument.carries_write).decoded
  rcases reachable.wellFormed.ofDocument?_toDocument with ⟨loaded, loads, agrees⟩
  refine ⟨loaded, ?_, agrees⟩
  rw [ofText?, isRead]
  exact loads

theorem write_readsBack_tracing :
    tracing.Reachable ∧
    ∃ loaded, ofText? tracing.toDocument.text = .ok loaded ∧ loaded.Agrees tracing ∧
      ReadsBack CatalogDocument.format.read loaded.toDocument.write loaded.toDocument := by
  rcases write_readsBack.2.2.2.2.2 tracing tracing_reachable with ⟨loaded, loads, agrees⟩
  exact ⟨tracing_reachable, loaded, loads, agrees, write_readsBack.1 loaded.toDocument⟩

end Catalog

end MarkedTree

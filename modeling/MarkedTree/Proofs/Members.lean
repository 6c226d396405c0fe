import Mathlib.Data.List.Nodup
import MarkedTree.Marker
import MarkedTree.Proofs.ByteOrder

/-!
# Members as a finite map

Members are supplied one call after the other, in any order and under the same name more
than once.  All that is kept of the calls is which value each name was given last; this
is said of the list of calls alone (`LastSupplied`).  The main statement is that a marker
holds exactly this, listed by name, so that two markers are equal if and only if their
calls agree on it.
-/

namespace MarkedTree

namespace Members

variable {members : Members} {name : String} {value : Expr} {entry : String × Expr}

theorem ascending_nil :
    ([] : List (String × Expr)).Pairwise fun first second => first.1 < second.1 := .nil

theorem mem_insertEntry_iff {entries : List (String × Expr)}
    (ordered : entries.Pairwise fun first second => first.1 < second.1) :
    entry ∈ insertEntry name value entries ↔
      entry = (name, value) ∨ entry ∈ entries ∧ entry.1 ≠ name := by
  induction entries with
  | nil => simp [insertEntry]
  | cons head rest hypothesis =>
      rcases List.pairwise_cons.mp ordered with ⟨headBelow, restOrdered⟩
      rw [insertEntry]
      split
      case isTrue below =>
        have allAbove : ∀ other ∈ head :: rest, name < other.1 := by
          refine List.forall_mem_cons.mpr ⟨below, fun other inRest => ?_⟩
          exact String.lt_trans below (headBelow other inRest)
        rw [List.mem_cons]
        refine or_congr_right ⟨fun member => ⟨member, fun same => ?_⟩, And.left⟩
        exact String.lt_irrefl _ (same ▸ allAbove entry member)
      case isFalse =>
        split
        case isTrue same =>
          rw [List.mem_cons, List.mem_cons]
          refine or_congr_right ⟨fun inRest => ⟨.inr inRest, fun isName => ?_⟩, ?_⟩
          · have above := headBelow entry inRest
            rw [← same, isName] at above
            exact String.lt_irrefl _ above
          · rintro ⟨rfl | inRest, differs⟩
            · exact absurd same.symm differs
            · exact inRest
        case isFalse differs =>
          rw [List.mem_cons, hypothesis restOrdered, List.mem_cons]
          constructor
          · rintro (rfl | isNew | ⟨inRest, isOther⟩)
            · exact .inr ⟨.inl rfl, Ne.symm differs⟩
            · exact .inl isNew
            · exact .inr ⟨.inr inRest, isOther⟩
          · rintro (isNew | ⟨isHead | inRest, isOther⟩)
            · exact .inr (.inl isNew)
            · exact .inl isHead
            · exact .inr (.inr ⟨inRest, isOther⟩)

/-- Putting in a value takes the place of the entry of that name and of no other. -/
theorem mem_insert_iff :
    entry ∈ (members.insert name value).entries ↔
      entry = (name, value) ∨ entry ∈ members.entries ∧ entry.1 ≠ name :=
  mem_insertEntry_iff members.ascending

theorem names_nodup (members : Members) : (members.entries.map Prod.fst).Nodup :=
  Text.nodup_map_of_ascending members.ascending

/-- Looking up a name finds the value of its entry. -/
theorem get?_eq_some_iff : members.get? name = some value ↔ (name, value) ∈ members.entries := by
  rw [get?, Option.map_eq_some_iff]
  constructor
  · rintro ⟨⟨found, _⟩, isFound, rfl⟩
    have sameName : found = name := by simpa using List.find?_some isFound
    exact sameName ▸ List.mem_of_find?_eq_some isFound
  · intro member
    cases isFound : members.entries.find? fun entry => entry.1 == name with
    | none =>
        have notNamed := List.find?_eq_none.mp isFound _ member
        simp at notNamed
    | some found =>
        have sameName : found.1 = name := by simpa using List.find?_some isFound
        have isEntry := List.inj_on_of_nodup_map members.names_nodup
          (List.mem_of_find?_eq_some isFound) member sameName
        exact ⟨found, rfl, congrArg Prod.snd isEntry⟩

theorem get?_eq_none_iff : members.get? name = none ↔ name ∉ members.entries.map Prod.fst := by
  constructor
  · intro notFound member
    rcases List.mem_map.mp member with ⟨⟨_, value⟩, inEntries, rfl⟩
    cases notFound.symm.trans (get?_eq_some_iff.mpr inEntries)
  · intro notNamed
    by_contra found
    rcases Option.ne_none_iff_exists'.mp found with ⟨value, isFound⟩
    exact notNamed (List.mem_map_of_mem (get?_eq_some_iff.mp isFound))

/-- Members with the same entries are equal. -/
theorem ext_entries {first second : Members}
    (same : ∀ entry, entry ∈ first.entries ↔ entry ∈ second.entries) : first = second := by
  have permutes : first.entries.Perm second.entries :=
    (List.perm_ext_iff_of_nodup first.names_nodup.of_map second.names_nodup.of_map).mpr same
  have equal := Text.eq_of_perm_of_ascending first.ascending second.ascending permutes
  rcases first with ⟨entries, _⟩
  cases equal
  rfl

end Members

/-- Among these calls the name was given this value, and no other value after that. -/
def LastSupplied (calls : List (String × Expr)) (name : String) (value : Expr) : Prop :=
  ∃ before after, calls = before ++ (name, value) :: after ∧ name ∉ after.map Prod.fst

section

variable {call : String × Expr} {calls others : List (String × Expr)} {name : String} {value : Expr}

theorem lastSupplied_nil : ¬ LastSupplied [] name value := by
  rintro ⟨before, after, split, _⟩
  simp at split

theorem lastSupplied_cons_iff :
    LastSupplied (call :: calls) name value ↔ LastSupplied calls name value ∨
      call = (name, value) ∧ name ∉ calls.map Prod.fst := by
  constructor
  · rintro ⟨before, after, split, notLater⟩
    rcases List.cons_eq_append_iff.mp split with ⟨rfl, isFirst⟩ | ⟨rest, rfl, isLater⟩
    · cases isFirst
      exact .inr ⟨rfl, notLater⟩
    · exact .inl ⟨rest, after, isLater, notLater⟩
  · rintro (⟨before, after, rfl, notLater⟩ | ⟨rfl, notLater⟩)
    · exact ⟨call :: before, after, rfl, notLater⟩
    · exact ⟨[], calls, rfl, notLater⟩

/-- Every name in the calls was given some value last. -/
theorem exists_lastSupplied_iff :
    (∃ value, LastSupplied calls name value) ↔ name ∈ calls.map Prod.fst := by
  induction calls with
  | nil => simp [lastSupplied_nil]
  | cons call calls hypothesis =>
      simp only [lastSupplied_cons_iff, exists_or, hypothesis, List.map_cons, List.mem_cons]
      constructor
      · rintro (inCalls | ⟨_, rfl, _⟩)
        · exact .inr inCalls
        · exact .inl rfl
      · intro member
        by_cases inCalls : name ∈ calls.map Prod.fst
        · exact .inl inCalls
        · have isFirst := member.resolve_right inCalls
          exact .inr ⟨call.2, by rw [isFirst], inCalls⟩

/-- If no name is repeated, the calls themselves are the last ones. -/
theorem lastSupplied_iff_mem (distinct : (calls.map Prod.fst).Nodup) :
    LastSupplied calls name value ↔ (name, value) ∈ calls := by
  induction calls with
  | nil => simp [lastSupplied_nil]
  | cons call calls hypothesis =>
      rcases List.nodup_cons.mp distinct with ⟨fresh, othersDistinct⟩
      rw [lastSupplied_cons_iff, hypothesis othersDistinct, List.mem_cons, or_comm, eq_comm]
      refine or_congr_left ⟨And.left, ?_⟩
      rintro rfl
      exact ⟨rfl, fresh⟩

end

namespace Marker

def supply (marker : Marker) (calls : List (String × Expr)) : Marker :=
  calls.foldl (fun marker call => marker.withMember call.1 call.2) marker

/-- A marker that got its members by these calls, and had none before. -/
def supplied (type : MarkerType) (calls : List (String × Expr)) : Marker :=
  supply ⟨type, ⟨[], Members.ascending_nil⟩, none⟩ calls

theorem supply_cons (marker : Marker) (call : String × Expr) (calls : List (String × Expr)) :
    marker.supply (call :: calls) = (marker.withMember call.1 call.2).supply calls := rfl

variable {marker : Marker} {type : MarkerType} {calls : List (String × Expr)} {entry : String × Expr}

theorem supply_eq (marker : Marker) (calls : List (String × Expr)) :
    marker.supply calls = { marker with members := (marker.supply calls).members } := by
  induction calls generalizing marker with
  | nil => rfl
  | cons call calls hypothesis =>
      rw [supply_cons, hypothesis]
      rfl

/-- Behind calls stand the values that they gave last, and under all other names those
that were there before. -/
theorem mem_supply_iff :
    entry ∈ (marker.supply calls).members.entries ↔ LastSupplied calls entry.1 entry.2 ∨
      entry ∈ marker.members.entries ∧ entry.1 ∉ calls.map Prod.fst := by
  induction calls generalizing marker with
  | nil => simp [supply, lastSupplied_nil]
  | cons call calls hypothesis =>
      have first : entry ∈ (marker.withMember call.1 call.2).members.entries ↔
          entry = call ∨ entry ∈ marker.members.entries ∧ entry.1 ≠ call.1 :=
        Members.mem_insert_iff
      rw [supply_cons, hypothesis, first, lastSupplied_cons_iff, List.map_cons, List.mem_cons,
        not_or, or_and_right, or_assoc, and_assoc, eq_comm]

theorem supplied_eq (type : MarkerType) (calls : List (String × Expr)) :
    supplied type calls = ⟨type, (supplied type calls).members, none⟩ :=
  supply_eq _ calls

theorem mem_supplied_iff :
    entry ∈ (supplied type calls).members.entries ↔ LastSupplied calls entry.1 entry.2 := by
  rw [supplied, mem_supply_iff]
  simp

/-- What there is to see of the members of a marker is what the calls gave last: each
name once, in ascending order both by characters and by the bytes of UTF-8. -/
structure HoldsLast (marker : Marker) (calls : List (String × Expr)) : Prop where
  once : ∀ name ∈ calls.map Prod.fst, (marker.members.entries.map Prod.fst).count name = 1
  byCharacter : marker.members.entries.Pairwise fun first second => first.1 < second.1
  byByte : marker.members.entries.Pairwise fun first second =>
    Text.utf8 first.1 < Text.utf8 second.1
  listed : ∀ name value, (name, value) ∈ marker.members.entries ↔ LastSupplied calls name value
  found : ∀ name value, marker.member? name = some value ↔ LastSupplied calls name value
  notFound : ∀ name, marker.member? name = none ↔ name ∉ calls.map Prod.fst

theorem mem_names_supplied_iff {name : String} :
    name ∈ (supplied type calls).members.entries.map Prod.fst ↔ name ∈ calls.map Prod.fst := by
  constructor
  · intro member
    rcases List.mem_map.mp member with ⟨⟨_, value⟩, inEntries, rfl⟩
    exact exists_lastSupplied_iff.mp ⟨value, mem_supplied_iff.mp inEntries⟩
  · intro member
    rcases exists_lastSupplied_iff.mpr member with ⟨value, last⟩
    exact List.mem_map.mpr ⟨(name, value), mem_supplied_iff.mpr last, rfl⟩

theorem holdsLast_supplied (type : MarkerType) (calls : List (String × Expr)) :
    (supplied type calls).HoldsLast calls where
  once _ member := List.count_eq_one_of_mem (Members.names_nodup _)
    (mem_names_supplied_iff.mpr member)
  byCharacter := (supplied type calls).members.ascending
  byByte := (supplied type calls).members.ascending.imp Text.utf8_lt_utf8_iff.mpr
  listed _ _ := mem_supplied_iff
  found _ _ := Members.get?_eq_some_iff.trans mem_supplied_iff
  notFound _ := Members.get?_eq_none_iff.trans (not_congr mem_names_supplied_iff)

theorem supplied_eq_supplied_iff {otherType : MarkerType} {others : List (String × Expr)} :
    supplied type calls = supplied otherType others ↔ type = otherType ∧
      ∀ name value, LastSupplied calls name value ↔ LastSupplied others name value := by
  constructor
  · intro same
    have sameType := congrArg Marker.type same
    rw [supplied_eq, supplied_eq otherType] at sameType
    refine ⟨sameType, fun name value => ?_⟩
    rw [← (holdsLast_supplied type calls).found, ← (holdsLast_supplied otherType others).found, same]
  · rintro ⟨rfl, alike⟩
    have sameMembers : (supplied type calls).members = (supplied type others).members := by
      apply Members.ext_entries
      intro entry
      rw [mem_supplied_iff, mem_supplied_iff, alike]
    rw [supplied_eq, sameMembers, ← supplied_eq]

/-- A marker that got its members by any calls holds what they gave last, and is equal
to those markers of its type whose calls gave the same last, and to no others.  Where no
name is repeated, the order of the calls makes no difference. -/
theorem supplied_canonical (type : MarkerType) (calls : List (String × Expr)) :
    (supplied type calls).HoldsLast calls ∧
    (∀ otherType others, supplied type calls = supplied otherType others ↔ type = otherType ∧
      ∀ name value, LastSupplied calls name value ↔ LastSupplied others name value) ∧
    ∀ others, (calls.map Prod.fst).Nodup → calls.Perm others →
      supplied type calls = supplied type others := by
  refine ⟨holdsLast_supplied type calls, fun _ _ => supplied_eq_supplied_iff,
    fun others distinct permutes => supplied_eq_supplied_iff.mpr ⟨rfl, fun name value => ?_⟩⟩
  have othersDistinct := (permutes.map Prod.fst).nodup_iff.mp distinct
  rw [lastSupplied_iff_mem distinct, lastSupplied_iff_mem othersDistinct, permutes.mem_iff]

/-- Two members, of which the second one comes first by name. -/
def levels : List (String × Expr) :=
  [("level", .constant (.str "debug")), ("format", .constant (.int 2))]

theorem supplied_canonical_levels :
    (levels.map Prod.fst).Nodup ∧ levels.Perm levels.reverse ∧
    supplied ⟨"Logged"⟩ levels = supplied ⟨"Logged"⟩ levels.reverse ∧
    supplied ⟨"Logged"⟩ levels ≠
      supplied ⟨"Logged"⟩ (levels ++ [("level", .constant (.str "error"))]) := by
  rcases supplied_canonical ⟨"Logged"⟩ levels with ⟨_, equal, inAnyOrder⟩
  have distinct : (levels.map Prod.fst).Nodup := by decide
  have reversed : levels.Perm levels.reverse := (List.reverse_perm levels).symm
  refine ⟨distinct, reversed, inAnyOrder _ distinct reversed, fun same => ?_⟩
  have isLast : LastSupplied (levels ++ [("level", .constant (.str "error"))]) "level"
      (.constant (.str "error")) := ⟨levels, [], rfl, List.not_mem_nil⟩
  have given := (((equal _ _).mp same).2 _ _).mpr isLast
  rw [lastSupplied_iff_mem distinct] at given
  simp [levels] at given

end Marker

end MarkedTree

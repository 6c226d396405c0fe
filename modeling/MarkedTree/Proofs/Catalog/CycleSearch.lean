import MarkedTree.Catalog
import MarkedTree.Proofs.Catalog.WellFormed

/-!
# The search for cycles

The search follows the parents of one type after the other and does not follow
again what was verified before.  It is right to skip these: from each of them
the parents lead to an end, which is the invariant of the whole search.  In the
other direction every type on the current path leads to the type that has been
come to, so that coming back to the path is a cycle.

Nothing is assumed of the catalog here: parents may be undeclared, and the types
may be searched in any order.
-/

namespace MarkedTree

namespace Catalog

variable {catalog : Catalog}

/-- Steps to a parent from this type come to an end. -/
def Ends (catalog : Catalog) (marker : MarkerType) : Prop :=
  Acc (fun parent child => catalog.HasParent child parent) marker

theorem ends_of_root {marker : MarkerType} (noParent : catalog.parent? marker = none) :
    catalog.Ends marker := by
  refine .intro marker fun other recorded => ?_
  cases noParent.symm.trans recorded

theorem ends_of_parent {marker parent : MarkerType}
    (recorded : catalog.parent? marker = some parent) (ends : catalog.Ends parent) :
    catalog.Ends marker := by
  refine .intro marker fun other isParent => ?_
  cases recorded.symm.trans isParent
  exact ends

/-- A type whose parents lead to an end does not come back to itself. -/
theorem Ends.not_cycle {marker : MarkerType} (ends : catalog.Ends marker) :
    ¬ Relation.TransGen catalog.HasParent marker marker := by
  induction ends with
  | intro marker _ hypothesis =>
      intro cycle
      rcases Relation.TransGen.head'_iff.mp cycle with ⟨parent, recorded, back⟩
      exact hypothesis parent recorded (.tail' back recorded)

/-- There is no cycle if from every type the parents lead to an end. -/
theorem acyclic_of_ends (ends : ∀ marker, catalog.Ends marker) : catalog.Acyclic :=
  fun marker => (ends marker).not_cycle

theorem follow_of_root {verified path : List MarkerType} {marker : MarkerType}
    (notVerified : ¬ verified.contains marker = true) (fresh : ¬ path.contains marker = true)
    (noParent : catalog.parent? marker = none) :
    catalog.follow verified path marker = .ok (marker :: path) := by
  rw [follow, if_neg notVerified, if_neg fresh]
  split
  case h_1 => rfl
  case h_2 parent recorded => cases noParent.symm.trans recorded

theorem follow_of_parent {verified path : List MarkerType} {marker parent : MarkerType}
    (notVerified : ¬ verified.contains marker = true) (fresh : ¬ path.contains marker = true)
    (recorded : catalog.parent? marker = some parent) :
    catalog.follow verified path marker = catalog.follow verified (marker :: path) parent := by
  rw [follow, if_neg notVerified, if_neg fresh]
  split
  case h_1 noParent => cases recorded.symm.trans noParent
  case h_2 other recorded' =>
    cases recorded.symm.trans recorded'
    rfl

/-- If from all verified types the parents lead to an end, then a search that
gets through has come to one, and so do all types that it adds to the path. -/
theorem ends_of_follow {verified path found : List MarkerType} {marker : MarkerType}
    (verifiedEnd : ∀ other ∈ verified, catalog.Ends other)
    (followed : catalog.follow verified path marker = .ok found) :
    catalog.Ends marker ∧ ∀ other ∈ found, other ∈ path ∨ catalog.Ends other := by
  induction path, marker using follow.induct catalog verified with
  | case1 path marker isVerified =>
      rw [follow, if_pos isVerified] at followed
      cases followed
      exact ⟨verifiedEnd marker (List.contains_iff_mem.mp isVerified), fun _ => .inl⟩
  | case2 path marker notVerified onPath =>
      rw [follow, if_neg notVerified, if_pos onPath] at followed
      cases followed
  | case3 path marker notVerified fresh noParent =>
      rw [follow_of_root notVerified fresh noParent] at followed
      cases followed
      have ends := ends_of_root noParent
      refine ⟨ends, fun other member => ?_⟩
      rcases List.mem_cons.mp member with rfl | onPath
      · exact .inr ends
      · exact .inl onPath
  | case4 path marker notVerified fresh parent recorded hypothesis =>
      rw [follow_of_parent notVerified fresh recorded] at followed
      rcases hypothesis followed with ⟨parentEnds, others⟩
      have ends := ends_of_parent recorded parentEnds
      refine ⟨ends, fun other member => ?_⟩
      rcases others other member with onLonger | otherEnds
      · rcases List.mem_cons.mp onLonger with rfl | onPath
        · exact .inr ends
        · exact .inl onPath
      · exact .inr otherEnds

/-- A path that goes on to a parent leads there as a whole. -/
theorem path_leads_to_parent {path : List MarkerType} {marker parent : MarkerType}
    (leadsHere : ∀ other ∈ path, Relation.TransGen catalog.HasParent other marker)
    (recorded : catalog.parent? marker = some parent) :
    ∀ other ∈ marker :: path, Relation.TransGen catalog.HasParent other parent :=
  List.forall_mem_cons.mpr
    ⟨.single recorded, fun other onPath => (leadsHere other onPath).tail recorded⟩

/-- A search that fails names a type that comes back to itself, if all types on
the path lead to the one that it starts from. -/
theorem cycle_of_follow {verified path : List MarkerType} {marker : MarkerType}
    {problem : CatalogError}
    (leadsHere : ∀ other ∈ path, Relation.TransGen catalog.HasParent other marker)
    (failed : catalog.follow verified path marker = .error problem) :
    ∃ culprit, problem = .cycle culprit ∧ Relation.TransGen catalog.HasParent culprit culprit := by
  induction path, marker using follow.induct catalog verified with
  | case1 path marker isVerified =>
      rw [follow, if_pos isVerified] at failed
      cases failed
  | case2 path marker notVerified onPath =>
      rw [follow, if_neg notVerified, if_pos onPath] at failed
      cases failed
      exact ⟨marker, rfl, leadsHere marker (List.contains_iff_mem.mp onPath)⟩
  | case3 path marker notVerified fresh noParent =>
      rw [follow_of_root notVerified fresh noParent] at failed
      cases failed
  | case4 path marker notVerified fresh parent recorded hypothesis =>
      rw [follow_of_parent notVerified fresh recorded] at failed
      exact hypothesis (path_leads_to_parent leadsHere recorded) failed

theorem verify_cons_ok {verified found : List MarkerType} {start : MarkerType}
    {rest : List MarkerType} (followed : catalog.follow verified [] start = .ok found) :
    catalog.verify verified (start :: rest) = catalog.verify (found ++ verified) rest := by
  rw [verify, followed]
  rfl

theorem verify_cons_error {verified : List MarkerType} {start : MarkerType}
    {rest : List MarkerType} {problem : CatalogError}
    (failed : catalog.follow verified [] start = .error problem) :
    catalog.verify verified (start :: rest) = .error problem := by
  rw [verify, failed]
  rfl

/-- After a search that gets through, the parents lead to an end from all that it has
come to. -/
theorem ends_of_follow_start {verified found : List MarkerType} {start : MarkerType}
    (verifiedEnd : ∀ other ∈ verified, catalog.Ends other)
    (followed : catalog.follow verified [] start = .ok found) :
    ∀ other ∈ found ++ verified, catalog.Ends other := by
  intro other member
  rcases List.mem_append.mp member with inFound | inVerified
  · exact ((ends_of_follow verifiedEnd followed).2 other inFound).resolve_left List.not_mem_nil
  · exact verifiedEnd other inVerified

theorem ends_of_verify {verified order : List MarkerType}
    (verifiedEnd : ∀ other ∈ verified, catalog.Ends other)
    (passed : catalog.verify verified order = .ok ()) : ∀ marker ∈ order, catalog.Ends marker := by
  induction order generalizing verified with
  | nil => intro marker member; cases member
  | cons start rest hypothesis =>
      cases followed : catalog.follow verified [] start with
      | error problem =>
          rw [verify_cons_error followed] at passed
          cases passed
      | ok found =>
          rw [verify_cons_ok followed] at passed
          intro marker member
          rcases List.mem_cons.mp member with rfl | inRest
          · exact (ends_of_follow verifiedEnd followed).1
          · exact hypothesis (ends_of_follow_start verifiedEnd followed) passed marker inRest

theorem cycle_of_verify {verified order : List MarkerType} {problem : CatalogError}
    (failed : catalog.verify verified order = .error problem) :
    ∃ culprit, problem = .cycle culprit ∧ Relation.TransGen catalog.HasParent culprit culprit := by
  induction order generalizing verified with
  | nil => cases failed
  | cons start rest hypothesis =>
      cases followed : catalog.follow verified [] start with
      | error first =>
          rw [verify_cons_error followed] at failed
          cases failed
          exact cycle_of_follow (List.forall_mem_nil _) followed
      | ok found =>
          rw [verify_cons_ok followed] at failed
          exact hypothesis failed

/-- The search passes exactly the catalogs without cycles, in whatever order it
takes the declared types. -/
theorem verify_eq_ok_iff {order : List MarkerType}
    (covers : ∀ marker ∈ catalog.keys, marker ∈ order) :
    catalog.verify [] order = .ok () ↔ catalog.Acyclic := by
  constructor
  · intro passed
    have declaredEnd := ends_of_verify (List.forall_mem_nil _) passed
    apply acyclic_of_ends
    intro marker
    cases recorded : catalog.parent? marker with
    | none => exact ends_of_root recorded
    | some parent => exact declaredEnd marker (covers marker (mem_keys_of_parent? recorded))
  · intro acyclic
    cases search : catalog.verify [] order with
    | ok => rfl
    | error problem =>
        rcases cycle_of_verify search with ⟨culprit, _, cycle⟩
        exact absurd cycle (acyclic culprit)

theorem ensureAcyclic_eq_ok_iff : catalog.ensureAcyclic = .ok () ↔ catalog.Acyclic :=
  verify_eq_ok_iff fun _ => id

/-!
## The search for cycles, turn by turn

The search is a loop: each turn takes one step up the parents, or goes over to the next
type that waits.  Nothing counts the turns, and where parents lead round in a circle
only the path taken so far stops them.  `CycleSearch` is the state of this loop, and
`CycleSearch.Returns` says that it comes to an end; neither refers to `Catalog.verify`,
which was written so as to end.  The main statement is that the loop ends on every
catalog, after a number of turns bounded by that of the declared types, and says what
its answer means.

Types that are verified are not searched again.  That this takes nothing from the answer
rests on both invariants of the search at once: from what is verified the parents lead
to an end, and all types on a path lead to the one that it has come to.
-/

/-- The search from the type that a path leads on to, if it leads on. -/
def followNext (catalog : Catalog) (verified path : List MarkerType) :
    Option MarkerType → Except CatalogError (List MarkerType)
  | none => .ok path
  | some marker => catalog.follow verified path marker

theorem follow_of_verified {verified path : List MarkerType} {marker : MarkerType}
    (isVerified : verified.contains marker = true) :
    catalog.follow verified path marker = .ok path := by
  rw [follow, if_pos isVerified]

theorem follow_of_onPath {verified path : List MarkerType} {marker : MarkerType}
    (notVerified : ¬ verified.contains marker = true) (onPath : path.contains marker = true) :
    catalog.follow verified path marker = .error (.cycle marker) := by
  rw [follow, if_neg notVerified, if_pos onPath]

theorem follow_of_fresh {verified path : List MarkerType} {marker : MarkerType}
    (notVerified : ¬ verified.contains marker = true) (fresh : ¬ path.contains marker = true) :
    catalog.follow verified path marker =
      catalog.followNext verified (marker :: path) (catalog.parent? marker) := by
  cases recorded : catalog.parent? marker with
  | none => exact follow_of_root notVerified fresh recorded
  | some parent => exact follow_of_parent notVerified fresh recorded

end Catalog

/-- Where a search for cycles stands between two turns: the types that are verified, the
path taken from the last start, newest first, the type that it has led to, and the types
that wait to be searched. -/
structure CycleSearch where
  verified : List MarkerType
  path : List MarkerType
  current? : Option MarkerType
  waiting : List MarkerType

namespace CycleSearch

/-- What a turn comes to: it goes on, or it is the last one. -/
inductive Turn
  | next (search : CycleSearch)
  | last (answer : Except CatalogError Unit)

/-- One turn of the loop.  A path that has come to its end is verified as a whole when
the next type is taken. -/
def turn (catalog : Catalog) : CycleSearch → Turn
  | ⟨_, _, none, []⟩ => .last (.ok ())
  | ⟨verified, path, none, start :: rest⟩ => .next ⟨path ++ verified, [], some start, rest⟩
  | ⟨verified, path, some marker, waiting⟩ =>
      if verified.contains marker then .next ⟨verified, path, none, waiting⟩
      else if path.contains marker then .last (.error (.cycle marker))
      else .next ⟨verified, marker :: path, catalog.parent? marker, waiting⟩

/-- The loop ends after so many turns, and with this answer. -/
inductive Returns (catalog : Catalog) : CycleSearch → Nat → Except CatalogError Unit → Prop
  | last {search answer} (isLast : search.turn catalog = .last answer) :
      Returns catalog search 1 answer
  | next {search later turns answer} (goesOn : search.turn catalog = .next later)
      (rest : Returns catalog later turns answer) : Returns catalog search (turns + 1) answer

def start (order : List MarkerType) : CycleSearch := ⟨[], [], none, order⟩

variable {catalog : Catalog} {search later : CycleSearch}

/-- A turn after which the loop goes on takes the next type, comes to one that is
verified, or takes a step up. -/
theorem next_cases (goesOn : search.turn catalog = .next later) :
    (∃ verified path start rest, search = ⟨verified, path, none, start :: rest⟩ ∧
      later = ⟨path ++ verified, [], some start, rest⟩) ∨
    ∃ verified path marker waiting, search = ⟨verified, path, some marker, waiting⟩ ∧
      (verified.contains marker = true ∧ later = ⟨verified, path, none, waiting⟩ ∨
        ¬ verified.contains marker = true ∧ ¬ path.contains marker = true ∧
          later = ⟨verified, marker :: path, catalog.parent? marker, waiting⟩) := by
  rcases search with ⟨verified, path, _ | marker, waiting⟩
  · rcases waiting with _ | ⟨start, rest⟩
    · cases goesOn
    · cases goesOn
      exact .inl ⟨verified, path, start, rest, rfl, rfl⟩
  · refine .inr ⟨verified, path, marker, waiting, rfl, ?_⟩
    rw [turn] at goesOn
    split at goesOn
    case isTrue isVerified =>
      cases goesOn
      exact .inl ⟨isVerified, rfl⟩
    case isFalse notVerified =>
      split at goesOn
      case isTrue => cases goesOn
      case isFalse fresh =>
        cases goesOn
        exact .inr ⟨notVerified, fresh, rfl⟩

theorem Returns.unique {turns turns' : Nat} {answer answer' : Except CatalogError Unit}
    (first : Returns catalog search turns answer) (second : Returns catalog search turns' answer') :
    turns = turns' ∧ answer = answer' := by
  induction first generalizing turns' answer' with
  | last isLast =>
      cases second with
      | last isLast' =>
          cases isLast.symm.trans isLast'
          exact ⟨rfl, rfl⟩
      | next goesOn _ => cases isLast.symm.trans goesOn
  | next goesOn _ hypothesis =>
      cases second with
      | last isLast => cases isLast.symm.trans goesOn
      | next goesOn' rest =>
          cases goesOn.symm.trans goesOn'
          rcases hypothesis rest with ⟨rfl, rfl⟩
          exact ⟨rfl, rfl⟩

/-- No more turns than these are left: one for each declared type that is neither on the
path nor verified, two to take and to leave each type that waits, one to leave the
current one, and the last. -/
def turnsLeft (catalog : Catalog) (search : CycleSearch) : Nat :=
  catalog.ahead (search.path ++ search.verified) + 2 * search.waiting.length +
    search.current?.toList.length + 1

/-- Fewer types are ahead of a longer path.  An undeclared type may be none of them, but
then the path ends there. -/
theorem ahead_parent_lt (catalog : Catalog) {seen : List MarkerType} {marker : MarkerType}
    (fresh : ¬ seen.contains marker = true) :
    catalog.ahead (marker :: seen) + (catalog.parent? marker).toList.length <
      catalog.ahead seen + 1 := by
  by_cases declared : marker ∈ catalog.keys
  · have fewer := Catalog.ahead_cons_lt declared fresh
    have atMostOne : (catalog.parent? marker).toList.length ≤ 1 := by
      cases catalog.parent? marker <;> simp
    omega
  · have noParent : catalog.parent? marker = none := by
      by_contra hasParent
      rcases Option.ne_none_iff_exists'.mp hasParent with ⟨parent, recorded⟩
      exact declared (Catalog.mem_keys_of_parent? recorded)
    rw [noParent]
    exact Nat.lt_succ_of_le (Catalog.countP_cons_le seen marker catalog.keys)

theorem turnsLeft_lt (goesOn : search.turn catalog = .next later) :
    later.turnsLeft catalog < search.turnsLeft catalog := by
  rcases next_cases goesOn with ⟨verified, path, start, rest, rfl, rfl⟩ |
    ⟨verified, path, marker, waiting, rfl, ⟨_, rfl⟩ | ⟨notVerified, notOnPath, rfl⟩⟩
  · simp [turnsLeft]
    omega
  · simp [turnsLeft]
  · have fresh : ¬ (path ++ verified).contains marker = true := by
      simp_all
    have fewer := ahead_parent_lt catalog fresh
    simp [turnsLeft]
    omega

/-- From every state the loop comes to an end. -/
theorem exists_returns (catalog : Catalog) (search : CycleSearch) :
    ∃ turns ≤ search.turnsLeft catalog, ∃ answer, Returns catalog search turns answer := by
  induction left : search.turnsLeft catalog using Nat.strong_induction_on generalizing search with
  | _ left' hypothesis =>
      cases turned : search.turn catalog with
      | last answer =>
          refine ⟨1, ?_, answer, .last turned⟩
          rw [← left, turnsLeft]
          omega
      | next later =>
          have fewer := turnsLeft_lt turned
          rw [left] at fewer
          rcases hypothesis _ fewer later rfl with ⟨turns, bounded, answer, returns⟩
          exact ⟨turns + 1, by omega, answer, .next turned returns⟩

/-- What is still to come, without turns: the rest of the path, and then the types that
wait. -/
def outcome (catalog : Catalog) (search : CycleSearch) : Except CatalogError Unit := do
  let path ← catalog.followNext search.verified search.path search.current?
  catalog.verify (path ++ search.verified) search.waiting

theorem outcome_eq_of_next (goesOn : search.turn catalog = .next later) :
    later.outcome catalog = search.outcome catalog := by
  rcases next_cases goesOn with ⟨verified, path, start, rest, rfl, rfl⟩ |
    ⟨verified, path, marker, waiting, rfl, ⟨isVerified, rfl⟩ | ⟨notVerified, fresh, rfl⟩⟩
  · rfl
  · simp only [outcome, Catalog.followNext, Catalog.follow_of_verified isVerified]
  · simp only [outcome, Catalog.followNext, Catalog.follow_of_fresh notVerified fresh]

theorem outcome_eq_of_last {answer : Except CatalogError Unit}
    (isLast : search.turn catalog = .last answer) : answer = search.outcome catalog := by
  rcases search with ⟨verified, path, _ | marker, waiting⟩
  · rcases waiting with _ | ⟨start, rest⟩
    · cases isLast
      rfl
    · cases isLast
  · by_cases isVerified : verified.contains marker = true
    · rw [turn, if_pos isVerified] at isLast
      cases isLast
    · by_cases onPath : path.contains marker = true
      · rw [turn, if_neg isVerified, if_pos onPath] at isLast
        cases isLast
        simp only [outcome, Catalog.followNext, Catalog.follow_of_onPath isVerified onPath]
        rfl
      · rw [turn, if_neg isVerified, if_neg onPath] at isLast
        cases isLast

/-- The loop answers what is to come. -/
theorem Returns.answer_eq {turns : Nat} {answer : Except CatalogError Unit}
    (returns : Returns catalog search turns answer) : answer = search.outcome catalog := by
  induction returns with
  | last isLast => exact outcome_eq_of_last isLast
  | next goesOn _ hypothesis => rw [hypothesis, outcome_eq_of_next goesOn]

theorem turnsLeft_start (catalog : Catalog) (order : List MarkerType) :
    (start order).turnsLeft catalog = catalog.size + 2 * order.length + 1 := by
  simp [turnsLeft, start, Catalog.ahead, Catalog.keys, Catalog.size]

end CycleSearch

namespace Catalog

variable {catalog : Catalog}

/-- The search without the shortcut: the parents of each type are followed to their end,
whatever was searched before. -/
def verifyAfresh (catalog : Catalog) : List MarkerType → Except CatalogError Unit
  | [] => .ok ()
  | start :: rest => do
      let _ ← catalog.follow [] [] start
      verifyAfresh catalog rest

/-- A search gets through if the parents lead to an end. -/
theorem Ends.exists_follow {marker : MarkerType} (ends : catalog.Ends marker)
    (verified : List MarkerType) {path : List MarkerType}
    (leadsHere : ∀ other ∈ path, Relation.TransGen catalog.HasParent other marker) :
    ∃ found, catalog.follow verified path marker = .ok found := by
  induction ends generalizing path with
  | intro marker above hypothesis =>
      by_cases isVerified : verified.contains marker = true
      · exact ⟨path, follow_of_verified isVerified⟩
      · by_cases onPath : path.contains marker = true
        · have cycle := leadsHere marker (List.contains_iff_mem.mp onPath)
          exact absurd cycle (Ends.not_cycle (.intro marker above))
        · rw [follow_of_fresh isVerified onPath]
          cases recorded : catalog.parent? marker with
          | none => exact ⟨_, rfl⟩
          | some parent =>
              exact hypothesis parent recorded (path_leads_to_parent leadsHere recorded)

/-- Whatever is verified, if from all of it the parents lead to an end, a search fails
as it would without it, and names the same type. -/
theorem follow_eq_error_iff {verified path : List MarkerType} {marker : MarkerType}
    {problem : CatalogError} (verifiedEnd : ∀ other ∈ verified, catalog.Ends other)
    (leadsHere : ∀ other ∈ path, Relation.TransGen catalog.HasParent other marker) :
    catalog.follow verified path marker = .error problem ↔
      catalog.follow [] path marker = .error problem := by
  have nothing : ∀ other : MarkerType, ¬ ([] : List MarkerType).contains other = true := by simp
  induction path, marker using follow.induct catalog verified with
  | case1 path marker isVerified =>
      have ends := verifiedEnd marker (List.contains_iff_mem.mp isVerified)
      rcases ends.exists_follow [] leadsHere with ⟨found, afresh⟩
      simp [follow_of_verified isVerified, afresh]
  | case2 path marker notVerified onPath =>
      rw [follow_of_onPath notVerified onPath, follow_of_onPath (nothing marker) onPath]
  | case3 path marker notVerified fresh noParent =>
      rw [follow_of_root notVerified fresh noParent, follow_of_root (nothing marker) fresh noParent]
  | case4 path marker notVerified fresh parent recorded hypothesis =>
      rw [follow_of_parent notVerified fresh recorded,
        follow_of_parent (nothing marker) fresh recorded]
      exact hypothesis (path_leads_to_parent leadsHere recorded)

/-- The shortcut has no effect on the answer of a search. -/
theorem verify_eq_verifyAfresh {verified order : List MarkerType}
    (verifiedEnd : ∀ other ∈ verified, catalog.Ends other) :
    catalog.verify verified order = catalog.verifyAfresh order := by
  induction order generalizing verified with
  | nil => rfl
  | cons start rest hypothesis =>
      have alike : ∀ problem, catalog.follow verified [] start = .error problem ↔
          catalog.follow [] [] start = .error problem := fun problem =>
        follow_eq_error_iff verifiedEnd (List.forall_mem_nil _)
      cases followed : catalog.follow verified [] start with
      | error problem =>
          rw [verify_cons_error followed, verifyAfresh, (alike problem).mp followed]
          rfl
      | ok found =>
          rw [verify_cons_ok followed, hypothesis (ends_of_follow_start verifiedEnd followed),
            verifyAfresh]
          cases afresh : catalog.follow [] [] start with
          | error problem => cases followed.symm.trans ((alike problem).mpr afresh)
          | ok => rfl

/-- A type that comes back to itself is declared. -/
theorem mem_keys_of_cycle {marker : MarkerType}
    (cycle : Relation.TransGen catalog.HasParent marker marker) : marker ∈ catalog.keys := by
  rcases Relation.TransGen.head'_iff.mp cycle with ⟨parent, recorded, _⟩
  exact mem_keys_of_parent? recorded

theorem verify_fails_iff {order : List MarkerType} (enumerates : order.Perm catalog.keys) :
    (∃ problem, catalog.verify [] order = .error problem) ↔
      ∃ marker ∈ catalog.keys, Relation.TransGen catalog.HasParent marker marker := by
  have passes := verify_eq_ok_iff fun marker declared => enumerates.mem_iff.mpr declared
  constructor
  · rintro ⟨problem, failed⟩
    rcases cycle_of_verify failed with ⟨culprit, _, cycle⟩
    exact ⟨culprit, mem_keys_of_cycle cycle, cycle⟩
  · rintro ⟨marker, _, cycle⟩
    cases search : catalog.verify [] order with
    | ok => exact absurd cycle (passes.mp search marker)
    | error problem => exact ⟨problem, rfl⟩

/-- The loop over all types has one end only, which is that of `verify`. -/
theorem start_returns (catalog : Catalog) (order : List MarkerType) :
    ∃ turns ≤ catalog.size + 2 * order.length + 1, ∀ turns' answer,
      (CycleSearch.start order).Returns catalog turns' answer ↔
        turns' = turns ∧ answer = catalog.verify [] order := by
  rcases CycleSearch.exists_returns catalog (.start order) with ⟨turns, bounded, answer, returns⟩
  rw [CycleSearch.turnsLeft_start] at bounded
  have isVerify : answer = catalog.verify [] order := returns.answer_eq
  refine ⟨turns, bounded, fun turns' answer' => ⟨fun returns' => ?_, ?_⟩⟩
  · rcases returns'.unique returns with ⟨sameTurns, sameAnswer⟩
    exact ⟨sameTurns, sameAnswer.trans isVerify⟩
  · rintro ⟨rfl, rfl⟩
    exact isVerify ▸ returns

/-- In whatever order it takes the declared types, the search for cycles comes to an
end, on catalogs of any kind: with cycles or without, and with parents that are declared
or not.  It fails if and only if one of the declared types comes back to itself in one
step to a parent or more, and the type that it names does so.  Not to search verified
types again changes nothing of its answer.  The check of a loaded catalog is this search
in the order of the entries, and fails in every other order if it fails in this one. -/
theorem verify_finds_cycles {order : List MarkerType} (enumerates : order.Perm catalog.keys) :
    (∃ turns ≤ 3 * catalog.size + 1, ∀ turns' answer,
      (CycleSearch.start order).Returns catalog turns' answer ↔
        turns' = turns ∧ answer = catalog.verify [] order) ∧
    ((∃ problem, catalog.verify [] order = .error problem) ↔
      ∃ marker ∈ catalog.keys, Relation.TransGen catalog.HasParent marker marker) ∧
    (∀ problem, catalog.verify [] order = .error problem →
      ∃ culprit ∈ catalog.keys, problem = .cycle culprit ∧
        Relation.TransGen catalog.HasParent culprit culprit) ∧
    catalog.verify [] order = catalog.verifyAfresh order ∧
    catalog.ensureAcyclic = catalog.verify [] catalog.keys ∧
    ((∃ problem, catalog.ensureAcyclic = .error problem) ↔
      ∃ problem, catalog.verify [] order = .error problem) := by
  refine ⟨?_, verify_fails_iff enumerates, fun problem failed => ?_, ?_, rfl, ?_⟩
  · rcases start_returns catalog order with ⟨turns, bounded, returns⟩
    have asMany : order.length = catalog.size := enumerates.length_eq.trans (List.length_map _)
    exact ⟨turns, by omega, returns⟩
  · rcases cycle_of_verify failed with ⟨culprit, isCycle, cycle⟩
    exact ⟨culprit, mem_keys_of_cycle cycle, isCycle, cycle⟩
  · exact verify_eq_verifyAfresh (List.forall_mem_nil _)
  · exact (verify_fails_iff (.refl _)).trans (verify_fails_iff enumerates).symm

/-- A tail that leads into a cycle of two, and a type whose parent is not declared. -/
def tailed : Catalog where
  entries := [(⟨"Traced"⟩, some ⟨"Audit"⟩), (⟨"Cached"⟩, some ⟨"Stored"⟩),
    (⟨"Audit"⟩, some ⟨"Logged"⟩), (⟨"Logged"⟩, some ⟨"Audit"⟩)]

/-- An order in which the tail comes before the cycle. -/
def tailFirst : List MarkerType := [⟨"Cached"⟩, ⟨"Traced"⟩, ⟨"Logged"⟩, ⟨"Audit"⟩]

theorem verify_finds_cycles_tailed :
    tailFirst.Perm tailed.keys ∧
    tailed.verify [] tailFirst = .error (.cycle ⟨"Audit"⟩) ∧
    (∃ turns ≤ 13,
      (CycleSearch.start tailFirst).Returns tailed turns (.error (.cycle ⟨"Audit"⟩))) ∧
    (⟨"Audit"⟩ : MarkerType) ∈ tailed.keys ∧
    Relation.TransGen tailed.HasParent ⟨"Audit"⟩ ⟨"Audit"⟩ ∧
    tailed.verifyAfresh tailFirst = .error (.cycle ⟨"Audit"⟩) := by
  have enumerates : tailFirst.Perm tailed.keys := by decide
  have found : tailed.verify [] tailFirst = .error (.cycle ⟨"Audit"⟩) := by cbv
  rcases verify_finds_cycles enumerates with ⟨⟨turns, bounded, returns⟩, _, named, afresh, _, _⟩
  rcases named _ found with ⟨culprit, declared, isCulprit, cycle⟩
  cases isCulprit
  exact ⟨enumerates, found, ⟨turns, bounded, (returns _ _).mpr ⟨rfl, found.symm⟩⟩, declared, cycle,
    afresh.symm.trans found⟩

end Catalog

end MarkedTree

import Mathlib.Data.List.Basic

/-!
# The order of texts

Texts are ordered by their first different character, and a text comes before its
continuations.  Comparing the bytes that texts have in UTF-8 gives the same order:
the first byte of a longer encoding is greater than that of any shorter one, and
encodings of one length are ordered as their code points are.
-/

namespace MarkedTree.Text

def utf8 (text : String) : List UInt8 := text.toUTF8.data.toList

theorem utf8_eq_flatMap (text : String) :
    utf8 text = text.toList.flatMap String.utf8EncodeChar := by
  rw [utf8, String.toUTF8, ← String.utf8Encode_toList, List.utf8Encode,
    List.toList_data_toByteArray]

/-- Bytes of an earlier character come before those of a later one, whatever
follows. -/
private theorem encode_append_lt {first second : Char} (earlier : first < second)
    (firstRest secondRest : List UInt8) :
    String.utf8EncodeChar first ++ firstRest < String.utf8EncodeChar second ++ secondRest := by
  have smaller : first.val.toNat < second.val.toNat := UInt32.lt_iff_toNat_lt.mp earlier
  have bounded := second.valid
  simp only [UInt32.isValidChar, Nat.isValidChar] at bounded
  have twoDigits : ∀ n, n / 4096 = n / 64 / 64 := fun n => (Nat.div_div_eq_div_mul n 64 64).symm
  have threeDigits : ∀ n, n / 262144 = n / 64 / 64 / 64 := by
    intro n
    rw [Nat.div_div_eq_div_mul, Nat.div_div_eq_div_mul]
  -- One case for each pair of lengths.
  simp only [String.utf8EncodeChar, twoDigits, threeDigits]
  split_ifs <;>
    simp (disch := omega) only [List.cons_append, List.nil_append, List.cons_lt_cons_iff,
      UInt8.lt_iff_toNat_lt, ← UInt8.toNat_inj, UInt8.toNat_ofNat', Nat.mod_eq_of_lt] <;>
    omega

private theorem utf8_lt_of_lt : ∀ {first second : List Char}, first < second →
    first.flatMap String.utf8EncodeChar < second.flatMap String.utf8EncodeChar
  | [], second :: rest, _ => by
      rw [List.flatMap_nil, List.flatMap_cons]
      cases bytes : String.utf8EncodeChar second with
      | nil => exact absurd bytes String.utf8EncodeChar_ne_nil
      | cons byte bytes => exact List.nil_lt_cons byte _
  | first :: firstRest, second :: secondRest, earlier => by
      rw [List.flatMap_cons, List.flatMap_cons]
      rcases List.cons_lt_cons_iff.mp earlier with smaller | ⟨rfl, restEarlier⟩
      · exact encode_append_lt smaller _ _
      · exact List.append_left_lt (utf8_lt_of_lt restEarlier)

/-- The order by bytes is the order by characters. -/
theorem utf8_lt_utf8_iff {first second : String} : utf8 first < utf8 second ↔ first < second := by
  rw [utf8_eq_flatMap, utf8_eq_flatMap, String.lt_iff]
  refine ⟨fun bytesEarlier => ?_, utf8_lt_of_lt⟩
  by_contra notEarlier
  rcases List.le_iff_lt_or_eq.mp (List.not_lt.mp notEarlier) with later | same
  · exact List.lt_asymm bytesEarlier (utf8_lt_of_lt later)
  · rw [same] at bytesEarlier
    exact List.lt_irrefl _ bytesEarlier

section

variable {α : Type} {key : α → String} {items others : List α}

/-- Items that ascend strictly have different texts. -/
theorem nodup_map_of_ascending
    (ascends : items.Pairwise fun first second => key first < key second) :
    (items.map key).Nodup := by
  refine List.pairwise_map.mpr (ascends.imp fun {first second} earlier same => ?_)
  rw [same] at earlier
  exact String.lt_irrefl _ earlier

/-- There is one ascending order only. -/
theorem eq_of_perm_of_ascending
    (ascends : items.Pairwise fun first second => key first < key second)
    (othersAscend : others.Pairwise fun first second => key first < key second)
    (permutes : items.Perm others) : items = others := by
  refine List.Perm.eq_of_pairwise ?_ ascends othersAscend permutes
  intro first second _ _ earlier later
  exact absurd later (String.lt_asymm earlier)

end

end MarkedTree.Text

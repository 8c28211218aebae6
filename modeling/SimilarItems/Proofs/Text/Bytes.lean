import Mathlib.Tactic.SplitIfs

/-!
# The order of bytes

Texts are compared character by character. Their bytes in UTF-8 are in the same order, so that rising
texts rise byte by byte too.
-/

namespace SimilarItems.Text

/-- The bytes of a text in UTF-8. -/
def bytes (s : String) : List UInt8 := s.toUTF8.data.toList

theorem bytes_eq (s : String) : bytes s = s.toList.flatMap String.utf8EncodeChar := by
  unfold bytes String.toUTF8
  rw [← String.utf8Encode_toList, List.utf8Encode, List.toList_data_toByteArray]

/-! ## Characters -/

theorem ofNat_lt_ofNat_iff {a b : Nat} (ha : a < 256) (hb : b < 256) :
    UInt8.ofNat a < UInt8.ofNat b ↔ a < b := by
  rw [UInt8.lt_iff_toNat_lt, UInt8.toNat_ofNat_of_lt' ha, UInt8.toNat_ofNat_of_lt' hb]

theorem ofNat_eq_ofNat_iff {a b : Nat} (ha : a < 256) (hb : b < 256) :
    UInt8.ofNat a = UInt8.ofNat b ↔ a = b := by
  rw [← UInt8.toNat_inj, UInt8.toNat_ofNat_of_lt' ha, UInt8.toNat_ofNat_of_lt' hb]

theorem toNat_val_lt (c : Char) : c.val.toNat < 1114112 := by
  rcases c.valid with hlow | ⟨-, hhigh⟩
  · have hlt : c.val.toNat < 55296 := hlow
    omega
  · exact hhigh

/-- The bytes of a character are below those of a later one, whatever follows them. -/
theorem utf8EncodeChar_append_lt {c d : Char} (h : c < d) (x y : List UInt8) :
    String.utf8EncodeChar c ++ x < String.utf8EncodeChar d ++ y := by
  have hlt : c.val.toNat < d.val.toNat := h
  have hd := toNat_val_lt d
  unfold String.utf8EncodeChar
  generalize c.val.toNat = m at hlt ⊢
  generalize d.val.toNat = n at hlt hd ⊢
  -- Of the places of both numbers to the base 64, the first that differs decides.
  have hplaces : m / 262144 < n / 262144 ∨ m / 262144 = n / 262144 ∧ m / 4096 < n / 4096 ∨
      m / 4096 = n / 4096 ∧ m / 64 < n / 64 ∨ m / 64 = n / 64 ∧ m % 64 < n % 64 := by
    omega
  dsimp only
  split_ifs
  all_goals
    simp only [List.cons_append, List.nil_append, List.cons_lt_cons_iff]
    simp (disch := omega) only [ofNat_lt_ofNat_iff, ofNat_eq_ofNat_iff]
    rcases hplaces with h | h | h | h <;> omega

/-! ## Texts -/

theorem flatMap_utf8EncodeChar_lt {l l' : List Char} (h : l < l') :
    l.flatMap String.utf8EncodeChar < l'.flatMap String.utf8EncodeChar := by
  induction l generalizing l' with
  | nil =>
    cases l' with
    | nil => exact absurd h (List.not_lt_nil _)
    | cons d l' =>
      have hne : String.utf8EncodeChar d ≠ [] := by
        rw [← List.length_pos_iff, String.length_utf8EncodeChar]
        exact d.utf8Size_pos
      rw [List.flatMap_nil, List.flatMap_cons]
      cases hbytes : String.utf8EncodeChar d with
      | nil => exact absurd hbytes hne
      | cons b bs => exact List.nil_lt_cons _ _
  | cons c l ih =>
    cases l' with
    | nil => exact absurd h (List.not_lt_nil _)
    | cons d l' =>
      rw [List.flatMap_cons, List.flatMap_cons]
      rcases List.cons_lt_cons_iff.1 h with hlt | ⟨rfl, hlt⟩
      · exact utf8EncodeChar_append_lt hlt _ _
      · exact List.append_left_lt (ih hlt)

/-- Texts rise as their bytes do. -/
theorem bytes_lt_bytes {s t : String} (h : s < t) : bytes s < bytes t := by
  rw [bytes_eq, bytes_eq]
  exact flatMap_utf8EncodeChar_lt (String.lt_iff.1 h)

theorem bytes_le_bytes {s t : String} : bytes s ≤ bytes t ↔ s ≤ t := by
  constructor
  · intro h
    exact String.not_lt.1 fun hlt => h (bytes_lt_bytes hlt)
  · intro h hlt
    by_cases hst : s < t
    · exact List.lt_asymm hlt (bytes_lt_bytes hst)
    · rw [String.le_antisymm h (String.not_lt.1 hst)] at hlt
      exact List.lt_irrefl _ hlt

end SimilarItems.Text

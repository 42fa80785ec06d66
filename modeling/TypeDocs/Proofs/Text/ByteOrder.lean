import Mathlib.Data.String.Basic

/-!
# The order of texts

Texts are ordered by their characters. That is the order of their bytes in UTF-8: of two characters
the lesser has the lesser bytes, and neither is the beginning of the other.
-/

namespace TypeDocs.Text

/-- The bytes of a text in UTF-8. -/
def bytes (s : String) : List UInt8 := s.toUTF8.data.toList

theorem bytes_eq_flatMap (s : String) : bytes s = s.toList.flatMap String.utf8EncodeChar := by
  rw [bytes, String.toUTF8, ← String.utf8Encode_toList, List.utf8Encode]
  exact List.toList_data_toByteArray

theorem append_lt_append {a b : List UInt8} (hlength : a.length = b.length) (h : a < b)
    (x y : List UInt8) : a ++ x < b ++ y := by
  induction a generalizing b with
  | nil =>
    rw [List.length_nil, eq_comm, List.length_eq_zero_iff] at hlength
    rw [hlength] at h
    exact absurd h (List.not_lt_nil [])
  | cons p a ih =>
    cases b with
    | nil => cases hlength
    | cons q b =>
      rw [List.cons_append, List.cons_append, List.cons_lt_cons_iff]
      rcases List.cons_lt_cons_iff.mp h with hpq | ⟨rfl, hab⟩
      · exact Or.inl hpq
      · exact Or.inr ⟨rfl, ih (Nat.succ.inj hlength) hab⟩

theorem ofNat_lt_ofNat {m n : Nat} (hm : m < 256) (hn : n < 256) :
    UInt8.ofNat m < UInt8.ofNat n ↔ m < n := by
  rw [UInt8.lt_iff_toNat_lt, UInt8.toNat_ofNat', UInt8.toNat_ofNat', Nat.mod_eq_of_lt hm,
    Nat.mod_eq_of_lt hn]

theorem ofNat_inj {m n : Nat} (hm : m < 256) (hn : n < 256) :
    UInt8.ofNat m = UInt8.ofNat n ↔ m = n := by
  rw [← UInt8.toNat_inj, UInt8.toNat_ofNat', UInt8.toNat_ofNat', Nat.mod_eq_of_lt hm,
    Nat.mod_eq_of_lt hn]

theorem ofNat_cons_lt_cons {m n : Nat} (hm : m < 256) (hn : n < 256) (a b : List UInt8) :
    UInt8.ofNat m :: a < UInt8.ofNat n :: b ↔ m < n ∨ m = n ∧ a < b := by
  rw [List.cons_lt_cons_iff, ofNat_lt_ofNat hm hn, ofNat_inj hm hn]

theorem ofNat_cons_append_lt {m n : Nat} (hn : n < 256) (h : m < n) (a b x y : List UInt8) :
    UInt8.ofNat m :: a ++ x < UInt8.ofNat n :: b ++ y :=
  (ofNat_cons_lt_cons (h.trans hn) hn _ _).mpr (Or.inl h)

/-- The bytes of a character with a number, by how many they are. -/
inductive Encoded (n : Nat) : List UInt8 → Prop where
  | one (hmost : n < 128) : Encoded n [.ofNat n]
  | two (hleast : 128 ≤ n) (hmost : n < 2048) :
    Encoded n [.ofNat (n / 64 + 192), .ofNat (n % 64 + 128)]
  | three (hleast : 2048 ≤ n) (hmost : n < 65536) :
    Encoded n [.ofNat (n / 4096 + 224), .ofNat (n / 64 % 64 + 128), .ofNat (n % 64 + 128)]
  | four (hleast : 65536 ≤ n) (hmost : n < 1114112) :
    Encoded n [.ofNat (n / 262144 + 240), .ofNat (n / 4096 % 64 + 128),
      .ofNat (n / 64 % 64 + 128), .ofNat (n % 64 + 128)]

theorem encoded_utf8EncodeChar (c : Char) :
    Encoded c.val.toNat (String.utf8EncodeChar c) := by
  have hmost : c.val.toNat < 1114112 := by
    rcases c.valid with hvalid | hvalid
    · change c.val.toNat < 55296 at hvalid
      omega
    · exact hvalid.2
  unfold String.utf8EncodeChar
  dsimp only
  generalize c.val.toNat = n at hmost
  by_cases hone : n ≤ 127
  · rw [if_pos hone]
    exact .one (by omega)
  by_cases htwo : n ≤ 2047
  · rw [if_neg hone, if_pos htwo, Nat.mod_eq_of_lt (by omega : n / 64 < 32)]
    exact .two (by omega) (by omega)
  by_cases hthree : n ≤ 65535
  · rw [if_neg hone, if_neg htwo, if_pos hthree, Nat.mod_eq_of_lt (by omega : n / 4096 < 16)]
    exact .three (by omega) (by omega)
  · rw [if_neg hone, if_neg htwo, if_neg hthree, Nat.mod_eq_of_lt (by omega : n / 262144 < 8)]
    exact .four (by omega) hmost

/-- Where the lengths differ the first bytes do. Else the bytes are the digits of the numbers. -/
theorem Encoded.append_lt {m n : Nat} {a b : List UInt8} (ha : Encoded m a) (hb : Encoded n b)
    (h : m < n) (x y : List UInt8) : a ++ x < b ++ y := by
  cases ha with
  | one hm =>
    cases hb with
    | one hn => exact ofNat_cons_append_lt (by omega) h _ _ x y
    | two | three | four => exact ofNat_cons_append_lt (by omega) (by omega) _ _ x y
  | two hm hm' =>
    cases hb with
    | one hn => omega
    | two hn hn' =>
      refine append_lt_append (by rfl) ?_ x y
      simp (disch := omega) only [ofNat_cons_lt_cons, List.not_lt_nil, and_false, or_false]
      omega
    | three | four => exact ofNat_cons_append_lt (by omega) (by omega) _ _ x y
  | three hm hm' =>
    cases hb with
    | one hn => omega
    | two hn hn' => omega
    | three hn hn' =>
      refine append_lt_append (by rfl) ?_ x y
      simp (disch := omega) only [ofNat_cons_lt_cons, List.not_lt_nil, and_false, or_false]
      omega
    | four => exact ofNat_cons_append_lt (by omega) (by omega) _ _ x y
  | four hm hm' =>
    cases hb with
    | one hn => omega
    | two hn hn' => omega
    | three hn hn' => omega
    | four hn hn' =>
      refine append_lt_append (by rfl) ?_ x y
      simp (disch := omega) only [ofNat_cons_lt_cons, List.not_lt_nil, and_false, or_false]
      omega

/-- Whatever follows, the lesser character has the lesser bytes. -/
theorem utf8EncodeChar_append_lt {c d : Char} (h : c < d) (x y : List UInt8) :
    String.utf8EncodeChar c ++ x < String.utf8EncodeChar d ++ y :=
  (encoded_utf8EncodeChar c).append_lt (encoded_utf8EncodeChar d) h x y

theorem flatMap_lt_flatMap {cs ds : List Char} (h : cs < ds) :
    cs.flatMap String.utf8EncodeChar < ds.flatMap String.utf8EncodeChar := by
  induction cs generalizing ds with
  | nil =>
    cases ds with
    | nil => exact absurd h (List.not_lt_nil [])
    | cons d ds =>
      obtain ⟨b, bs, hb⟩ := List.exists_cons_of_ne_nil (String.utf8EncodeChar_ne_nil (c := d))
      rw [List.flatMap_cons, hb]
      exact List.nil_lt_cons b _
  | cons c cs ih =>
    cases ds with
    | nil => exact absurd h (List.not_lt_nil _)
    | cons d ds =>
      rw [List.flatMap_cons, List.flatMap_cons]
      rcases List.cons_lt_cons_iff.mp h with hcd | ⟨rfl, hrest⟩
      · exact utf8EncodeChar_append_lt hcd _ _
      · exact List.append_left_lt (ih hrest)

/-- The order of texts is that of their bytes. -/
theorem lt_iff_bytes_lt {s t : String} : s < t ↔ bytes s < bytes t := by
  rw [bytes_eq_flatMap, bytes_eq_flatMap, String.lt_iff]
  refine ⟨flatMap_lt_flatMap, fun h => ?_⟩
  rcases lt_trichotomy s t with hst | rfl | hts
  · exact String.lt_iff.mp hst
  · exact absurd h (List.lt_irrefl _)
  · exact absurd (flatMap_lt_flatMap (String.lt_iff.mp hts)) (List.lt_asymm h)

end TypeDocs.Text

import TypeDocs.Json.Printer
import TypeDocs.Json.Scan

/-!
# Reading a literal that was written

Every character is read back from its escaped form, whatever stands before and behind it.
-/

namespace TypeDocs.Json

theorem digit?_digitChar {n : Nat} (hn : n < 16) :
    Text.digit? 16 (Nat.digitChar n) = some n := by
  revert n
  decide

theorem natIn?_control {n : Nat} (hn : n < 0x20) :
    Text.natIn? 16 ['0', '0', Nat.digitChar (n / 16), Nat.digitChar (n % 16)] = some n := by
  have hhigh := digit?_digitChar (n := n / 16) (by omega)
  have hlow := digit?_digitChar (n := n % 16) (by omega)
  have hzero : Text.digit? 16 '0' = some 0 := by decide
  have hn' : n / 16 * 16 + n % 16 = n := by omega
  simp [Text.natIn?, hhigh, hlow, hzero, hn']

/-- A control character is written by its number. -/
theorem readText_numbered {c : Char} (hc : c.toNat < 0x20) (read rest : List Char) :
    readText none read (['\\', 'u', '0', '0', Nat.digitChar (c.toNat / 16),
      Nat.digitChar (c.toNat % 16)] ++ rest) = readText none (c :: read) rest := by
  have hhigh : isHighSurrogate c.toNat = false := by
    simp only [isHighSurrogate, Bool.and_eq_false_iff, decide_eq_false_iff_not]
    omega
  have hlow : isLowSurrogate c.toNat = false := by
    simp only [isLowSurrogate, Bool.and_eq_false_iff, decide_eq_false_iff_not]
    omega
  rw [readText.eq_def]
  simp [natIn?_control hc, hhigh, hlow]

theorem readText_lettered {letter c : Char} (h : escape? letter = some c)
    (read rest : List Char) :
    readText none read (['\\', letter] ++ rest) = readText none (c :: read) rest := by
  have hu : letter ≠ 'u' := by
    rintro rfl
    have hnone : escape? 'u' = none := by decide
    simp [hnone] at h
  rw [readText.eq_def]
  simp [hu, h]

theorem readText_plain {c : Char} (hquote : c ≠ '"') (hslash : c ≠ '\\') (hc : ¬ c.toNat < 0x20)
    (read rest : List Char) :
    readText none read ([c] ++ rest) = readText none (c :: read) rest := by
  rw [readText.eq_def]
  simp [hquote, hslash, hc]

/-- The escaped form of a character is read as the character. -/
theorem readText_escaped (c : Char) (read rest : List Char) :
    readText none read (escaped c ++ rest) = readText none (c :: read) rest := by
  have hletter {d letter : Char} (hd : (c == d) = true) (h : escape? letter = some d) :
      readText none read (['\\', letter] ++ rest) = readText none (c :: read) rest := by
    obtain rfl := eq_of_beq hd
    exact readText_lettered h read rest
  unfold escaped
  split
  · next h => exact hletter h rfl
  split
  · next h => exact hletter h rfl
  split
  · next h => exact hletter h rfl
  split
  · next h => exact hletter h rfl
  split
  · next h => exact hletter h rfl
  split
  · next h => exact hletter h rfl
  split
  · next h => exact hletter h rfl
  split
  · next h => exact readText_numbered h read rest
  · next hquote hslash _ _ _ _ _ hc =>
    exact readText_plain (by simpa using hquote) (by simpa using hslash) hc read rest

theorem readText_flatMap_escaped (cs read rest : List Char) :
    readText none read (cs.flatMap escaped ++ '"' :: rest) =
      .ok (.ofList (read.reverse ++ cs), rest) := by
  induction cs generalizing read with
  | nil => simp [readText]
  | cons c cs ih =>
    rw [List.flatMap_cons, List.append_assoc, readText_escaped, ih]
    simp

end TypeDocs.Json

import Mathlib
import QueryBatch.Uuid

/-!
# Identifiers are read back

An identifier is written as 32 hexadecimal digits in five groups. Taking the groups apart gives the
digits (`ofGroups?_hyphenate`), and the digits give the number (`ofHex?_hexPadded`). The text is
neither bare digits nor any of the other forms, so it is read as what it is (`parse_text`).
-/

namespace QueryBatch
namespace Uuid

section Digits

variable {n : Nat} {c : Char}

theorem hexDigit?_digitChar
    (hn : n < 16) :
    hexDigit? (Nat.digitChar n) = some n := by
  have hall : ∀ n : Fin 16, hexDigit? (Nat.digitChar n) = some n.val := by decide
  exact hall ⟨n, hn⟩

theorem digitChar_of_mem_toDigits
    (hc : c ∈ Nat.toDigits 16 n) :
    ∃ digit < 16, c = Nat.digitChar digit := by
  induction n using Nat.strongRecOn with
  | ind n ih =>
      by_cases hn : n < 16
      · rw [Nat.toDigits_of_lt_base hn] at hc
        exact ⟨n, hn, List.mem_singleton.1 hc⟩
      · rw [Nat.toDigits_of_base_le (by decide) (by omega)] at hc
        rcases List.mem_append.1 hc with hc | hc
        · exact ih (n / 16) (by omega) hc
        · exact ⟨n % 16, by omega, List.mem_singleton.1 hc⟩

theorem digitChar_of_mem_hexPadded
    {width : Nat}
    (hc : c ∈ hexPadded width n) :
    ∃ digit < 16, c = Nat.digitChar digit := by
  rcases List.mem_append.1 hc with hzero | hdigit
  · exact ⟨0, by decide, List.eq_of_mem_replicate hzero⟩
  · exact digitChar_of_mem_toDigits hdigit

theorem length_hexPadded
    {width : Nat}
    (hwidth : 0 < width)
    (hn : n < 16 ^ width) :
    (hexPadded width n).length = width := by
  have hdigits := (Nat.length_toDigits_le_iff (by decide) hwidth).2 hn
  exact List.length_leftpad.trans (max_eq_left hdigits)

/-- One more digit at the end. -/
theorem ofHex?_concat
    {ds : List Char}
    {value digit : Nat}
    (hds : ofHex? ds = some value)
    (hdigit : digit < 16) :
    ofHex? (ds ++ [Nat.digitChar digit]) = some (value * 16 + digit) := by
  unfold ofHex? at hds ⊢
  rw [List.foldl_append, hds, List.foldl_cons, List.foldl_nil, hexDigit?_digitChar hdigit]
  rfl

theorem ofHex?_replicate_zero
    (count : Nat) :
    ofHex? (List.replicate count '0') = some 0 := by
  induction count with
  | zero => rfl
  | succ count ih =>
      rw [List.replicate_succ']
      exact ofHex?_concat ih (Nat.zero_lt_succ 15)

theorem ofHex?_zeros_toDigits
    (count n : Nat) :
    ofHex? (List.replicate count '0' ++ Nat.toDigits 16 n) = some n := by
  induction n using Nat.strongRecOn with
  | ind n ih =>
      by_cases hn : n < 16
      · rw [Nat.toDigits_of_lt_base hn]
        have hdigit := ofHex?_concat (ofHex?_replicate_zero count) hn
        rwa [Nat.zero_mul, Nat.zero_add] at hdigit
      · rw [Nat.toDigits_of_base_le (by decide) (by omega), ← List.append_assoc]
        have hdigit := ofHex?_concat (ih (n / 16) (by omega)) (Nat.mod_lt n (by decide))
        rwa [Nat.mul_comm, Nat.div_add_mod] at hdigit

theorem ofHex?_hexPadded
    (width n : Nat) :
    ofHex? (hexPadded width n) = some n :=
  ofHex?_zeros_toDigits _ n

end Digits

section Groups

variable {ds : List Char}

/-- The groups of the digits, one after the other. -/
theorem append_groups
    (ds : List Char) :
    ds.take 8 ++ ((ds.drop 8).take 4 ++ ((ds.drop 12).take 4 ++ ((ds.drop 16).take 4
      ++ ds.drop 20))) = ds := by
  rw [List.drop_take_append_drop ds 16 4, List.drop_take_append_drop ds 12 4,
    List.drop_take_append_drop ds 8 4, List.take_append_drop]

theorem hyphenate_eq
    (ds : List Char) :
    hyphenate ds = ds.take 8 ++ '-' :: ((ds.drop 8).take 4 ++ '-' :: ((ds.drop 12).take 4 ++
      '-' :: ((ds.drop 16).take 4 ++ '-' :: ds.drop 20))) := by
  simp [hyphenate]

theorem length_hyphenate
    (hds : ds.length = 32) :
    (hyphenate ds).length = 36 := by
  simp [hyphenate_eq, hds]

/-- Taking the groups apart gives the digits. -/
theorem ofGroups?_hyphenate
    (hds : ds.length = 32) :
    ofGroups? (hyphenate ds) = ofDigits? ds := by
  have hgroups : (hyphenate ds).take 8 ++ ((hyphenate ds).drop 9).take 4
      ++ ((hyphenate ds).drop 14).take 4 ++ ((hyphenate ds).drop 19).take 4
      ++ (hyphenate ds).drop 24 = ds := by
    rw [hyphenate_eq]
    simpa [List.take_append, List.drop_append, List.drop_take, hds] using append_groups ds
  unfold ofGroups?
  simp only [hgroups, length_hyphenate hds, and_self, if_true]

end Groups

section Texts

/-- A text that starts with a digit stands in no braces and behind no prefix. -/
theorem body_digitChar
    {digit : Nat}
    (hdigit : digit < 16)
    (cs : List Char) :
    body (Nat.digitChar digit :: cs) = none := by
  have hall : ∀ n : Fin 16, Nat.digitChar n ≠ '\x7b' ∧ Nat.digitChar n ≠ 'u' := by decide
  obtain ⟨hbrace, hletter⟩ := hall ⟨digit, hdigit⟩
  unfold body
  split
  · next heq => exact absurd (List.cons.inj heq).1 hbrace
  · simp [hletter.symm]

/-- An identifier is read from its text as itself. -/
theorem parse_text
    (u : Uuid) :
    parse u.text = .ok u := by
  have hlength : (hexPadded 32 u.value.val).length = 32 :=
    length_hexPadded (by decide) u.value.isLt
  have hdigits : ofDigits? (hexPadded 32 u.value.val) = some u := by
    rw [ofDigits?, if_pos hlength, ofHex?_hexPadded]
    simp
  have hbare : ofDigits? (hyphenate (hexPadded 32 u.value.val)) = none := by
    rw [ofDigits?, if_neg (by rw [length_hyphenate hlength]; decide)]
  have hbody : body (hyphenate (hexPadded 32 u.value.val)) = none := by
    obtain ⟨c, cs, hcs⟩ := List.exists_cons_of_length_eq_add_one hlength
    obtain ⟨digit, hdigit, rfl⟩ := digitChar_of_mem_hexPadded (hcs ▸ List.mem_cons_self)
    rw [hcs]
    exact body_digitChar hdigit _
  unfold parse text
  rw [String.toList_ofList]
  simp only [hbare, hbody, ofGroups?_hyphenate hlength, hdigits]

end Texts

end Uuid
end QueryBatch

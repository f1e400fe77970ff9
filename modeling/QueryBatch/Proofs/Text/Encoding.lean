import Mathlib
import QueryBatch.Text.Percent

/-!
# Encoded texts are read back

Reading the octets of a text gives the text (`Utf8.decode?_encode`), and so does reading its percent
encoding (`Percent.decode?_encode`). An encoded text holds only characters that stand for themselves
and percent signs (`Percent.isPlain_or_percent`), so it can stand between delimiters.
-/

namespace QueryBatch
namespace Text
namespace Utf8

theorem isTail_low
    (n : Nat) :
    isTail (0x80 + n % 64) = true := by
  simp only [isTail, Bool.and_eq_true, decide_eq_true_eq]
  omega

/-- The code points of characters end at U+10FFFF and leave out the surrogates. -/
theorem bounds_toNat
    (c : Char) :
    c.toNat < 0xD800 ∨ 0xDFFF < c.toNat ∧ c.toNat < 0x110000 :=
  c.valid

section Octets

variable {a b c d : Nat} {rest : List Nat}

theorem decode?_one
    (ha : a < 0x80) :
    decode? (a :: rest) = (decode? rest).map (Char.ofNat a :: ·) := by
  rw [decode?.eq_def]
  simp only [if_pos ha]

theorem decode?_two
    (ha : 0xC2 ≤ a ∧ a < 0xE0)
    (hb : isTail b = true) :
    decode? (a :: b :: rest)
      = (decode? rest).map (Char.ofNat ((a - 0xC0) * 64 + (b - 0x80)) :: ·) := by
  rw [decode?.eq_def]
  simp only [show ¬ a < 0x80 by omega, ha.1, ha.2, hb, decide_true, Bool.and_self, if_true,
    if_false]

theorem decode?_three
    {n : Nat}
    (ha : 0xE0 ≤ a ∧ a < 0xF0)
    (hb : isTail b = true)
    (hc : isTail c = true)
    (hn : (a - 0xE0) * 4096 + (b - 0x80) * 64 + (c - 0x80) = n)
    (hleast : 0x800 ≤ n)
    (hvalid : ¬ (0xD800 ≤ n ∧ n ≤ 0xDFFF)) :
    decode? (a :: b :: c :: rest) = (decode? rest).map (Char.ofNat n :: ·) := by
  have hsurrogate : (decide (0xD800 ≤ n) && decide (n ≤ 0xDFFF)) = false := by
    simpa using hvalid
  rw [decode?.eq_def]
  simp only [show ¬ a < 0x80 by omega, show ¬ a < 0xE0 by omega, ha.2, hb, hc, hn, hleast,
    hsurrogate, decide_true, Bool.and_self, Bool.not_false, if_true, if_false]

theorem decode?_four
    {n : Nat}
    (ha : 0xF0 ≤ a)
    (hb : isTail b = true)
    (hc : isTail c = true)
    (hd : isTail d = true)
    (hn : (a - 0xF0) * 262144 + (b - 0x80) * 4096 + (c - 0x80) * 64 + (d - 0x80) = n)
    (hleast : 0x10000 ≤ n)
    (hgreatest : n ≤ 0x10FFFF) :
    decode? (a :: b :: c :: d :: rest) = (decode? rest).map (Char.ofNat n :: ·) := by
  rw [decode?.eq_def]
  simp only [show ¬ a < 0x80 by omega, show ¬ a < 0xE0 by omega, show ¬ a < 0xF0 by omega, hb, hc,
    hd, hn, hleast, hgreatest, decide_true, Bool.and_self, if_true, if_false]

end Octets

/-- The octets of a character are read as that character, whatever follows. -/
theorem decode?_encodeChar_append
    (c : Char)
    (rest : List Nat) :
    decode? (encodeChar c ++ rest) = (decode? rest).map (c :: ·) := by
  have hchar : Char.ofNat c.toNat = c := Char.ofNat_toNat c
  have hbounds := bounds_toNat c
  unfold encodeChar
  generalize c.toNat = n at hchar hbounds
  subst hchar
  dsimp only
  split
  · next hone => exact decode?_one hone
  split
  · next hone htwo =>
      have hn : (0xC0 + n / 64 - 0xC0) * 64 + (0x80 + n % 64 - 0x80) = n := by omega
      have hread : decode? ((0xC0 + n / 64) :: (0x80 + n % 64) :: rest) = _ :=
        decode?_two (by omega) (isTail_low n)
      rw [hn] at hread
      exact hread
  split
  · next htwo hthree =>
      exact decode?_three (by omega) (isTail_low (n / 64)) (isTail_low n) (by omega) (by omega)
        (by omega)
  · next hthree =>
      exact decode?_four (by omega) (isTail_low (n / 4096)) (isTail_low (n / 64)) (isTail_low n)
        (by omega) (by omega) (by omega)

theorem decode?_encode
    (cs : List Char) :
    decode? (encode cs) = some cs := by
  induction cs with
  | nil => simp [encode, decode?]
  | cons c cs ih =>
      have hcons : encode (c :: cs) = encodeChar c ++ encode cs := rfl
      rw [hcons, decode?_encodeChar_append, ih]
      rfl

theorem lt_of_mem_encodeChar
    {c : Char}
    {b : Nat}
    (hmem : b ∈ encodeChar c) :
    b < 256 := by
  have hbounds := bounds_toNat c
  unfold encodeChar at hmem
  generalize c.toNat = n at hbounds hmem
  dsimp only at hmem
  split at hmem
  · simp only [List.mem_cons, List.not_mem_nil, or_false] at hmem
    omega
  split at hmem
  · simp only [List.mem_cons, List.not_mem_nil, or_false] at hmem
    omega
  split at hmem
  · simp only [List.mem_cons, List.not_mem_nil, or_false] at hmem
    omega
  · simp only [List.mem_cons, List.not_mem_nil, or_false] at hmem
    omega

end Utf8

namespace Percent

theorem hexValue?_hexDigit
    {n : Nat}
    (hn : n < 16) :
    hexValue? (hexDigit n) = some n := by
  have hall : ∀ n : Fin 16, hexValue? (hexDigit n) = some n.val := by decide
  exact hall ⟨n, hn⟩

theorem isPlain_hexDigit
    {n : Nat}
    (hn : n < 16) :
    isPlain (hexDigit n) = true := by
  have hall : ∀ n : Fin 16, isPlain (hexDigit n) = true := by decide
  exact hall ⟨n, hn⟩

/-- The octets that an encoded text stands for. A percent sign without two digits is refused. -/
def octets? : List Char → Option (List Nat)
  | [] => some []
  | '%' :: a :: b :: rest => do
      let high ← hexValue? a
      let low ← hexValue? b
      return (high * 16 + low) :: (← octets? rest)
  | '%' :: _ => none
  | c :: rest => (octets? rest).map (Utf8.encodeChar c ++ ·)

theorem octets?_cons_of_ne
    {c : Char}
    (hc : c ≠ '%')
    (rest : List Char) :
    octets? (c :: rest) = (octets? rest).map (Utf8.encodeChar c ++ ·) := by
  rw [octets?]
  · intro a b rest hpercent
    exact absurd hpercent hc
  · exact hc

/-- An encoded octet is read as that octet. -/
theorem octets?_encodeOctet_append
    {b : Nat}
    (hb : b < 256)
    (rest : List Char) :
    octets? (encodeOctet b ++ rest) = (octets? rest).map (b :: ·) := by
  have hvalue : b / 16 * 16 + b % 16 = b := by omega
  change octets? ('%' :: hexDigit (b / 16) :: hexDigit (b % 16) :: rest) = _
  rw [octets?, hexValue?_hexDigit (by omega), hexValue?_hexDigit (by omega)]
  simp only [Option.bind_eq_bind, Option.bind_some, hvalue, Option.pure_def]
  exact Option.map_eq_bind.symm

theorem octets?_flatMap_append
    {bs : List Nat}
    (hbs : ∀ b ∈ bs, b < 256)
    (rest : List Char) :
    octets? (bs.flatMap encodeOctet ++ rest) = (octets? rest).map (bs ++ ·) := by
  induction bs with
  | nil => simp
  | cons b bs ih =>
      rw [List.flatMap_cons, List.append_assoc,
        octets?_encodeOctet_append (hbs b List.mem_cons_self),
        ih fun b hb => hbs b (List.mem_cons_of_mem _ hb), Option.map_map]
      rfl

/-- An encoded text stands for its octets. -/
theorem octets?_encode
    (cs : List Char) :
    octets? (encode cs) = some (Utf8.encode cs) := by
  induction cs with
  | nil => rfl
  | cons c cs ih =>
      have hcons : encode (c :: cs) = encodeChar c ++ encode cs := rfl
      rw [hcons, encodeChar]
      split
      · next hplain =>
        have hc : c ≠ '%' := by
          rintro rfl
          exact absurd hplain (by decide)
        rw [List.singleton_append, octets?_cons_of_ne hc, ih]
        rfl
      · rw [octets?_flatMap_append fun _ => Utf8.lt_of_mem_encodeChar, ih]
        rfl

/-- What is not refused is read the same if nothing is. -/
theorem octets_of_octets?
    {cs : List Char}
    {bs : List Nat}
    (hread : octets? cs = some bs) :
    octets cs = bs := by
  fun_induction octets? cs generalizing bs with
  | case1 =>
      cases hread
      simp [octets]
  | case2 a b rest ih =>
      simp only [Option.bind_eq_bind, Option.bind_eq_some_iff, Option.pure_def,
        Option.some.injEq] at hread
      obtain ⟨high, hhigh, low, hlow, behind, hbehind, rfl⟩ := hread
      simp only [octets, hhigh, hlow, ih hbehind]
  | case3 => cases hread
  | case4 c rest hpair hpercent ih =>
      obtain ⟨behind, hbehind, rfl⟩ := Option.map_eq_some_iff.1 hread
      rw [octets, ih hbehind]
      exact hpair

/-- A plain text is its own encoding. -/
theorem encode_of_isPlain
    {cs : List Char}
    (hplain : ∀ c ∈ cs, isPlain c = true) :
    encode cs = cs := by
  induction cs with
  | nil => rfl
  | cons c cs ih =>
      have hcons : encode (c :: cs) = encodeChar c ++ encode cs := rfl
      rw [hcons, ih fun d hd => hplain d (List.mem_cons_of_mem _ hd), encodeChar,
        if_pos (hplain c List.mem_cons_self)]
      rfl

theorem decode?_encode
    (cs : List Char) :
    decode? (encode cs) = some cs := by
  unfold decode?
  rw [octets_of_octets? (octets?_encode cs), Utf8.decode?_encode]

/-- What an encoded text is made of. -/
theorem isPlain_or_percent
    {cs : List Char}
    {c : Char}
    (hmem : c ∈ encode cs) :
    isPlain c = true ∨ c = '%' := by
  obtain ⟨source, -, hmem⟩ := List.mem_flatMap.1 hmem
  unfold encodeChar at hmem
  split at hmem
  · next hplain =>
      rw [List.mem_singleton.1 hmem]
      exact .inl hplain
  · obtain ⟨b, hb, hmem⟩ := List.mem_flatMap.1 hmem
    have hlt := Utf8.lt_of_mem_encodeChar hb
    simp only [encodeOctet, List.mem_cons, List.not_mem_nil, or_false] at hmem
    rcases hmem with rfl | rfl | rfl
    · exact .inr rfl
    · exact .inl (isPlain_hexDigit (by omega))
    · exact .inl (isPlain_hexDigit (by omega))

/-- A character that is neither plain nor a percent sign is not in an encoded text. -/
theorem not_mem_encode
    {cs : List Char}
    {c : Char}
    (hplain : isPlain c = false)
    (hpercent : c ≠ '%') :
    c ∉ encode cs := by
  intro hmem
  rcases isPlain_or_percent hmem with h | h
  · exact absurd h (by simp [hplain])
  · exact hpercent h

end Percent
end Text
end QueryBatch

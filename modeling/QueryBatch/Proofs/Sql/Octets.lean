import Mathlib
import QueryBatch.Sql.Scanner

/-!
# Octets of a statement text

The octets of a text are those of its characters, one after the other. An ASCII character is one
octet, and no octet of another character is ASCII. So an octet that means something to the scanner
is always a whole character. The results read the octets and the parts of a text that is given as
a list of characters.
-/

namespace QueryBatch
namespace Sql
namespace Scanner

/-- The octets of characters. -/
def octets (cs : List Char) : List UInt8 := cs.flatMap String.utf8EncodeChar

/-- Whether an octet is an ASCII character. -/
def IsAscii (b : UInt8) : Prop := b.toNat < 128

section Octets

@[simp] theorem octets_nil : octets [] = [] := rfl

@[simp] theorem octets_cons
    (c : Char) (cs : List Char) :
    octets (c :: cs) = String.utf8EncodeChar c ++ octets cs := by
  simp [octets]

@[simp] theorem octets_append
    (cs ds : List Char) :
    octets (cs ++ ds) = octets cs ++ octets ds := by
  simp [octets]

theorem toNat_toUInt8
    {c : Char}
    (hc : c.toNat < 128) :
    c.toUInt8.toNat = c.toNat := by
  have hmod : c.toUInt8.toNat = c.toNat % 256 := rfl
  omega

theorem isAscii_toUInt8
    {c : Char}
    (hc : c.toNat < 128) :
    IsAscii c.toUInt8 := by
  unfold IsAscii
  rw [toNat_toUInt8 hc]
  exact hc

/-- An ASCII character is one octet. -/
theorem utf8EncodeChar_ascii
    {c : Char}
    (hc : c.toNat < 128) :
    String.utf8EncodeChar c = [c.toUInt8] := by
  apply String.utf8EncodeChar_eq_singleton
  rw [Char.utf8Size_eq_one_iff, UInt32.le_iff_toNat_le]
  exact Nat.le_of_lt_succ hc

theorem octets_cons_ascii
    {c : Char}
    (hc : c.toNat < 128)
    (cs : List Char) :
    octets (c :: cs) = c.toUInt8 :: octets cs := by
  rw [octets_cons, utf8EncodeChar_ascii hc]
  rfl

/-- No octet of a character beyond ASCII is ASCII. -/
theorem not_isAscii_of_mem
    {c : Char} {b : UInt8}
    (hc : 128 ≤ c.toNat)
    (hb : b ∈ String.utf8EncodeChar c) :
    ¬ IsAscii b := by
  have hval : ¬ c.val.toNat ≤ 127 := by
    have : c.val.toNat = c.toNat := rfl
    omega
  simp only [String.utf8EncodeChar, hval, if_false] at hb
  unfold IsAscii
  split at hb
  · simp only [List.mem_cons, List.not_mem_nil, or_false] at hb
    rcases hb with rfl | rfl <;> simp only [UInt8.toNat_ofNat'] <;> omega
  · split at hb
    · simp only [List.mem_cons, List.not_mem_nil, or_false] at hb
      rcases hb with rfl | rfl | rfl <;> simp only [UInt8.toNat_ofNat'] <;> omega
    · simp only [List.mem_cons, List.not_mem_nil, or_false] at hb
      rcases hb with rfl | rfl | rfl | rfl <;> simp only [UInt8.toNat_ofNat'] <;> omega

/-- A character beyond ASCII starts with an octet beyond ASCII. -/
theorem exists_utf8EncodeChar_cons
    {c : Char}
    (hc : ¬ c.toNat < 128) :
    ∃ b bs, String.utf8EncodeChar c = b :: bs ∧ ¬ IsAscii b := by
  obtain ⟨b, bs, hencode⟩ :=
    List.exists_cons_of_ne_nil (String.utf8EncodeChar_ne_nil : String.utf8EncodeChar c ≠ [])
  have hmem : b ∈ String.utf8EncodeChar c := by
    rw [hencode]
    exact List.mem_cons_self
  exact ⟨b, bs, hencode, not_isAscii_of_mem (by omega) hmem⟩

/-- An ASCII octet among those of a character is the whole character. -/
theorem eq_of_ascii_mem
    {c d : Char}
    (hd : d.toNat < 128)
    (hmem : d.toUInt8 ∈ String.utf8EncodeChar c) :
    c = d := by
  by_cases hc : c.toNat < 128
  · rw [utf8EncodeChar_ascii hc, List.mem_singleton] at hmem
    have hval := congrArg UInt8.toNat hmem
    rw [toNat_toUInt8 hd, toNat_toUInt8 hc] at hval
    exact Char.toNat_inj.mp hval.symm
  · exact absurd (isAscii_toUInt8 hd) (not_isAscii_of_mem (by omega) hmem)

end Octets

section Reading

variable {text : String} {i : Nat} {b : UInt8} {bs cs : List UInt8}

/-- The octets of a text. -/
def textOctets (text : String) : List UInt8 := text.toByteArray.data.toList

/-- The octets from a place of a text on. -/
structure Remaining (text : String) (i : Nat) (bs : List UInt8) : Prop where
  bound : i ≤ text.utf8ByteSize
  drop : (textOctets text).drop i = bs

theorem length_textOctets
    (text : String) :
    (textOctets text).length = text.utf8ByteSize := rfl

theorem octet?_eq_getElem?
    (text : String) (i : Nat) :
    octet? text i = (textOctets text)[i]? := by
  unfold octet?
  split
  case isTrue hlt =>
    rw [List.getElem?_eq_getElem (length_textOctets text ▸ hlt)]
    rfl
  case isFalse hge =>
    rw [List.getElem?_eq_none]
    rw [length_textOctets]
    omega

theorem Remaining.octet?_add
    (h : Remaining text i bs)
    (j : Nat) :
    octet? text (i + j) = bs[j]? := by
  rw [octet?_eq_getElem?, ← h.drop, List.getElem?_drop]

theorem Remaining.octet?_head
    (h : Remaining text i bs) :
    octet? text i = bs.head? := by
  rw [← Nat.add_zero i, h.octet?_add, List.head?_eq_getElem?]

theorem Remaining.octet?_next
    (h : Remaining text i (b :: bs)) :
    octet? text (i + 1) = bs.head? := by
  rw [h.octet?_add, List.getElem?_cons_succ, List.head?_eq_getElem?]

theorem Remaining.length
    (h : Remaining text i bs) :
    i + bs.length = text.utf8ByteSize := by
  have hbound := h.bound
  rw [← h.drop, List.length_drop, length_textOctets]
  omega

theorem Remaining.append
    (h : Remaining text i (bs ++ cs)) :
    Remaining text (i + bs.length) cs := by
  constructor
  · have hlength := h.length
    rw [List.length_append] at hlength
    omega
  · rw [← List.drop_drop, h.drop, List.drop_left]

theorem Remaining.tail
    (h : Remaining text i (b :: bs)) :
    Remaining text (i + 1) bs := by
  have happ : Remaining text i ([b] ++ bs) := h
  exact happ.append

theorem textOctets_ofList
    (ds : List Char) :
    textOctets (String.ofList ds) = octets ds := by
  rw [textOctets, String.toByteArray_ofList]
  simp [List.utf8Encode, octets]

theorem utf8ByteSize_ofList
    (ds : List Char) :
    (String.ofList ds).utf8ByteSize = (octets ds).length := by
  rw [← length_textOctets, textOctets_ofList]

/-- Behind some of the characters of a text stand the octets of the others. -/
theorem remaining_ofList
    (before after : List Char) :
    Remaining (String.ofList (before ++ after)) (octets before).length (octets after) := by
  constructor
  · rw [utf8ByteSize_ofList, octets_append, List.length_append]
    omega
  · rw [textOctets_ofList, octets_append, List.drop_left]

theorem utf8Len_eq_length_octets
    (ds : List Char) :
    String.utf8Len ds = (octets ds).length := by
  induction ds with
  | nil => rfl
  | cons d ds ih =>
      rw [String.utf8Len_cons, octets_cons, List.length_append, String.length_utf8EncodeChar, ih]
      omega

/-- A part of a text that is cut between characters. -/
theorem slice_ofList
    (before part after : List Char) :
    slice (String.ofList (before ++ part ++ after)) (octets before).length
        ((octets before).length + (octets part).length)
      = String.ofList part := by
  have hextract := String.extract_of_valid before part after
  rw [utf8Len_eq_length_octets, utf8Len_eq_length_octets] at hextract
  exact hextract

end Reading

end Scanner
end Sql
end QueryBatch

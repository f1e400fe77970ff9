/-!
# Looking for placeholders

A statement text is scanned octet by octet. Everything that matters to the scanner is ASCII and no
octet of any other character is, so it need not know where characters begin: from each place it
tells how far the piece that starts there reaches, and whether it is a placeholder.
-/

namespace QueryBatch
namespace Sql
namespace Scanner

/-- The octet at a place, unless the text ends before it. -/
def octet? (text : String) (i : Nat) : Option UInt8 :=
  if h : i < text.utf8ByteSize then some (text.getUTF8Byte ⟨i⟩ h) else none

theorem lt_of_octet? {text : String} {i : Nat} {b : UInt8} (h : octet? text i = some b) :
    i < text.utf8ByteSize := by
  unfold octet? at h
  split at h
  · assumption
  · cases h

/-- The text between two places. -/
def slice (text : String) (start stop : Nat) : String :=
  String.Pos.Raw.extract text ⟨start⟩ ⟨stop⟩

/-- Whether an octet can start a name. -/
def isNameStart (b : UInt8) : Bool :=
  ('A'.toUInt8 ≤ b && b ≤ 'Z'.toUInt8) || ('a'.toUInt8 ≤ b && b ≤ 'z'.toUInt8)
    || b = '_'.toUInt8

/-- Whether an octet can continue a name. -/
def isNamePart (b : UInt8) : Bool :=
  isNameStart b || ('0'.toUInt8 ≤ b && b ≤ '9'.toUInt8)

/-- The first place from `i` on with an octet as wanted, or the end of the text. -/
def seek (text : String) (wanted : UInt8 → Bool) (i : Nat) : Nat :=
  match h : octet? text i with
  | none => text.utf8ByteSize
  | some b => if wanted b then i else seek text wanted (i + 1)
termination_by text.utf8ByteSize - i
decreasing_by
  have := lt_of_octet? h
  omega

/-- The place after the closing quote of a quoted run, looked for from `i` on. A doubled quote
does not close it. -/
def quotedEnd (text : String) (quote : UInt8) (i : Nat) : Nat :=
  match h : octet? text i with
  | none => text.utf8ByteSize
  | some b =>
      if b = quote then
        if octet? text (i + 1) = some quote then quotedEnd text quote (i + 2) else i + 1
      else quotedEnd text quote (i + 1)
termination_by text.utf8ByteSize - i
decreasing_by
  all_goals
    have := lt_of_octet? h
    omega

/-- The place after the first star and slash from `i` on. -/
def blockEnd (text : String) (i : Nat) : Nat :=
  match h : octet? text i with
  | none => text.utf8ByteSize
  | some b =>
      if b = '*'.toUInt8 ∧ octet? text (i + 1) = some '/'.toUInt8 then i + 2
      else blockEnd text (i + 1)
termination_by text.utf8ByteSize - i
decreasing_by
  have := lt_of_octet? h
  omega

/-- What starts at a place of a text, with the place after it. -/
inductive Piece
  /-- Something that is copied as it is. -/
  | copied (stop : Nat)
  /-- An at sign and a name. -/
  | placeholder (stop : Nat)
  deriving DecidableEq, Repr

/-- The place after a piece. -/
def Piece.stop : Piece → Nat
  | .copied stop => stop
  | .placeholder stop => stop

/-- The piece that starts with the octet `b` at the place `i`. -/
def piece (text : String) (i : Nat) (b : UInt8) : Piece :=
  if b = '\''.toUInt8 ∨ b = '"'.toUInt8 then .copied (quotedEnd text b (i + 1))
  else if b = '-'.toUInt8 ∧ octet? text (i + 1) = some '-'.toUInt8 then
    .copied (seek text (· = '\n'.toUInt8) i)
  else if b = '/'.toUInt8 ∧ octet? text (i + 1) = some '*'.toUInt8 then
    .copied (blockEnd text (i + 2))
  else if b = '@'.toUInt8 ∧ (octet? text (i + 1)).any isNameStart then
    .placeholder (seek text (fun b => !isNamePart b) (i + 1))
  else .copied (i + 1)

theorem le_seek (text : String) (wanted : UInt8 → Bool) (i : Nat) :
    i ≤ text.utf8ByteSize → i ≤ seek text wanted i := by
  fun_induction seek text wanted i with
  | case1 => exact id
  | case2 => exact fun _ => Nat.le_refl _
  | case3 i b h _ ih =>
      intro _
      exact Nat.le_of_succ_le (ih (lt_of_octet? h))

theorem le_quotedEnd (text : String) (quote : UInt8) (i : Nat) :
    i ≤ text.utf8ByteSize → i ≤ quotedEnd text quote i := by
  fun_induction quotedEnd text quote i with
  | case1 => exact id
  | case2 i hnext _ ih =>
      intro _
      exact Nat.le_trans (Nat.le_add_right i 2) (ih (lt_of_octet? hnext))
  | case3 => exact fun _ => Nat.le_succ _
  | case4 i b h _ ih =>
      intro _
      exact Nat.le_of_succ_le (ih (lt_of_octet? h))

theorem le_blockEnd (text : String) (i : Nat) :
    i ≤ text.utf8ByteSize → i ≤ blockEnd text i := by
  fun_induction blockEnd text i with
  | case1 => exact id
  | case2 => exact fun _ => Nat.le_add_right _ 2
  | case3 i b h _ ih =>
      intro _
      exact Nat.le_of_succ_le (ih (lt_of_octet? h))

/-- Every piece reaches beyond its first octet. -/
theorem lt_stop_piece {text : String} {i : Nat} {b : UInt8} (h : octet? text i = some b) :
    i < (piece text i b).stop := by
  have hlt := lt_of_octet? h
  unfold piece
  split
  · exact le_quotedEnd text b (i + 1) hlt
  · split
    case isTrue hdash =>
      -- the first octet is a dash and no line end, so the search goes on from the next one
      have hseek : seek text (· = '\n'.toUInt8) i = seek text (· = '\n'.toUInt8) (i + 1) := by
        rw [seek]
        split
        · simp_all
        · simp_all
          intro h
          cases h
      exact hseek ▸ le_seek text _ (i + 1) hlt
    case isFalse =>
      split
      case isTrue hblock =>
        exact Nat.le_trans (Nat.le_succ _) (le_blockEnd text (i + 2) (lt_of_octet? hblock.2))
      case isFalse =>
        split
        · exact le_seek text _ (i + 1) hlt
        · exact Nat.lt_succ_self i

end Scanner
end Sql
end QueryBatch

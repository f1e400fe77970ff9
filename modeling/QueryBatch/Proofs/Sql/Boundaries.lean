import QueryBatch.Proofs.Sql.Binding

/-!
# Binding stays inside of the text

The scanner goes over octets and cuts the text between characters. `Cursor.run?` is the loop of the
binder with all that could go wrong: a part of the text can be had only between two places in order
that stand between characters, octets can be had only up to the end, and the loop has a number of
turns. It never fails, with as many turns as there are octets and one for the end, and answers what
the binder answers.

An octet that means something to the scanner is a whole character (`isValid_of_ascii`), so the text
can be cut before it and behind it. What else is known of a cursor is `Cursor.Sound`.
-/

namespace QueryBatch
namespace Sql

section Defs

namespace Scanner

/-- The text can be cut out between two places. -/
def IsPart (text : String) (start stop : Nat) : Prop :=
  start ≤ stop ∧ stop ≤ text.utf8ByteSize ∧
    String.Pos.Raw.IsValid text ⟨start⟩ ∧ String.Pos.Raw.IsValid text ⟨stop⟩

instance (text : String) (start stop : Nat) : Decidable (IsPart text start stop) :=
  inferInstanceAs (Decidable (_ ∧ _ ∧ _ ∧ _))

def part? (text : String) (start stop : Nat) : Option String :=
  if IsPart text start stop then some (slice text start stop) else none

def octetsFrom? (text : String) (i : Nat) : Option (List UInt8) :=
  if i ≤ text.utf8ByteSize then some ((textOctets text).drop i) else none

/-- The piece that starts with the octet `b` at a place. The ends of comments and names are looked
for in what is left of the text. -/
def piece? (text : String) (i : Nat) (b : UInt8) : Option Piece :=
  if b = '\''.toUInt8 ∨ b = '"'.toUInt8 then some (.copied (quotedEnd text b (i + 1)))
  else if b = '-'.toUInt8 ∧ octet? text (i + 1) = some '-'.toUInt8 then
    (octetsFrom? text i).map fun rest => .copied (i + rest.findIdx (· = '\n'.toUInt8))
  else if b = '/'.toUInt8 ∧ octet? text (i + 1) = some '*'.toUInt8 then
    (part? text (i + 2) text.utf8ByteSize).map fun rest => .copied (i + 2 + blockEnd rest 0)
  else if b = '@'.toUInt8 ∧ (octet? text (i + 1)).any isNameStart then
    (octetsFrom? text (i + 1)).map fun rest =>
      .placeholder (i + 1 + rest.findIdx fun b => !isNamePart b)
  else some (.copied (i + 1))

end Scanner

namespace Cursor

/-- Put the number of a name behind what stands before the name. -/
def replace (args : NamedArgs) (cursor : Cursor) (before name : String) (stop : Nat) :
    Except MissingArgument Cursor :=
  let sql := cursor.sql.appendSyntax before
  match cursor.positions.lookup name with
  | some k =>
      .ok { cursor with
        index := stop, copied := stop, sql := sql.appendSyntax ("$" ++ toString k) }
  | none =>
      match args.get? name with
      | some value =>
          let sql := sql.appendParam value
          .ok ⟨stop, stop, sql, cursor.positions ++ [(name, sql.paramIndex)]⟩
      | none => .error ⟨name⟩

/-- Go on behind the piece that starts with the octet `b`, if nothing goes wrong. -/
def step? (text : String) (args : NamedArgs) (cursor : Cursor) (b : UInt8) :
    Option (Except MissingArgument Cursor) := do
  match ← Scanner.piece? text cursor.index b with
  | .copied stop => return .ok { cursor with index := stop }
  | .placeholder stop =>
      let name ← Scanner.part? text (cursor.index + 1) stop
      let before ← Scanner.part? text cursor.copied cursor.index
      return cursor.replace args before name stop

/-- Bind the rest of a text in so many turns, if nothing goes wrong. -/
def run? (text : String) (args : NamedArgs) :
    Nat → Cursor → Option (Except MissingArgument Sql)
  | 0, _ => none
  | turns + 1, cursor =>
      match Scanner.octet? text cursor.index with
      | none => do
          let tail ← Scanner.part? text cursor.copied text.utf8ByteSize
          return .ok (cursor.sql.appendSyntax tail)
      | some b => do
          match ← cursor.step? text args b with
          | .ok next => run? text args turns next
          | .error e => return .error e

/-- A cursor that comes up when a text is bound. -/
inductive Reached (text : String) (args : NamedArgs) : Cursor → Prop
  | start : Reached text args Cursor.start
  | step
      {cursor next : Cursor}
      {b : UInt8}
      (hreached : Reached text args cursor)
      (hoctet : Scanner.octet? text cursor.index = some b)
      (hstep : cursor.step text args b = .ok next) :
      Reached text args next

/-- A cursor stands in the text, and what was copied ends between two characters before it. -/
structure Sound (text : String) (cursor : Cursor) : Prop where
  ordered : cursor.copied ≤ cursor.index
  within : cursor.index ≤ text.utf8ByteSize
  copied : String.Pos.Raw.IsValid text ⟨cursor.copied⟩

/-- The loop goes on from a cursor to a later one in the text, and the text can be cut wherever this
is done: before a placeholder, around its name, behind the first two characters of a block comment,
and where the last part begins that is copied. -/
structure Safe (text : String) (args : NamedArgs) (cursor : Cursor) : Prop where
  within : cursor.index ≤ text.utf8ByteSize
  advances : ∀ b next, Scanner.octet? text cursor.index = some b →
    cursor.step text args b = .ok next →
      cursor.index < next.index ∧ next.index ≤ text.utf8ByteSize
  placeholder : ∀ b stop, Scanner.octet? text cursor.index = some b →
    Scanner.piece text cursor.index b = .placeholder stop →
      Scanner.IsPart text cursor.copied cursor.index ∧
        Scanner.IsPart text (cursor.index + 1) stop
  block : Scanner.octet? text cursor.index = some '/'.toUInt8 →
    Scanner.octet? text (cursor.index + 1) = some '*'.toUInt8 →
      Scanner.IsPart text (cursor.index + 2) text.utf8ByteSize
  tail : Scanner.IsPart text cursor.copied text.utf8ByteSize

end Cursor
end Defs

namespace Scanner

variable {text : String} {i : Nat} {b : UInt8}

section Places

/-- A place behind some of the characters of a text. -/
theorem isValid_ofList_append
    (before after : List Char) :
    String.Pos.Raw.IsValid (String.ofList (before ++ after)) ⟨(octets before).length⟩ := by
  rw [String.Pos.Raw.isValid_ofList]
  refine ⟨before.length, ?_⟩
  rw [List.take_left, utf8ByteSize_ofList]

/-- An ASCII octet among those of characters is one of them. -/
theorem exists_of_getElem?_octets
    (hb : IsAscii b)
    (cs : List Char) :
    ∀ i : Nat, (octets cs)[i]? = some b →
      ∃ before c after, cs = before ++ c :: after ∧ String.utf8EncodeChar c = [b] ∧
        i = (octets before).length := by
  induction cs with
  | nil =>
    intro i hget
    simp at hget
  | cons c cs ih =>
    intro i hget
    rw [octets_cons] at hget
    by_cases hi : i < (String.utf8EncodeChar c).length
    · rw [List.getElem?_append_left hi] at hget
      have hc : c.toNat < 128 := by
        by_contra hbeyond
        exact not_isAscii_of_mem (by omega) (List.mem_of_getElem? hget) hb
      rw [utf8EncodeChar_ascii hc] at hget hi
      obtain rfl : i = 0 := by simpa using hi
      obtain rfl : c.toUInt8 = b := by simpa using hget
      exact ⟨[], c, cs, rfl, utf8EncodeChar_ascii hc, rfl⟩
    · rw [List.getElem?_append_right (by omega)] at hget
      obtain ⟨before, d, after, rfl, hd, hplace⟩ := ih _ hget
      refine ⟨c :: before, d, after, rfl, hd, ?_⟩
      rw [octets_cons, List.length_append]
      omega

theorem exists_of_octet?
    (hoctet : octet? text i = some b)
    (hb : IsAscii b) :
    ∃ before c after, text = String.ofList (before ++ c :: after) ∧
      String.utf8EncodeChar c = [b] ∧ i = (octets before).length := by
  rw [octet?_eq_getElem?, ← String.ofList_toList (s := text), textOctets_ofList] at hoctet
  obtain ⟨before, c, after, htext, hc, hplace⟩ := exists_of_getElem?_octets hb _ i hoctet
  exact ⟨before, c, after, by rw [← htext, String.ofList_toList], hc, hplace⟩

/-- The text can be cut before and behind an ASCII octet. -/
theorem isValid_of_ascii
    (hoctet : octet? text i = some b)
    (hb : IsAscii b) :
    String.Pos.Raw.IsValid text ⟨i⟩ ∧ String.Pos.Raw.IsValid text ⟨i + 1⟩ := by
  obtain ⟨before, c, after, rfl, hc, rfl⟩ := exists_of_octet? hoctet hb
  refine ⟨isValid_ofList_append before _, ?_⟩
  have hbehind := isValid_ofList_append (before ++ [c]) after
  rw [octets_append, List.length_append, octets_cons, hc, List.append_assoc] at hbehind
  exact hbehind

theorem isAscii_of_isNamePart
    (hb : isNamePart b = true) :
    IsAscii b := by
  by_contra hbeyond
  rw [isNamePart_of_not_isAscii hbeyond] at hb
  cases hb

/-- A name ends between two characters. -/
theorem isValid_nameEnd
    (text : String)
    (i : Nat) :
    String.Pos.Raw.IsValid text ⟨i⟩ →
      String.Pos.Raw.IsValid text ⟨seek text (fun b => !isNamePart b) i⟩ := by
  fun_induction seek text (fun b => !isNamePart b) i with
  | case1 => exact fun _ => String.Pos.Raw.isValid_rawEndPos
  | case2 => exact id
  | case3 i b hoctet hpart ih =>
    intro _
    exact ih (isValid_of_ascii hoctet (isAscii_of_isNamePart (by simpa using hpart))).2

end Places

section Bounds

theorem seek_le
    (text : String)
    (wanted : UInt8 → Bool)
    (i : Nat) :
    seek text wanted i ≤ text.utf8ByteSize := by
  fun_induction seek text wanted i with
  | case1 => exact Nat.le_refl _
  | case2 i b hoctet => exact (lt_of_octet? hoctet).le
  | case3 i b hoctet hwanted ih => exact ih

theorem quotedEnd_le
    (text : String)
    (quote : UInt8)
    (i : Nat) :
    quotedEnd text quote i ≤ text.utf8ByteSize := by
  fun_induction quotedEnd text quote i with
  | case1 => exact Nat.le_refl _
  | case2 i hoctet hdoubled ih => exact ih
  | case3 i hsingle hoctet => exact lt_of_octet? hoctet
  | case4 i b hoctet hne ih => exact ih

theorem blockEnd_le
    (text : String)
    (i : Nat) :
    blockEnd text i ≤ text.utf8ByteSize := by
  fun_induction blockEnd text i with
  | case1 => exact Nat.le_refl _
  | case2 i b hoctet hends => exact lt_of_octet? hends.2
  | case3 i b hoctet hends ih => exact ih

/-- No piece reaches beyond the text. -/
theorem stop_piece_le
    (hoctet : octet? text i = some b) :
    (piece text i b).stop ≤ text.utf8ByteSize := by
  unfold piece
  split
  · exact quotedEnd_le text b (i + 1)
  · split
    · exact seek_le text _ i
    · split
      · exact blockEnd_le text (i + 2)
      · split
        · exact seek_le text _ (i + 1)
        · exact lt_of_octet? hoctet

end Bounds

section Pieces

theorem drop_of_octet?
    (hoctet : octet? text i = some b) :
    (textOctets text).drop i = b :: (textOctets text).drop (i + 1) := by
  rw [octet?_eq_getElem?] at hoctet
  obtain ⟨hi, rfl⟩ := List.getElem?_eq_some_iff.1 hoctet
  exact List.drop_eq_getElem_cons hi

/-- A search from a place on is a search in what is left of the octets. -/
theorem seek_eq_findIdx
    (text : String)
    (wanted : UInt8 → Bool)
    (i : Nat) :
    i ≤ text.utf8ByteSize →
      seek text wanted i = i + ((textOctets text).drop i).findIdx wanted := by
  fun_induction seek text wanted i with
  | case1 i hnone =>
    intro hi
    rw [octet?_eq_getElem?, List.getElem?_eq_none_iff] at hnone
    rw [List.drop_of_length_le hnone, List.findIdx_nil]
    exact hi.antisymm' hnone
  | case2 i b hoctet hwanted =>
    intro _
    rw [drop_of_octet? hoctet, List.findIdx_cons, hwanted]
    rfl
  | case3 i b hoctet hwanted ih =>
    intro _
    rw [ih (lt_of_octet? hoctet), drop_of_octet? hoctet, List.findIdx_cons]
    simp only [hwanted, cond_false]
    omega

/-- A block comment ends where it ends in what is left of the text. -/
theorem blockEnd_eq_part
    (hslash : octet? text i = some '/'.toUInt8)
    (hstar : octet? text (i + 1) = some '*'.toUInt8) :
    IsPart text (i + 2) text.utf8ByteSize ∧
      blockEnd text (i + 2) = i + 2 + blockEnd (slice text (i + 2) text.utf8ByteSize) 0 := by
  have hstart := (isValid_of_ascii hstar (isAscii_toUInt8 (by decide))).2
  refine ⟨⟨lt_of_octet? hstar, le_rfl, hstart, String.Pos.Raw.isValid_rawEndPos⟩, ?_⟩
  obtain ⟨before, c, after, rfl, hc, hplace⟩ := exists_of_octet? hstar (isAscii_toUInt8 (by decide))
  have hbehind : i + 2 = (octets (before ++ [c])).length := by
    rw [octets_append, List.length_append, octets_cons, hc, ← hplace]
    rfl
  have hremaining := remaining_ofList (before ++ [c]) after
  have hpart := slice_ofList (before ++ [c]) after []
  rw [List.append_nil, ← List.length_append, ← octets_append] at hpart
  rw [List.append_assoc, List.singleton_append, ← hbehind] at hremaining hpart
  have hrest : Remaining (String.ofList after) 0 (octets after) := remaining_ofList [] after
  rw [utf8ByteSize_ofList, hpart, blockEnd_octets after _ hremaining, blockEnd_octets after 0 hrest,
    Nat.zero_add]

/-- Nothing goes wrong when a piece is read. -/
theorem piece?_eq
    (hoctet : octet? text i = some b) :
    piece? text i b = some (piece text i b) := by
  have hlt := lt_of_octet? hoctet
  unfold piece? piece
  split
  case isTrue hquote => rfl
  case isFalse hquote =>
    split
    case isTrue hdash =>
      rw [octetsFrom?, if_pos hlt.le, Option.map_some, seek_eq_findIdx _ _ _ hlt.le]
    case isFalse hdash =>
      split
      case isTrue hblock =>
        obtain ⟨rfl, hstar⟩ := hblock
        obtain ⟨hpart, hends⟩ := blockEnd_eq_part hoctet hstar
        rw [part?, if_pos hpart, Option.map_some, hends]
      case isFalse hblock =>
        split
        case isTrue hname =>
          have hnext : i + 1 ≤ text.utf8ByteSize := hlt
          rw [octetsFrom?, if_pos hnext, Option.map_some, seek_eq_findIdx _ _ _ hnext]
        case isFalse hname => rfl

/-- Around the name of a placeholder the text can be cut. -/
theorem isPart_name
    {stop : Nat}
    (hoctet : octet? text i = some b)
    (hpiece : piece text i b = .placeholder stop) :
    String.Pos.Raw.IsValid text ⟨i⟩ ∧ IsPart text (i + 1) stop := by
  have hlt := lt_of_octet? hoctet
  obtain ⟨rfl, rfl⟩ : b = '@'.toUInt8 ∧ stop = seek text (fun b => !isNamePart b) (i + 1) := by
    unfold piece at hpiece
    split at hpiece
    · cases hpiece
    · split at hpiece
      · cases hpiece
      · split at hpiece
        · cases hpiece
        · split at hpiece
          case isTrue hname => exact ⟨hname.1, (Piece.placeholder.inj hpiece).symm⟩
          case isFalse => cases hpiece
  obtain ⟨hat, hname⟩ := isValid_of_ascii hoctet (isAscii_toUInt8 (by decide))
  exact ⟨hat, le_seek text _ _ hlt, seek_le text _ _, hname, isValid_nameEnd text _ hname⟩

end Pieces
end Scanner

namespace Cursor

variable {text : String} {args : NamedArgs} {cursor next : Cursor} {b : UInt8}

theorem step_eq
    (text : String)
    (args : NamedArgs)
    (cursor : Cursor)
    (b : UInt8) :
    cursor.step text args b
      = match Scanner.piece text cursor.index b with
        | .copied stop => .ok { cursor with index := stop }
        | .placeholder stop =>
            cursor.replace args (Scanner.slice text cursor.copied cursor.index)
              (Scanner.slice text (cursor.index + 1) stop) stop :=
  rfl

theorem copied_replace
    {before name : String}
    {stop : Nat}
    (hnext : cursor.replace args before name stop = .ok next) :
    next.index = stop ∧ next.copied = stop := by
  unfold replace at hnext
  dsimp only at hnext
  split at hnext
  · cases hnext
    exact ⟨rfl, rfl⟩
  · split at hnext
    · cases hnext
      exact ⟨rfl, rfl⟩
    · cases hnext

namespace Sound

theorem start
    (text : String) :
    Cursor.start.Sound text where
  ordered := Nat.zero_le 0
  within := Nat.zero_le _
  copied := String.Pos.Raw.isValid_zero

/-- The part before a placeholder can be cut out, and so can its name. -/
theorem isPart
    {stop : Nat}
    (hsound : cursor.Sound text)
    (hoctet : Scanner.octet? text cursor.index = some b)
    (hpiece : Scanner.piece text cursor.index b = .placeholder stop) :
    Scanner.IsPart text cursor.copied cursor.index ∧
      Scanner.IsPart text (cursor.index + 1) stop := by
  obtain ⟨hat, hname⟩ := Scanner.isPart_name hoctet hpiece
  exact ⟨⟨hsound.ordered, hsound.within, hsound.copied, hat⟩, hname⟩

/-- The last part of the text can be cut out. -/
theorem isPart_tail
    (hsound : cursor.Sound text) :
    Scanner.IsPart text cursor.copied text.utf8ByteSize :=
  ⟨hsound.ordered.trans hsound.within, le_rfl, hsound.copied, String.Pos.Raw.isValid_rawEndPos⟩

/-- A step goes on in the text. -/
theorem advances
    (hoctet : Scanner.octet? text cursor.index = some b)
    (hstep : cursor.step text args b = .ok next) :
    cursor.index < next.index ∧ next.index ≤ text.utf8ByteSize := by
  rw [index_step hstep]
  exact ⟨Scanner.lt_stop_piece hoctet, Scanner.stop_piece_le hoctet⟩

theorem step
    (hsound : cursor.Sound text)
    (hoctet : Scanner.octet? text cursor.index = some b)
    (hstep : cursor.step text args b = .ok next) :
    next.Sound text := by
  obtain ⟨hlater, hwithin⟩ := advances hoctet hstep
  rw [step_eq] at hstep
  cases hpiece : Scanner.piece text cursor.index b with
  | copied stop =>
    simp only [hpiece, Except.ok.injEq] at hstep
    subst hstep
    exact ⟨hsound.ordered.trans hlater.le, hwithin, hsound.copied⟩
  | placeholder stop =>
    simp only [hpiece] at hstep
    obtain ⟨hindex, hcopied⟩ := copied_replace hstep
    obtain ⟨-, -, -, -, hstop⟩ := hsound.isPart hoctet hpiece
    exact ⟨(hcopied.trans hindex.symm).le, hwithin, hcopied ▸ hstop⟩

theorem safe
    (hsound : cursor.Sound text) :
    cursor.Safe text args where
  within := hsound.within
  advances _ _ hoctet hstep := advances hoctet hstep
  placeholder _ _ hoctet hpiece := hsound.isPart hoctet hpiece
  block hslash hstar := (Scanner.blockEnd_eq_part hslash hstar).1
  tail := hsound.isPart_tail

/-- Nothing goes wrong in a step. -/
theorem step?_eq
    (hsound : cursor.Sound text)
    (args : NamedArgs)
    (hoctet : Scanner.octet? text cursor.index = some b) :
    cursor.step? text args b = some (cursor.step text args b) := by
  rw [step?, Scanner.piece?_eq hoctet, step_eq]
  cases hpiece : Scanner.piece text cursor.index b with
  | copied stop => rfl
  | placeholder stop =>
    obtain ⟨hbefore, hname⟩ := hsound.isPart hoctet hpiece
    simp [Scanner.part?, hbefore, hname]

/-- The loop ends, in a turn for each octet that is left and one for the end. -/
theorem run?_eq
    {turns : Nat}
    (hsound : cursor.Sound text)
    (hturns : text.utf8ByteSize < cursor.index + turns) :
    cursor.run? text args turns = some (cursor.run text args) := by
  induction turns generalizing cursor with
  | zero =>
    have hwithin := hsound.within
    omega
  | succ turns ih =>
    rw [run?]
    cases hoctet : Scanner.octet? text cursor.index with
    | none =>
      have htail := hsound.isPart_tail
      simp [Scanner.part?, htail, Cursor.run_end hoctet]
    | some b =>
      have hstep := hsound.step?_eq args hoctet
      rw [Cursor.run_step hoctet]
      cases hnext : cursor.step text args b with
      | error e =>
        rw [hnext] at hstep
        simp [hstep]
      | ok next =>
        rw [hnext] at hstep
        obtain ⟨hlater, -⟩ := advances hoctet hnext
        simp [hstep, ih (hsound.step hoctet hnext) (by omega)]

end Sound

theorem Reached.sound
    (hreached : cursor.Reached text args) :
    cursor.Sound text := by
  induction hreached with
  | start => exact .start text
  | step hreached hoctet hstep ih => exact ih.step hoctet hstep

end Cursor

/-- Whatever the text and the arguments, from each cursor that comes up the loop goes on to a later
place in the text, and cuts the text in order and between characters. The loop that is stopped by
anything that goes wrong, and after a turn for each octet and one for the end, answers what the
binder answers. -/
theorem binding_stays_inside_of_text
    (text : String)
    (args : NamedArgs) :
    (∀ cursor, Cursor.Reached text args cursor → cursor.Safe text args) ∧
      Cursor.run? text args (text.utf8ByteSize + 1) Cursor.start
        = some ((Arguments.named args).bind text) := by
  refine ⟨fun cursor hreached => hreached.sound.safe, ?_⟩
  exact (Cursor.Sound.start text).run?_eq (by simp [Cursor.start])

/-- A placeholder between a letter of two octets and a block comment that is not closed. -/
theorem binding_stays_inside_of_accented_text :
    let text := "é@a/*@é"
    let args : NamedArgs := ⟨[("a", .int 1)], by decide⟩
    ∃ cursor, Cursor.Reached text args cursor ∧ cursor.index = 4 ∧ cursor.Safe text args ∧
      Scanner.IsPart text 6 9 ∧ Scanner.IsPart text cursor.copied 9 ∧
      Cursor.run? text args 10 Cursor.start = some (.ok ⟨"é$1/*@é", [.int 1], 1⟩) := by
  intro text args
  obtain ⟨hsafe, hrun⟩ := binding_stays_inside_of_text text args
  have hreached : Cursor.Reached text args ⟨4, 4, ⟨"é$1", [.int 1], 1⟩, [("a", 1)]⟩ := by
    have hfirst : Cursor.Reached text args { Cursor.start with index := 1 } :=
      .step (b := 195) .start (by decide) (by cbv)
    have hsecond : Cursor.Reached text args { Cursor.start with index := 2 } :=
      .step (b := 169) hfirst (by decide) (by cbv)
    exact .step (b := 64) hsecond (by decide) (by cbv)
  have hcursor := hsafe _ hreached
  have hbind : (Arguments.named args).bind text = .ok ⟨"é$1/*@é", [.int 1], 1⟩ := by
    rw [show (Arguments.named args).bind text = boundForm text args from
      bindNamed_eq_boundForm text args]
    cbv
  refine ⟨_, hreached, rfl, hcursor, hcursor.block (by decide) (by decide), hcursor.tail, ?_⟩
  rw [← hbind]
  exact hrun

end Sql
end QueryBatch

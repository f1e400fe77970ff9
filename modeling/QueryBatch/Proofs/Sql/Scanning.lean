import QueryBatch.Proofs.Sql.Octets
import QueryBatch.Sql.Token

/-!
# The scanner finds the tokens

From a place between two characters the scanner reaches exactly as far as the token that starts
there, for each of the ways in which a token ends: `seek_octets` for lines and names,
`quotedEnd_octets` for quotes, `blockEnd_octets` for block comments. Octets inside a character
beyond ASCII are passed over one by one.
-/

namespace QueryBatch
namespace Sql
namespace Scanner

variable {text : String} {i : Nat}

section Ends

theorem seek_of_wanted
    {wanted : UInt8 → Bool} {b : UInt8} {bs : List UInt8}
    (hremaining : Remaining text i (b :: bs))
    (hwanted : wanted b = true) :
    seek text wanted i = i := by
  have hhead := hremaining.octet?_head
  rw [seek]
  split
  case h_1 hnone => simp [hnone] at hhead
  case h_2 c hsome =>
    obtain rfl : c = b := by simpa [hsome] using hhead
    rw [if_pos hwanted]

theorem seek_nil
    {wanted : UInt8 → Bool}
    (hremaining : Remaining text i []) :
    seek text wanted i = i := by
  have hhead := hremaining.octet?_head
  rw [seek]
  split
  case h_1 hnone => simpa using hremaining.length.symm
  case h_2 c hsome => simp [hsome] at hhead

/-- A search passes over unwanted octets. -/
theorem seek_append
    {wanted : UInt8 → Bool} {bs cs : List UInt8}
    (hremaining : Remaining text i (bs ++ cs))
    (hunwanted : ∀ b ∈ bs, wanted b = false) :
    seek text wanted i = seek text wanted (i + bs.length) := by
  induction bs generalizing i with
  | nil => rfl
  | cons b bs ih =>
      have hhead := hremaining.octet?_head
      have hnext := ih hremaining.tail (fun c hc => hunwanted c (List.mem_cons_of_mem b hc))
      have hstep : seek text wanted i = seek text wanted (i + 1) := by
        rw [seek]
        split
        case h_1 hnone => simp [hnone] at hhead
        case h_2 c hsome =>
          obtain rfl : c = b := by simpa [hsome] using hhead
          have hc := hunwanted c List.mem_cons_self
          simp [hc]
      rw [hstep, hnext, List.length_cons]
      congr 1
      omega

/-- A search over characters, if the octets that are wanted tell which characters belong. -/
theorem seek_octets
    {wanted : UInt8 → Bool} {belongs : Char → Bool}
    (hbelongs : ∀ c, belongs c = true → ∀ b ∈ String.utf8EncodeChar c, wanted b = false)
    (hstop : ∀ c, belongs c = false →
      ∃ b bs, String.utf8EncodeChar c = b :: bs ∧ wanted b = true)
    (cs : List Char) :
    ∀ i : Nat, Remaining text i (octets cs) →
      seek text wanted i = i + (octets (cs.takeWhile belongs)).length := by
  induction cs with
  | nil =>
      intro i hremaining
      exact seek_nil hremaining
  | cons c cs ih =>
      intro i hremaining
      rw [octets_cons] at hremaining
      cases hc : belongs c with
      | true =>
          rw [seek_append hremaining (hbelongs c hc), ih _ hremaining.append,
            List.takeWhile_cons_of_pos hc, octets_cons, List.length_append]
          omega
      | false =>
          obtain ⟨b, bs, hencode, hwanted⟩ := hstop c hc
          rw [hencode] at hremaining
          rw [seek_of_wanted hremaining hwanted, List.takeWhile_cons_of_neg (by simp [hc])]
          rfl

/-- The first octet of a character is an ASCII character only if it is that character. -/
theorem head?_utf8EncodeChar
    {c d : Char}
    (hd : d.toNat < 128)
    (bs : List UInt8) :
    (String.utf8EncodeChar c ++ bs).head? = some d.toUInt8 ↔ c = d := by
  constructor
  · intro hhead
    apply eq_of_ascii_mem hd
    obtain ⟨b, rest, hencode⟩ :=
      List.exists_cons_of_ne_nil (String.utf8EncodeChar_ne_nil : String.utf8EncodeChar c ≠ [])
    rw [hencode, List.cons_append, List.head?_cons, Option.some_inj] at hhead
    rw [hencode, hhead]
    exact List.mem_cons_self
  · rintro rfl
    rw [utf8EncodeChar_ascii hd]
    rfl

/-- A quoted run goes on over octets that are not its quote. -/
theorem quotedEnd_append
    {quote : UInt8} {bs cs : List UInt8}
    (hremaining : Remaining text i (bs ++ cs))
    (hother : ∀ b ∈ bs, b ≠ quote) :
    quotedEnd text quote i = quotedEnd text quote (i + bs.length) := by
  induction bs generalizing i with
  | nil => rfl
  | cons b bs ih =>
      have hhead := hremaining.octet?_head
      have hnext := ih hremaining.tail (fun c hc => hother c (List.mem_cons_of_mem b hc))
      have hstep : quotedEnd text quote i = quotedEnd text quote (i + 1) := by
        rw [quotedEnd]
        split
        case h_1 hnone => simp [hnone] at hhead
        case h_2 c hsome =>
          obtain rfl : c = b := by simpa [hsome] using hhead
          rw [if_neg (hother c List.mem_cons_self)]
      rw [hstep, hnext, List.length_cons]
      congr 1
      omega

theorem quotedEnd_nil
    {quote : UInt8}
    (hremaining : Remaining text i []) :
    quotedEnd text quote i = i := by
  have hhead := hremaining.octet?_head
  rw [quotedEnd]
  split
  case h_1 hnone => simpa using hremaining.length.symm
  case h_2 c hsome => simp [hsome] at hhead

theorem quotedEnd_quote
    {quote : UInt8} {bs : List UInt8}
    (hremaining : Remaining text i (quote :: bs)) :
    quotedEnd text quote i
      = if bs.head? = some quote then quotedEnd text quote (i + 2) else i + 1 := by
  have hhead := hremaining.octet?_head
  rw [quotedEnd]
  split
  case h_1 hnone => simp [hnone] at hhead
  case h_2 c hsome =>
    obtain rfl : c = quote := by simpa [hsome] using hhead
    rw [if_pos rfl, hremaining.octet?_next]

/-- No octet of another character is the quote. -/
theorem ne_of_mem_encode
    {c d : Char} {b : UInt8}
    (hd : d.toNat < 128)
    (hne : c ≠ d)
    (hb : b ∈ String.utf8EncodeChar c) :
    b ≠ d.toUInt8 := by
  rintro rfl
  exact hne (eq_of_ascii_mem hd hb)

/-- The end of a quoted run. -/
theorem quotedEnd_octets
    {quote : Char}
    (hquote : quote.toNat < 128)
    (cs : List Char) :
    ∀ i : Nat, Remaining text i (octets cs) →
      quotedEnd text quote.toUInt8 i = i + (octets (Token.splitQuoted quote cs).1).length := by
  fun_induction Token.splitQuoted quote cs with
  | case1 =>
      intro i hremaining
      exact quotedEnd_nil hremaining
  | case2 c =>
      intro i hremaining
      by_cases hc : c = quote
      · subst hc
        rw [octets_cons_ascii hquote] at hremaining ⊢
        rw [quotedEnd_quote hremaining]
        rfl
      · rw [octets_cons] at hremaining
        rw [quotedEnd_append hremaining (fun b => ne_of_mem_encode hquote hc),
          quotedEnd_nil hremaining.append]
        simp
  | case3 rest run after hsplit ih =>
      intro i hremaining
      rw [octets_cons_ascii hquote, octets_cons_ascii hquote] at hremaining
      have hlater := ih (i + 2) hremaining.tail.tail
      simp only [hsplit] at hlater
      rw [quotedEnd_quote hremaining, List.head?_cons, if_pos rfl, hlater,
        octets_cons_ascii hquote, octets_cons_ascii hquote, List.length_cons, List.length_cons]
      omega
  | case4 d rest hd =>
      intro i hremaining
      have hhead : ¬ (octets (d :: rest)).head? = some quote.toUInt8 := by
        rw [octets_cons, head?_utf8EncodeChar hquote]
        exact hd
      rw [octets_cons_ascii hquote] at hremaining
      rw [quotedEnd_quote hremaining, if_neg hhead, octets_cons_ascii hquote]
      rfl
  | case5 c d rest hc run after hsplit ih =>
      intro i hremaining
      rw [octets_cons] at hremaining
      have hlater := ih _ hremaining.append
      simp only [hsplit] at hlater
      rw [quotedEnd_append hremaining (fun b => ne_of_mem_encode hquote hc), hlater,
        octets_cons, List.length_append]
      omega

theorem blockEnd_nil
    (hremaining : Remaining text i []) :
    blockEnd text i = i := by
  have hhead := hremaining.octet?_head
  rw [blockEnd]
  split
  case h_1 hnone => simpa using hremaining.length.symm
  case h_2 c hsome => simp [hsome] at hhead

theorem blockEnd_cons
    {b : UInt8} {bs : List UInt8}
    (hremaining : Remaining text i (b :: bs)) :
    blockEnd text i
      = if b = '*'.toUInt8 ∧ bs.head? = some '/'.toUInt8 then i + 2
        else blockEnd text (i + 1) := by
  have hhead := hremaining.octet?_head
  rw [blockEnd]
  split
  case h_1 hnone => simp [hnone] at hhead
  case h_2 c hsome =>
    obtain rfl : c = b := by simpa [hsome] using hhead
    rw [hremaining.octet?_next]

/-- A block comment goes on over octets that are not its star. -/
theorem blockEnd_append
    {bs cs : List UInt8}
    (hremaining : Remaining text i (bs ++ cs))
    (hother : ∀ b ∈ bs, b ≠ '*'.toUInt8) :
    blockEnd text i = blockEnd text (i + bs.length) := by
  induction bs generalizing i with
  | nil => rfl
  | cons b bs ih =>
      rw [List.cons_append] at hremaining
      have hnext := ih hremaining.tail (fun c hc => hother c (List.mem_cons_of_mem b hc))
      have hb : ¬ (b = '*'.toUInt8 ∧ (bs ++ cs).head? = some '/'.toUInt8) :=
        fun hstar => hother b List.mem_cons_self hstar.1
      rw [blockEnd_cons hremaining, if_neg hb, hnext, List.length_cons]
      congr 1
      omega

theorem ascii_star : '*'.toNat < 128 := by decide

theorem ascii_slash : '/'.toNat < 128 := by decide

/-- The end of a block comment. -/
theorem blockEnd_octets
    (cs : List Char) :
    ∀ i : Nat, Remaining text i (octets cs) →
      blockEnd text i = i + (octets (Token.splitBlock cs).1).length := by
  fun_induction Token.splitBlock cs with
  | case1 =>
      intro i hremaining
      exact blockEnd_nil hremaining
  | case2 c =>
      intro i hremaining
      by_cases hc : c = '*'
      · subst hc
        rw [octets_cons_ascii ascii_star] at hremaining ⊢
        rw [blockEnd_cons hremaining, if_neg (by simp), blockEnd_nil hremaining.tail]
        rfl
      · rw [octets_cons] at hremaining
        rw [blockEnd_append hremaining (fun b => ne_of_mem_encode ascii_star hc),
          blockEnd_nil hremaining.append]
        simp
  | case3 c d rest hends =>
      obtain ⟨rfl, rfl⟩ := hends
      intro i hremaining
      rw [octets_cons_ascii ascii_star, octets_cons_ascii ascii_slash] at hremaining
      rw [blockEnd_cons hremaining, List.head?_cons, if_pos ⟨rfl, rfl⟩,
        octets_cons_ascii ascii_star, octets_cons_ascii ascii_slash]
      rfl
  | case4 c d rest hends run after hsplit ih =>
      intro i hremaining
      -- a star that no slash follows is passed over like any other character
      have hpass : blockEnd text i = blockEnd text (i + (String.utf8EncodeChar c).length) := by
        by_cases hc : c = '*'
        · subst hc
          have hhead : ¬ (octets (d :: rest)).head? = some '/'.toUInt8 := by
            rw [octets_cons, head?_utf8EncodeChar ascii_slash]
            exact fun hd => hends ⟨rfl, hd⟩
          rw [octets_cons_ascii ascii_star] at hremaining
          rw [blockEnd_cons hremaining, if_neg (fun h => hhead h.2),
            utf8EncodeChar_ascii ascii_star]
          rfl
        · rw [octets_cons] at hremaining
          exact blockEnd_append hremaining (fun b => ne_of_mem_encode ascii_star hc)
      rw [octets_cons] at hremaining
      have hlater := ih _ hremaining.append
      simp only [hsplit] at hlater
      rw [hpass, hlater, octets_cons, List.length_append]
      omega

end Ends

section Pieces

theorem isNamePart_toUInt8
    {c : Char}
    (hc : c.toNat < 128) :
    isNamePart c.toUInt8 = Token.isNamePart c := by
  have hall : ∀ n : Fin 128,
      isNamePart (Char.ofNat n).toUInt8 = Token.isNamePart (Char.ofNat n) := by
    decide
  have hn := hall ⟨c.toNat, hc⟩
  rwa [Char.ofNat_toNat] at hn

theorem isNameStart_toUInt8
    {c : Char}
    (hc : c.toNat < 128) :
    isNameStart c.toUInt8 = Token.isNameStart c := by
  have hall : ∀ n : Fin 128,
      isNameStart (Char.ofNat n).toUInt8 = Token.isNameStart (Char.ofNat n) := by
    decide
  have hn := hall ⟨c.toNat, hc⟩
  rwa [Char.ofNat_toNat] at hn

/-- Names are ASCII. -/
theorem isNamePart_of_not_isAscii
    {b : UInt8}
    (hb : ¬ IsAscii b) :
    isNamePart b = false := by
  have hall : ∀ n : Fin 128, isNamePart (UInt8.ofNat (128 + n)) = false := by
    decide
  unfold IsAscii at hb
  have hlt := b.toNat_lt
  have hn := hall ⟨b.toNat - 128, by omega⟩
  rwa [show 128 + (b.toNat - 128) = b.toNat by omega, UInt8.ofNat_toNat] at hn

theorem lt_of_isNamePart
    {c : Char}
    (hc : Token.isNamePart c = true) :
    c.toNat < 128 := by
  simp only [Token.isNamePart, Char.isAlphanum, Char.isAlpha, Char.isUpper, Char.isLower,
    Char.isDigit, Bool.or_eq_true, Bool.and_eq_true, decide_eq_true_eq, ge_iff_le,
    UInt32.le_iff_toNat_le] at hc
  have hval : c.toNat = c.val.toNat := rfl
  have hZ : 'Z'.val.toNat = 90 := rfl
  have hz : 'z'.val.toNat = 122 := rfl
  have hnine : '9'.val.toNat = 57 := rfl
  rcases hc with ((h | h) | h) | rfl
  · omega
  · omega
  · omega
  · decide

theorem isNamePart_of_isNameStart
    {c : Char}
    (hc : Token.isNameStart c = true) :
    Token.isNamePart c = true := by
  simp only [Token.isNameStart, Bool.or_eq_true] at hc
  simp only [Token.isNamePart, Char.isAlphanum, Bool.or_eq_true]
  exact hc.imp Or.inl id

/-- The end of a line comment. -/
theorem seek_lineEnd
    (cs : List Char)
    (hremaining : Remaining text i (octets cs)) :
    seek text (· = '\n'.toUInt8) i
      = i + (octets (cs.takeWhile Token.isLinePart)).length := by
  apply seek_octets _ _ cs i hremaining
  · intro c hc b hb
    have hne : c ≠ '\n' := by simpa [Token.isLinePart] using hc
    exact decide_eq_false (ne_of_mem_encode (by decide) hne hb)
  · intro c hc
    obtain rfl : c = '\n' := by simpa [Token.isLinePart] using hc
    exact ⟨'\n'.toUInt8, [], utf8EncodeChar_ascii (by decide), rfl⟩

/-- The end of a name. -/
theorem seek_nameEnd
    (cs : List Char)
    (hremaining : Remaining text i (octets cs)) :
    seek text (fun b => !isNamePart b) i
      = i + (octets (cs.takeWhile Token.isNamePart)).length := by
  apply seek_octets _ _ cs i hremaining
  · intro c hc b hb
    have hascii := lt_of_isNamePart hc
    rw [utf8EncodeChar_ascii hascii, List.mem_singleton] at hb
    rw [hb, isNamePart_toUInt8 hascii, hc]
    rfl
  · intro c hc
    by_cases hascii : c.toNat < 128
    · refine ⟨c.toUInt8, [], utf8EncodeChar_ascii hascii, ?_⟩
      rw [isNamePart_toUInt8 hascii, hc]
      rfl
    · obtain ⟨b, bs, hencode, hb⟩ := exists_utf8EncodeChar_cons hascii
      refine ⟨b, bs, hencode, ?_⟩
      rw [isNamePart_of_not_isAscii hb]
      rfl

/-- The piece that a token is. -/
def tokenPiece (i : Nat) (token : Token) : Piece :=
  match token with
  | .placeholder _ => .placeholder (i + (octets token.text).length)
  | _ => .copied (i + (octets token.text).length)

/-- A piece that starts with an octet beyond ASCII is that octet. -/
theorem piece_of_not_isAscii
    {b : UInt8}
    (hb : ¬ IsAscii b) :
    piece text i b = .copied (i + 1) := by
  have hne : ∀ c : Char, c.toNat < 128 → b ≠ c.toUInt8 := by
    rintro c hc rfl
    exact hb (isAscii_toUInt8 hc)
  have hsingle : b ≠ '\''.toUInt8 := hne _ (by decide)
  have hdouble : b ≠ '"'.toUInt8 := hne _ (by decide)
  have hdash : b ≠ '-'.toUInt8 := hne _ (by decide)
  have hslash : b ≠ '/'.toUInt8 := hne _ (by decide)
  have hat : b ≠ '@'.toUInt8 := hne _ (by decide)
  simp [piece, hsingle, hdouble, hdash, hslash, hat]

/-- Whether an octet is a certain ASCII character. -/
theorem toUInt8_eq_iff
    {c d : Char}
    (hc : c.toNat < 128)
    (hd : d.toNat < 128) :
    c.toUInt8 = d.toUInt8 ↔ c = d := by
  constructor
  · intro h
    apply eq_of_ascii_mem hd
    rw [utf8EncodeChar_ascii hc, h]
    exact List.mem_singleton_self _
  · exact congrArg Char.toUInt8

/-- Whether a certain ASCII character stands at a place. -/
theorem octet?_eq_iff
    {d : Char} {rest : List Char}
    (hd : d.toNat < 128)
    (hremaining : Remaining text i (octets rest)) :
    octet? text i = some d.toUInt8 ↔ rest.head? = some d := by
  rw [hremaining.octet?_head]
  cases rest with
  | nil => simp
  | cons e rest => rw [octets_cons, head?_utf8EncodeChar hd, List.head?_cons, Option.some_inj]

/-- Whether a name starts at a place. -/
theorem any_isNameStart_iff
    {rest : List Char}
    (hremaining : Remaining text i (octets rest)) :
    (octet? text i).any isNameStart = rest.head?.any Token.isNameStart := by
  rw [hremaining.octet?_head]
  cases rest with
  | nil => rfl
  | cons d rest =>
      by_cases hd : d.toNat < 128
      · rw [octets_cons_ascii hd]
        exact isNameStart_toUInt8 hd
      · have hname : Token.isNameStart d = false := by
          by_contra h
          exact hd (lt_of_isNamePart (isNamePart_of_isNameStart (by simpa using h)))
        obtain ⟨b, bs, hencode, hb⟩ := exists_utf8EncodeChar_cons hd
        have hpart := isNamePart_of_not_isAscii hb
        simp only [isNamePart, Bool.or_eq_false_iff] at hpart
        rw [octets_cons, hencode, List.head?_cons, Option.any_some, hname]
        exact hpart.1

/-- The piece that starts with an ASCII character is the token that starts there. -/
theorem piece_next
    {c : Char} {rest : List Char}
    (hc : c.toNat < 128)
    (hremaining : Remaining text i (octets (c :: rest))) :
    piece text i c.toUInt8 = tokenPiece i (Token.next c rest).1 := by
  have htail : Remaining text (i + 1) (octets rest) := by
    rw [octets_cons_ascii hc] at hremaining
    exact hremaining.tail
  unfold piece
  simp only [toUInt8_eq_iff hc (by decide : '\''.toNat < 128),
    toUInt8_eq_iff hc (by decide : '"'.toNat < 128),
    toUInt8_eq_iff hc (by decide : '-'.toNat < 128),
    toUInt8_eq_iff hc (by decide : '/'.toNat < 128),
    toUInt8_eq_iff hc (by decide : '@'.toNat < 128),
    octet?_eq_iff (by decide : '-'.toNat < 128) htail,
    octet?_eq_iff (by decide : '*'.toNat < 128) htail, any_isNameStart_iff htail]
  unfold Token.next
  split
  case isTrue hquote =>
    rw [quotedEnd_octets hc rest (i + 1) htail]
    simp only [tokenPiece, Token.text, octets_cons_ascii hc, List.length_cons]
    congr 1
    omega
  case isFalse hquote =>
    split
    case isTrue hdash =>
      obtain ⟨rfl, hhead⟩ := hdash
      obtain ⟨rest, rfl⟩ := List.head?_eq_some_iff.mp hhead
      rw [seek_lineEnd _ hremaining]
      rfl
    case isFalse hdash =>
      split
      case isTrue hslash =>
        obtain ⟨rfl, hhead⟩ := hslash
        obtain ⟨rest, rfl⟩ := List.head?_eq_some_iff.mp hhead
        rw [octets_cons_ascii ascii_star] at htail
        rw [blockEnd_octets rest _ htail.tail]
        simp only [tokenPiece, Token.text, octets_cons_ascii ascii_slash,
          octets_cons_ascii ascii_star, List.length_cons]
        congr 1
        omega
      case isFalse hslash =>
        split
        case isTrue hat =>
          obtain ⟨rfl, hhead⟩ := hat
          cases rest with
          | nil => cases hhead
          | cons d rest =>
              have hstart : Token.isNameStart d = true := hhead
              have hpart := isNamePart_of_isNameStart hstart
              rw [seek_nameEnd _ htail, List.takeWhile_cons_of_pos hpart]
              simp only [hstart, if_true, tokenPiece, Token.text, octets_cons_ascii hc,
                List.length_cons]
              congr 1
              omega
        case isFalse hat =>
          split
          case h_1 rest => exact absurd ⟨rfl, rfl⟩ hdash
          case h_2 rest => exact absurd ⟨rfl, rfl⟩ hslash
          case h_3 d rest =>
            have hstart : Token.isNameStart d = false := by
              by_contra h
              exact hat ⟨rfl, by simpa using h⟩
            simp only [hstart, tokenPiece, Token.text]
            rfl
          case h_4 =>
            simp only [tokenPiece, Token.text, octets_cons_ascii hc]
            rfl

end Pieces

end Scanner
end Sql
end QueryBatch

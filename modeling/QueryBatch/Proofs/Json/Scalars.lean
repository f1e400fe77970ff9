import Mathlib
import QueryBatch.Proofs.Json.Reads

/-!
# Strings and numbers are read back

A string is read character by character: each character as it is written, escaped or not, is read as
that character (`reads_stringChars_escapedChar`), and so the whole string is. A natural number of at
most 64 bits is read from its digits, provided that what follows does not go on as a number would.
-/

namespace QueryBatch
namespace Json
namespace Reader

section Strings

variable {levels : Nat} {rest : List Char} {s : String}

theorem hexValue?_digitChar
    {n : Nat}
    (hn : n < 16) :
    hexValue? (Nat.digitChar n) = some n := by
  have hall : ∀ n : Fin 16, hexValue? (Nat.digitChar n) = some n.val := by decide
  exact hall ⟨n, hn⟩

theorem utf8Size_digitChar
    {n : Nat}
    (hn : n < 16) :
    (Nat.digitChar n).utf8Size = 1 := by
  have hall : ∀ n : Fin 16, (Nat.digitChar n).utf8Size = 1 := by decide
  exact hall ⟨n, hn⟩

/-- Characters of one octet each are passed over one octet at a time. -/
theorem skipOctets_length
    {cs : List Char}
    (hcs : ∀ c ∈ cs, c.utf8Size = 1)
    (rest : List Char)
    (position : Position)
    (levels : Nat) :
    ∃ after, skipOctets cs.length ⟨cs ++ rest, position, levels⟩ = ⟨rest, after, levels⟩ := by
  induction cs generalizing position with
  | nil => exact ⟨position, by rw [List.length_nil, skipOctets]; rfl⟩
  | cons c cs ih =>
      have hc : c.utf8Size = 1 := hcs c List.mem_cons_self
      obtain ⟨after, hrest⟩ := ih (fun d hd => hcs d (List.mem_cons_of_mem _ hd))
        (position.after c c.utf8Size)
      refine ⟨after, ?_⟩
      rw [List.length_cons, skipOctets]
      simpa [hc, Cursor.next] using hrest

/-- The four digits that spell a small number. -/
theorem reads_hexEscape
    {high low : Nat}
    (hhigh : high < 16)
    (hlow : low < 16) :
    Reads hexEscape levels
      (['0', '0', Nat.digitChar high, Nat.digitChar low] ++ rest) (high * 16 + low) rest := by
  intro position
  have hzero : hexValue? '0' = some 0 := by decide
  have hsize : ('0' : Char).utf8Size = 1 := by decide
  have hsizes : ∀ c ∈ ['0', '0', Nat.digitChar high, Nat.digitChar low], c.utf8Size = 1 := by
    simp [hsize, utf8Size_digitChar hhigh, utf8Size_digitChar hlow]
  obtain ⟨after, hskip⟩ := skipOctets_length hsizes rest position levels
  refine ⟨after, ?_⟩
  unfold hexEscape
  simp only [runFrom_bind, runFrom_get, List.cons_append, List.nil_append, hzero,
    hexValue?_digitChar hhigh, hexValue?_digitChar hlow, runFrom_set]
  simp only [List.length_cons, List.length_nil, List.cons_append, List.nil_append] at hskip
  rw [hskip]
  simp only [Nat.zero_mul, Nat.zero_add]
  rfl

/-- The character that a small number stands for. -/
theorem reads_numberedChar
    {c : Char}
    (hc : c.toNat < 0x20) :
    Reads numberedChar levels
      (['0', '0', Nat.digitChar (c.toNat / 16), Nat.digitChar (c.toNat % 16)] ++ rest) c rest := by
  have hvalue : c.toNat / 16 * 16 + c.toNat % 16 = c.toNat := by omega
  have hdigits : Reads hexEscape levels
      (['0', '0', Nat.digitChar (c.toNat / 16), Nat.digitChar (c.toNat % 16)] ++ rest)
      (c.toNat / 16 * 16 + c.toNat % 16) rest :=
    reads_hexEscape (by omega) (by omega)
  rw [hvalue] at hdigits
  unfold numberedChar
  refine hdigits.bind ?_
  have hlow : ¬ (0xDC00 ≤ c.toNat ∧ c.toNat ≤ 0xDFFF) := by omega
  have hsmall : c.toNat < 0xD800 ∨ 0xDBFF < c.toNat := by omega
  rw [if_neg hlow, if_pos hsmall, Char.ofNat_toNat]
  exact Reads.pure c levels rest

theorem reads_stringChars_quote
    (fuel : Nat)
    (done : List Char) :
    Reads (stringChars (fuel + 1) done) levels ('"' :: rest) (String.ofList done.reverse) rest := by
  unfold stringChars
  refine (reads_peek levels ('"' :: rest)).bind ?_
  exact (reads_advance levels '"' rest).bind (Reads.pure _ levels rest)

/-- A step over a character with a short escape. -/
theorem reads_stringChars_short
    {fuel : Nat}
    {done middle : List Char}
    {mark c : Char}
    (hmark : shortEscape? mark = some c)
    (hrest : Reads (stringChars fuel (c :: done)) levels middle s rest) :
    Reads (stringChars (fuel + 1) done) levels ('\\' :: mark :: middle) s rest := by
  have hu : mark ≠ 'u' := by
    rintro rfl
    cases hmark
  have hescape : Reads escape levels (mark :: middle) c middle := by
    unfold escape
    refine (reads_peek levels (mark :: middle)).bind ?_
    simp only [List.head?_cons, hmark]
    exact (reads_advance levels mark middle).bind (Reads.pure c levels middle)
  unfold stringChars
  refine (reads_peek levels ('\\' :: mark :: middle)).bind ?_
  exact (reads_advance levels '\\' (mark :: middle)).bind (hescape.bind hrest)

/-- A step over a character that is spelled by its number. -/
theorem reads_stringChars_numbered
    {fuel : Nat}
    {done middle : List Char}
    {c : Char}
    (hc : c.toNat < 0x20)
    (hrest : Reads (stringChars fuel (c :: done)) levels middle s rest) :
    Reads (stringChars (fuel + 1) done) levels
      ('\\' :: 'u' :: (['0', '0', Nat.digitChar (c.toNat / 16), Nat.digitChar (c.toNat % 16)]
        ++ middle)) s rest := by
  have hescape : Reads escape levels
      ('u' :: (['0', '0', Nat.digitChar (c.toNat / 16), Nat.digitChar (c.toNat % 16)] ++ middle))
      c middle := by
    unfold escape
    refine (reads_peek levels _).bind ?_
    exact (reads_advance levels 'u' _).bind (reads_numberedChar hc)
  unfold stringChars
  refine (reads_peek levels _).bind ?_
  exact (reads_advance levels '\\' _).bind (hescape.bind hrest)

/-- A step over a character that stands for itself. -/
theorem reads_stringChars_plain
    {fuel : Nat}
    {done middle : List Char}
    {c : Char}
    (hquote : c ≠ '"')
    (hslash : c ≠ '\\')
    (hc : ¬ c.toNat < 0x20)
    (hrest : Reads (stringChars fuel (c :: done)) levels middle s rest) :
    Reads (stringChars (fuel + 1) done) levels (c :: middle) s rest := by
  unfold stringChars
  refine (reads_peek levels (c :: middle)).bind ?_
  simp only [List.head?_cons, if_neg hc]
  exact (reads_advance levels c middle).bind hrest

/-- A step over a character as it is written. -/
theorem reads_stringChars_escapedChar
    {fuel : Nat}
    {done middle : List Char}
    {c : Char}
    (hrest : Reads (stringChars fuel (c :: done)) levels middle s rest) :
    Reads (stringChars (fuel + 1) done) levels (escapedChar c ++ middle) s rest := by
  unfold escapedChar
  split
  · exact reads_stringChars_short (by decide) hrest
  · exact reads_stringChars_short (by decide) hrest
  · exact reads_stringChars_short (by decide) hrest
  · exact reads_stringChars_short (by decide) hrest
  · exact reads_stringChars_short (by decide) hrest
  · exact reads_stringChars_short (by decide) hrest
  · exact reads_stringChars_short (by decide) hrest
  · next hquote hslash _ _ _ _ _ =>
      split
      · next hc => exact reads_stringChars_numbered hc hrest
      · next hc => exact reads_stringChars_plain hquote hslash hc hrest

theorem reads_stringChars
    {fuel : Nat}
    {cs : List Char}
    (hfuel : cs.length < fuel)
    (done : List Char) :
    Reads (stringChars fuel done) levels (cs.flatMap escapedChar ++ '"' :: rest)
      (String.ofList (done.reverse ++ cs)) rest := by
  induction cs generalizing fuel done with
  | nil =>
      obtain ⟨fuel, rfl⟩ : ∃ less, fuel = less + 1 := ⟨fuel - 1, by omega⟩
      rw [List.append_nil]
      exact reads_stringChars_quote fuel done
  | cons c cs ih =>
      obtain ⟨fuel, rfl⟩ : ∃ less, fuel = less + 1 := ⟨fuel - 1, by omega⟩
      rw [List.length_cons] at hfuel
      have hrest := ih (Nat.lt_of_succ_lt_succ hfuel) (c :: done)
      rw [List.reverse_cons, List.append_assoc, List.singleton_append] at hrest
      rw [List.flatMap_cons, List.append_assoc]
      exact reads_stringChars_escapedChar hrest

theorem length_le_flatMap_escapedChar
    (cs : List Char) :
    cs.length ≤ (cs.flatMap escapedChar).length := by
  induction cs with
  | nil => exact Nat.le_refl 0
  | cons c cs ih =>
      have hc : 1 ≤ (escapedChar c).length := by
        unfold escapedChar
        repeat' split
        all_goals simp
      rw [List.flatMap_cons, List.length_append, List.length_cons]
      omega

/-- A string after its opening quote. -/
theorem reads_stringTail
    (levels : Nat)
    (s : String)
    (rest : List Char) :
    Reads stringTail levels (s.toList.flatMap escapedChar ++ '"' :: rest) s rest := by
  have hlength := length_le_flatMap_escapedChar s.toList
  have hfuel : s.toList.length < (s.toList.flatMap escapedChar ++ '"' :: rest).length + 1 := by
    rw [List.length_append]
    omega
  have hchars : Reads (stringChars _ []) levels (s.toList.flatMap escapedChar ++ '"' :: rest)
      (String.ofList ([].reverse ++ s.toList)) rest := reads_stringChars hfuel []
  rw [List.reverse_nil, List.nil_append, String.ofList_toList] at hchars
  exact (reads_budget levels _).bind hchars

end Strings

/-- Whether a character ends a value that stands before it. -/
def isEnd (c : Char) : Bool := isSpace c || c = ',' || c = ']' || c = '\x7d'

/-- What follows a value in a text: nothing, or a character that ends the value. -/
def Stops (rest : List Char) : Prop := ∀ c ∈ rest.head?, isEnd c = true

section Numbers

variable {levels : Nat} {rest : List Char}

/-- No number goes on with a character that ends a value. -/
theorem Stops.head
    (hrest : Stops rest) :
    ∀ c ∈ rest.head?, c.isDigit = false ∧ c ≠ '.' ∧ c ≠ 'e' ∧ c ≠ 'E' := by
  intro c hc
  have hend := hrest c hc
  simp only [isEnd, isSpace, Bool.or_eq_true, decide_eq_true_eq] at hend
  rcases hend with ((((((rfl | rfl) | rfl) | rfl) | rfl) | rfl) | rfl) <;> decide

theorem Stops.of_isEnd
    {c : Char}
    (hc : isEnd c = true)
    (cs : List Char) :
    Stops (c :: cs) := by
  intro d hd
  rwa [← Option.some.inj hd]

theorem le_ofDigitChars
    (cs : List Char)
    (value : Nat) :
    value ≤ Nat.ofDigitChars 10 cs value := by
  have hpow : 1 ≤ 10 ^ cs.length := Nat.one_le_pow _ _ (by decide)
  have hscaled : 1 * value ≤ 10 ^ cs.length * value := Nat.mul_le_mul_right value hpow
  rw [Nat.ofDigitChars_eq_ofDigitChars_zero]
  omega

/-- Digits whose value stays within the limit are all read. -/
theorem reads_digitsWithin
    {limit fuel value : Nat}
    {digits : List Char}
    (hdigits : ∀ c ∈ digits, c.isDigit = true)
    (hlimit : Nat.ofDigitChars 10 digits value ≤ limit)
    (hfuel : digits.length < fuel)
    (hrest : Stops rest)
    (count : Nat) :
    Reads (digitsWithin limit fuel value count) levels (digits ++ rest)
      (Nat.ofDigitChars 10 digits value, count + digits.length) rest := by
  induction digits generalizing fuel value count with
  | nil =>
      obtain ⟨fuel, rfl⟩ : ∃ less, fuel = less + 1 := ⟨fuel - 1, by omega⟩
      unfold digitsWithin
      refine (reads_peek levels rest).bind ?_
      cases rest with
      | nil => exact Reads.pure _ levels []
      | cons c rest =>
          have hc : c.isDigit = false := (hrest.head c rfl).1
          simp only [List.head?_cons, hc, Bool.false_and, Bool.false_eq_true, if_false]
          exact Reads.pure _ levels (c :: rest)
  | cons c digits ih =>
      obtain ⟨fuel, rfl⟩ : ∃ less, fuel = less + 1 := ⟨fuel - 1, by omega⟩
      rw [List.length_cons] at hfuel
      have hc : c.isDigit = true := hdigits c List.mem_cons_self
      have hvalue : Nat.ofDigitChars 10 (c :: digits) value
          = Nat.ofDigitChars 10 digits (value * 10 + (c.toNat - '0'.toNat)) := by
        rw [Nat.ofDigitChars_cons, Nat.mul_comm]
      rw [hvalue] at hlimit
      have hlonger : value * 10 + (c.toNat - '0'.toNat) ≤ limit :=
        (le_ofDigitChars digits _).trans hlimit
      have hread := ih (fun d hd => hdigits d (List.mem_cons_of_mem _ hd)) hlimit
        (Nat.lt_of_succ_lt_succ hfuel) (count + 1)
      rw [Nat.add_right_comm, Nat.add_assoc] at hread
      rw [hvalue, List.length_cons]
      unfold digitsWithin
      refine (reads_peek levels (c :: (digits ++ rest))).bind ?_
      simp only [List.head?_cons, hc, hlonger, decide_true, Bool.and_self, if_true]
      exact (reads_advance levels c (digits ++ rest)).bind hread

theorem reads_skipDigits_nothing
    (hrest : Stops rest)
    (fuel count : Nat) :
    Reads (skipDigits fuel count) levels rest count rest := by
  cases fuel with
  | zero => exact Reads.pure count levels rest
  | succ fuel =>
      unfold skipDigits
      refine (reads_peek levels rest).bind ?_
      cases rest with
      | nil => exact Reads.pure count levels []
      | cons c rest =>
          have hc : c.isDigit = false := (hrest.head c rfl).1
          simp only [List.head?_cons, hc, Bool.false_eq_true, if_false]
          exact Reads.pure count levels (c :: rest)

/-- Digits alone are an integer. -/
theorem reads_numberTail
    (hrest : Stops rest)
    (n : Nat) :
    Reads (numberTail false n 0) levels rest (.int n) rest := by
  unfold numberTail
  refine (reads_peek levels rest).bind ?_
  split
  · next h => exact absurd rfl (hrest.head _ h).2.1
  · next h => exact absurd rfl (hrest.head _ h).2.2.1
  · next h => exact absurd rfl (hrest.head _ h).2.2.2
  · simp only [ne_eq, not_true_eq_false, Bool.false_eq_true, if_false]
    exact Reads.pure _ levels rest

/-- A number starts with a digit, which is zero for zero alone. -/
theorem toDigits_cons
    (n : Nat) :
    ∃ c cs, Nat.toDigits 10 n = c :: cs ∧ c.isDigit = true ∧ (c = '0' → n = 0) := by
  induction n using Nat.strongRecOn with
  | ind n ih =>
      by_cases hn : n < 10
      · have hdigit : ∀ n : Fin 10, (Nat.digitChar n).isDigit = true ∧
            (Nat.digitChar n = '0' → n.val = 0) := by decide
        exact ⟨n.digitChar, [], Nat.toDigits_of_lt_base hn, hdigit ⟨n, hn⟩⟩
      · obtain ⟨c, cs, hcs, hc, hzero⟩ := ih (n / 10) (by omega)
        refine ⟨c, cs ++ [Nat.digitChar (n % 10)], ?_, hc, fun h => ?_⟩
        · rw [Nat.toDigits_of_base_le (by decide) (by omega), hcs]
          rfl
        · have hzero := hzero h
          omega

theorem reads_unsignedNumber_zero
    (hrest : Stops rest) :
    Reads (unsignedNumber false) levels ('0' :: rest) (.int (0 : Nat)) rest := by
  unfold unsignedNumber
  refine (reads_peek levels ('0' :: rest)).bind ?_
  refine (reads_advance levels '0' rest).bind ?_
  refine (reads_peek levels rest).bind ?_
  cases rest with
  | nil => exact reads_numberTail hrest 0
  | cons c rest =>
      have hc : c.isDigit = false := (hrest.head c rfl).1
      simp only [List.head?_cons, hc, Bool.false_eq_true, if_false]
      exact reads_numberTail hrest 0

theorem reads_unsignedNumber
    {n : Nat}
    (hn : n ≤ greatestSignificand)
    (hrest : Stops rest) :
    Reads (unsignedNumber false) levels (Nat.toDigits 10 n ++ rest) (.int n) rest := by
  obtain ⟨c, cs, hcs, hc, hzero⟩ := toDigits_cons n
  by_cases hleading : c = '0'
  · obtain rfl := hzero hleading
    rw [Nat.toDigits_zero]
    exact reads_unsignedNumber_zero hrest
  · have hall : ∀ d ∈ Nat.toDigits 10 n, d.isDigit = true :=
      fun d hd => Nat.isDigit_of_mem_toDigits (by decide) (by decide) hd
    have hvalue : Nat.ofDigitChars 10 (Nat.toDigits 10 n) 0 = n := Nat.ofDigitChars_ten_toDigits
    have hfuel : (Nat.toDigits 10 n).length < (Nat.toDigits 10 n ++ rest).length + 1 := by
      rw [List.length_append]
      omega
    have hdigits : Reads (digitsWithin greatestSignificand _ 0 0) levels _ _ rest :=
      reads_digitsWithin hall (hvalue.le.trans hn) hfuel hrest 0
    have hdropped : Reads (skipDigits (rest.length + 1) 0) levels rest 0 rest :=
      reads_skipDigits_nothing hrest (rest.length + 1) 0
    rw [hvalue] at hdigits
    unfold unsignedNumber
    refine (reads_peek levels _).bind ?_
    have hhead : (Nat.toDigits 10 n ++ rest).head? = some c := by
      rw [hcs]
      rfl
    simp only [hhead, hc, if_true]
    refine (reads_budget levels _).bind (hdigits.bind ?_)
    refine (reads_budget levels rest).bind (hdropped.bind ?_)
    exact reads_numberTail hrest n

/-- A natural number of at most 64 bits, from its digits. -/
theorem reads_number
    {n : Nat}
    (hn : n ≤ greatestSignificand)
    (hrest : Stops rest) :
    Reads number levels (Nat.toDigits 10 n ++ rest) (.int n) rest := by
  obtain ⟨c, cs, hcs, hc, -⟩ := toDigits_cons n
  have hminus : c ≠ '-' := by
    rintro rfl
    exact absurd hc (by decide)
  have hhead : (Nat.toDigits 10 n ++ rest).head? = some c := by
    rw [hcs]
    rfl
  unfold number
  refine (reads_peek levels _).bind ?_
  rw [hhead]
  split
  · next h => exact absurd (Option.some.inj h) hminus
  · exact reads_unsignedNumber hn hrest

end Numbers

end Reader
end Json
end QueryBatch

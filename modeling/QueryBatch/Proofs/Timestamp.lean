import Mathlib
import QueryBatch.Timestamp

/-!
# Timestamps are read back

The form of RFC 3339 writes each part of a timestamp in a fixed number of digits, a fraction without
trailing zeros, and the offset as a letter or as hours and minutes. Each part is read back in front
of whatever follows it, and so is the whole, as long as the form has room for the year and for the
hours of the offset (`parse_text`).

What is read is always a date and time of day that exist and that the form has room for
(`isParsed_of_parse`): whatever was read is written again.
-/

namespace QueryBatch
namespace Timestamp

section Defs

/-- A date and time of day that exist. -/
structure IsReal (t : Timestamp) : Prop where
  month : 1 ≤ t.month ∧ t.month ≤ 12
  day : 1 ≤ t.day ∧ t.day ≤ daysInMonth t.year t.month
  hour : t.hour ≤ 23
  minute : t.minute ≤ 59
  second : t.second ≤ 59
  nanosecond : t.nanosecond < 10 ^ 9

/-- A timestamp that the form of RFC 3339 has room for: the year has four digits, and the hours of
the offset are hours of a day. -/
structure IsExpressible (t : Timestamp) : Prop where
  year : 0 ≤ t.year ∧ t.year ≤ 9999
  offset : t.offset.natAbs < 24 * 60

/-- What is known of a timestamp that was read: it exists, and the form has room for it. -/
structure IsParsed (t : Timestamp) : Prop where
  real : t.IsReal
  expressible : t.IsExpressible

/-- The characters of a timestamp that the form has room for. -/
def chars (t : Timestamp) : List Char :=
  padded 4 t.year.toNat ++ '-' :: padded 2 t.month ++ '-' :: padded 2 t.day ++ 'T' ::
    padded 2 t.hour ++ ':' :: padded 2 t.minute ++ ':' :: padded 2 t.second ++
    fraction t.nanosecond ++ offsetText t.offset

end Defs

section Results

variable {ε α β : Type} {x : Except ε α} {f : α → Except ε β} {b : β}

theorem ok_bind
    (a : α)
    (f : α → Except ε β) :
    (Except.ok a >>= f) = f a :=
  rfl

theorem bind_eq_ok_iff :
    x >>= f = .ok b ↔ ∃ a, x = .ok a ∧ f a = .ok b := by
  cases x with
  | ok a => simp [ok_bind]
  | error e => simp [bind, Except.bind]

end Results

section Digits

variable {count n : Nat} {ds rest : List Char}

theorem isDigit_of_mem_padded
    {c : Char}
    (hc : c ∈ padded count n) :
    c.isDigit = true := by
  rcases List.mem_append.1 hc with hzero | hdigit
  · rw [List.eq_of_mem_replicate hzero]
    decide
  · exact Nat.isDigit_of_mem_toDigits (by decide) (by decide) hdigit

theorem length_padded
    (hcount : 0 < count)
    (hn : n < 10 ^ count) :
    (padded count n).length = count := by
  have hdigits := (Nat.length_toDigits_le_iff (by decide) hcount).2 hn
  exact List.length_leftpad.trans (max_eq_left hdigits)

theorem ofDigitChars_padded
    (count n : Nat) :
    Nat.ofDigitChars 10 (padded count n) 0 = n := by
  unfold padded
  rw [Nat.ofDigitChars_append, Nat.ofDigitChars_replicate_zero, Nat.mul_zero,
    Nat.ofDigitChars_ten_toDigits]

theorem foldl_eq_ofDigitChars
    (ds : List Char)
    (value : Nat) :
    ds.foldl (fun n c => n * 10 + (c.toNat - '0'.toNat)) value = Nat.ofDigitChars 10 ds value := by
  simp only [Nat.ofDigitChars, Nat.mul_comm]

/-- Digits are read one by one, and as many as are asked for. -/
theorem digits_append
    (hds : ∀ c ∈ ds, c.isDigit = true)
    (value : Nat)
    (rest : List Char) :
    digits ds.length value (ds ++ rest) = some (Nat.ofDigitChars 10 ds value, rest) := by
  induction ds generalizing value with
  | nil => rfl
  | cons c ds ih =>
      have hc : c.isDigit = true := hds c List.mem_cons_self
      rw [List.length_cons, List.cons_append, digits, if_pos hc,
        ih fun d hd => hds d (List.mem_cons_of_mem _ hd), Nat.ofDigitChars_cons, Nat.mul_comm]

theorem ofDigitChars_lt
    (hds : ∀ c ∈ ds, c.isDigit = true)
    (value : Nat) :
    Nat.ofDigitChars 10 ds value < (value + 1) * 10 ^ ds.length := by
  induction ds generalizing value with
  | nil =>
      rw [Nat.ofDigitChars_nil, List.length_nil]
      omega
  | cons c ds ih =>
      have hc := Char.isDigit_iff_toNat.1 (hds c List.mem_cons_self)
      have hdigit : c.toNat - '0'.toNat ≤ 9 := by
        have hnine : '9'.toNat = 9 + '0'.toNat := rfl
        omega
      rw [Nat.ofDigitChars_cons, List.length_cons]
      calc Nat.ofDigitChars 10 ds (10 * value + (c.toNat - '0'.toNat))
          < (10 * value + (c.toNat - '0'.toNat) + 1) * 10 ^ ds.length :=
            ih (fun d hd => hds d (List.mem_cons_of_mem _ hd)) _
        _ ≤ ((value + 1) * 10) * 10 ^ ds.length := Nat.mul_le_mul_right _ (by omega)
        _ = (value + 1) * 10 ^ (ds.length + 1) := by rw [Nat.mul_assoc, Nat.pow_succ']

theorem part_padded
    (hcount : 0 < count)
    (hn : n < 10 ^ count)
    (name : String)
    (rest : List Char) :
    part name count (padded count n ++ rest) = .ok (n, rest) := by
  have hall : ∀ c ∈ padded count n, c.isDigit = true := fun c hc => isDigit_of_mem_padded hc
  have hread := digits_append hall 0 rest
  rw [length_padded hcount hn, ofDigitChars_padded] at hread
  rw [part, hread]

end Digits

section Parts

variable {rest : List Char}

theorem literal_cons
    (c : Char)
    (rest : List Char) :
    literal c (c :: rest) = .ok rest := by
  rw [literal, if_pos rfl]

/-- The digits of a fraction, and the zeros that were left out behind them. -/
theorem fraction_eq
    {nanosecond : Nat}
    (hnonzero : nanosecond ≠ 0)
    (hlt : nanosecond < 10 ^ 9) :
    ∃ ds zeros, fraction nanosecond = '.' :: ds ∧ ds ≠ [] ∧ (∀ c ∈ ds, c.isDigit = true) ∧
      padded 9 nanosecond = ds ++ List.replicate zeros '0' ∧ ds.length + zeros = 9 := by
  obtain ⟨ds, hds⟩ : ∃ ds, ds = (padded 9 nanosecond).rdropWhile (· = '0') := ⟨_, rfl⟩
  obtain ⟨zeros, hzeros⟩ : ∃ zeros, (padded 9 nanosecond).rtakeWhile (· = '0')
      = List.replicate zeros '0' :=
    ⟨_, List.eq_replicate_of_mem fun c hc => by simpa using List.mem_rtakeWhile_imp hc⟩
  have hsplit : padded 9 nanosecond = ds ++ List.replicate zeros '0' := by
    rw [hds, ← hzeros, List.rdropWhile_append_rtakeWhile]
  refine ⟨ds, zeros, ?_, ?_, fun c hc => ?_, hsplit, ?_⟩
  · rw [fraction, if_neg hnonzero, hds]
    rfl
  · rintro rfl
    have hvalue := ofDigitChars_padded 9 nanosecond
    rw [hsplit, List.nil_append, Nat.ofDigitChars_replicate_zero, Nat.mul_zero] at hvalue
    exact hnonzero hvalue.symm
  · exact isDigit_of_mem_padded (hsplit ▸ List.mem_append_left _ hc)
  · have hlength := length_padded (by decide) hlt
    rwa [hsplit, List.length_append, List.length_replicate] at hlength

/-- A fraction is read back in front of what neither goes on with digits nor starts one. -/
theorem subsecond_fraction
    {nanosecond : Nat}
    (hlt : nanosecond < 10 ^ 9)
    (hdigit : ∀ c ∈ rest.head?, c.isDigit = false)
    (hpoint : rest.head? ≠ some '.') :
    subsecond (fraction nanosecond ++ rest) = .ok (nanosecond, rest) := by
  by_cases hzero : nanosecond = 0
  · rw [hzero, fraction, if_pos rfl, List.nil_append]
    unfold subsecond
    split
    · exact absurd rfl hpoint
    · rfl
  · obtain ⟨ds, zeros, hfraction, hnonempty, hall, hpadded, hlength⟩ := fraction_eq hzero hlt
    have hstop : rest.takeWhile Char.isDigit = [] ∧ rest.dropWhile Char.isDigit = rest := by
      cases rest with
      | nil => exact ⟨rfl, rfl⟩
      | cons c rest =>
          have hc : ¬ c.isDigit = true := by simp [hdigit c rfl]
          exact ⟨List.takeWhile_cons_of_neg hc, List.dropWhile_cons_of_neg hc⟩
    have htake : (ds ++ rest).takeWhile Char.isDigit = ds := by
      rw [List.takeWhile_append_of_pos hall, hstop.1, List.append_nil]
    have hdrop : (ds ++ rest).dropWhile Char.isDigit = rest := by
      rw [List.dropWhile_append_of_pos hall, hstop.2]
    have hnine : (ds ++ List.replicate 9 '0').take 9 = padded 9 nanosecond := by
      rw [hpadded, List.take_append, List.take_of_length_le (by omega), List.take_replicate]
      congr 2
      omega
    have hvalue : (padded 9 nanosecond).foldl (fun n c => n * 10 + (c.toNat - '0'.toNat)) 0
        = nanosecond := by
      rw [foldl_eq_ofDigitChars, ofDigitChars_padded]
    rw [hfraction, List.cons_append, subsecond, htake, hdrop, hnine]
    simpa [hnonempty] using hvalue

theorem offsetText_head
    (offset : Int) :
    ∃ c cs, offsetText offset = c :: cs ∧ (c = 'Z' ∨ c = '+' ∨ c = '-') := by
  unfold offsetText
  split
  · exact ⟨'Z', [], rfl, .inl rfl⟩
  · split
    · exact ⟨'-', _, rfl, .inr (.inr rfl)⟩
    · exact ⟨'+', _, rfl, .inr (.inl rfl)⟩

/-- A sign, hours and minutes. -/
theorem zone_cons
    {sign : Char}
    {hours minutes : Nat}
    (hsign : sign = '+' ∨ sign = '-')
    (hhours : hours ≤ 23)
    (hminutes : minutes ≤ 59) :
    zone (sign :: (padded 2 hours ++ ':' :: padded 2 minutes))
      = .ok (if sign = '-' then -((hours : Int) * 60 + minutes) else (hours : Int) * 60 + minutes,
          []) := by
  have hhour : part "offset hour" 2 (padded 2 hours ++ ':' :: padded 2 minutes)
      = .ok (hours, ':' :: padded 2 minutes) := part_padded (by decide) (by omega) _ _
  have hminute : part "offset minute" 2 (padded 2 minutes ++ []) = .ok (minutes, []) :=
    part_padded (by decide) (by omega) _ _
  have hletter : ¬ (sign = 'Z' ∨ sign = 'z') := by
    rcases hsign with rfl | rfl <;> decide
  rw [List.append_nil] at hminute
  unfold zone
  simp only [if_neg hletter, if_pos hsign, hhour, ok_bind, literal_cons, hminute,
    Nat.not_lt.2 hhours, Nat.not_lt.2 hminutes, if_false]
  rfl

theorem zone_offsetText
    {offset : Int}
    (hoffset : offset.natAbs < 24 * 60) :
    zone (offsetText offset) = .ok (offset, []) := by
  have hhours : offset.natAbs / 60 ≤ 23 := by omega
  have hminutes : offset.natAbs % 60 ≤ 59 := by omega
  unfold offsetText
  by_cases hzero : offset = 0
  · rw [hzero]
    rfl
  · rw [if_neg hzero]
    by_cases hnegative : offset < 0
    · rw [if_pos hnegative, zone_cons (.inr rfl) hhours hminutes, if_pos rfl]
      congr 2
      omega
    · have hplus : ¬ '+' = '-' := by decide
      rw [if_neg hnegative, zone_cons (.inl rfl) hhours hminutes, if_neg hplus]
      congr 2
      omega

end Parts

section Texts

variable {t : Timestamp}

theorem text_eq
    (ht : t.IsExpressible) :
    t.text = .ok (String.ofList t.chars) := by
  have hyear : ¬ (t.year < 0 ∨ 9999 < t.year) := by
    have := ht.year
    omega
  have hoffset : ¬ 24 ≤ t.offset.natAbs / 60 := by
    have := ht.offset
    omega
  rw [text, if_neg hyear, if_neg hoffset, chars]

/-- A timestamp is written exactly if the form has room for it. -/
theorem exists_text_iff :
    (∃ s, t.text = .ok s) ↔ t.IsExpressible := by
  constructor
  · rintro ⟨s, hs⟩
    unfold text at hs
    split at hs
    · cases hs
    · split at hs
      · cases hs
      · constructor <;> omega
  · intro ht
    exact ⟨_, text_eq ht⟩

theorem check_eq
    (ht : t.IsReal) :
    t.check = .ok t := by
  have hmonth : ¬ (t.month < 1 ∨ 12 < t.month) := by
    have := ht.month
    omega
  have hday : ¬ (t.day < 1 ∨ daysInMonth t.year t.month < t.day) := by
    have := ht.day
    omega
  simp only [check, if_neg hmonth, if_neg hday, Nat.not_lt.2 ht.hour, Nat.not_lt.2 ht.minute,
    Nat.not_lt.2 ht.second, if_false]
  rfl

theorem daysInMonth_le
    (year : Int)
    (month : Nat) :
    daysInMonth year month ≤ 31 := by
  unfold daysInMonth
  split
  · split <;> omega
  · omega
  · omega
  · omega
  · omega
  · omega

/-- What was written is read back part by part. -/
theorem parse_chars
    (hreal : t.IsReal)
    (hexpressible : t.IsExpressible) :
    parse (String.ofList t.chars) = .ok t := by
  obtain ⟨year, month, day, hour, minute, second, nanosecond, offset⟩ := t
  obtain ⟨hmonth, hday, hhour, hminute, hsecond, hnanosecond⟩ := id hreal
  obtain ⟨⟨hyear, hyears⟩, hoffset⟩ := hexpressible
  dsimp only at hmonth hday hhour hminute hsecond hnanosecond hyear hyears hoffset
  obtain ⟨year, rfl⟩ := Int.eq_ofNat_of_zero_le hyear
  have hdays := daysInMonth_le year month
  have hmonths : ¬ month = 0 := by omega
  have hseconds : ¬ second = 60 := by omega
  have hseparator (cs : List Char) : separator ('T' :: cs) = .ok cs := rfl
  have hfraction : subsecond (fraction nanosecond ++ offsetText offset)
      = .ok (nanosecond, offsetText offset) := by
    obtain ⟨c, cs, hcs, hc⟩ := offsetText_head offset
    refine subsecond_fraction hnanosecond (fun d hd => ?_) (fun hd => ?_)
    · rw [hcs] at hd
      rw [← Option.some.inj hd]
      rcases hc with rfl | rfl | rfl <;> decide
    · rw [hcs] at hd
      rw [Option.some.inj hd] at hc
      exact absurd hc (by decide)
  unfold parse chars
  rw [String.toList_ofList]
  simp only [List.append_assoc, List.cons_append, Int.toNat_natCast]
  rw [part_padded (by decide) (by omega), ok_bind, literal_cons, ok_bind]
  rw [part_padded (by decide) (by omega), ok_bind, if_neg hmonths, literal_cons, ok_bind]
  rw [part_padded (by decide) (by omega), ok_bind, hseparator, ok_bind]
  rw [part_padded (by decide) (by omega), ok_bind, literal_cons, ok_bind]
  rw [part_padded (by decide) (by omega), ok_bind, literal_cons, ok_bind]
  rw [part_padded (by decide) (by omega), ok_bind, hfraction, ok_bind]
  rw [zone_offsetText hoffset, ok_bind]
  simp [hseconds, check_eq hreal]

/-- A timestamp that exists and that the form has room for is written, and read as itself. -/
theorem parse_text
    (hreal : t.IsReal)
    (hexpressible : t.IsExpressible) :
    ∃ s, t.text = .ok s ∧ parse s = .ok t :=
  ⟨_, text_eq hexpressible, parse_chars hreal hexpressible⟩

end Texts

section Readings

variable {t : Timestamp}

/-- The digits that were read, in front of what is left. -/
theorem digits_eq_some
    {count value n : Nat}
    {cs rest : List Char}
    (hread : digits count value cs = some (n, rest)) :
    ∃ ds, cs = ds ++ rest ∧ ds.length = count ∧ (∀ c ∈ ds, c.isDigit = true) ∧
      n = Nat.ofDigitChars 10 ds value := by
  induction count generalizing value cs with
  | zero =>
      cases hread
      exact ⟨[], rfl, rfl, by simp, rfl⟩
  | succ count ih =>
      cases cs with
      | nil => cases hread
      | cons c cs =>
          rw [digits] at hread
          split at hread
          · next hc =>
              obtain ⟨ds, rfl, hlength, hds, rfl⟩ := ih hread
              refine ⟨c :: ds, rfl, by rw [List.length_cons, hlength], ?_, ?_⟩
              · exact List.forall_mem_cons.2 ⟨hc, hds⟩
              · rw [Nat.ofDigitChars_cons, Nat.mul_comm]
          · cases hread

theorem part_lt
    {name : String}
    {count n : Nat}
    {cs rest : List Char}
    (hread : part name count cs = .ok (n, rest)) :
    n < 10 ^ count := by
  unfold part at hread
  split at hread
  · next hdigits =>
      cases hread
      obtain ⟨ds, -, rfl, hds, rfl⟩ := digits_eq_some hdigits
      simpa using ofDigitChars_lt hds 0
  · cases hread

theorem subsecond_lt
    {n : Nat}
    {cs rest : List Char}
    (hread : subsecond cs = .ok (n, rest)) :
    n < 10 ^ 9 := by
  unfold subsecond at hread
  split at hread
  · next cs =>
      dsimp only at hread
      split at hread
      · cases hread
      · cases hread
        have hdigits : ∀ c ∈ (cs.takeWhile Char.isDigit ++ List.replicate 9 '0').take 9,
            c.isDigit = true := by
          intro c hc
          rcases List.mem_append.1 (List.mem_of_mem_take hc) with hc | hc
          · exact List.mem_takeWhile_imp hc
          · rw [List.eq_of_mem_replicate hc]
            decide
        have hlength : ((cs.takeWhile Char.isDigit ++ List.replicate 9 '0').take 9).length = 9 := by
          rw [List.length_take, List.length_append, List.length_replicate]
          omega
        have hlt := ofDigitChars_lt hdigits 0
        rw [hlength, Nat.zero_add, Nat.one_mul] at hlt
        rwa [foldl_eq_ofDigitChars]
  · cases hread
    omega

theorem zone_lt
    {offset : Int}
    {cs rest : List Char}
    (hread : zone cs = .ok (offset, rest)) :
    offset.natAbs < 24 * 60 := by
  unfold zone at hread
  split at hread
  · cases hread
  · split at hread
    · cases hread
      decide
    · split at hread
      · obtain ⟨⟨hours, cs⟩, -, hread⟩ := bind_eq_ok_iff.1 hread
        dsimp only at hread
        split at hread
        · cases hread
        · obtain ⟨cs, -, hread⟩ := bind_eq_ok_iff.1 hread
          obtain ⟨⟨minutes, cs⟩, -, hread⟩ := bind_eq_ok_iff.1 hread
          dsimp only at hread
          split at hread
          · cases hread
          · cases hread
            split <;> omega
      · cases hread

theorem isReal_of_check
    {u : Timestamp}
    (hnanosecond : t.nanosecond < 10 ^ 9)
    (hcheck : t.check = .ok u) :
    u = t ∧ t.IsReal := by
  unfold check at hcheck
  repeat' split at hcheck
  all_goals cases hcheck
  exact ⟨rfl, by constructor <;> omega⟩

/-- What is read is a date and time of day that exist, and it can be written. A sixtieth second is
read as the last nanosecond before it. -/
theorem isParsed_of_parse
    {s : String}
    (hread : parse s = .ok t) :
    t.IsParsed := by
  unfold parse at hread
  obtain ⟨⟨year, cs⟩, hyear, hread⟩ := bind_eq_ok_iff.1 hread
  obtain ⟨cs, -, hread⟩ := bind_eq_ok_iff.1 hread
  obtain ⟨⟨month, cs⟩, hmonth, hread⟩ := bind_eq_ok_iff.1 hread
  simp only at hread
  split at hread
  · cases hread
  · obtain ⟨cs, -, hread⟩ := bind_eq_ok_iff.1 hread
    obtain ⟨⟨day, cs⟩, hday, hread⟩ := bind_eq_ok_iff.1 hread
    obtain ⟨cs, -, hread⟩ := bind_eq_ok_iff.1 hread
    obtain ⟨⟨hour, cs⟩, hhour, hread⟩ := bind_eq_ok_iff.1 hread
    obtain ⟨cs, -, hread⟩ := bind_eq_ok_iff.1 hread
    obtain ⟨⟨minute, cs⟩, hminute, hread⟩ := bind_eq_ok_iff.1 hread
    obtain ⟨cs, -, hread⟩ := bind_eq_ok_iff.1 hread
    obtain ⟨⟨second, cs⟩, hsecond, hread⟩ := bind_eq_ok_iff.1 hread
    obtain ⟨⟨nanosecond, cs⟩, hnanosecond, hread⟩ := bind_eq_ok_iff.1 hread
    obtain ⟨⟨offset, cs⟩, hoffset, hread⟩ := bind_eq_ok_iff.1 hread
    simp only at hread
    split at hread
    · cases hread
    · have hyears : (0 : Int) ≤ year ∧ (year : Int) ≤ 9999 := by
        have hdigits := part_lt hyear
        omega
      have hnanosecond := subsecond_lt hnanosecond
      have hoffset := zone_lt hoffset
      split at hread
      · obtain ⟨u, hcheck, hread⟩ := bind_eq_ok_iff.1 hread
        obtain ⟨rfl, hreal⟩ := isReal_of_check (by simp) hcheck
        split at hread
        · cases hread
          exact ⟨hreal, ⟨hyears, hoffset⟩⟩
        · cases hread
      · obtain ⟨rfl, hreal⟩ := isReal_of_check hnanosecond hread
        exact ⟨hreal, ⟨hyears, hoffset⟩⟩

end Readings

end Timestamp
end QueryBatch

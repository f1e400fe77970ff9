import Mathlib
import QueryBatch.Configuration.Host

/-!
# The characters of hosts

A host stands in a URL as it is, so nothing but its check keeps it from ending where it should not.
Reading an address of version 6 passes over hexadecimal digits, colons and dots alone
(`Spends`), and every other host is checked character by character. So no host that is valid holds
a character that delimits the host, in brackets or not (`not_mem_inUrl`).
-/

namespace QueryBatch
namespace Configuration
namespace Host

/-- Whether a character can stand in an address. -/
def isAddressChar (c : Char) : Bool := isHexDigit c || c = ':' || c = '.'

/-- From a text to what is left of it, over characters of addresses alone. -/
def Spends (cs rest : List Char) : Prop :=
  ∃ taken, taken ++ rest = cs ∧ ∀ c ∈ taken, isAddressChar c = true

section Reading

variable {cs rest : List Char}

theorem Spends.refl
    (cs : List Char) :
    Spends cs cs :=
  ⟨[], rfl, by simp⟩

theorem Spends.trans
    {middle : List Char}
    (hleft : Spends cs middle)
    (hright : Spends middle rest) :
    Spends cs rest := by
  obtain ⟨left, rfl, hleft⟩ := hleft
  obtain ⟨right, rfl, hright⟩ := hright
  refine ⟨left ++ right, List.append_assoc .., ?_⟩
  intro c hc
  rcases List.mem_append.1 hc with hc | hc
  · exact hleft c hc
  · exact hright c hc

theorem spends_dropWhile
    {p : Char → Bool}
    (hp : ∀ c, p c = true → isAddressChar c = true)
    (cs : List Char) :
    Spends cs (cs.dropWhile p) :=
  ⟨cs.takeWhile p, List.takeWhile_append_dropWhile, fun c hc => hp c (List.mem_takeWhile_imp hc)⟩

theorem spends_group
    (h : group? cs = some rest) :
    Spends cs rest := by
  simp only [group?, Option.ite_none_right_eq_some, Option.some.injEq] at h
  obtain ⟨-, rfl⟩ := h
  exact spends_dropWhile (fun c hc => by simp [isAddressChar, hc]) cs

theorem spends_octet
    (h : octet? cs = some rest) :
    Spends cs rest := by
  simp only [octet?, Option.ite_none_right_eq_some, Option.some.injEq] at h
  obtain ⟨-, rfl⟩ := h
  exact spends_dropWhile (fun c hc => by simp [isAddressChar, isHexDigit, hc]) cs

theorem spends_after
    {c : Char}
    (hc : isAddressChar c = true)
    (h : after? c cs = some rest) :
    Spends cs rest := by
  cases cs with
  | nil => cases h
  | cons d cs =>
      simp only [after?, Option.ite_none_right_eq_some, Option.some.injEq] at h
      obtain ⟨rfl, rfl⟩ := h
      exact ⟨[d], rfl, by simpa using hc⟩

theorem spends_dotted
    (h : dotted? cs = some rest) :
    Spends cs rest := by
  have hdot : isAddressChar '.' = true := by decide
  simp only [dotted?, Option.bind_eq_bind, Option.bind_eq_some_iff] at h
  obtain ⟨cs₁, h₁, cs₂, h₂, cs₃, h₃, cs₄, h₄, cs₅, h₅, cs₆, h₆, h₇⟩ := h
  exact (spends_octet h₁).trans <| (spends_after hdot h₂).trans <| (spends_octet h₃).trans <|
    (spends_after hdot h₄).trans <| (spends_octet h₅).trans <| (spends_after hdot h₆).trans <|
      spends_octet h₇

theorem spends_separated
    {first : Bool}
    (h : separated? first cs = some rest) :
    Spends cs rest := by
  cases first with
  | true =>
      cases h
      exact Spends.refl cs
  | false => exact spends_after (by decide) h

theorem spends_groups
    (room : Nat)
    (first : Bool)
    (cs : List Char) :
    Spends cs (groups room first cs).rest := by
  induction room generalizing first cs with
  | zero => exact Spends.refl cs
  | succ room ih =>
      have hhere {take : List Char → Option (List Char)} {rest : List Char}
          (htake : ∀ {cs rest}, take cs = some rest → Spends cs rest)
          (h : (separated? first cs).bind take = some rest) : Spends cs rest := by
        obtain ⟨here, hseparated, h⟩ := Option.bind_eq_some_iff.1 h
        exact (spends_separated hseparated).trans (htake h)
      unfold groups
      dsimp only
      split
      · next rest h =>
          split at h
          · cases h
          · exact hhere spends_dotted h
      · next rest _ h => exact (hhere spends_group h).trans (ih false rest)
      · exact Spends.refl cs

/-- All characters of an address of version 6. -/
theorem isAddressChar_of_isIpv6
    (h : isIpv6 cs = true) :
    ∀ c ∈ cs, isAddressChar c = true := by
  have hall {rest : List Char} (hrest : rest.isEmpty = true) (hspends : Spends cs rest) :
      ∀ c ∈ cs, isAddressChar c = true := by
    obtain ⟨taken, rfl, htaken⟩ := hspends
    rw [List.isEmpty_iff.1 hrest, List.append_nil]
    exact htaken
  have hhead := spends_groups 8 true cs
  unfold isIpv6 at h
  dsimp only at h
  split at h
  · exact hall h hhead
  · next room _ =>
      obtain ⟨-, h⟩ := Bool.and_eq_true_iff.1 h
      split at h
      · next tail htail =>
          -- Past the head stands `::`, and after it the groups that come last.
          obtain ⟨middle, hfirst, hsecond⟩ := Option.bind_eq_some_iff.1 htail
          have hcolon : isAddressChar ':' = true := by decide
          exact hall h <| hhead.trans <| (spends_after hcolon hfirst).trans <|
            (spends_after hcolon hsecond).trans (spends_groups room true tail)
      · cases h

end Reading

section Valid

variable {cs : List Char}

/-- A host that starts with a bracket is an address between brackets. -/
theorem of_isValid_bracket
    {rest : List Char}
    (h : isValid ('[' :: rest) = true) :
    ∃ address, rest = address ++ [']'] ∧ isIpv6 address = true := by
  have hbracketed : (if rest.getLast? = some ']' then some rest.dropLast else none).any isIpv6
      = true := h
  split at hbracketed
  · next hlast => exact ⟨rest.dropLast, (List.dropLast_append_getLast? _ hlast).symm, hbracketed⟩
  · cases hbracketed

/-- What the characters of a host can be. -/
theorem chars_of_isValid
    (h : isValid cs = true) :
    ∀ c ∈ cs, isAddressChar c = true ∨ c = '[' ∨ c = ']' ∨ isNameChar c = true := by
  intro c hc
  unfold isValid at h
  split at h
  · next rest =>
      obtain ⟨address, rfl, haddress⟩ := of_isValid_bracket h
      simp only [List.mem_cons, List.mem_append, List.not_mem_nil, or_false] at hc
      rcases hc with rfl | hc | rfl
      · exact .inr (.inl rfl)
      · exact .inl (isAddressChar_of_isIpv6 haddress c hc)
      · exact .inr (.inr (.inl rfl))
  · split at h
    · exact .inl (isAddressChar_of_isIpv6 h c hc)
    · exact .inr (.inr (.inr (List.all_eq_true.1 h c hc)))

/-- The host in a URL holds none of the characters that would end it, or start it anew. -/
theorem not_mem_inUrl
    (h : isValid cs = true)
    {c : Char}
    (hc : c ∈ ['/', '?', '#', '@']) :
    c ∉ inUrl cs := by
  have hdelimiter : ¬ (isAddressChar c = true ∨ c = '[' ∨ c = ']' ∨ isNameChar c = true) := by
    simp only [List.mem_cons, List.not_mem_nil, or_false] at hc
    rcases hc with rfl | rfl | rfl | rfl <;> decide
  intro hmem
  unfold inUrl at hmem
  split at hmem
  · simp only [List.mem_cons, List.mem_append, List.not_mem_nil, or_false] at hmem
    rcases hmem with hbracket | hmem | hbracket
    · exact hdelimiter (.inr (.inl hbracket))
    · exact hdelimiter (chars_of_isValid h c hmem)
    · exact hdelimiter (.inr (.inr (.inl hbracket)))
  · exact hdelimiter (chars_of_isValid h c hmem)

/-- A bracket opens the host in a URL exactly if an address of version 6 was given, in brackets or
not. -/
theorem head_inUrl
    (h : isValid cs = true) :
    (inUrl cs).head? = some '[' ↔ isIpv6 (forDriver cs) = true := by
  by_cases hbracket : cs.head? = some '['
  · obtain ⟨rest, rfl⟩ : ∃ rest, cs = '[' :: rest := by
      cases cs with
      | nil => cases hbracket
      | cons c rest => exact ⟨rest, by rw [Option.some.inj hbracket]⟩
    obtain ⟨address, rfl, haddress⟩ := of_isValid_bracket h
    have hinner : bracketed? ('[' :: (address ++ [']'])) = some address := by
      simp [bracketed?]
    have hhead : (inUrl ('[' :: (address ++ [']']))).head? = some '[' := by
      unfold inUrl
      split <;> rfl
    simp only [hhead, forDriver, hinner, Option.getD_some, haddress]
  · have hinner : bracketed? cs = none := by
      unfold bracketed?
      split
      · exact absurd rfl hbracket
      · rfl
    have hforDriver : forDriver cs = cs := by rw [forDriver, hinner, Option.getD_none]
    rw [hforDriver]
    unfold inUrl
    split
    · next hipv6 => simp [hipv6]
    · next hipv6 => simp [hbracket, hipv6]

end Valid

end Host
end Configuration
end QueryBatch

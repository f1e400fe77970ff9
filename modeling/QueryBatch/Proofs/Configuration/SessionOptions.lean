import QueryBatch.Proofs.Configuration.Servers

/-!
# The options of a session

A server cuts the options of a new session into arguments (`arguments`). Blanks of ASCII stand
between them, a backslash takes the meaning from the octet behind it, and an octet zero ends them
all. The server looks at octets, but what is marked when options are written are characters, and
more of these are blank.

`Spells` relates octets of the options to the octets of an argument that they stand for, and is
closed under joining. Every character is spelled, marked or not (`spells_optionChar`): a backslash
needs to cover the first octet only, because no later octet of a character means anything to the
server.
-/

namespace QueryBatch
namespace Configuration
namespace SessionOptions

open Text

section Defs

/-- Whether an octet stands between arguments: a blank of ASCII. -/
def isSeparator (b : Nat) : Bool := b = 0x20 || (0x09 ≤ b && b ≤ 0x0D)

/-- The octet of a backslash. -/
def backslash : Nat := 0x5C

/-- The argument that options begin with, and what is behind it; `marked` says that a backslash was
read last. -/
def argument (marked : Bool) : List Nat → List Nat × List Nat
  | [] => ([], [])
  | b :: rest =>
      if !marked && isSeparator b then ([], b :: rest)
      else if !marked && b = backslash then argument true rest
      else (b :: (argument false rest).1, (argument false rest).2)

theorem length_argument
    (marked : Bool)
    (bs : List Nat) :
    (argument marked bs).2.length ≤ bs.length := by
  induction bs generalizing marked with
  | nil => exact Nat.le_refl _
  | cons b rest ih =>
      have hmarked := ih true
      have hplain := ih false
      rw [argument]
      split
      · exact Nat.le_refl _
      · split <;> simp only [List.length_cons] <;> omega

/-- An argument takes at least the octet that it begins with. -/
theorem length_argument_cons
    {b : Nat}
    (hb : isSeparator b = false)
    (rest : List Nat) :
    (argument false (b :: rest)).2.length ≤ rest.length := by
  rw [argument, if_neg (by simp [hb])]
  split
  · exact length_argument true rest
  · exact length_argument false rest

/-- The arguments of options. -/
def arguments (bs : List Nat) : List (List Nat) :=
  match _hstart : bs.dropWhile isSeparator with
  | [] => []
  | b :: rest => (argument false (b :: rest)).1 :: arguments (argument false (b :: rest)).2
termination_by bs.length
decreasing_by
  have hb : isSeparator b = false := by
    have hhead := List.head?_dropWhile_not isSeparator bs
    rw [_hstart] at hhead
    simpa using hhead
  have hbehind := length_argument_cons hb rest
  have hdropped := (List.dropWhile_sublist isSeparator (l := bs)).length_le
  rw [_hstart, List.length_cons] at hdropped
  omega

/-- The arguments that a server reads from options. -/
def serverArguments (options : String) : List (List Nat) :=
  arguments ((Utf8.encode options.toList).takeWhile (· ≠ 0))

/-- Octets of options stand for octets of an argument, wherever the argument goes on or ends. -/
def Spells (raw value : List Nat) : Prop :=
  ∀ rest, argument false (raw ++ rest)
    = (value ++ (argument false rest).1, (argument false rest).2)

end Defs

section Spelling

variable {raw value other more rest : List Nat}

theorem Spells.append
    (hfirst : Spells raw value)
    (hsecond : Spells other more) :
    Spells (raw ++ other) (value ++ more) := by
  intro rest
  rw [List.append_assoc, hfirst, hsecond, List.append_assoc]

/-- Octets that mean nothing to the server stand for themselves. -/
theorem spells_plain
    {bs : List Nat}
    (hplain : ∀ b ∈ bs, b ≠ backslash ∧ isSeparator b = false) :
    Spells bs bs := by
  intro rest
  induction bs with
  | nil => rfl
  | cons b bs ih =>
      obtain ⟨hb, hseparator⟩ := hplain b List.mem_cons_self
      have hrest := ih fun c hc => hplain c (List.mem_cons_of_mem b hc)
      rw [List.cons_append, argument, if_neg (by simp [hseparator]), if_neg (by simp [hb]), hrest]
      rfl

theorem spells_marked
    (b : Nat) :
    Spells [backslash, b] [b] := by
  intro rest
  have hbackslash : isSeparator backslash = false := rfl
  simp [argument, hbackslash]

/-- The first octet of a character is the character itself or lies beyond ASCII, as all octets
behind it do. -/
theorem encodeChar_octets
    (c : Char) :
    ∃ b tail, Utf8.encodeChar c = b :: tail ∧ (b = c.toNat ∨ 0x80 ≤ b) ∧
      ∀ d ∈ tail, 0x80 ≤ d := by
  unfold Utf8.encodeChar
  dsimp only
  split
  · exact ⟨_, _, rfl, .inl rfl, by simp⟩
  split
  · exact ⟨_, _, rfl, .inr (by omega), by simp⟩
  split
  · exact ⟨_, _, rfl, .inr (by omega), by simp⟩
  · exact ⟨_, _, rfl, .inr (by omega), by simp⟩

/-- What is blank to the server is blank. -/
theorem isBlank_of_isSeparator
    {c : Char}
    (hc : isSeparator c.toNat = true) :
    isBlank c = true := by
  simp only [isSeparator, Bool.or_eq_true, Bool.and_eq_true, decide_eq_true_eq] at hc
  simp only [isBlank, inRanges, blankRanges, List.any_cons, Bool.or_eq_true, Bool.and_eq_true,
    decide_eq_true_eq]
  omega

/-- A character stands for its octets, whichever side takes it for blank. -/
theorem spells_optionChar
    (c : Char) :
    Spells (Utf8.encode (DatabaseSettings.optionChar c)) (Utf8.encodeChar c) := by
  obtain ⟨b, tail, hoctets, hfirst, htail⟩ := encodeChar_octets c
  have hbeyond : ∀ d, 0x80 ≤ d → d ≠ backslash ∧ isSeparator d = false := by
    intro d hd
    simp only [backslash, isSeparator, Bool.or_eq_false_iff, decide_eq_false_iff_not,
      Bool.and_eq_false_iff]
    omega
  have hspelled : Spells tail tail := spells_plain fun d hd => hbeyond d (htail d hd)
  rw [DatabaseSettings.optionChar]
  split
  case isTrue =>
    -- the backslash covers the first octet, and those behind it stand for themselves
    have hraw : Utf8.encode ['\\', c] = [backslash] ++ (Utf8.encodeChar c ++ []) := rfl
    rw [hraw, List.append_nil, hoctets]
    exact (spells_marked b).append hspelled
  case isFalse hunmarked =>
    simp only [Bool.or_eq_true, decide_eq_true_eq, not_or] at hunmarked
    obtain ⟨hslash, hblank⟩ := hunmarked
    have hraw : Utf8.encode [c] = Utf8.encodeChar c ++ [] := rfl
    have hplain : b ≠ backslash ∧ isSeparator b = false := by
      rcases hfirst with rfl | hb
      · constructor
        · exact fun heq => hslash (Char.toNat_inj.1 (heq : c.toNat = '\\'.toNat))
        · exact Bool.eq_false_of_not_eq_true fun hb => hblank (isBlank_of_isSeparator hb)
      · exact hbeyond b hb
    rw [hraw, List.append_nil, hoctets]
    exact spells_plain (List.forall_mem_cons.2 ⟨hplain, fun d hd => hbeyond d (htail d hd)⟩)

theorem spells_escapeOption
    (cs : List Char) :
    Spells (Utf8.encode (DatabaseSettings.escapeOption cs)) (Utf8.encode cs) := by
  induction cs with
  | nil => exact fun _ => rfl
  | cons c cs ih =>
      have hraw : Utf8.encode (DatabaseSettings.escapeOption (c :: cs))
          = Utf8.encode (DatabaseSettings.optionChar c)
            ++ Utf8.encode (DatabaseSettings.escapeOption cs) := List.flatMap_append
      rw [hraw]
      exact (spells_optionChar c).append ih

end Spelling

section Cutting

variable {raw value rest : List Nat}

theorem arguments_separator
    {b : Nat}
    (hb : isSeparator b = true) :
    arguments (b :: rest) = arguments rest := by
  rw [arguments, arguments, List.dropWhile_cons_of_pos hb]

/-- What spells an argument is cut off as that argument where it ends. -/
theorem arguments_spelled
    (hspells : Spells raw value)
    (hstart : ∃ b tail, raw = b :: tail ∧ isSeparator b = false)
    (hend : argument false rest = ([], rest)) :
    arguments (raw ++ rest) = value :: arguments rest := by
  obtain ⟨b, tail, rfl, hb⟩ := hstart
  have hfirst := hspells rest
  rw [hend, List.append_nil] at hfirst
  have hdrop : (b :: tail ++ rest).dropWhile isSeparator = b :: tail ++ rest :=
    List.dropWhile_cons_of_neg (by simp [hb])
  rw [arguments]
  split
  case h_1 hnone =>
    rw [hdrop] at hnone
    cases hnone
  case h_2 c behind hsome =>
    rw [hdrop] at hsome
    rw [← hsome, hfirst]

/-- A text that means nothing to the server is an argument where a blank is behind it. -/
theorem arguments_text
    {text : List Char}
    (hplain : ∀ b ∈ Utf8.encode text, b ≠ backslash ∧ isSeparator b = false)
    (hsome : Utf8.encode text ≠ []) :
    arguments (Utf8.encode text ++ 0x20 :: rest) = Utf8.encode text :: arguments rest := by
  have hblank : isSeparator 0x20 = true := rfl
  have hend : argument false (0x20 :: rest) = ([], 0x20 :: rest) := by
    simp [argument, hblank]
  obtain ⟨b, tail, hcons⟩ := List.exists_cons_of_ne_nil hsome
  have hb : isSeparator b = false := (hplain b (hcons ▸ List.mem_cons_self)).2
  rw [arguments_spelled (spells_plain hplain) ⟨b, tail, hcons, hb⟩ hend,
    arguments_separator hblank]

theorem encode_append
    (cs ds : List Char) :
    Utf8.encode (cs ++ ds) = Utf8.encode cs ++ Utf8.encode ds :=
  List.flatMap_append

theorem options_eq
    {settings : DatabaseSettings}
    {schema : String}
    (hschema : settings.schema = some schema) :
    settings.options
      = "-c TimeZone=UTC".toList
        ++ (" -c search_path=".toList ++ DatabaseSettings.escapeOption schema.toList) := by
  unfold DatabaseSettings.options
  simp only [hschema]

/-- The options of a session with a schema are cut into two settings. -/
theorem arguments_options
    {settings : DatabaseSettings}
    {schema : String}
    (hschema : settings.schema = some schema) :
    arguments (Utf8.encode settings.options)
      = ["-c", "TimeZone=UTC", "-c", "search_path=" ++ schema].map
          fun part => Utf8.encode part.toList := by
  have hlast : Spells
      (Utf8.encode "search_path=".toList
        ++ Utf8.encode (DatabaseSettings.escapeOption schema.toList))
      (Utf8.encode "search_path=".toList ++ Utf8.encode schema.toList) :=
    (spells_plain (by decide)).append (spells_escapeOption schema.toList)
  have hzone : Utf8.encode "-c TimeZone=UTC".toList
      = Utf8.encode "-c".toList ++ 0x20 :: Utf8.encode "TimeZone=UTC".toList := by decide
  have hpath : Utf8.encode " -c search_path=".toList
      = 0x20 :: Utf8.encode "-c".toList ++ 0x20 :: Utf8.encode "search_path=".toList := by
    decide
  have hoptions : Utf8.encode settings.options
      = Utf8.encode "-c".toList ++ 0x20 :: (Utf8.encode "TimeZone=UTC".toList ++ 0x20 ::
          (Utf8.encode "-c".toList ++ 0x20 :: ((Utf8.encode "search_path=".toList
            ++ Utf8.encode (DatabaseSettings.escapeOption schema.toList)) ++ []))) := by
    rw [options_eq hschema]
    simp only [encode_append, hzone, hpath, List.append_assoc, List.cons_append, List.append_nil]
  have hnone : arguments [] = [] := by
    rw [arguments]
    rfl
  have hstart : ∃ b tail, Utf8.encode "search_path=".toList
      ++ Utf8.encode (DatabaseSettings.escapeOption schema.toList) = b :: tail ∧
        isSeparator b = false := ⟨_, _, rfl, rfl⟩
  rw [hoptions, arguments_text (by decide) (by decide), arguments_text (by decide) (by decide),
    arguments_text (by decide) (by decide), arguments_spelled hlast hstart rfl, hnone]
  simp only [List.map_cons, List.map_nil, String.toList_append, encode_append]

/-- Options hold an octet zero only if the schema does. -/
theorem zero_not_mem_options
    {settings : DatabaseSettings}
    {schema : String}
    (hschema : settings.schema = some schema)
    (hnull : '\x00' ∉ schema.toList) :
    0 ∉ Utf8.encode settings.options := by
  have hzero : (0 : Nat) = '\x00'.toNat := rfl
  rw [options_eq hschema, hzero, mem_encode_ascii (by decide)]
  simp only [List.mem_append, not_or]
  refine ⟨by decide, by decide, fun hmem => ?_⟩
  obtain ⟨c, hc, hmarked⟩ := List.mem_flatMap.1 hmem
  have hsame : '\x00' = c := by
    unfold DatabaseSettings.optionChar at hmarked
    split at hmarked
    · simpa using hmarked
    · simpa using hmarked
  exact hnull (hsame ▸ hc)

end Cutting

/-- A schema reaches the server as it is: the options of a session are four arguments, and the last
one holds the octets of the schema and nothing else. -/
theorem schema_is_one_argument
    {settings : DatabaseSettings}
    {env : Environment}
    {schema password : String}
    (hschema : settings.schema = some schema)
    (hnull : '\x00' ∉ schema.toList)
    (hpassword : settings.password.resolve env = .ok password) :
    ∃ parameters, settings.parameters env = .ok parameters ∧
      serverArguments parameters.options
        = ["-c", "TimeZone=UTC", "-c", "search_path=" ++ schema].map
            fun part => Utf8.encode part.toList := by
  refine ⟨_, DatabaseSettings.parameters_eq_of_resolve hpassword, ?_⟩
  have hwhole : (Utf8.encode settings.options).takeWhile (· ≠ 0)
      = Utf8.encode settings.options := by
    refine List.takeWhile_eq_self_iff.2 fun b hb => ?_
    have hne : b ≠ 0 := fun heq => zero_not_mem_options hschema hnull (heq ▸ hb)
    simpa using hne
  have hoptions : (settings.parametersWith password).options = String.ofList settings.options := rfl
  rw [serverArguments, hoptions, String.toList_ofList, hwhole, arguments_options hschema]

/-- A schema that looks like an end of its argument and a further option, with backslashes, and with
blanks that the server does not know. -/
def smuggling : DatabaseSettings where
  user := "reader"
  password := .plain "secret"
  host := "localhost"
  name := "library"
  schema := some " a\\ -c\tx=1\u00a0 \\"

theorem schema_is_one_argument_smuggling :
    ∃ parameters, smuggling.parameters .empty = .ok parameters ∧
      serverArguments parameters.options
        = ["-c", "TimeZone=UTC", "-c", "search_path= a\\ -c\tx=1\u00a0 \\"].map
            fun part => Utf8.encode part.toList :=
  @schema_is_one_argument smuggling .empty _ _ rfl (by decide) rfl

end SessionOptions
end Configuration
end QueryBatch

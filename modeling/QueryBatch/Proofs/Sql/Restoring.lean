import QueryBatch.Proofs.Sql.Numbering

/-!
# Reading a bound text back

Binding writes numbers where names stood. A reader that cuts the bound text into tokens by the same
rules, and takes a dollar sign with digits for a number, finds the tokens of the text again: no
number runs into what stands next to it, and none opens or closes a quote or a comment. Who knows
the distinct names can undo the binding.
-/

namespace QueryBatch
namespace Sql

section Defs

/-- A piece of a bound text. -/
inductive BoundToken
  /-- A dollar sign and digits. -/
  | number (digits : List Char)
  /-- What is a token in any text. -/
  | kept (token : Token)
  deriving DecidableEq, Repr

namespace BoundToken

/-- The first token of a bound text that starts with a character, and what follows it. -/
def next (c : Char) (rest : List Char) : BoundToken × List Char :=
  if c = '$' ∧ rest.head?.any Char.isDigit = true then
    (.number (rest.takeWhile Char.isDigit), rest.dropWhile Char.isDigit)
  else (.kept (Token.next c rest).1, (Token.next c rest).2)

theorem length_next
    (c : Char)
    (rest : List Char) :
    (next c rest).2.length ≤ rest.length := by
  unfold next
  split
  · exact (List.dropWhile_sublist Char.isDigit).length_le
  · exact Token.length_next c rest

/-- The tokens of a bound text. -/
def scan (cs : List Char) : List BoundToken :=
  match cs with
  | [] => []
  | c :: rest => (next c rest).1 :: scan (next c rest).2
termination_by cs.length
decreasing_by
  have := length_next c rest
  simp only [List.length_cons]
  omega

/-- What becomes of a token when names have their places as numbers. -/
def ofToken (names : List String) : Token → BoundToken
  | .placeholder name => .number (toString (names.idxOf (String.ofList name) + 1)).toList
  | token => .kept token

/-- The number that a token is. -/
def number? : BoundToken → Option Nat
  | .number digits => some (Nat.ofDigitChars 10 digits 0)
  | .kept _ => none

/-- The characters of a token with an at sign and a name in place of its number. -/
def restored (names : List String) : BoundToken → List Char
  | .number digits =>
      match Nat.ofDigitChars 10 digits 0 with
      | 0 => []
      | k + 1 => '@' :: (names.getD k "").toList
  | .kept token => token.text

end BoundToken

/-- A text begins with a token, and the rest of it comes after. -/
inductive Token.Begins : Char → List Char → Token → List Char → Prop
  | quoted
      {quote : Char}
      {rest run after : List Char}
      (hquote : quote = '\'' ∨ quote = '"')
      (hsplit : splitQuoted quote rest = (run, after)) :
      Begins quote rest (.quoted (quote :: run)) after
  | line
      {run after : List Char}
      (hrun : ∀ c ∈ run, isLinePart c = true)
      (hstop : after.head?.any isLinePart = false) :
      Begins '-' ('-' :: (run ++ after)) (.comment ('-' :: '-' :: run)) after
  | block
      {rest run after : List Char}
      (hsplit : splitBlock rest = (run, after)) :
      Begins '/' ('*' :: rest) (.comment ('/' :: '*' :: run)) after
  | placeholder
      {d : Char}
      {run after : List Char}
      (hstart : isNameStart d = true)
      (hrun : ∀ c ∈ run, isNamePart c = true)
      (hstop : after.head?.any isNamePart = false) :
      Begins '@' (d :: (run ++ after)) (.placeholder (d :: run)) after
  | plain
      {c : Char}
      {rest : List Char}
      (hquote : c ≠ '\'' ∧ c ≠ '"')
      (hline : c = '-' → rest.head?.any (· = '-') = false)
      (hblock : c = '/' → rest.head?.any (· = '*') = false)
      (hname : c = '@' → rest.head?.any isNameStart = false) :
      Begins c rest (.plain c) rest

/-- No dollar sign among tokens has a digit right behind it. -/
def noNumbers : List Token → Bool
  | [] => true
  | token :: after =>
      !(token = .plain '$' && (after.flatMap Token.text).head?.any Char.isDigit) && noNumbers after

/-- The characters of tokens with numbers in place of placeholders. -/
def written (names : List String) (tokens : List Token) : List Char :=
  tokens.flatMap fun token => (token.numbered names).toList

/-- Two texts begin alike, up to an at sign that became a dollar sign. -/
def Alike (cs others : List Char) : Prop :=
  others.head? = cs.head? ∨ cs.head? = some '@' ∧ others.head? = some '$'

end Defs

section Digits

theorem toList_number
    (k : Nat) :
    (toString k).toList = Nat.toDigits 10 k := by
  simp

theorem ofDigitChars_number
    (k : Nat) :
    Nat.ofDigitChars 10 (toString k).toList 0 = k := by
  rw [toList_number, Nat.ofDigitChars_ten_toDigits]

theorem isDigit_of_mem_number
    {k : Nat}
    {c : Char}
    (hc : c ∈ (toString k).toList) :
    c.isDigit = true := by
  rw [toList_number] at hc
  exact Nat.isDigit_of_mem_toDigits (by decide) (by decide) hc

theorem number_ne_nil
    (k : Nat) :
    (toString k).toList ≠ [] := by
  rw [toList_number]
  exact Nat.toDigits_ne_nil

theorem nodup_eraseDups
    (names : List String) :
    names.eraseDups.Nodup := by
  cases names with
  | nil => exact List.nodup_nil
  | cons name names =>
      rw [List.eraseDups_cons, List.nodup_cons]
      constructor
      · rw [List.mem_eraseDups, List.mem_filter]
        simp
      · exact nodup_eraseDups (names.filter fun other => !other == name)
termination_by names.length
decreasing_by
  have hle := List.length_filter_le (fun other => !other == name) names
  rw [List.length_cons]
  omega

end Digits

section Alike

variable {cs others : List Char} {names : List String}

/-- A test that takes at signs and dollar signs alike does not tell texts that begin alike apart. -/
theorem Alike.any
    {p : Char → Bool}
    (halike : Alike cs others)
    (hp : p '@' = p '$') :
    others.head?.any p = cs.head?.any p := by
  rcases halike with hsame | ⟨hat, hdollar⟩
  · rw [hsame]
  · rw [hat, hdollar, Option.any_some, Option.any_some, hp]

theorem Alike.eq_nil
    (halike : Alike [] others) :
    others = [] := by
  rcases halike with hsame | ⟨hat, -⟩
  · exact List.head?_eq_none_iff.1 hsame
  · cases hat

theorem toList_numbered
    {token : Token}
    (htoken : token.name? = none) :
    (token.numbered names).toList = token.text := by
  cases token with
  | placeholder name => cases htoken
  | quoted cs => exact String.toList_ofList
  | comment cs => exact String.toList_ofList
  | plain c => exact String.toList_ofList

theorem placeholder_of_name?
    {token : Token}
    {name : String}
    (hname : token.name? = some name) :
    ∃ cs, token = .placeholder cs ∧ name = String.ofList cs := by
  cases token with
  | placeholder cs => exact ⟨cs, rfl, (Option.some.inj hname).symm⟩
  | quoted cs => cases hname
  | comment cs => cases hname
  | plain c => cases hname

theorem toList_numbered_placeholder
    (name : List Char) :
    (Token.numbered names (.placeholder name)).toList
      = '$' :: (toString (names.idxOf (String.ofList name) + 1)).toList := by
  rw [Token.numbered, String.toList_append]
  rfl

end Alike

section Tokens

variable {after others rest : List Char} {c : Char}

/-- A run of characters that pass a test ends before one that fails it. -/
theorem span_run
    {p : Char → Bool}
    {run : List Char}
    (hrun : ∀ c ∈ run, p c = true)
    (hstop : others.head?.any p = false) :
    (run ++ others).takeWhile p = run ∧ (run ++ others).dropWhile p = others := by
  rw [List.takeWhile_append_of_pos hrun, List.dropWhile_append_of_pos hrun]
  cases others with
  | nil => exact ⟨List.append_nil run, rfl⟩
  | cons d others =>
      have hd : p d = false := hstop
      simp [hd]

/-- A quoted run stays the same when what follows it begins alike. -/
theorem splitQuoted_alike
    {quote : Char}
    (hquote : quote = '\'' ∨ quote = '"')
    (cs others : List Char) :
    Alike (Token.splitQuoted quote cs).2 others →
      Token.splitQuoted quote ((Token.splitQuoted quote cs).1 ++ others)
        = ((Token.splitQuoted quote cs).1, others) := by
  fun_induction Token.splitQuoted quote cs with
  | case1 =>
      intro halike
      rw [halike.eq_nil]
      rfl
  | case2 c =>
      intro halike
      rw [halike.eq_nil]
      rfl
  | case3 rest run after hsplit ih =>
      intro halike
      rw [hsplit] at ih
      simp [Token.splitQuoted, ih halike]
  | case4 d rest hd =>
      intro halike
      have hother : others.head?.any (· = quote) = false := by
        rw [halike.any]
        · simpa using hd
        · rcases hquote with rfl | rfl <;> rfl
      cases others with
      | nil => rfl
      | cons e others =>
          have he : e ≠ quote := by simpa using hother
          simp [Token.splitQuoted, he]
  | case5 c d rest hc run after hsplit ih =>
      intro halike
      rw [hsplit] at ih
      have hrest := ih halike
      cases hmore : run ++ others with
      | nil =>
          obtain ⟨rfl, rfl⟩ := List.append_eq_nil_iff.1 hmore
          rfl
      | cons e more =>
          dsimp only at hrest
          rw [hmore] at hrest
          simp [Token.splitQuoted, hc, hmore, hrest]

theorem head?_splitBlock
    (d : Char)
    (rest : List Char) :
    (Token.splitBlock (d :: rest)).1.head? = some d := by
  cases rest with
  | nil => rfl
  | cons e rest =>
      unfold Token.splitBlock
      split
      case isTrue hends => rw [hends.1]; rfl
      case isFalse => rfl

/-- A block comment stays the same when what follows it begins alike. -/
theorem splitBlock_alike
    (cs others : List Char) :
    Alike (Token.splitBlock cs).2 others →
      Token.splitBlock ((Token.splitBlock cs).1 ++ others)
        = ((Token.splitBlock cs).1, others) := by
  fun_induction Token.splitBlock cs with
  | case1 =>
      intro halike
      rw [halike.eq_nil]
      rfl
  | case2 c =>
      intro halike
      rw [halike.eq_nil]
      rfl
  | case3 c d rest hends =>
      intro _
      simp [Token.splitBlock]
  | case4 c d rest hends run after hsplit ih =>
      intro halike
      -- the comment goes on with `d`, so no star and slash come together here
      have hhead := head?_splitBlock d rest
      rw [hsplit] at ih hhead
      obtain ⟨more, rfl⟩ := List.head?_eq_some_iff.1 hhead
      have hrest := ih halike
      rw [List.cons_append] at hrest
      simp [Token.splitBlock, hends, hrest]

theorem dropWhile_stops
    (p : Char → Bool)
    (cs : List Char) :
    (cs.dropWhile p).head?.any p = false := by
  have hhead := List.head?_dropWhile_not p cs
  cases hfirst : (cs.dropWhile p).head? with
  | none => rfl
  | some d =>
      rw [hfirst] at hhead
      simpa using hhead

theorem head_ne
    {d : Char}
    (hne : ∀ more, rest = d :: more → False) :
    rest.head?.any (· = d) = false := by
  cases rest with
  | nil => rfl
  | cons e more =>
      have he : e ≠ d := fun heq => hne more (heq ▸ rfl)
      simpa using he

theorem Token.begins_next
    (c : Char)
    (rest : List Char) :
    Begins c rest (next c rest).1 (next c rest).2 := by
  unfold next
  split
  case isTrue hquote => exact .quoted hquote rfl
  case isFalse hquote =>
    rw [not_or] at hquote
    split
    case h_1 more =>
      have hbegins : Begins '-' ('-' :: (more.takeWhile isLinePart ++ more.dropWhile isLinePart))
          (.comment ('-' :: '-' :: more.takeWhile isLinePart)) (more.dropWhile isLinePart) :=
        .line (fun d hd => List.mem_takeWhile_imp hd) (dropWhile_stops _ _)
      rwa [List.takeWhile_append_dropWhile] at hbegins
    case h_2 more => exact .block rfl
    case h_3 d more =>
      split
      case isTrue hstart =>
        have hbegins : Begins '@' (d :: (more.takeWhile isNamePart ++ more.dropWhile isNamePart))
            (.placeholder (d :: more.takeWhile isNamePart)) (more.dropWhile isNamePart) :=
          .placeholder hstart (fun d hd => List.mem_takeWhile_imp hd) (dropWhile_stops _ _)
        rwa [List.takeWhile_append_dropWhile] at hbegins
      case isFalse hstart =>
        exact .plain hquote nofun nofun fun _ => by simpa using hstart
    case h_4 hline hblock hat =>
      refine .plain hquote (fun hc => ?_) (fun hc => ?_) fun hc => ?_
      · exact head_ne fun more => hline more hc
      · exact head_ne fun more => hblock more hc
      · cases rest with
        | nil => rfl
        | cons d more => exact (hat d more hc rfl).elim

theorem Token.Begins.next_eq
    {token : Token}
    (hbegins : Begins c rest token after) :
    next c rest = (token, after) := by
  cases hbegins with
  | quoted hquote hsplit => simp [next, hquote, hsplit]
  | line hrun hstop =>
      obtain ⟨htake, hdrop⟩ := span_run hrun hstop
      simp [next, htake, hdrop]
  | block hsplit => simp [next, hsplit]
  | placeholder hstart hrun hstop =>
      obtain ⟨htake, hdrop⟩ := span_run hrun hstop
      simp [next, hstart, htake, hdrop]
  | plain hquote hline hblock hname =>
      unfold next
      rw [if_neg (by simp [hquote])]
      split
      · simp at hline
      · simp at hblock
      · rw [if_neg (by simpa using hname rfl)]
      · rfl

theorem Token.Begins.text_eq
    {token : Token}
    (hbegins : Begins c rest token after) :
    ∃ tail, token.text = c :: tail := by
  cases hbegins with
  | quoted => exact ⟨_, rfl⟩
  | line => exact ⟨_, rfl⟩
  | block => exact ⟨_, rfl⟩
  | placeholder => exact ⟨_, rfl⟩
  | plain => exact ⟨_, rfl⟩

/-- A token that is no placeholder begins any text in which what follows it begins alike. -/
theorem Token.Begins.alike
    {token : Token}
    {tail : List Char}
    (hbegins : Begins c rest token after)
    (hname : token.name? = none)
    (htext : token.text = c :: tail)
    (halike : Alike after others) :
    Begins c (tail ++ others) token others := by
  cases hbegins with
  | quoted hquote hsplit =>
      obtain ⟨-, rfl⟩ := List.cons.inj htext
      have hagain := splitQuoted_alike hquote rest others
      rw [hsplit] at hagain
      exact .quoted hquote (hagain halike)
  | line hrun hstop =>
      obtain ⟨-, rfl⟩ := List.cons.inj htext
      exact .line hrun (by rw [halike.any rfl, hstop])
  | @block inner run after hsplit =>
      obtain ⟨-, rfl⟩ := List.cons.inj htext
      have hagain := splitBlock_alike inner others
      rw [hsplit] at hagain
      exact .block (hagain halike)
  | placeholder => cases hname
  | plain hquote hline hblock hname =>
      obtain ⟨-, rfl⟩ := List.cons.inj htext
      refine .plain hquote (fun hc => ?_) (fun hc => ?_) fun hc => ?_
      · rw [List.nil_append, halike.any rfl, hline hc]
      · rw [List.nil_append, halike.any rfl, hblock hc]
      · rw [List.nil_append, halike.any rfl, hname hc]

end Tokens

section Scan

variable {names : List String} {after others rest : List Char} {c : Char}

/-- A text with its placeholders written as numbers begins like the text. -/
theorem alike_written
    (names : List String)
    (cs : List Char) :
    Alike cs (written names (Token.scan cs)) := by
  cases cs with
  | nil =>
      rw [Token.scan]
      exact Or.inl rfl
  | cons c rest =>
      obtain ⟨tail, htext⟩ := (Token.begins_next c rest).text_eq
      rw [Token.scan, written, List.flatMap_cons]
      cases hname : (Token.next c rest).1.name? with
      | none =>
          rw [toList_numbered hname, htext]
          exact Or.inl rfl
      | some name =>
          obtain ⟨cs, htoken, -⟩ := placeholder_of_name? hname
          rw [htoken] at htext ⊢
          obtain ⟨rfl, -⟩ := List.cons.inj htext
          rw [toList_numbered_placeholder]
          exact Or.inr ⟨rfl, rfl⟩

/-- A number is read up to its last digit if no digit follows it. -/
theorem BoundToken.next_number
    (k : Nat)
    (hstop : others.head?.any Char.isDigit = false) :
    next '$' ((toString k).toList ++ others) = (.number (toString k).toList, others) := by
  obtain ⟨htake, hdrop⟩ := span_run (fun d hd => isDigit_of_mem_number hd) hstop
  obtain ⟨d, more, hdigits⟩ := List.exists_cons_of_ne_nil (number_ne_nil k)
  have hdigit : d.isDigit = true :=
    isDigit_of_mem_number (by rw [hdigits]; exact List.mem_cons_self)
  rw [next, htake, hdrop, if_pos]
  rw [hdigits]
  exact ⟨rfl, hdigit⟩

/-- A token that is no placeholder is read in the bound text as in the text. -/
theorem BoundToken.next_kept
    {token : Token}
    {tail : List Char}
    (hbegins : Token.Begins c rest token after)
    (hname : token.name? = none)
    (htext : token.text = c :: tail)
    (hnumber : token = .plain '$' → after.head?.any Char.isDigit = false)
    (halike : Alike after others) :
    next c (tail ++ others) = (.kept token, others) := by
  have hnone : ¬ (c = '$' ∧ (tail ++ others).head?.any Char.isDigit = true) := by
    rintro ⟨rfl, hdigit⟩
    cases hbegins with
    | quoted hquote => simp at hquote
    | plain =>
        obtain ⟨-, rfl⟩ := List.cons.inj htext
        rw [List.nil_append, halike.any rfl, hnumber rfl] at hdigit
        cases hdigit
  rw [next, if_neg hnone, (hbegins.alike hname htext halike).next_eq]

/-- A name takes all digits that stand behind it. -/
theorem Token.Begins.not_digit
    {name : List Char}
    (hbegins : Begins c rest (.placeholder name) after) :
    after.head?.any Char.isDigit = false := by
  cases hbegins with
  | placeholder hstart hrun hstop =>
      cases hfirst : after.head? with
      | none => rfl
      | some e =>
          rw [hfirst] at hstop
          simp only [Option.any_some, isNamePart, Char.isAlphanum, Bool.or_eq_false_iff] at hstop
          exact hstop.1.2

theorem BoundToken.ofToken_kept
    {names : List String}
    {token : Token}
    (hname : token.name? = none) :
    ofToken names token = .kept token := by
  cases token with
  | placeholder cs => cases hname
  | quoted cs => rfl
  | comment cs => rfl
  | plain c => rfl

/-- The tokens of a text with its placeholders written as numbers. -/
theorem BoundToken.scan_written
    (names : List String)
    (cs : List Char)
    (hnumbers : noNumbers (Token.scan cs) = true) :
    scan (written names (Token.scan cs)) = (Token.scan cs).map (ofToken names) := by
  fun_induction Token.scan cs with
  | case1 => rw [written, List.flatMap_nil, scan, List.map_nil]
  | case2 c rest ih =>
      have hbegins := Token.begins_next c rest
      have halike := alike_written names (Token.next c rest).2
      rw [noNumbers, Bool.and_eq_true, Token.flatMap_text_scan] at hnumbers
      obtain ⟨hnumber, hlater⟩ := hnumbers
      have hrest := ih hlater
      rw [written] at halike hrest
      rw [written, List.flatMap_cons, List.map_cons, ← hrest]
      cases hname : (Token.next c rest).1.name? with
      | none =>
          obtain ⟨tail, htext⟩ := hbegins.text_eq
          have hnext := next_kept hbegins hname htext
            (fun hdollar => by simpa [hdollar] using hnumber) halike
          rw [toList_numbered hname, htext, List.cons_append, scan, hnext, ofToken_kept hname]
      | some name =>
          obtain ⟨cs, htoken, -⟩ := placeholder_of_name? hname
          rw [htoken] at hbegins
          have hstop := halike.any (p := Char.isDigit) rfl
          rw [hbegins.not_digit] at hstop
          rw [htoken, toList_numbered_placeholder, List.cons_append, scan, next_number _ hstop,
            ofToken]

end Scan

section Names

variable {names : List String} {token : Token} {tokens : List Token}

theorem BoundToken.restored_ofToken
    (hnames : ∀ name, token.name? = some name → name ∈ names) :
    restored names (ofToken names token) = token.text := by
  cases hname : token.name? with
  | none => rw [ofToken_kept hname, restored]
  | some name =>
      have hmem := hnames name hname
      obtain ⟨cs, rfl, rfl⟩ := placeholder_of_name? hname
      have hfound : names.getD (names.idxOf (String.ofList cs)) "" = String.ofList cs := by
        rw [List.getD_eq_getElem?_getD, List.getElem?_idxOf hmem, Option.getD_some]
      rw [ofToken, restored, ofDigitChars_number]
      dsimp only
      rw [hfound, String.toList_ofList, Token.text]

theorem BoundToken.filterMap_number?
    (names : List String)
    (tokens : List Token) :
    (tokens.map (ofToken names)).filterMap number?
      = (namesOf tokens).map fun name => names.idxOf name + 1 := by
  induction tokens with
  | nil => rfl
  | cons token tokens ih =>
      rw [List.map_cons]
      unfold namesOf at ih ⊢
      cases hname : token.name? with
      | none =>
          rw [ofToken_kept hname, List.filterMap_cons_none rfl, List.filterMap_cons_none hname, ih]
      | some name =>
          obtain ⟨cs, rfl, rfl⟩ := placeholder_of_name? hname
          have hnumber : number? (ofToken names (.placeholder cs))
              = some (names.idxOf (String.ofList cs) + 1) :=
            congrArg some (ofDigitChars_number _)
          rw [List.filterMap_cons_some hnumber, List.filterMap_cons_some hname, List.map_cons, ih]

/-- The places of the distinct names are all there are. -/
theorem mem_numbers_iff
    (names : List String)
    (k : Nat) :
    (k ∈ names.map fun name => names.eraseDups.idxOf name + 1)
      ↔ 1 ≤ k ∧ k ≤ names.eraseDups.length := by
  rw [List.mem_map]
  constructor
  · rintro ⟨name, hname, rfl⟩
    have hlt := List.idxOf_lt_length_of_mem (List.mem_eraseDups.2 hname)
    omega
  · rintro ⟨hpos, hle⟩
    have hlt : k - 1 < names.eraseDups.length := by omega
    refine ⟨names.eraseDups[k - 1], List.mem_eraseDups.1 (List.getElem_mem hlt), ?_⟩
    rw [(nodup_eraseDups names).idxOf_getElem]
    omega

theorem text_of_boundForm
    {text : String}
    {args : NamedArgs}
    {sql : Sql}
    (hbound : boundForm text args = .ok sql) :
    sql.text.toList = written (namesIn text).eraseDups (Token.scan text.toList) := by
  unfold boundForm at hbound
  dsimp only at hbound
  split at hbound
  case h_1 => cases hbound
  case h_2 =>
    cases hbound
    rw [String.toList_join, List.flatMap_map]
    rfl

/-- A reader of a bound text that takes a dollar sign and digits for a number finds the tokens of
the text, with the number of its name in place of each placeholder. Names in place of the numbers
give the text back, and the numbers are those of the values. -/
theorem bound_text_is_read_back
    (text : String)
    (args : NamedArgs)
    (sql : Sql)
    (hnumbers : noNumbers (Token.scan text.toList) = true)
    (hbind : (Arguments.named args).bind text = .ok sql) :
    let names := (namesIn text).eraseDups
    let found := BoundToken.scan sql.text.toList
    found = (Token.scan text.toList).map (BoundToken.ofToken names) ∧
      String.ofList (found.flatMap (BoundToken.restored names)) = text ∧
      ∀ k, k ∈ found.filterMap BoundToken.number? ↔ 1 ≤ k ∧ k ≤ sql.params.length := by
  intro names found
  have hbound : boundForm text args = .ok sql := (bindNamed_eq_boundForm text args).symm.trans hbind
  have hfound : found = (Token.scan text.toList).map (BoundToken.ofToken names) := by
    rw [← BoundToken.scan_written names _ hnumbers, ← text_of_boundForm hbound]
  refine ⟨hfound, ?_, fun k => ?_⟩
  · have hnames : ∀ token ∈ Token.scan text.toList,
        BoundToken.restored names (BoundToken.ofToken names token) = token.text := by
      intro token htoken
      refine BoundToken.restored_ofToken fun name hname => List.mem_eraseDups.2 ?_
      exact List.mem_filterMap.2 ⟨token, htoken, hname⟩
    rw [hfound, List.flatMap_map, List.flatMap_congr hnames, Token.flatMap_text_scan,
      String.ofList_toList]
  · rw [hfound, BoundToken.filterMap_number?, (length_params_boundForm hbound).1]
    exact mem_numbers_iff (namesIn text) k

/-- Dollar signs, at signs, quotes and dashes next to placeholders, and one name twice. -/
theorem bound_text_is_read_back_crowded :
    let text := "$@b@a'@x$1'@@b--$2@"
    let args : NamedArgs := ⟨[("a", .int 1), ("b", .int 2)], by decide⟩
    let sql : Sql := ⟨"$$1$2'@x$1'@$1--$2@", [.int 2, .int 1], 2⟩
    (Arguments.named args).bind text = .ok sql ∧
      (BoundToken.scan sql.text.toList).filterMap BoundToken.number? = [1, 2, 1] ∧
      String.ofList ((BoundToken.scan sql.text.toList).flatMap
        (BoundToken.restored ["b", "a"])) = text := by
  intro text args sql
  have hbind : (Arguments.named args).bind text = .ok sql := by
    rw [show (Arguments.named args).bind text = boundForm text args from
      bindNamed_eq_boundForm text args]
    cbv
  have hnumbers : noNumbers (Token.scan text.toList) = true := by
    cbv
  have hnames : (namesIn text).eraseDups = ["b", "a"] := by
    cbv
  obtain ⟨hfound, htext, -⟩ := bound_text_is_read_back text args sql hnumbers hbind
  rw [hnames] at hfound htext
  refine ⟨hbind, ?_, htext⟩
  rw [hfound]
  cbv

end Names

end Sql
end QueryBatch

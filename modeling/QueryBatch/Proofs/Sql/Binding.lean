import Mathlib
import QueryBatch.Proofs.Sql.Scanning
import QueryBatch.Sql.Statement

/-!
# Binding named arguments

What binding does is told by the tokens of a text. The names of its placeholders are numbered in
order of first appearance, every placeholder becomes the number of its name, and the values of the
names are listed in the order of their numbers. `bindRest` tells this of the rest of a text, when
some names have their numbers already; `run_eq_bindRest` shows that the scanner does it.
-/

namespace QueryBatch
namespace Sql

section Names

/-- The name of a placeholder. -/
def Token.name? : Token → Option String
  | .placeholder name => some (String.ofList name)
  | _ => none

/-- The names of placeholders in order, with repetitions. -/
def namesOf (tokens : List Token) : List String := tokens.filterMap Token.name?

/-- The names that have no number yet, in order of first appearance. -/
def newNames (seen : List String) (tokens : List Token) : List String :=
  ((namesOf tokens).filter fun name => !seen.contains name).eraseDups

/-- A token with the number of its name in place of a placeholder. -/
def Token.numbered (names : List String) : Token → String
  | .placeholder name => "$" ++ toString (names.idxOf (String.ofList name) + 1)
  | token => String.ofList token.text

/-- What becomes of the rest of a text when the names in `seen` have their numbers. -/
def bindRest
    (args : NamedArgs) (seen : List String) (sql : Sql) (tokens : List Token) :
    Except MissingArgument Sql :=
  match (namesOf tokens).find? fun name => !seen.contains name && (args.get? name).isNone with
  | some name => .error ⟨name⟩
  | none =>
      let names := newNames seen tokens
      .ok {
        text := sql.text ++ String.join (tokens.map (Token.numbered (seen ++ names)))
        params := sql.params ++ names.filterMap args.get?
        paramIndex := sql.paramIndex + names.length }

variable {args : NamedArgs} {seen : List String} {sql : Sql} {tokens : List Token}

theorem namesOf_append
    (before after : List Token) :
    namesOf (before ++ after) = namesOf before ++ namesOf after :=
  List.filterMap_append

theorem newNames_skip
    {token : Token}
    (htoken : ∀ name ∈ token.name?, name ∈ seen) :
    newNames seen (token :: tokens) = newNames seen tokens := by
  unfold newNames namesOf
  cases hname : token.name? with
  | none => rw [List.filterMap_cons_none hname]
  | some name =>
      have hmem := htoken name (by rw [hname]; rfl)
      rw [List.filterMap_cons_some hname, List.filter_cons_of_neg (by simpa using hmem)]

theorem newNames_new
    {name : List Char}
    (hnew : String.ofList name ∉ seen) :
    newNames seen (.placeholder name :: tokens)
      = String.ofList name :: newNames (seen ++ [String.ofList name]) tokens := by
  have hname : (Token.placeholder name).name? = some (String.ofList name) := rfl
  unfold newNames namesOf
  rw [List.filterMap_cons_some hname, List.filter_cons_of_pos (by simpa using hnew),
    List.eraseDups_cons, List.filter_filter]
  congr 3
  funext other
  simp [Bool.and_comm, beq_eq_decide]

theorem bindRest_nil :
    bindRest args seen sql [] = .ok sql := by
  simp [bindRest, namesOf, newNames]

/-- A token that is no placeholder is appended as it is. -/
theorem bindRest_text
    {token : Token}
    (htoken : token.name? = none) :
    bindRest args seen sql (token :: tokens)
      = bindRest args seen (sql.appendSyntax (String.ofList token.text)) tokens := by
  have hnumbered : ∀ names, token.numbered names = String.ofList token.text := by
    intro names
    cases token with
    | placeholder name => cases htoken
    | quoted cs => rfl
    | comment cs => rfl
    | plain c => rfl
  have hnames : namesOf (token :: tokens) = namesOf tokens := List.filterMap_cons_none htoken
  unfold bindRest
  rw [hnames, newNames_skip (by simp [htoken])]
  simp [hnumbered, appendSyntax, String.append_assoc]

/-- A name that has a number keeps it. -/
theorem bindRest_seen
    {name : List Char}
    (hseen : String.ofList name ∈ seen) :
    bindRest args seen sql (.placeholder name :: tokens)
      = bindRest args seen
          (sql.appendSyntax ("$" ++ toString (seen.idxOf (String.ofList name) + 1))) tokens := by
  have hname : (Token.placeholder name).name? = some (String.ofList name) := rfl
  have hnames : namesOf (.placeholder name :: tokens) = String.ofList name :: namesOf tokens :=
    List.filterMap_cons_some hname
  have hindex : ∀ names : List String,
      (seen ++ names).idxOf (String.ofList name) = seen.idxOf (String.ofList name) :=
    fun names => List.idxOf_append_of_mem hseen
  unfold bindRest
  rw [hnames, List.find?_cons_of_neg (by simp [hseen]),
    newNames_skip (by simpa [hname] using hseen)]
  simp [Token.numbered, hindex, appendSyntax, String.append_assoc]

/-- A new name gets the next number, and its value is bound to it. -/
theorem bindRest_new
    {name : List Char} {value : Param}
    (hindex : sql.paramIndex = seen.length)
    (hnew : String.ofList name ∉ seen)
    (hvalue : args.get? (String.ofList name) = some value) :
    bindRest args seen sql (.placeholder name :: tokens)
      = bindRest args (seen ++ [String.ofList name]) (sql.appendParam value) tokens := by
  have hname : (Token.placeholder name).name? = some (String.ofList name) := rfl
  have hnames : namesOf (.placeholder name :: tokens) = String.ofList name :: namesOf tokens :=
    List.filterMap_cons_some hname
  -- the name has a value, so looking for a missing one may take it for seen or not
  have hmissing : (fun other => !seen.contains other && (args.get? other).isNone)
      = fun other =>
          !(seen ++ [String.ofList name]).contains other && (args.get? other).isNone := by
    funext other
    by_cases hother : other = String.ofList name
    · simp [hother, hvalue]
    · simp [hother]
  have hnumber : ∀ names : List String,
      (seen ++ String.ofList name :: names).idxOf (String.ofList name) = seen.length := by
    intro names
    rw [List.idxOf_append_of_notMem hnew, List.idxOf_cons_self]
    rfl
  unfold bindRest
  rw [hnames, List.find?_cons_of_neg (by simp [hvalue]), hmissing, newNames_new hnew]
  simp [Token.numbered, hnumber, appendParam, hindex, hvalue, String.append_assoc,
    Nat.add_assoc, Nat.add_comm]

/-- A new name without a value is missing. -/
theorem bindRest_missing
    {name : List Char}
    (hnew : String.ofList name ∉ seen)
    (hvalue : args.get? (String.ofList name) = none) :
    bindRest args seen sql (.placeholder name :: tokens) = .error ⟨String.ofList name⟩ := by
  have hname : (Token.placeholder name).name? = some (String.ofList name) := rfl
  have hnames : namesOf (.placeholder name :: tokens) = String.ofList name :: namesOf tokens :=
    List.filterMap_cons_some hname
  unfold bindRest
  rw [hnames, List.find?_cons_of_pos (by simp [hnew, hvalue])]

end Names

section Tokens

theorem Token.splitQuoted_append
    (quote : Char) (cs : List Char) :
    (splitQuoted quote cs).1 ++ (splitQuoted quote cs).2 = cs := by
  fun_induction splitQuoted quote cs with
  | case1 => rfl
  | case2 => rfl
  | case3 rest run after hsplit ih =>
      rw [hsplit] at ih
      simp [← ih]
  | case4 => rfl
  | case5 c d rest hc run after hsplit ih =>
      rw [hsplit] at ih
      simp [← ih]

theorem Token.splitBlock_append
    (cs : List Char) :
    (splitBlock cs).1 ++ (splitBlock cs).2 = cs := by
  fun_induction splitBlock cs with
  | case1 => rfl
  | case2 => rfl
  | case3 c d rest hends =>
      obtain ⟨rfl, rfl⟩ := hends
      rfl
  | case4 c d rest hends run after hsplit ih =>
      rw [hsplit] at ih
      simp [← ih]

/-- The first token of a text and what follows it are the text. -/
theorem Token.text_next
    (c : Char) (rest : List Char) :
    (next c rest).1.text ++ (next c rest).2 = c :: rest := by
  unfold next
  split
  · simp [text, splitQuoted_append]
  · split
    · simp [text]
    · simp [text, splitBlock_append]
    · split
      · simp [text]
      · rfl
    · rfl

/-- The tokens of a text, one after the other, are the text. -/
theorem Token.flatMap_text_scan
    (cs : List Char) :
    (scan cs).flatMap text = cs := by
  fun_induction scan cs with
  | case1 => rfl
  | case2 c rest ih => rw [List.flatMap_cons, ih, text_next]

/-- Whether a character is a token of its own wherever tokens begin. -/
def Token.isInert (c : Char) : Bool :=
  c ≠ '\'' && c ≠ '"' && c ≠ '-' && c ≠ '/' && c ≠ '@'

theorem Token.next_of_inert
    {c : Char}
    {rest : List Char}
    (hc : isInert c = true) :
    next c rest = (.plain c, rest) := by
  simp only [isInert, Bool.and_eq_true, decide_eq_true_eq] at hc
  obtain ⟨⟨⟨⟨hsingle, hdouble⟩, hdash⟩, hslash⟩, hat⟩ := hc
  unfold next
  rw [if_neg (by simp [hsingle, hdouble])]
  split <;> simp_all

theorem Token.scan_of_inert
    {cs rest : List Char}
    (hcs : ∀ c ∈ cs, isInert c = true) :
    scan (cs ++ rest) = cs.map .plain ++ scan rest := by
  induction cs with
  | nil => rfl
  | cons c cs ih =>
      rw [List.cons_append, scan, next_of_inert (hcs c List.mem_cons_self), List.map_cons,
        List.cons_append, ih fun d hd => hcs d (List.mem_cons_of_mem _ hd)]

/-- A character beyond ASCII is a token of its own. -/
theorem Token.next_of_beyond
    {c : Char}
    (hc : 128 ≤ c.toNat)
    (rest : List Char) :
    next c rest = (.plain c, rest) := by
  have hne : ∀ d : Char, d.toNat < 128 → c ≠ d := by
    rintro d hd rfl
    omega
  refine next_of_inert ?_
  simp only [isInert, Bool.and_eq_true, decide_eq_true_eq]
  exact ⟨⟨⟨⟨hne _ (by decide), hne _ (by decide)⟩, hne _ (by decide)⟩, hne _ (by decide)⟩,
    hne _ (by decide)⟩

end Tokens

section Scan

/-- What a cursor knows when the characters `done` were copied, those of `pending` were passed over
and the names in `seen` have their numbers. -/
structure Cursor.Follows
    (cursor : Cursor) (done pending : List Char) (seen : List String) : Prop where
  index : cursor.index = (Scanner.octets (done ++ pending)).length
  copied : cursor.copied = (Scanner.octets done).length
  positions : ∀ name,
    cursor.positions.lookup name = if name ∈ seen then some (seen.idxOf name + 1) else none
  paramIndex : cursor.sql.paramIndex = seen.length

variable {text : String} {args : NamedArgs} {cursor : Cursor}

theorem Cursor.run_end
    (hoctet : Scanner.octet? text cursor.index = none) :
    cursor.run text args
      = .ok (cursor.sql.appendSyntax
          (Scanner.slice text cursor.copied text.utf8ByteSize)) := by
  rw [run]
  split
  case h_1 => rfl
  case h_2 hsome => simp [hsome] at hoctet

theorem Cursor.run_step
    {b : UInt8}
    (hoctet : Scanner.octet? text cursor.index = some b) :
    cursor.run text args
      = match cursor.step text args b with
        | .ok next => next.run text args
        | .error e => .error e := by
  rw [run]
  split
  case h_1 hnone => simp [hnone] at hoctet
  case h_2 c hsome =>
    obtain rfl : c = b := by simpa [hsome] using hoctet
    split
    case h_1 next hstep => rw [hstep]
    case h_2 e hstep => rw [hstep]

theorem Cursor.run_copied
    {b : UInt8} {stop : Nat}
    (hoctet : Scanner.octet? text cursor.index = some b)
    (hpiece : Scanner.piece text cursor.index b = .copied stop) :
    cursor.run text args = Cursor.run text args { cursor with index := stop } := by
  rw [run_step hoctet, step, hpiece]

/-- Octets beyond ASCII are passed over one by one. -/
theorem Cursor.run_passing
    {bs cs : List UInt8}
    (hremaining : Scanner.Remaining text cursor.index (bs ++ cs))
    (hbeyond : ∀ b ∈ bs, ¬ Scanner.IsAscii b) :
    cursor.run text args
      = Cursor.run text args { cursor with index := cursor.index + bs.length } := by
  induction bs generalizing cursor with
  | nil => rfl
  | cons b bs ih =>
      have hhead := hremaining.octet?_head
      have hpiece : Scanner.piece text cursor.index b = .copied (cursor.index + 1) :=
        Scanner.piece_of_not_isAscii (hbeyond b List.mem_cons_self)
      rw [run_copied hhead hpiece]
      have hbs : ∀ c ∈ bs, ¬ Scanner.IsAscii c :=
        fun c hc => hbeyond c (List.mem_cons_of_mem b hc)
      rw [ih hremaining.tail hbs, List.length_cons, Nat.add_comm bs.length 1, ← Nat.add_assoc]

variable {done pending : List Char} {seen : List String}

/-- At the end of a text only the pending characters are left to copy. -/
theorem Cursor.Follows.run_end
    (hfollows : cursor.Follows done pending seen)
    (htext : text = String.ofList (done ++ pending)) :
    cursor.run text args = .ok (cursor.sql.appendSyntax (String.ofList pending)) := by
  have hremaining : Scanner.Remaining text cursor.index (Scanner.octets []) := by
    rw [htext, hfollows.index]
    simpa using Scanner.remaining_ofList (done ++ pending) []
  have hslice : Scanner.slice text cursor.copied text.utf8ByteSize = String.ofList pending := by
    have hpart := Scanner.slice_ofList done pending []
    rw [List.append_nil, ← htext, ← List.length_append, ← Scanner.octets_append] at hpart
    rw [hfollows.copied, ← hpart, htext, Scanner.utf8ByteSize_ofList]
  rw [Cursor.run_end hremaining.octet?_head, hslice]

/-- A token that is no placeholder becomes pending. -/
theorem Cursor.Follows.pass
    (hfollows : cursor.Follows done pending seen)
    (cs : List Char) :
    Cursor.Follows { cursor with index := cursor.index + (Scanner.octets cs).length }
      done (pending ++ cs) seen := by
  refine ⟨?_, hfollows.copied, hfollows.positions, hfollows.paramIndex⟩
  rw [← List.append_assoc, Scanner.octets_append, List.length_append, ← hfollows.index]

/-- The parts of a text that are read at a placeholder. -/
theorem Cursor.Follows.slices
    {name after : List Char}
    (hfollows : cursor.Follows done pending seen)
    (htext : text = String.ofList (done ++ pending ++ '@' :: (name ++ after))) :
    Scanner.slice text (cursor.index + 1)
        (cursor.index + (Scanner.octets ('@' :: name)).length) = String.ofList name ∧
      Scanner.slice text cursor.copied cursor.index = String.ofList pending := by
  have hat := Scanner.octets_cons_ascii (by decide : '@'.toNat < 128)
  constructor
  · have hpart := Scanner.slice_ofList (done ++ pending ++ ['@']) name after
    rw [Scanner.octets_append, List.length_append, ← hfollows.index, hat] at hpart
    rw [htext, hat, List.length_cons]
    simpa [Nat.add_assoc, Nat.add_comm, Nat.add_left_comm] using hpart
  · have hpart := Scanner.slice_ofList done pending ('@' :: (name ++ after))
    rw [← List.length_append, ← Scanner.octets_append, ← htext, ← hfollows.index] at hpart
    rw [hfollows.copied, hpart]

/-- A token that is no placeholder is passed over. -/
theorem Cursor.run_pass
    {c : Char} {rest : List Char}
    (hremaining : Scanner.Remaining text cursor.index (Scanner.octets (c :: rest)))
    (htoken : (Token.next c rest).1.name? = none) :
    cursor.run text args
      = Cursor.run text args { cursor with
          index := cursor.index + (Scanner.octets (Token.next c rest).1.text).length } := by
  by_cases hc : c.toNat < 128
  · have hhead := hremaining.octet?_head
    rw [Scanner.octets_cons_ascii hc] at hhead
    have hpiece := Scanner.piece_next hc hremaining
    cases htok : (Token.next c rest).1 with
    | placeholder name =>
        rw [htok] at htoken
        cases htoken
    | quoted cs =>
        rw [htok] at hpiece
        exact run_copied hhead hpiece
    | comment cs =>
        rw [htok] at hpiece
        exact run_copied hhead hpiece
    | plain d =>
        rw [htok] at hpiece
        exact run_copied hhead hpiece
  · rw [Scanner.octets_cons] at hremaining
    rw [run_passing hremaining (fun b => Scanner.not_isAscii_of_mem (by omega)),
      Token.next_of_beyond (by omega)]
    simp [Token.text]

/-- The numbers of names after one more name got the next number. -/
theorem lookup_numbered
    {positions : List (String × Nat)} {name : String}
    (hpositions : ∀ other,
      positions.lookup other = if other ∈ seen then some (seen.idxOf other + 1) else none)
    (hnew : name ∉ seen) :
    ∀ other, (positions ++ [(name, seen.length + 1)]).lookup other
      = if other ∈ seen ++ [name] then some ((seen ++ [name]).idxOf other + 1) else none := by
  intro other
  rw [List.lookup_append, hpositions]
  by_cases hseen : other ∈ seen
  · simp [hseen, List.idxOf_append_of_mem]
  · by_cases hother : other = name
    · simp [hother, hnew, List.idxOf_append_of_notMem]
    · have hne : (other == name) = false := by simpa using hother
      simp [hseen, hother, List.lookup_cons, hne]

/-- A placeholder is replaced by the number of its name. -/
theorem Cursor.run_placeholder
    {name after : List Char}
    (hfollows : cursor.Follows done pending seen)
    (htext : text = String.ofList (done ++ pending ++ '@' :: (name ++ after)))
    (hpiece : Scanner.piece text cursor.index '@'.toUInt8
      = .placeholder (cursor.index + (Scanner.octets ('@' :: name)).length))
    (hrest : ∀ (next : Cursor) (seen : List String),
      next.Follows (done ++ pending ++ '@' :: name) [] seen →
      next.run text args = bindRest args seen next.sql (Token.scan after)) :
    cursor.run text args
      = bindRest args seen (cursor.sql.appendSyntax (String.ofList pending))
          (.placeholder name :: Token.scan after) := by
  have hat := Scanner.octets_cons_ascii (by decide : '@'.toNat < 128)
  have hremaining : Scanner.Remaining text cursor.index
      (Scanner.octets ('@' :: (name ++ after))) := by
    rw [htext, hfollows.index]
    exact Scanner.remaining_ofList (done ++ pending) _
  have hhead := hremaining.octet?_head
  rw [hat] at hhead
  obtain ⟨hname, hpending⟩ := hfollows.slices htext
  have hplace : cursor.index + (Scanner.octets ('@' :: name)).length
      = (Scanner.octets (done ++ pending ++ '@' :: name)).length := by
    rw [Scanner.octets_append, List.length_append, ← hfollows.index]
  rw [run_step hhead, step, hpiece]
  simp only [hname, hpending, hfollows.positions (String.ofList name)]
  by_cases hseen : String.ofList name ∈ seen
  · rw [bindRest_seen hseen, if_pos hseen]
    apply hrest
    exact ⟨by simpa using hplace, hplace, hfollows.positions, hfollows.paramIndex⟩
  · rw [if_neg hseen]
    cases hvalue : args.get? (String.ofList name) with
    | none => rw [bindRest_missing hseen hvalue]
    | some value =>
        have hindex : (cursor.sql.appendSyntax (String.ofList pending)).paramIndex = seen.length :=
          hfollows.paramIndex
        have hpositions := lookup_numbered hfollows.positions hseen
        rw [bindRest_new hindex hseen hvalue]
        apply hrest
        refine ⟨by simpa using hplace, hplace, ?_, ?_⟩
        · rw [← hindex] at hpositions
          exact hpositions
        · rw [List.length_append, ← hindex]
          rfl

/-- The scanner binds the rest of a text as its tokens tell. -/
theorem Cursor.run_eq_bindRest
    (rest : List Char) :
    ∀ (cursor : Cursor) (done pending : List Char) (seen : List String),
      text = String.ofList (done ++ pending ++ rest) →
      cursor.Follows done pending seen →
      cursor.run text args
        = bindRest args seen (cursor.sql.appendSyntax (String.ofList pending))
            (Token.scan rest) := by
  fun_induction Token.scan rest with
  | case1 =>
      intro cursor done pending seen htext hfollows
      rw [List.append_nil] at htext
      rw [hfollows.run_end htext, bindRest_nil]
  | case2 c rest ih =>
      intro cursor done pending seen htext hfollows
      have hremaining : Scanner.Remaining text cursor.index (Scanner.octets (c :: rest)) := by
        rw [htext, hfollows.index]
        exact Scanner.remaining_ofList (done ++ pending) (c :: rest)
      have happend := Token.text_next c rest
      cases hname : (Token.next c rest).1.name? with
      | none =>
          rw [Cursor.run_pass hremaining hname, bindRest_text hname]
          rw [ih _ done (pending ++ (Token.next c rest).1.text) seen _ (hfollows.pass _)]
          · simp [appendSyntax, String.append_assoc]
          · rw [htext, ← happend]
            simp
      | some x =>
          cases htok : (Token.next c rest).1 with
          | quoted cs => simp [htok, Token.name?] at hname
          | comment cs => simp [htok, Token.name?] at hname
          | plain d => simp [htok, Token.name?] at hname
          | placeholder name =>
              rw [htok] at happend
              obtain ⟨rfl, hafter⟩ := List.cons.inj happend
              rw [← hafter] at htext
              have hpiece := Scanner.piece_next (by decide : '@'.toNat < 128) hremaining
              rw [htok] at hpiece
              refine Cursor.run_placeholder hfollows htext hpiece ?_
              intro next seen hnext
              have hrest := ih next (done ++ pending ++ '@' :: name) [] seen (by simp [htext]) hnext
              rw [hrest]
              simp [appendSyntax]

end Scan

section Bind

/-- The bound form of a text: every placeholder becomes the number of its name among the distinct
names in order of first appearance, and the values of the names are listed in that order. If names
have no value, the first of them is missing. -/
def boundForm
    (text : String) (args : NamedArgs) : Except MissingArgument Sql :=
  let tokens := Token.scan text.toList
  let names := (namesOf tokens).eraseDups
  match (namesOf tokens).find? fun name => (args.get? name).isNone with
  | some name => .error ⟨name⟩
  | none =>
      .ok {
        text := String.join (tokens.map (Token.numbered names))
        params := names.filterMap args.get?
        paramIndex := names.length }

theorem Cursor.follows_start :
    Cursor.start.Follows [] [] [] :=
  ⟨rfl, rfl, fun _ => rfl, rfl⟩

theorem bindNamed_eq_boundForm
    (text : String) (args : NamedArgs) :
    bindNamed text args = boundForm text args := by
  unfold bindNamed
  rw [Cursor.run_eq_bindRest text.toList Cursor.start [] [] [] (by simp) Cursor.follows_start]
  simp [bindRest, boundForm, newNames, Cursor.start, empty, appendSyntax]

/-- Binding looks at the values of the names in the text and at nothing else of the arguments. -/
theorem boundForm_congr
    {text : String} {args other : NamedArgs}
    (hvalues : ∀ name ∈ namesOf (Token.scan text.toList), other.get? name = args.get? name) :
    boundForm text other = boundForm text args := by
  have hmissing : (namesOf (Token.scan text.toList)).find? (fun name => (other.get? name).isNone)
      = (namesOf (Token.scan text.toList)).find? (fun name => (args.get? name).isNone) :=
    List.find?_congr fun name hname => by rw [hvalues name hname]
  have hparams : (namesOf (Token.scan text.toList)).eraseDups.filterMap other.get?
      = (namesOf (Token.scan text.toList)).eraseDups.filterMap args.get? :=
    List.filterMap_congr fun name hname => hvalues name (List.mem_eraseDups.mp hname)
  simp only [boundForm, hmissing, hparams]

/-- Every value that is listed has its number. -/
theorem length_params_boundForm
    {text : String} {args : NamedArgs} {sql : Sql}
    (hbound : boundForm text args = .ok sql) :
    sql.params.length = (namesOf (Token.scan text.toList)).eraseDups.length ∧
      sql.paramIndex = sql.params.length := by
  unfold boundForm at hbound
  dsimp only at hbound
  split at hbound
  case h_1 => cases hbound
  case h_2 hnone =>
    cases hbound
    have hlength : ((namesOf (Token.scan text.toList)).eraseDups.filterMap args.get?).length
        = (namesOf (Token.scan text.toList)).eraseDups.length := by
      rw [List.filterMap_length_eq_length]
      intro name hname
      have hvalue := List.find?_eq_none.mp hnone name (List.mem_eraseDups.mp hname)
      cases hget : args.get? name with
      | none => simp [hget] at hvalue
      | some value => rfl
    exact ⟨hlength, hlength.symm⟩

/-- Binding named arguments rewrites the placeholders among the tokens of a text and lists their
values. The number of values is that of the distinct names. Neither the order in which arguments
were inserted nor arguments that the text does not mention change anything. -/
theorem bind_named_eq_boundForm
    (text : String) (args : NamedArgs) :
    (Token.scan text.toList).flatMap Token.text = text.toList ∧
      (Arguments.named args).bind text = boundForm text args ∧
      (∀ sql, (Arguments.named args).bind text = .ok sql →
        sql.params.length = (namesOf (Token.scan text.toList)).eraseDups.length ∧
          sql.paramIndex = sql.params.length) ∧
      (∀ other : NamedArgs, other.pairs.Perm args.pairs →
        (Arguments.named other).bind text = (Arguments.named args).bind text) ∧
      (∀ other : NamedArgs,
        (∀ name ∈ namesOf (Token.scan text.toList), other.get? name = args.get? name) →
        (Arguments.named other).bind text = (Arguments.named args).bind text) := by
  have hbind : ∀ args : NamedArgs, (Arguments.named args).bind text = boundForm text args :=
    fun args => bindNamed_eq_boundForm text args
  refine ⟨Token.flatMap_text_scan _, hbind args, ?_, ?_, ?_⟩
  · intro sql hsql
    rw [hbind] at hsql
    exact length_params_boundForm hsql
  · intro other hperm
    rw [hbind, hbind]
    exact boundForm_congr fun name _ => NamedArgs.get?_perm hperm name
  · intro other hvalues
    rw [hbind, hbind]
    exact boundForm_congr hvalues

/-- The same two values inserted one way, the other way, and with one that the text does not
mention. -/
theorem bind_named_two_values :
    let args : NamedArgs := ⟨[("a", .int 1), ("b", .int 2)], by decide⟩
    let swapped : NamedArgs := ⟨[("b", .int 2), ("a", .int 1)], by decide⟩
    let more : NamedArgs := ⟨[("c", .int 3), ("a", .int 1), ("b", .int 2)], by decide⟩
    let sql : Sql := ⟨"$1'@c'$2$1", [.int 2, .int 1], 2⟩
    (Arguments.named args).bind "@b'@c'@a@b" = .ok sql ∧
      sql.paramIndex = sql.params.length ∧
      (Arguments.named swapped).bind "@b'@c'@a@b" = .ok sql ∧
      (Arguments.named more).bind "@b'@c'@a@b" = .ok sql := by
  intro args swapped more sql
  obtain ⟨-, hbind, hlength, hperm, hvalues⟩ := bind_named_eq_boundForm "@b'@c'@a@b" args
  have hargs : (Arguments.named args).bind "@b'@c'@a@b" = .ok sql := by
    rw [hbind]
    cbv
  have hnames : namesOf (Token.scan "@b'@c'@a@b".toList) = ["b", "a", "b"] := by
    cbv
  have hmore : ∀ name ∈ namesOf (Token.scan "@b'@c'@a@b".toList),
      more.get? name = args.get? name := by
    intro name hname
    rw [hnames] at hname
    simp only [List.mem_cons, List.not_mem_nil, or_false] at hname
    rcases hname with rfl | rfl | rfl <;> rfl
  exact ⟨hargs, (hlength sql hargs).2, (hperm swapped (List.Perm.swap _ _ _)).trans hargs,
    (hvalues more hmore).trans hargs⟩

end Bind

end Sql
end QueryBatch

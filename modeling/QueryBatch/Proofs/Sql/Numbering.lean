import QueryBatch.Proofs.Sql.Names

/-!
# Numbers in texts that are put together

Binding puts numbers for names. Where no name goes on from one piece of a text into the next, the
bound text is put together from the bound pieces in the same way. If the names of a text are
distinct then each has its place as its number, and its value stands in that place.
-/

namespace QueryBatch

section Arguments

theorem NamedArgs.insertPair_of_not_mem
    {name : String}
    {value : Param}
    {pairs : List (String × Param)}
    (hnew : name ∉ pairs.map Prod.fst) :
    insertPair name value pairs = pairs ++ [(name, value)] := by
  induction pairs with
  | nil => rfl
  | cons pair pairs ih =>
      rw [List.map_cons, List.mem_cons, not_or] at hnew
      obtain ⟨hne, hrest⟩ := hnew
      rw [insertPair, if_neg (Ne.symm hne), ih hrest, List.cons_append]

theorem NamedArgs.pairs_foldl_insert
    {args : NamedArgs}
    {pairs : List (String × Param)}
    (hnodup : ((args.pairs ++ pairs).map Prod.fst).Nodup) :
    (pairs.foldl (fun args pair => args.insert pair.1 pair.2) args).pairs
      = args.pairs ++ pairs := by
  induction pairs generalizing args with
  | nil => exact (List.append_nil _).symm
  | cons pair pairs ih =>
      have hnew : pair.1 ∉ args.pairs.map Prod.fst := by
        rw [List.map_append, List.map_cons] at hnodup
        exact fun hmem => (List.nodup_append.1 hnodup).2.2 _ hmem _ List.mem_cons_self rfl
      have hinsert : (args.insert pair.1 pair.2).pairs = args.pairs ++ [pair] :=
        insertPair_of_not_mem hnew
      rw [List.foldl_cons, ih, hinsert, List.append_assoc, List.singleton_append]
      rwa [hinsert, List.append_assoc, List.singleton_append]

/-- Pairs with distinct names are taken as they are. -/
theorem NamedArgs.pairs_ofList
    {pairs : List (String × Param)}
    (hnodup : (pairs.map Prod.fst).Nodup) :
    (ofList pairs).pairs = pairs :=
  pairs_foldl_insert hnodup

/-- The values under the names of arguments are all of their values. -/
theorem NamedArgs.filterMap_get?
    (args : NamedArgs) :
    (args.pairs.map Prod.fst).filterMap args.get? = args.pairs.map Prod.snd := by
  rw [List.filterMap_map, ← List.filterMap_eq_map]
  refine List.filterMap_congr fun pair hpair => ?_
  exact (get?_eq_some_iff args pair.1 pair.2).2 hpair

end Arguments

namespace Sql

section Defs

/-- A text with the numbers of names in place of its placeholders. -/
def renumbered (names : List String) (text : String) : String :=
  String.join ((Token.scan text.toList).map (Token.numbered names))

/-- A text is the name of a placeholder. -/
def IsName (text : String) : Prop :=
  ∃ c cs, text.toList = c :: cs ∧ Token.isNameStart c = true ∧ cs.all Token.isNamePart = true

end Defs

section Distinct

theorem eraseDups_of_nodup
    {names : List String}
    (hnodup : names.Nodup) :
    names.eraseDups = names := by
  induction names with
  | nil => rfl
  | cons name names ih =>
      obtain ⟨hnew, hrest⟩ := List.nodup_cons.1 hnodup
      have hothers : names.filter (fun other => !other == name) = names := by
        refine List.filter_eq_self.2 fun other hother => ?_
        have hne : other ≠ name := fun heq => hnew (heq ▸ hother)
        simpa using hne
      rw [List.eraseDups_cons, hothers, ih hrest]

/-- A text with distinct names, all with values, is bound to those values in their order. -/
theorem Ready.bind_of_nodup
    {text : String}
    {args : NamedArgs}
    (hready : Ready args text)
    (hnodup : (namesIn text).Nodup) :
    (Arguments.named args).bind text
      = .ok ⟨renumbered (namesIn text) text, (namesIn text).filterMap args.get?,
          (namesIn text).length⟩ := by
  rw [hready.bind, numberedForm, eraseDups_of_nodup hnodup]
  rfl

end Distinct

section Pieces

variable {names : List String} {s t : String}

theorem renumbered_append
    (hs : AllChars isOrdinary s)
    (ht : Breaks t) :
    renumbered names (s ++ t) = renumbered names s ++ renumbered names t := by
  obtain ⟨c, rest, hlist, hbreak⟩ := ht
  unfold renumbered
  rw [String.toList_append, hlist, Token.scan_append hs hbreak, List.map_append,
    String.join_append]

theorem join_map_plain
    (cs : List Char) :
    String.join ((cs.map Token.plain).map (Token.numbered names)) = String.ofList cs := by
  rw [← String.toList_inj, String.toList_join, String.toList_ofList]
  induction cs with
  | nil => rfl
  | cons c cs ih => simpa [Token.numbered, Token.text] using ih

theorem renumbered_silent_append
    (hs : AllChars isSilent s) :
    renumbered names (s ++ t) = s ++ renumbered names t := by
  unfold renumbered
  rw [String.toList_append, Token.scan_of_silent hs, List.map_append, String.join_append,
    join_map_plain, String.ofList_toList]

theorem renumbered_of_silent
    (hs : AllChars isSilent s) :
    renumbered names s = s := by
  have hscan : Token.scan (s.toList ++ []) = s.toList.map .plain ++ Token.scan [] :=
    Token.scan_of_silent hs
  rw [List.append_nil, Token.scan, List.append_nil] at hscan
  rw [renumbered, hscan, join_map_plain, String.ofList_toList]

/-- Pieces that are joined by a text without placeholders are bound one by one. -/
theorem renumbered_joinWith
    {parts : List String}
    (hbreaks : Breaks s)
    (hsilent : AllChars isSilent s)
    (hparts : ∀ part ∈ parts, AllChars isOrdinary part) :
    renumbered names (Text.joinWith s parts) = Text.joinWith s (parts.map (renumbered names)) := by
  unfold Text.joinWith
  induction parts with
  | nil => exact renumbered_of_silent (AllChars.literal rfl)
  | cons part rest ih =>
      have hrest := ih fun other hother => hparts other (List.mem_cons_of_mem _ hother)
      cases rest with
      | nil => simp
      | cons next others =>
          rw [String.intercalate_cons_cons, String.append_assoc,
            renumbered_append (hparts part List.mem_cons_self) (hbreaks.append _),
            renumbered_silent_append hsilent, hrest]
          simp only [List.map_cons]
          rw [String.intercalate_cons_cons, String.append_assoc]

theorem scan_placeholder
    {name : String}
    (hname : IsName name) :
    Token.scan ("@" ++ name).toList = [.placeholder name.toList] := by
  obtain ⟨c, cs, hlist, hstart, hall⟩ := hname
  have htake : cs.takeWhile Token.isNamePart = cs :=
    List.takeWhile_eq_self_iff.2 (List.all_eq_true.1 hall)
  have hdrop : cs.dropWhile Token.isNamePart = [] :=
    List.dropWhile_eq_nil_iff.2 (List.all_eq_true.1 hall)
  have hnext : Token.next '@' (c :: cs) = (.placeholder (c :: cs), []) := by
    simp [Token.next, hstart, htake, hdrop]
  have htext : ("@" ++ name).toList = '@' :: c :: cs := by
    rw [String.toList_append, hlist]
    rfl
  rw [htext, hlist, Token.scan, hnext, Token.scan]

theorem namesIn_placeholder
    {name : String}
    (hname : IsName name) :
    namesIn ("@" ++ name) = [name] := by
  rw [namesIn, scan_placeholder hname]
  simp [namesOf, Token.name?]

theorem renumbered_placeholder
    {name : String}
    (hname : IsName name) :
    renumbered names ("@" ++ name) = "$" ++ toString (names.idxOf name + 1) := by
  rw [renumbered, scan_placeholder hname]
  simp [Token.numbered]

theorem isOrdinary_of_isNamePart
    {c : Char}
    (hc : Token.isNamePart c = true) :
    isOrdinary c = true := by
  simp only [isOrdinary, Bool.and_eq_true, decide_eq_true_eq]
  and_intros <;> rintro rfl <;> exact absurd hc (by decide)

theorem ordinary_placeholder
    {name : String}
    (hname : IsName name) :
    AllChars isOrdinary ("@" ++ name) := by
  obtain ⟨c, cs, hlist, hstart, hall⟩ := hname
  have hpart : Token.isNamePart c = true := by
    simp only [Token.isNameStart, Token.isNamePart, Char.isAlphanum, Bool.or_eq_true] at hstart ⊢
    exact hstart.imp_left .inl
  refine AllChars.append (.literal rfl) fun d hd => isOrdinary_of_isNamePart ?_
  rw [hlist, List.mem_cons] at hd
  rcases hd with rfl | hd
  · exact hpart
  · exact List.all_eq_true.1 hall d hd

end Pieces
end Sql
end QueryBatch

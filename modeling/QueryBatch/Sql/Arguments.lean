import QueryBatch.Sql.Param

/-!
# Statement arguments

A statement takes no arguments, a list of values in order, or a set of named values. Named values
keep the order in which their names were first inserted, and inserting a name again replaces its
value in place.
-/

namespace QueryBatch

/-- Named values without repeated names. -/
structure NamedArgs where
  /-- Names and values in order of insertion. -/
  pairs : List (String × Param)
  nodup : (pairs.map Prod.fst).Nodup := by simp

namespace NamedArgs

instance : Inhabited NamedArgs := ⟨⟨[], by simp⟩⟩

/-- No names. -/
def empty : NamedArgs := ⟨[], by simp⟩

/-- Put a value under a name, in place if the name is there, else at the end. -/
def insertPair (name : String) (value : Param) :
    List (String × Param) → List (String × Param)
  | [] => [(name, value)]
  | pair :: rest =>
      if pair.1 = name then (name, value) :: rest else pair :: insertPair name value rest

theorem mem_insertPair_names (name : String) (value : Param) (x : String) :
    ∀ pairs : List (String × Param),
      x ∈ (insertPair name value pairs).map Prod.fst ↔ x = name ∨ x ∈ pairs.map Prod.fst
  | [] => by simp [insertPair]
  | pair :: rest => by
      have ih := mem_insertPair_names name value x rest
      by_cases h : pair.1 = name
      · simp [insertPair, h]
      · simp only [insertPair, h, if_false, List.map_cons, List.mem_cons, ih]
        constructor
        · rintro (hx | hx | hx)
          · exact Or.inr (Or.inl hx)
          · exact Or.inl hx
          · exact Or.inr (Or.inr hx)
        · rintro (hx | hx | hx)
          · exact Or.inr (Or.inl hx)
          · exact Or.inl hx
          · exact Or.inr (Or.inr hx)

theorem nodup_insertPair (name : String) (value : Param) :
    ∀ pairs : List (String × Param), (pairs.map Prod.fst).Nodup →
      ((insertPair name value pairs).map Prod.fst).Nodup
  | [], _ => by simp [insertPair]
  | pair :: rest, hnodup => by
      simp only [List.map_cons, List.nodup_cons] at hnodup
      by_cases h : pair.1 = name
      · simp only [insertPair, h, if_true, List.map_cons, List.nodup_cons]
        exact ⟨h ▸ hnodup.1, hnodup.2⟩
      · simp only [insertPair, h, if_false, List.map_cons, List.nodup_cons]
        refine ⟨fun hmem => ?_, nodup_insertPair name value rest hnodup.2⟩
        rcases (mem_insertPair_names name value pair.1 rest).mp hmem with heq | hold
        · exact h heq
        · exact hnodup.1 hold

/-- Put a value under a name. -/
def insert (args : NamedArgs) (name : String) (value : Param) : NamedArgs :=
  ⟨insertPair name value args.pairs, nodup_insertPair name value args.pairs args.nodup⟩

/-- The values of pairs taken in order. -/
def ofList (pairs : List (String × Param)) : NamedArgs :=
  pairs.foldl (fun args pair => args.insert pair.1 pair.2) empty

/-- The value under a name. -/
def get? (args : NamedArgs) (name : String) : Option Param := args.pairs.lookup name

/-- A value stands under a name if the arguments hold that pair. -/
theorem get?_eq_some_iff (args : NamedArgs) (name : String) (value : Param) :
    args.get? name = some value ↔ (name, value) ∈ args.pairs := by
  obtain ⟨pairs, hnodup⟩ := args
  unfold get?
  induction pairs with
  | nil => simp
  | cons pair rest ih =>
      obtain ⟨key, held⟩ := pair
      simp only [List.map_cons, List.nodup_cons] at hnodup
      rw [List.lookup_cons, List.mem_cons, Prod.mk.injEq]
      by_cases hkey : name = key
      · subst hkey
        have hrest : (name, value) ∉ rest := fun hmem =>
          hnodup.1 (List.mem_map_of_mem (f := Prod.fst) hmem)
        simp [hrest, eq_comm]
      · have hne : (name == key) = false := by simpa using hkey
        simpa [hne, hkey] using ih hnodup.2

/-- The order of insertion does not matter for the values. -/
theorem get?_perm {args other : NamedArgs} (hperm : other.pairs.Perm args.pairs)
    (name : String) : other.get? name = args.get? name := by
  apply Option.ext
  intro value
  rw [get?_eq_some_iff, get?_eq_some_iff, hperm.mem_iff]

/-- Whether there is a value under a name. -/
def contains (args : NamedArgs) (name : String) : Bool := (args.get? name).isSome

/-- The number of names. -/
def size (args : NamedArgs) : Nat := args.pairs.length

/-- Whether there are no names. -/
def isEmpty (args : NamedArgs) : Bool := args.pairs.isEmpty

/-- Named values as shown to a person. -/
def shown (args : NamedArgs) : String :=
  "NamedArgs(\x7b"
    ++ Text.joinWith ", " (args.pairs.map fun pair => Text.quoted pair.1 ++ ": " ++ pair.2.shown)
    ++ "\x7d)"

end NamedArgs

/-- The arguments of a statement. -/
inductive Arguments
  | none
  | positional (params : List Param)
  | named (args : NamedArgs)
  deriving Inhabited

/-- Arguments as shown to a person. -/
def Arguments.shown : Arguments → String
  | .none => "None"
  | .positional params => "Positional(" ++ Param.bracketed (params.map Param.shown) ++ ")"
  | .named args => "Named(" ++ args.shown ++ ")"

end QueryBatch

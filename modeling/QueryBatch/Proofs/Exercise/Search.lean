import QueryBatch.Proofs.Catalog.Statements
import QueryBatch.Proofs.Sql.Numbering

/-!
# What the statements of the exercise library are bound to

The text of a search is laid out from the fields that its filter has, and its bound text is laid out
in the same way, with numbers for names. So neither depends on what the fields hold. The same goes
for the statements that read, insert and link a single exercise.
-/

namespace QueryBatch

open Sql

namespace Exercise
namespace Query

section Defs

/-- A statement is bound to a text and to values, one for each of its arguments. -/
structure BindsTo (request : Request) (text : String) (params : List Param) : Prop where
  bind : (Arguments.named request.args).bind request.text = .ok ⟨text, params, params.length⟩
  size : request.args.size = params.length
  used : ∀ name, request.args.contains name = true → name ∈ namesIn request.text

/-- The fields of a filter. -/
inductive Field
  | name
  | category
  | equipmentTypes
  | primaryMuscles
  | tags
  deriving DecidableEq

namespace Field

/-- The fields in the order of their predicates. -/
def all : List Field := [.name, .category, .equipmentTypes, .primaryMuscles, .tags]

/-- The name that the value of a field is given under. -/
def key : Field → String
  | .name => "name"
  | .category => "category"
  | .equipmentTypes => "equipmentTypes"
  | .primaryMuscles => "primaryMuscles"
  | .tags => "tags"

/-- The column of a field and the operator that compares it. -/
def test : Field → String
  | .name => "exercise_data.name ILIKE "
  | .category => "exercise_data.category_code = "
  | .equipmentTypes => "exercise_data.equipment_types && "
  | .primaryMuscles => "exercise_data.primary_muscles && "
  | .tags => "exercise_data.tags && "

/-- What the column of a field is compared with, if the filter has the field. A name is looked for
anywhere in the column. -/
def value? (filter : Filter) : Field → Option Param
  | .name => filter.name.map fun name => toParam ("%" ++ name ++ "%")
  | .category => filter.category.map toParam
  | .equipmentTypes => filter.equipmentTypes.map toParam
  | .primaryMuscles => filter.primaryMuscles.map toParam
  | .tags => filter.tags.map toParam

end Field

/-- The fields that a filter has, in order. -/
def present (filter : Filter) : List Field :=
  Field.all.filter fun field => (field.value? filter).isSome

/-- The conditions of a search for fields, where the marker of a value is made from its number and
its name. -/
def conditions (marker : Nat → String → String) (fields : List Field) : String :=
  if fields.isEmpty then "" else "\nWHERE " ++ Text.joinWith "\n    AND "
    (fields.mapIdx fun i field => field.test ++ marker (i + 1) field.key)

/-- A search for fields. -/
def layout (marker : Nat → String → String) (fields : List Field) : String :=
  "SELECT *, COUNT(*) OVER() AS total_count FROM (" ++ exerciseData ++ "\n) AS exercise_data"
    ++ conditions marker fields ++ orderBy
    ++ "\nLIMIT " ++ marker (fields.length + 1) "limit"
    ++ " OFFSET " ++ marker (fields.length + 2) "offset"

/-- A value is marked by its name before it is bound. -/
def atName (_ : Nat) (name : String) : String := "@" ++ name

/-- A value is marked by its number once it is bound. -/
def atNumber (k : Nat) (_ : String) : String := "$" ++ toString k

/-- A text has a condition on the rows of the search. -/
def Restricts (text : String) : Prop := "WHERE exercise_data".toList <:+: text.toList

end Defs

section Binding

variable {request : Request} {names : List String}

theorem contains_iff
    {args : NamedArgs}
    {name : String} :
    args.contains name = true ↔ name ∈ args.pairs.map Prod.fst := by
  rw [NamedArgs.contains, Option.isSome_iff_exists, List.mem_map]
  constructor
  · rintro ⟨value, hvalue⟩
    exact ⟨_, (NamedArgs.get?_eq_some_iff _ _ _).1 hvalue, rfl⟩
  · rintro ⟨pair, hpair, rfl⟩
    exact ⟨_, (NamedArgs.get?_eq_some_iff _ _ _).2 hpair⟩

/-- A statement that mentions each name of its arguments once, and no other, is bound to its values
in the order of its names. -/
theorem bindsTo_of_perm
    (htext : Mentions names request.text)
    (hperm : (request.args.pairs.map Prod.fst).Perm names) :
    BindsTo request (renumbered names request.text) (names.filterMap request.args.get?) := by
  have hvalues : ∀ name ∈ names, (request.args.get? name).isSome := fun name hname =>
    contains_iff.2 (hperm.mem_iff.2 hname)
  have hready : Ready request.args request.text := htext.ready (List.all_eq_true.2 hvalues)
  have hnodup : (namesIn request.text).Nodup := by
    rw [htext.names_eq]
    exact hperm.nodup_iff.1 request.args.nodup
  have hlength : (names.filterMap request.args.get?).length = names.length :=
    List.filterMap_length_eq_length.2 hvalues
  refine ⟨?_, ?_, fun name hname => ?_⟩
  · rw [hready.bind_of_nodup hnodup, htext.names_eq, hlength]
  · rw [hlength, ← hperm.length_eq, List.length_map]
    rfl
  · rw [htext.names_eq]
    exact hperm.subset (contains_iff.1 hname)

theorem binds_byId
    (id : Uuid) :
    BindsTo (byId id) (renumbered ["id"] (byId id).text) [toParam id] :=
  bindsTo_of_perm (mentions_byId id) (.refl _)

theorem binds_insert
    (id : Uuid)
    (exercise : NewExercise) :
    BindsTo (insert id exercise)
      (renumbered ["id", "name", "description", "instructions", "category"]
        (insert id exercise).text)
      [toParam id, toParam exercise.name, toParam exercise.description,
        toParam exercise.instructions, toParam exercise.category] := by
  refine bindsTo_of_perm (mentions_insert id exercise) ?_
  -- the category is given third and mentioned last
  change ["id", "name", "category", "description", "instructions"].Perm _
  decide

theorem binds_link
    (kind : Link)
    (id : Uuid)
    (code : String) :
    BindsTo (link kind id code) (renumbered ["id", "code"] (link kind id code).text)
      [toParam id, toParam code] :=
  bindsTo_of_perm (mentions_link kind id code) (.refl _)

end Binding

section Layout

theorem isName_key
    (field : Field) :
    IsName field.key := by
  cases field <;> exact ⟨_, _, rfl, rfl, rfl⟩

theorem silent_test
    (field : Field) :
    AllChars isSilent field.test := by
  cases field <;> exact .literal rfl

theorem silent_head :
    AllChars isSilent ("SELECT *, COUNT(*) OVER() AS total_count FROM (" ++ exerciseData
      ++ "\n) AS exercise_data") :=
  ((AllChars.literal rfl).append silent_exerciseData).append (.literal rfl)

theorem orderBy_eq :
    orderBy = "\n" ++ "    ORDER BY exercise_data.name COLLATE repbatch.natsort, "
      ++ "exercise_data.external_id" := by
  rfl

theorem silent_orderBy : AllChars isSilent orderBy := by
  rw [orderBy_eq]
  exact ((AllChars.literal rfl).append (.literal rfl)).append (.literal rfl)

theorem breaks_orderBy : Breaks orderBy := by
  rw [orderBy_eq]
  exact ((Breaks.literal rfl).append _).append _

theorem mentions_placeholder
    {name : String}
    (hname : IsName name) :
    Mentions [name] ("@" ++ name) :=
  ⟨ordinary_placeholder hname, namesIn_placeholder hname⟩

theorem atName_eq : atName = fun _ name => "@" ++ name := rfl

theorem mentions_condition
    (field : Field) :
    Mentions [field.key] (field.test ++ ("@" ++ field.key)) :=
  .silent_append (silent_test field) (mentions_placeholder (isName_key field))

/-- The conditions, where the marker of a value is made from its name only. -/
theorem conditions_of_name
    (marker : String → String)
    (fields : List Field) :
    conditions (fun _ => marker) fields = if fields.isEmpty then "" else "\nWHERE " ++
      Text.joinWith "\n    AND " (fields.map fun field => field.test ++ marker field.key) := by
  have hmap : (fields.mapIdx fun _ field => field.test ++ marker field.key)
      = fields.map fun field => field.test ++ marker field.key :=
    List.ext_getElem (by simp) fun i _ _ => by simp
  rw [conditions, hmap]

theorem mentions_conditions
    (fields : List Field) :
    Mentions (fields.map Field.key) (conditions atName fields) := by
  have hconditions : List.Forall₂ Mentions (fields.map fun field => [field.key])
      (fields.map fun field => field.test ++ ("@" ++ field.key)) := by
    rw [List.forall₂_map_left_iff, List.forall₂_map_right_iff, List.forall₂_same]
    exact fun field _ => mentions_condition field
  have hnames : (fields.map fun field => [field.key]).flatten = fields.map Field.key := by
    rw [← List.flatMap_def, List.map_eq_flatMap]
  rw [atName_eq, conditions_of_name]
  cases fields with
  | nil => exact .of_silent (.literal rfl)
  | cons field fields =>
      rw [← hnames]
      exact .silent_append (.literal rfl) (.joinWith (.literal rfl) (.literal rfl) hconditions)

theorem layout_assoc
    (marker : Nat → String → String)
    (fields : List Field) :
    layout marker fields
      = "SELECT *, COUNT(*) OVER() AS total_count FROM (" ++ exerciseData ++ "\n) AS exercise_data"
        ++ (conditions marker fields ++ (orderBy
          ++ ("\nLIMIT " ++ (marker (fields.length + 1) "limit"
            ++ (" OFFSET " ++ marker (fields.length + 2) "offset"))))) := by
  unfold layout
  rw [String.append_assoc, String.append_assoc, String.append_assoc, String.append_assoc,
    String.append_assoc]

/-- The names of a search, in the order of their numbers. -/
theorem mentions_layout
    (fields : List Field) :
    Mentions (fields.map Field.key ++ ["limit", "offset"]) (layout atName fields) := by
  have hlimit : IsName "limit" := ⟨_, _, rfl, rfl, rfl⟩
  have hoffset : IsName "offset" := ⟨_, _, rfl, rfl, rfl⟩
  have hpaging : Mentions ["limit", "offset"]
      (orderBy ++ ("\nLIMIT " ++ ("@limit" ++ (" OFFSET " ++ "@offset")))) :=
    .silent_append silent_orderBy (.silent_append (.literal rfl)
      (.append (mentions_placeholder hlimit)
        (.silent_append (.literal rfl) (mentions_placeholder hoffset))
        ((Breaks.literal rfl).append _)))
  rw [layout_assoc]
  exact .silent_append silent_head ((mentions_conditions fields).append hpaging
    (breaks_orderBy.append _))

theorem renumbered_conditions
    (names : List String)
    (fields : List Field) :
    renumbered names (conditions atName fields)
      = conditions (fun _ name => "$" ++ toString (names.idxOf name + 1)) fields := by
  rw [atName_eq, conditions_of_name, conditions_of_name]
  cases fields with
  | nil => exact renumbered_of_silent (.literal rfl)
  | cons field fields =>
      have hordinary : ∀ part ∈ (field :: fields).map fun field => field.test ++ ("@" ++ field.key),
          AllChars isOrdinary part :=
        List.forall_mem_map.2 fun field _ => (mentions_condition field).ordinary
      have hbound : ((field :: fields).map fun field => field.test ++ ("@" ++ field.key)).map
          (renumbered names) = (field :: fields).map fun field =>
            field.test ++ ("$" ++ toString (names.idxOf field.key + 1)) := by
        rw [List.map_map]
        refine List.map_congr_left fun field _ => ?_
        rw [Function.comp_apply, renumbered_silent_append (silent_test field),
          renumbered_placeholder (isName_key field)]
      change renumbered names ("\nWHERE " ++ _) = "\nWHERE " ++ _
      rw [renumbered_silent_append (.literal rfl),
        renumbered_joinWith (.literal rfl) (.literal rfl) hordinary, hbound]

/-- Numbers come into a search where its names were. -/
theorem renumbered_layout
    (names : List String)
    (fields : List Field) :
    renumbered names (layout atName fields)
      = layout (fun _ name => "$" ++ toString (names.idxOf name + 1)) fields := by
  have hlimit : IsName "limit" := ⟨_, _, rfl, rfl, rfl⟩
  have hoffset : IsName "offset" := ⟨_, _, rfl, rfl, rfl⟩
  have hpaging : renumbered names
      ("\nLIMIT " ++ ("@" ++ "limit" ++ (" OFFSET " ++ ("@" ++ "offset"))))
        = "\nLIMIT " ++ ("$" ++ toString (names.idxOf "limit" + 1)
          ++ (" OFFSET " ++ ("$" ++ toString (names.idxOf "offset" + 1)))) := by
    have hbreaks : Breaks (" OFFSET " ++ ("@" ++ "offset")) := (Breaks.literal rfl).append _
    rw [renumbered_silent_append (.literal rfl),
      renumbered_append (ordinary_placeholder hlimit) hbreaks,
      renumbered_placeholder hlimit, renumbered_silent_append (.literal rfl),
      renumbered_placeholder hoffset]
  rw [layout_assoc, layout_assoc, renumbered_silent_append silent_head,
    renumbered_append (mentions_conditions fields).ordinary (breaks_orderBy.append _),
    renumbered_conditions, renumbered_silent_append silent_orderBy]
  exact congrArg _ (congrArg _ (congrArg _ hpaging))

/-- In the names of a search each name has its place as its number. -/
theorem layout_idxOf
    {fields : List Field}
    {names : List String}
    (hnames : names = fields.map Field.key ++ ["limit", "offset"])
    (hnodup : names.Nodup) :
    layout (fun _ name => "$" ++ toString (names.idxOf name + 1)) fields
      = layout atNumber fields := by
  have hidx : ∀ i name, names[i]? = some name → names.idxOf name = i := by
    intro i name hname
    obtain ⟨hlt, rfl⟩ := List.getElem?_eq_some_iff.1 hname
    exact hnodup.idxOf_getElem i hlt
  have hlimit : names.idxOf "limit" = fields.length := hidx _ _ (by simp [hnames])
  have hoffset : names.idxOf "offset" = fields.length + 1 := hidx _ _ (by simp [hnames])
  have hconditions : conditions (fun _ name => "$" ++ toString (names.idxOf name + 1)) fields
      = conditions atNumber fields := by
    unfold conditions
    congr 3
    refine List.ext_getElem (by simp) fun i hi _ => ?_
    rw [List.length_mapIdx] at hi
    have hkey : names.idxOf fields[i].key = i := by
      refine hidx _ _ ?_
      rw [hnames, List.getElem?_append_left (by simpa using hi), List.getElem?_map,
        List.getElem?_eq_getElem hi, Option.map_some]
    simp [hkey, atNumber]
  unfold layout
  dsimp only
  rw [hconditions, hlimit, hoffset]
  rfl

end Layout
section Fields

variable (filter : Filter)

/-- The predicate of a field with a value. -/
def Field.predicate (field : Field) (value : Param) : Predicate :=
  ⟨field.test ++ ("@" ++ field.key), field.key, value⟩

/-- The fields that a filter has, with what they are compared with. -/
def given : List (Field × Param) :=
  Field.all.filterMap fun field => (field.value? filter).map (field, ·)

theorem map_fst_given :
    (given filter).map Prod.fst = present filter := by
  unfold given present
  rw [List.map_filterMap, ← List.filterMap_eq_filter]
  refine List.filterMap_congr fun field _ => ?_
  cases hvalue : field.value? filter <;> simp [Option.guard, hvalue]

theorem map_snd_given :
    (given filter).map Prod.snd = Field.all.filterMap (Field.value? filter) := by
  unfold given
  rw [List.map_filterMap]
  refine List.filterMap_congr fun field _ => ?_
  cases field.value? filter <;> rfl

theorem predicates_eq :
    predicates filter = (given filter).map fun pair => pair.1.predicate pair.2 := by
  obtain ⟨name, category, equipmentTypes, primaryMuscles, tags⟩ := filter
  cases name <;> cases category <;> cases equipmentTypes <;> cases primaryMuscles <;> cases tags
    <;> rfl

/-- The names of a search are distinct. -/
theorem nodup_names :
    ((present filter).map Field.key ++ ["limit", "offset"]).Nodup := by
  have hall : (Field.all.map Field.key ++ ["limit", "offset"]).Nodup := by decide
  exact hall.sublist ((List.filter_sublist.map _).append (List.Sublist.refl _))

theorem whereClause_eq :
    whereClause (predicates filter) = conditions atName (present filter) := by
  have hempty : ((given filter).map fun pair => pair.1.predicate pair.2).isEmpty
      = ((given filter).map Prod.fst).isEmpty := by rw [List.isEmpty_map, List.isEmpty_map]
  rw [atName_eq, conditions_of_name, ← map_fst_given, predicates_eq, whereClause, hempty,
    List.map_map, List.map_map]
  rfl

theorem text_search
    (page : Page) :
    (search filter page).text = layout atName (present filter) := by
  rw [layout_assoc, ← whereClause_eq]
  unfold search
  dsimp only
  rw [String.append_assoc, String.append_assoc]
  rfl

theorem pairs_search
    (page : Page) :
    (search filter page).args.pairs = (given filter).map (fun pair => (pair.1.key, pair.2))
      ++ [("limit", .int page.limit), ("offset", .int page.offset)] := by
  have hpairs : (predicates filter).map (fun p => (p.name, p.value))
      = (given filter).map fun pair => (pair.1.key, pair.2) := by
    rw [predicates_eq, List.map_map]
    rfl
  have hnames : ((given filter).map fun pair => (pair.1.key, pair.2)).map Prod.fst
      = (present filter).map Field.key := by
    rw [← map_fst_given, List.map_map, List.map_map]
    rfl
  unfold search
  dsimp only
  rw [hpairs]
  refine NamedArgs.pairs_ofList ?_
  rw [List.map_append, hnames]
  exact nodup_names filter

/-- A search is bound to its layout with numbers, and to the values of its filter and page. -/
theorem binds_search
    (page : Page) :
    BindsTo (search filter page) (layout atNumber (present filter))
      (Field.all.filterMap (Field.value? filter) ++ [.int page.limit, .int page.offset]) := by
  have htext : Mentions ((present filter).map Field.key ++ ["limit", "offset"])
      (search filter page).text := by
    rw [text_search]
    exact mentions_layout (present filter)
  have hnames : (search filter page).args.pairs.map Prod.fst
      = (present filter).map Field.key ++ ["limit", "offset"] := by
    rw [pairs_search, List.map_append, ← map_fst_given, List.map_map, List.map_map]
    rfl
  have hvalues : ((present filter).map Field.key ++ ["limit", "offset"]).filterMap
      (search filter page).args.get?
        = Field.all.filterMap (Field.value? filter) ++ [.int page.limit, .int page.offset] := by
    rw [← hnames, NamedArgs.filterMap_get?, pairs_search, List.map_append, List.map_map,
      ← map_snd_given]
    rfl
  have hbinds := bindsTo_of_perm htext (.of_eq hnames)
  rwa [hvalues, text_search, renumbered_layout, layout_idxOf rfl (nodup_names filter)] at hbinds

theorem length_values :
    (Field.all.filterMap (Field.value? filter)).length = (present filter).length := by
  rw [← map_snd_given, ← map_fst_given, List.length_map, List.length_map]

theorem present_eq_nil_iff :
    present filter = [] ↔ filter.isEmpty = true := by
  constructor
  · intro hnil
    have hnone : ∀ field, Field.value? filter field = none := by
      intro field
      have hmem : field ∈ Field.all := by cases field <;> decide
      simpa using List.filter_eq_nil_iff.1 hnil field hmem
    have hname := Option.map_eq_none_iff.1 (hnone .name)
    have hcategory := Option.map_eq_none_iff.1 (hnone .category)
    have hequipment := Option.map_eq_none_iff.1 (hnone .equipmentTypes)
    have hmuscles := Option.map_eq_none_iff.1 (hnone .primaryMuscles)
    have htags := Option.map_eq_none_iff.1 (hnone .tags)
    obtain ⟨name, category, equipmentTypes, primaryMuscles, tags⟩ := filter
    dsimp only at hname hcategory hequipment hmuscles htags
    subst hname hcategory hequipment hmuscles htags
    rfl
  · intro hempty
    have hfilter : filter = {} := of_decide_eq_true hempty
    rw [hfilter]
    rfl

end Fields
section Conditions

variable {s t : String}

theorem not_restricts_literal
    {cs : List Char}
    (hcs : cs.tails.any (List.isPrefixOf
      ['W', 'H', 'E', 'R', 'E', ' ', 'e', 'x', 'e', 'r', 'c', 'i', 's', 'e', '_', 'd', 'a', 't', 'a'])
        = false) :
    ¬ Restricts (String.ofList cs) := by
  intro hinfix
  rw [Restricts, String.toList_ofList, String.toList_ofList] at hinfix
  obtain ⟨tail, hprefix, hsuffix⟩ := List.infix_iff_prefix_suffix.1 hinfix
  have hnone := List.any_eq_false.1 hcs tail ((List.mem_tails _ _).2 hsuffix)
  exact hnone (List.isPrefixOf_iff_prefix.2 hprefix)

/-- Where a line ends, no condition on the rows goes on. -/
theorem not_restricts_append
    (hs : ¬ Restricts s)
    (ht : ¬ Restricts t)
    (hline : ∃ rest, t.toList = '\n' :: rest) :
    ¬ Restricts (s ++ t) := by
  obtain ⟨rest, hlist⟩ := hline
  intro hinfix
  rw [Restricts, String.toList_append, List.infix_append_iff_ne_nil] at hinfix
  rcases hinfix with hinfix | hinfix | ⟨left, right, -, hright, heq, -, hprefix⟩
  · exact hs hinfix
  · exact ht hinfix
  · -- the part beyond would begin with the line break
    obtain ⟨c, others, rfl⟩ := List.exists_cons_of_ne_nil hright
    rw [hlist, List.cons_prefix_cons] at hprefix
    obtain ⟨rfl, -⟩ := hprefix
    have hmem : '\n' ∈ "WHERE exercise_data".toList := by
      rw [heq]
      exact List.mem_append_right _ List.mem_cons_self
    exact absurd hmem (by decide)

theorem not_restricts_break
    (ht : ¬ Restricts t) :
    ¬ Restricts ("\n" ++ t) := by
  intro hinfix
  rw [Restricts, String.toList_append] at hinfix
  rcases List.infix_cons_iff.1 hinfix with hprefix | hinfix
  · exact absurd (List.cons_prefix_cons.1 hprefix).1 (by decide)
  · exact ht hinfix

theorem not_restricts_lines
    {ls : List String}
    (hls : ∀ l ∈ ls, ¬ Restricts l) :
    ¬ Restricts (lines ls) := by
  unfold lines Text.joinWith
  induction ls with
  | nil => exact (by decide : ¬ "WHERE exercise_data".toList <:+: "".toList)
  | cons l ls ih =>
      have hrest := ih fun other hother => hls other (List.mem_cons_of_mem _ hother)
      have hl := hls l List.mem_cons_self
      cases ls with
      | nil => simpa using hl
      | cons next others =>
          rw [String.intercalate_cons_cons, String.append_assoc]
          exact not_restricts_append hl (not_restricts_break hrest)
            ⟨_, by rw [String.toList_append]; rfl⟩

theorem line_lines
    (l : String)
    (ls : List String) :
    ∃ rest, (lines ("" :: l :: ls)).toList = '\n' :: rest := by
  refine ⟨(Text.joinWith "\n" (l :: ls)).toList, ?_⟩
  unfold lines Text.joinWith
  rw [String.intercalate_cons_cons, String.toList_append, String.toList_append]
  rfl

theorem not_restricts_exerciseData : ¬ Restricts exerciseData := by
  refine not_restricts_lines ?_
  simp only [List.forall_mem_cons, List.not_mem_nil, IsEmpty.forall_iff, implies_true, and_true]
  and_intros <;> exact not_restricts_literal rfl

/-- A search for no fields has no condition. -/
theorem not_restricts_layout_nil
    {marker : Nat → String → String}
    (hpaging : ¬ Restricts
      ("\nLIMIT " ++ (marker 1 "limit" ++ (" OFFSET " ++ marker 2 "offset")))) :
    ¬ Restricts (layout marker []) := by
  have horder : ¬ Restricts orderBy := by
    refine not_restricts_lines ?_
    simp only [List.forall_mem_cons, List.not_mem_nil, IsEmpty.forall_iff, implies_true, and_true]
    and_intros <;> exact not_restricts_literal rfl
  have hselect : ¬ Restricts "SELECT *, COUNT(*) OVER() AS total_count FROM (" :=
    not_restricts_literal rfl
  have hclose : ¬ Restricts "\n) AS exercise_data" := not_restricts_literal rfl
  have hhead := not_restricts_append
    (not_restricts_append hselect not_restricts_exerciseData (line_lines _ _)) hclose ⟨_, rfl⟩
  have htail := not_restricts_append horder hpaging
    ⟨_, by rw [String.toList_append]; rfl⟩
  obtain ⟨rest, hline⟩ := line_lines
    "    ORDER BY exercise_data.name COLLATE repbatch.natsort, exercise_data.external_id" []
  have hnone : conditions marker [] = "" := rfl
  rw [layout_assoc, hnone, String.empty_append]
  exact not_restricts_append hhead htail ⟨_, by rw [String.toList_append, orderBy, hline]; rfl⟩

theorem toList_joinWith_cons
    (sep part : String)
    (parts : List String) :
    ∃ rest, (Text.joinWith sep (part :: parts)).toList = part.toList ++ rest := by
  unfold Text.joinWith
  cases parts with
  | nil => exact ⟨[], by simp⟩
  | cons next others =>
      rw [String.intercalate_cons_cons, String.append_assoc, String.toList_append]
      exact ⟨_, rfl⟩

theorem Restricts.within
    (ht : Restricts t)
    (s u : String) :
    Restricts (s ++ (t ++ u)) := by
  unfold Restricts
  rw [String.toList_append, String.toList_append]
  exact List.infix_append_of_infix_right (List.infix_append_of_infix_left ht)

/-- A search for fields has a condition. -/
theorem restricts_layout
    (marker : Nat → String → String)
    {fields : List Field}
    (hfields : fields ≠ []) :
    Restricts (layout marker fields) := by
  have hconditions : Restricts (conditions marker fields) := by
    obtain ⟨field, fields, rfl⟩ := List.exists_cons_of_ne_nil hfields
    obtain ⟨column, htest⟩ : ∃ rest, field.test.toList = "exercise_data".toList ++ rest := by
      cases field <;> exact ⟨_, rfl⟩
    obtain ⟨rest, hjoined⟩ := toList_joinWith_cons "\n    AND "
      (field.test ++ marker (0 + 1) field.key)
      (fields.mapIdx fun i field => field.test ++ marker (i + 1 + 1) field.key)
    rw [String.toList_append, htest, List.append_assoc, List.append_assoc] at hjoined
    change "WHERE exercise_data".toList
      <:+: ("\nWHERE " ++ Text.joinWith _ (List.mapIdx _ _)).toList
    rw [List.mapIdx_cons, String.toList_append, hjoined]
    exact ⟨['\n'], _, rfl⟩
  rw [layout_assoc]
  exact hconditions.within _ _

theorem restricts_layout_iff
    (filter : Filter)
    {marker : Nat → String → String}
    (hpaging : ¬ Restricts
      ("\nLIMIT " ++ (marker 1 "limit" ++ (" OFFSET " ++ marker 2 "offset")))) :
    ¬ Restricts (layout marker (present filter)) ↔ filter.isEmpty = true := by
  rw [← present_eq_nil_iff]
  constructor
  · exact fun hnone => by_contra fun hfields => hnone (restricts_layout marker hfields)
  · intro hnil
    rw [hnil]
    exact not_restricts_layout_nil hpaging

end Conditions
section Main

/-- The statements of the library can always be bound, to texts that no value comes into.

The text of a search is laid out from the fields of its filter: each adds one condition, in a fixed
order, and without any there is no condition on the rows at all. Its values are those of the fields,
then the limit and the offset of the page, and all of them have their placeholders. Filters with the
same fields give the same texts, before and after binding, whatever the fields hold and whichever
page is asked for. The statements that read, insert and link an exercise each have one text, bound
and unbound, for all identifiers, exercises and codes. -/
theorem values_stay_out_of_texts :
    (∀ filter page,
      (search filter page).text = layout atName (present filter) ∧
      BindsTo (search filter page) (layout atNumber (present filter))
        (Field.all.filterMap (Field.value? filter) ++ [.int page.limit, .int page.offset]) ∧
      (search filter page).args.size = (present filter).length + 2 ∧
      (¬ Restricts (layout atName (present filter)) ↔ filter.isEmpty = true) ∧
      (¬ Restricts (layout atNumber (present filter)) ↔ filter.isEmpty = true)) ∧
    (∀ filter filter' page page',
      (∀ field, (Field.value? filter field).isSome = (Field.value? filter' field).isSome) →
      (search filter page).text = (search filter' page').text ∧
      ∃ bound params params', BindsTo (search filter page) bound params ∧
        BindsTo (search filter' page') bound params') ∧
    (∃ text bound, ∀ id,
      (byId id).text = text ∧ BindsTo (byId id) bound [toParam id]) ∧
    (∃ text bound, ∀ id exercise,
      (insert id exercise).text = text ∧
      BindsTo (insert id exercise) bound [toParam id, toParam exercise.name,
        toParam exercise.description, toParam exercise.instructions, toParam exercise.category]) ∧
    ∀ kind, ∃ text bound, ∀ id code,
      (link kind id code).text = text ∧
      BindsTo (link kind id code) bound [toParam id, toParam code] := by
  refine ⟨fun filter page => ⟨text_search filter page, binds_search filter page, ?_, ?_, ?_⟩,
    fun filter filter' page page' hsame => ?_, ?_, ?_, fun kind => ?_⟩
  · rw [(binds_search filter page).size, List.length_append, length_values]
    rfl
  · refine restricts_layout_iff filter ?_
    unfold Restricts
    decide +kernel
  · refine restricts_layout_iff filter ?_
    unfold Restricts
    decide +kernel
  · have hpresent : present filter = present filter' :=
      List.filter_congr fun field _ => hsame field
    have hbinds := binds_search filter' page'
    rw [← hpresent] at hbinds
    refine ⟨?_, layout atNumber (present filter), _, _, binds_search filter page, hbinds⟩
    rw [text_search, text_search, hpresent]
  · exact ⟨(byId default).text, renumbered _ (byId default).text, fun id =>
      ⟨rfl, binds_byId id⟩⟩
  · exact ⟨(insert default default).text, renumbered _ (insert default default).text,
      fun id exercise => ⟨rfl, binds_insert id exercise⟩⟩
  · exact ⟨(link kind default default).text, renumbered _ (link kind default default).text,
      fun id code => ⟨rfl, binds_link kind id code⟩⟩

/-- A name that looks like a placeholder and a comment, and an empty one. -/
theorem values_stay_out_of_odd_texts :
    let blank : Filter := { name := some "", tags := some [] }
    let odd : Filter := { name := some "@limit --", tags := some ["@offset"] }
    (search blank default).text = (search odd default).text ∧
      ∃ bound params params', BindsTo (search blank default) bound params ∧
        BindsTo (search odd default) bound params' := by
  obtain ⟨-, hsame, -⟩ := values_stay_out_of_texts
  refine hsame _ _ default default fun field => ?_
  cases field <;> rfl

end Main
end Query
end Exercise
end QueryBatch

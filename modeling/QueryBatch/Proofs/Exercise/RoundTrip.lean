import Mathlib
import QueryBatch.Exercise.Page
import QueryBatch.Exercise.Record
import QueryBatch.Proofs.Json.Lists
import QueryBatch.Proofs.Json.Outcomes
import QueryBatch.Proofs.Timestamp
import QueryBatch.Proofs.Uuid

/-!
# The records of the library are read back

A page, a filter, an exercise to add and an exercise are each read from what is written of them, on
one line or over several. A filter writes an absent list as null and an empty one as an empty list,
so the two stay apart. An exercise is written exactly if the form of RFC 3339 has room for its
timestamps (`Exercise.exists_toJson_iff`).

A timestamp is read only if the form has room for it, so every exercise that was read is written
again, and read as itself (`Exercise.readsBack_of_onText`).
-/

namespace QueryBatch

namespace Json

open Reader

/-- The datum is read from the texts of a value, on one line and over several. -/
def ReadsBack (reader : Reader α) (v : Json) (a : α) : Prop :=
  reader.onText v.compact = .ok a ∧ reader.onText v.pretty = .ok a

theorem Decodes.readsBack
    {height : Nat}
    {reader : Reader α}
    {v : Json}
    {a : α}
    (h : Decodes height reader v a)
    (hheight : height < 128)
    (hexact : v.isExact = true) :
    ReadsBack reader v a := by
  have hline := h.onText hheight (spells_render v hexact) Blank.nil
  have hlines := h.onText hheight (spells_renderLines 0 v hexact) Blank.nil
  rw [List.append_nil] at hline hlines
  exact ⟨hline, hlines⟩

/-- Data that are read back from the same text are the same. -/
theorem ReadsBack.eq_of_text
    {reader : Reader α}
    {v w : Json}
    {a b : α}
    (ha : ReadsBack reader v a)
    (hb : ReadsBack reader w b)
    (htext : v.compact = w.compact ∨ v.pretty = w.pretty) :
    a = b := by
  rcases htext with htext | htext
  · exact Except.ok.inj (ha.1.symm.trans (htext ▸ hb.1))
  · exact Except.ok.inj (ha.2.symm.trans (htext ▸ hb.2))

theorem isExact_strings
    (ss : List String) :
    (strings ss).isExact = true := by
  unfold strings isExact
  induction ss with
  | nil => rfl
  | cons s ss ih => exact ih

theorem isExact_ofOption
    {f : α → Json}
    (hf : ∀ a, (f a).isExact = true)
    (datum : Option α) :
    (ofOption f datum).isExact = true := by
  cases datum with
  | none => rfl
  | some a => exact hf a

/-- Null is nothing, and any other value is a datum. -/
theorem decodes_ofOption
    {height : Nat}
    {reader : Reader α}
    {f : α → Json}
    (hread : ∀ a, Decodes height reader (f a) a)
    (hf : ∀ a, f a ≠ .null)
    (datum : Option α) :
    Decodes height (optional reader) (ofOption f datum) datum := by
  cases datum with
  | none => exact (decodes_optional_null reader).mono (Nat.zero_le height)
  | some a => exact (hread a).optional (hf a)

theorem decodes_text
    (s : String) :
    Decodes 1 Reader.string (.string s) s :=
  (decodes_string s).mono (Nat.zero_le 1)

theorem decodes_optional_text
    (datum : Option String) :
    Decodes 1 (optional Reader.string) (ofOption .string datum) datum :=
  decodes_ofOption decodes_text (fun _ => by simp) datum

theorem decodes_optional_strings
    (datum : Option (List String)) :
    Decodes 1 (optional readStrings) (ofOption strings datum) datum :=
  decodes_ofOption decodes_strings (fun _ => by simp [strings]) datum

end Json

open Json Json.Reader

namespace Page

theorem decodes_positive
    {n : Nat}
    (hpos : 0 < n)
    (hlt : n < 1 <<< 32) :
    Decodes 0 positive (.nat n) n :=
  decodes_natural hpos (Nat.le_sub_one_of_lt hlt) (by decide) _

theorem decodes_reader
    (page : Page) :
    Decodes 1 reader page.toJson page := by
  have hsize := decodes_positive page.size_pos page.size_lt
  have hnumber := decodes_positive page.number_pos page.number_lt
  have hfills : Fills 0 shape {} [("size", .nat page.size), ("number", .nat page.number)]
      ⟨some page.size, some page.number⟩ :=
    .field rfl rfl (hsize.bind (Reads.pure _)) <|
    .field rfl rfl (hnumber.bind (Reads.pure _)) <|
    .done _
  have hpage : (of? page.size page.number).getD default = page := by
    rw [of?, dif_pos ⟨page.size_pos, page.number_pos, page.size_lt, page.number_lt⟩]
    rfl
  refine (decodes_record hfills rfl).bind fun levels rest => ?_
  simp only [Option.getD_some, hpage]
  exact Reads.pure page levels rest

theorem readsBack
    (page : Page) :
    ReadsBack reader page.toJson page :=
  page.decodes_reader.readsBack (by decide) rfl

end Page

namespace Filter

theorem decodes_reader
    (f : Filter) :
    Decodes 2 reader f.toJson f := by
  have hfills : Fills 1 shape {}
      [("name", ofOption .string f.name), ("category", ofOption .string f.category),
        ("equipmentTypes", ofOption strings f.equipmentTypes),
        ("primaryMuscles", ofOption strings f.primaryMuscles), ("tags", ofOption strings f.tags)]
      ⟨some f.name, some f.category, some f.equipmentTypes, some f.primaryMuscles, some f.tags⟩ :=
    .optional rfl rfl (decodes_optional_text _) <|
    .optional rfl rfl (decodes_optional_text _) <|
    .optional rfl rfl (decodes_optional_strings _) <|
    .optional rfl rfl (decodes_optional_strings _) <|
    .optional rfl rfl (decodes_optional_strings _) <|
    .done _
  exact (decodes_record hfills rfl).bind (Reads.pure f)

theorem isExact_toJson
    (f : Filter) :
    f.toJson.isExact = true := by
  have htext (datum : Option String) : (ofOption Json.string datum).isExact = true :=
    isExact_ofOption (fun _ => rfl) datum
  have hlist (datum : Option (List String)) : (ofOption strings datum).isExact = true :=
    isExact_ofOption isExact_strings datum
  simp [toJson, isExact, exactFields, htext, hlist]

theorem readsBack
    (f : Filter) :
    ReadsBack reader f.toJson f :=
  f.decodes_reader.readsBack (by decide) f.isExact_toJson

end Filter

namespace NewExercise

theorem decodes_reader
    (e : NewExercise) :
    Decodes 2 reader e.toJson e := by
  have hfills : Fills 1 shape {}
      [("name", .string e.name), ("category", .string e.category),
        ("description", ofOption .string e.description), ("instructions", strings e.instructions),
        ("equipmentTypes", strings e.equipmentTypes), ("primaryMuscles", strings e.primaryMuscles),
        ("tags", strings e.tags)]
      ⟨some e.name, some e.category, some e.description, some e.instructions,
        some e.equipmentTypes, some e.primaryMuscles, some e.tags⟩ :=
    .required rfl rfl (decodes_text _) <|
    .required rfl rfl (decodes_text _) <|
    .default rfl rfl (decodes_optional_text _) <|
    .default rfl rfl (decodes_strings _) <|
    .default rfl rfl (decodes_strings _) <|
    .default rfl rfl (decodes_strings _) <|
    .default rfl rfl (decodes_strings _) <|
    .done _
  exact (decodes_record hfills rfl).bind (Reads.pure e)

theorem isExact_toJson
    (e : NewExercise) :
    e.toJson.isExact = true := by
  have htext : (ofOption Json.string e.description).isExact = true :=
    isExact_ofOption (fun _ => rfl) _
  simp [toJson, isExact, exactFields, htext, isExact_strings]

theorem readsBack
    (e : NewExercise) :
    ReadsBack reader e.toJson e :=
  e.decodes_reader.readsBack (by decide) e.isExact_toJson

end NewExercise

namespace Exercise

/-- Both timestamps are dates and times that exist. -/
structure IsReal (e : Exercise) : Prop where
  createdAt : e.createdAt.IsReal
  updatedAt : e.updatedAt.IsReal

/-- The form of RFC 3339 has room for both timestamps. -/
structure IsExpressible (e : Exercise) : Prop where
  createdAt : e.createdAt.IsExpressible
  updatedAt : e.updatedAt.IsExpressible

theorem decodes_id
    (u : Uuid) :
    Decodes 1 Uuid.reader (.string u.text) u := by
  refine (decodes_stringAs ?_ _).mono (Nat.zero_le 1)
  rw [Uuid.parse_text]

theorem decodes_timestamp
    {s : String}
    {t : Timestamp}
    (hread : Timestamp.parse s = .ok t) :
    Decodes 1 Timestamp.reader (.string s) t := by
  refine (decodes_stringAs ?_ _).mono (Nat.zero_le 1)
  rw [hread]

/-- What is written of an exercise whose timestamps have these texts. -/
def record (e : Exercise) (createdAt updatedAt : String) : List (String × Json) :=
  [("id", .string e.id.text), ("name", .string e.name), ("category", .string e.category),
    ("description", ofOption .string e.description), ("instructions", strings e.instructions),
    ("equipmentTypes", strings e.equipmentTypes), ("primaryMuscles", strings e.primaryMuscles),
    ("tags", strings e.tags), ("createdAt", .string createdAt), ("updatedAt", .string updatedAt)]

theorem decodes_reader
    {e : Exercise}
    {createdAt updatedAt : String}
    (hcreated : Timestamp.parse createdAt = .ok e.createdAt)
    (hupdated : Timestamp.parse updatedAt = .ok e.updatedAt) :
    Decodes 2 reader (.object (e.record createdAt updatedAt)) e := by
  have hfills : Fills 1 shape {} (e.record createdAt updatedAt)
      ⟨some e.id, some e.name, some e.category, some e.description, some e.instructions,
        some e.equipmentTypes, some e.primaryMuscles, some e.tags, some e.createdAt,
        some e.updatedAt⟩ :=
    .required rfl rfl (decodes_id _) <|
    .required rfl rfl (decodes_text _) <|
    .required rfl rfl (decodes_text _) <|
    .optional rfl rfl (decodes_optional_text _) <|
    .required rfl rfl (decodes_strings _) <|
    .required rfl rfl (decodes_strings _) <|
    .required rfl rfl (decodes_strings _) <|
    .required rfl rfl (decodes_strings _) <|
    .required rfl rfl (decodes_timestamp hcreated) <|
    .required rfl rfl (decodes_timestamp hupdated) <|
    .done _
  exact (decodes_record hfills rfl).bind (Reads.pure e)

theorem isExact_record
    (e : Exercise)
    (createdAt updatedAt : String) :
    (Json.object (e.record createdAt updatedAt)).isExact = true := by
  have htext : (ofOption Json.string e.description).isExact = true :=
    isExact_ofOption (fun _ => rfl) _
  simp [record, isExact, exactFields, htext, isExact_strings]

/-- An exercise whose timestamps exist and have a form is written, and read as itself. -/
theorem readsBack
    {e : Exercise}
    (hreal : e.IsReal)
    (hexpressible : e.IsExpressible) :
    ∃ v, e.toJson = .ok v ∧ ReadsBack reader v e := by
  obtain ⟨createdAt, hcreated, hcreatedBack⟩ :=
    Timestamp.parse_text hreal.createdAt hexpressible.createdAt
  obtain ⟨updatedAt, hupdated, hupdatedBack⟩ :=
    Timestamp.parse_text hreal.updatedAt hexpressible.updatedAt
  refine ⟨.object (e.record createdAt updatedAt), ?_, ?_⟩
  · simp only [toJson, hcreated, hupdated]
    rfl
  · exact (decodes_reader hcreatedBack hupdatedBack).readsBack (by decide)
      (e.isExact_record createdAt updatedAt)

theorem yields_timestamp :
    Yields Timestamp.reader Timestamp.IsParsed := by
  refine yields_stringAs (fun s t hmeaning => ?_) _
  split at hmeaning
  · next heq =>
      cases hmeaning
      exact Timestamp.isParsed_of_parse heq
  · cases hmeaning

/-- The timestamps of an exercise that is being read were read. -/
structure Draft.IsParsed (d : Draft) : Prop where
  createdAt : ∀ t ∈ d.createdAt, t.IsParsed
  updatedAt : ∀ t ∈ d.updatedAt, t.IsParsed

/-- Only two of the fields are timestamps, and both are read by their reader. -/
theorem keeps_isParsed :
    shape.Keeps Draft.IsParsed where
  start := ⟨fun t ht => (by cases ht), fun t ht => (by cases ht)⟩
  read := by
    intro field hfield d hd
    simp only [shape, List.mem_cons, List.not_mem_nil, or_false] at hfield
    rcases hfield with rfl | rfl | rfl | rfl | rfl | rfl | rfl | rfl | rfl | rfl
    iterate 8
      exact Yields.after fun a => Yields.pure
        ⟨⟨hd.createdAt, hd.updatedAt⟩, rfl, by simp [shape, requiredField, optionalField]⟩
    · exact yields_timestamp.bind fun t ht => Yields.pure
        ⟨⟨fun u hu => Option.some.inj hu ▸ ht, hd.updatedAt⟩, rfl,
          by simp [shape, requiredField, optionalField]⟩
    · exact yields_timestamp.bind fun t ht => Yields.pure
        ⟨⟨hd.createdAt, fun u hu => Option.some.inj hu ▸ ht⟩, rfl,
          by simp [shape, requiredField, optionalField]⟩
  absent := by
    intro field hfield d hd next hnext
    simp only [shape, List.mem_cons, List.not_mem_nil, or_false] at hfield
    rcases hfield with rfl | rfl | rfl | rfl | rfl | rfl | rfl | rfl | rfl | rfl
    all_goals cases hnext
    exact ⟨⟨hd.createdAt, hd.updatedAt⟩, rfl, by simp [shape, requiredField, optionalField]⟩
  omitted := by
    intro field hfield d hd next hnext
    simp only [shape, List.mem_cons, List.not_mem_nil, or_false] at hfield
    rcases hfield with rfl | rfl | rfl | rfl | rfl | rfl | rfl | rfl | rfl | rfl
    all_goals cases hnext

theorem isParsed_of_onText
    {text : String}
    {e : Exercise}
    (hread : reader.onText text = .ok e) :
    e.createdAt.IsParsed ∧ e.updatedAt.IsParsed := by
  have hyields : Yields reader fun e => e.createdAt.IsParsed ∧ e.updatedAt.IsParsed := by
    refine (yields_record keeps_isParsed).bind fun d hd => Yields.pure ?_
    obtain ⟨hparsed, hpresent⟩ := hd
    have hcreated : d.createdAt.isSome = true := hpresent shape.fields[8] (List.getElem_mem _)
    have hupdated : d.updatedAt.isSome = true := hpresent shape.fields[9] (List.getElem_mem _)
    obtain ⟨createdAt, hcreated⟩ := Option.isSome_iff_exists.1 hcreated
    obtain ⟨updatedAt, hupdated⟩ := Option.isSome_iff_exists.1 hupdated
    rw [hcreated, hupdated]
    exact ⟨hparsed.createdAt createdAt hcreated, hparsed.updatedAt updatedAt hupdated⟩
  exact hyields.onText hread

/-- An exercise that was read is written again, and read as itself. -/
theorem readsBack_of_onText
    {text : String}
    {e : Exercise}
    (hread : reader.onText text = .ok e) :
    ∃ v, e.toJson = .ok v ∧ ReadsBack reader v e := by
  obtain ⟨createdAt, updatedAt⟩ := isParsed_of_onText hread
  exact readsBack ⟨createdAt.real, updatedAt.real⟩ ⟨createdAt.expressible, updatedAt.expressible⟩

/-- An exercise is written exactly if the form of RFC 3339 has room for both timestamps. -/
theorem exists_toJson_iff
    {e : Exercise} :
    (∃ v, e.toJson = .ok v) ↔ e.IsExpressible := by
  constructor
  · rintro ⟨v, hv⟩
    unfold toJson at hv
    split at hv
    · next createdAt updatedAt hcreated hupdated =>
        exact ⟨Timestamp.exists_text_iff.1 ⟨createdAt, hcreated⟩,
          Timestamp.exists_text_iff.1 ⟨updatedAt, hupdated⟩⟩
    · cases hv
    · cases hv
  · intro hexpressible
    obtain ⟨createdAt, hcreated⟩ := Timestamp.exists_text_iff.2 hexpressible.createdAt
    obtain ⟨updatedAt, hupdated⟩ := Timestamp.exists_text_iff.2 hexpressible.updatedAt
    refine ⟨.object (e.record createdAt updatedAt), ?_⟩
    simp only [toJson, hcreated, hupdated]
    rfl

end Exercise

section Library

/-- Every page, filter and exercise to add is read from what is written of it, and so is every
exercise whose timestamps exist and have a form. What was read from any text, written and read
again is the same. A filter without a list and a filter with an empty one have different texts. -/
theorem records_read_back :
    (∀ f : Filter, ReadsBack Filter.reader f.toJson f) ∧
    (∀ e : NewExercise, ReadsBack NewExercise.reader e.toJson e) ∧
    (∀ page : Page, ReadsBack Page.reader page.toJson page) ∧
    (∀ e : Exercise, e.IsReal → e.IsExpressible →
      ∃ v, e.toJson = .ok v ∧ ReadsBack Exercise.reader v e) ∧
    (∀ text : String,
      (∀ f, Filter.reader.onText text = .ok f → ReadsBack Filter.reader f.toJson f) ∧
      (∀ e, NewExercise.reader.onText text = .ok e → ReadsBack NewExercise.reader e.toJson e) ∧
      (∀ page, Page.reader.onText text = .ok page → ReadsBack Page.reader page.toJson page) ∧
      (∀ e, Exercise.reader.onText text = .ok e →
        ∃ v, e.toJson = .ok v ∧ ReadsBack Exercise.reader v e)) ∧
    (∀ (f g : Filter) (list : Filter → Option (List String)), list f = none → list g = some [] →
      f.toJson.compact ≠ g.toJson.compact ∧ f.toJson.pretty ≠ g.toJson.pretty) := by
  refine ⟨Filter.readsBack, NewExercise.readsBack, Page.readsBack, fun e => Exercise.readsBack,
    fun text => ⟨fun f _ => f.readsBack, fun e _ => e.readsBack, fun page _ => page.readsBack,
      fun e => Exercise.readsBack_of_onText⟩, ?_⟩
  intro f g list hnone hempty
  have hne : f ≠ g := by
    rintro rfl
    rw [hnone] at hempty
    cases hempty
  constructor
  · intro htext
    exact hne (f.readsBack.eq_of_text g.readsBack (.inl htext))
  · intro htext
    exact hne (f.readsBack.eq_of_text g.readsBack (.inr htext))

/-- An exercise that was created in the last nanosecond of a year. -/
def squat : Exercise where
  id := ⟨1, by decide⟩
  name := "Squat"
  category := "legs"
  description := none
  instructions := []
  equipmentTypes := ["barbell"]
  primaryMuscles := []
  tags := []
  createdAt := ⟨2016, 12, 31, 18, 59, 59, 999999999, -300⟩
  updatedAt := ⟨2017, 1, 1, 0, 0, 0, 500000000, 0⟩

/-- An exercise to add of which little is said. -/
def lunge : NewExercise := { name := "Lunge", category := "legs", tags := ["home"] }

/-- A text of that exercise: its fields are out of order, some are absent, and one is unknown. -/
def shuffledText : String :=
  "\x7b\"sets\":[\x7b\x7d], \"tags\":[\"home\"],\"category\":\"legs\",\"name\":\"Lunge\"\x7d"

/-- An exercise is read from a text in which a timestamp is spelled in an unusual way, and is written
and read again; so is an exercise to add whose text has its fields out of order, lacks some, and has
one that is unknown. The text of a filter without tags is not the one of a filter with no tags. -/
theorem records_read_back_unusual :
    let text := (Json.object (squat.record "2016-12-31T18:59:60-05:00"
      "2017-01-01 00:00:00.50z")).compact
    Exercise.reader.onText text = .ok squat ∧
      (∃ v, squat.toJson = .ok v ∧ ReadsBack Exercise.reader v squat) ∧
      (squat.IsReal ∧ squat.IsExpressible ∧
        ∃ v, squat.toJson = .ok v ∧ ReadsBack Exercise.reader v squat) ∧
      (NewExercise.reader.onText shuffledText = .ok lunge ∧
        ReadsBack NewExercise.reader lunge.toJson lunge) ∧
      ({ tags := none } : Filter).toJson.compact ≠ ({ tags := some [] } : Filter).toJson.compact := by
  intro text
  obtain ⟨-, -, -, hwritten, hread, happart⟩ := records_read_back
  have hreal : squat.IsReal := by
    constructor <;> constructor <;> decide
  have hexpressible : squat.IsExpressible := by
    constructor <;> constructor <;> decide
  have htext : Exercise.reader.onText text = .ok squat :=
    ((Exercise.decodes_reader rfl rfl).readsBack (by decide) (squat.isExact_record _ _)).1
  have hshuffled : NewExercise.reader.onText shuffledText = .ok lunge := by rfl
  exact ⟨htext, (hread text).2.2.2 squat htext,
    ⟨hreal, hexpressible, hwritten squat hreal hexpressible⟩,
    ⟨hshuffled, (hread shuffledText).2.1 lunge hshuffled⟩,
    (happart { tags := none } { tags := some [] } Filter.tags rfl rfl).1⟩

end Library

end QueryBatch

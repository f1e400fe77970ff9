import Mathlib
import QueryBatch.Configuration.File
import QueryBatch.Proofs.Files
import QueryBatch.Proofs.Json.Records

/-!
# A configuration is read back

What is written of a configuration leaves out a schema that is not set and a pool of which nothing
is said. Reading the text gives the same configuration again: what was left out becomes what it was,
and the spans of time of a pool that was written stay apart from their defaults. A reader for each
record is shown to read what is written of it (`decodes_reader`), from the innermost record out. The
text then comes back from the file, beside which the schema was written meanwhile.
-/

namespace QueryBatch
namespace Configuration

open Json Json.Reader

namespace PoolSettings

theorem decodes_readCount
    (n : UInt32) :
    Decodes 0 readCount (.nat n.toNat) n := by
  have hn : n.toNat ≤ UInt32.size - 1 := Nat.le_sub_one_of_lt n.toNat_lt_size
  have hread := (decodes_natural (Nat.zero_le n.toNat) hn (by decide) "u32").map UInt32.ofNat
  rwa [UInt32.ofNat_toNat] at hread

theorem decodes_readSpan
    (span : Option UInt64) :
    Decodes 0 readSpan (Json.ofOption (fun n => .nat n.toNat) span) span := by
  cases span with
  | none => exact decodes_optional_null _
  | some n =>
      have hn : n.toNat ≤ UInt64.size - 1 := Nat.le_sub_one_of_lt n.toNat_lt_size
      have hread := (decodes_natural (Nat.zero_le n.toNat) hn (Nat.le_refl _) "u64").map
        UInt64.ofNat
      rw [UInt64.ofNat_toNat] at hread
      exact hread.optional (by simp [Json.nat])

theorem decodes_reader
    (settings : PoolSettings) :
    Decodes 1 reader settings.toJson settings := by
  have hfills : Fills 0 shape {}
      [("maxConnections", .nat settings.maxConnections.toNat),
        ("minConnections", .nat settings.minConnections.toNat),
        ("maxLifetime", Json.ofOption (fun n => .nat n.toNat) settings.maxLifetime),
        ("idleTimeout", Json.ofOption (fun n => .nat n.toNat) settings.idleTimeout)]
      ⟨some settings.maxConnections, some settings.minConnections, some settings.maxLifetime,
        some settings.idleTimeout⟩ :=
    .default rfl rfl (decodes_readCount _) <|
    .default rfl rfl (decodes_readCount _) <|
    .default rfl rfl (decodes_readSpan _) <|
    .default rfl rfl (decodes_readSpan _) <|
    .done _
  exact (decodes_record hfills rfl).bind (Reads.pure settings)

end PoolSettings

namespace Secret

theorem decodes_reader
    (secret : Secret) :
    Decodes 1 reader secret.toJson secret := by
  cases secret with
  | plain value => exact ((decodes_value_string value).mono (by decide)).bind (Reads.pure _)
  | fromEnvironment name => exact (decodes_value_object "variable" name).bind (Reads.pure _)

end Secret

namespace DatabaseSettings

theorem decodes_readPort
    (port : UInt16) :
    Decodes 0 readPort (.nat port.toNat) port := by
  have hport : port.toNat ≤ UInt16.size - 1 := Nat.le_sub_one_of_lt port.toNat_lt_size
  have hread := (decodes_natural (Nat.zero_le port.toNat) hport (by decide) "u16").map UInt16.ofNat
  rwa [UInt16.ofNat_toNat] at hread

/-- The fields of settings that are written. -/
def writtenFields (settings : DatabaseSettings) : List (String × Json) :=
  [("user", .string settings.user), ("password", settings.password.toJson),
    ("host", .string settings.host), ("port", .nat settings.port.toNat),
    ("name", .string settings.name)]
  ++ ((settings.schema.map fun schema => ("schema", Json.string schema)).toList
    ++ ("disableTls", .bool settings.disableTls)
      :: (if settings.pool.isDefault then [] else [("pool", settings.pool.toJson)]))

theorem toJson_eq
    (settings : DatabaseSettings) :
    settings.toJson = .object settings.writtenFields := by
  unfold toJson writtenFields
  cases settings.schema <;> simp

/-- A pool of which nothing is said is not read. -/
theorem fills_pool
    (pool : PoolSettings)
    {draft : Draft}
    (hdraft : draft.pool = none) :
    Fills 1 shape draft (if pool.isDefault then [] else [("pool", pool.toJson)])
      { draft with pool := if pool.isDefault then none else some pool } := by
  split
  · rw [← hdraft]
    exact .done draft
  · have habsent : draft.pool.isSome = false := by simp [hdraft]
    exact .default rfl habsent (PoolSettings.decodes_reader pool) (.done _)

/-- What is read of the written fields. -/
def drafted (settings : DatabaseSettings) : Draft where
  user := some settings.user
  password := some settings.password
  host := some settings.host
  port := some settings.port
  name := some settings.name
  schema := settings.schema.map some
  disableTls := some settings.disableTls
  pool := if settings.pool.isDefault then none else some settings.pool

theorem fills_writtenFields
    (settings : DatabaseSettings) :
    Fills 1 shape {} settings.writtenFields settings.drafted := by
  have htext (s : String) : Decodes 1 Reader.string (.string s) s :=
    (decodes_string s).mono (by decide)
  have hport := (decodes_readPort settings.port).mono (Nat.zero_le 1)
  have hbool := (decodes_bool settings.disableTls).mono (Nat.zero_le 1)
  unfold writtenFields drafted
  refine .required rfl rfl (htext settings.user) ?_
  refine .required rfl rfl (Secret.decodes_reader settings.password) ?_
  refine .required rfl rfl (htext settings.host) ?_
  refine .default rfl rfl hport ?_
  refine .required rfl rfl (htext settings.name) ?_
  cases settings.schema with
  | none => exact .default rfl rfl hbool (fills_pool settings.pool rfl)
  | some schema =>
      have hschema := (htext schema).optional (by simp)
      exact .default rfl rfl hschema (.default rfl rfl hbool (fills_pool settings.pool rfl))

/-- The fields that were left out become what they were. -/
theorem complete_drafted
    (settings : DatabaseSettings) :
    shape.fields.foldlM completeField settings.drafted
      = some { settings.drafted with
          schema := some settings.schema
          pool := some settings.pool } := by
  unfold drafted
  by_cases hdefault : settings.pool.isDefault = true
  · have hpool : settings.pool = {} := of_decide_eq_true hdefault
    rw [if_pos hdefault, hpool]
    cases settings.schema <;> rfl
  · rw [if_neg hdefault]
    cases settings.schema <;> rfl

/-- Settings are read from what is written of them. -/
theorem decodes_reader
    (settings : DatabaseSettings) :
    Decodes 2 reader settings.toJson settings := by
  rw [toJson_eq]
  exact (decodes_record settings.fills_writtenFields settings.complete_drafted).bind
    (Reads.pure settings)

end DatabaseSettings

namespace ParsedConfiguration

/-- A configuration is read from what is written of it. -/
theorem decodes_reader
    (c : ParsedConfiguration) :
    Decodes 3 reader c.toJson c := by
  have hfills : Fills 2 shape {}
      [("version", .nat c.version.toNat), ("database", c.database.toJson)]
      ⟨some c.version, some c.database⟩ :=
    .required rfl rfl ((PoolSettings.decodes_readCount c.version).mono (by decide)) <|
    .required rfl rfl c.database.decodes_reader <|
    .done _
  exact (decodes_record hfills rfl).bind (Reads.pure c)

theorem isExact_toJson
    (c : ParsedConfiguration) :
    c.toJson.isExact = true := by
  have hpassword : c.database.password.toJson.isExact = true := by
    cases c.database.password <;> rfl
  have hpool : c.database.pool.toJson.isExact = true := by
    unfold PoolSettings.toJson
    cases c.database.pool.maxLifetime <;> cases c.database.pool.idleTimeout <;> rfl
  unfold toJson
  rw [DatabaseSettings.toJson_eq]
  unfold DatabaseSettings.writtenFields
  cases c.database.schema <;> cases hdefault : c.database.pool.isDefault <;>
    simp [isExact, exactFields, Json.nat, hpassword, hpool]

/-- The text of a file is read as the configuration that it was written for, if its version is the
current one. -/
theorem ofText_fileText
    (c : ParsedConfiguration)
    (path : String) :
    ofText path (fileText c.toJson)
      = if c.version = currentVersion then .ok c else .error (.unsupportedVersion c.version) := by
  have hspells : Spells c.toJson (renderLines 0 c.toJson) := spells_renderLines 0 _ c.isExact_toJson
  have hend : Blank ['\n'] := by simp [Blank, isSpace]
  have htext : fileText c.toJson = String.ofList (renderLines 0 c.toJson ++ ['\n']) := by
    simp [fileText, Json.pretty]
  have hread := c.decodes_reader.onText (by decide) hspells hend
  unfold ofText
  rw [htext, hread]

theorem isFileName_fileName :
    Path.IsFileName fileName :=
  ⟨by simp [fileName], by decide, by decide, by decide⟩

theorem isFileName_schemaName :
    Path.IsFileName schemaName :=
  ⟨by simp [schemaName], by decide, by decide, by decide⟩

/-- The two files that are written, one after the other. -/
theorem writeText_of_write
    {c : ParsedConfiguration}
    {files : Files}
    {folder : String}
    (hwritten : (c.write files folder).1 = .ok ()) :
    ∃ start between : Files,
      start.writeText (Path.parse folder ++ [fileName]) (fileText c.toJson) = .ok between ∧
      between.writeText (Path.parse folder ++ [schemaName]) (fileText Schema.file)
        = .ok (c.write files folder).2 := by
  have hfile := Path.parse_join isFileName_fileName folder
  have hschema := Path.parse_join isFileName_schemaName folder
  unfold write at hwritten ⊢
  rw [hfile, hschema] at hwritten ⊢
  cases hstart : files.makeFolders [] (Path.parse folder) with
  | error e => simp [hstart] at hwritten
  | ok start =>
      simp only [hstart] at hwritten ⊢
      cases hbetween : start.writeText (Path.parse folder ++ [fileName]) (fileText c.toJson) with
      | error e => simp [hbetween] at hwritten
      | ok between =>
          simp only [hbetween] at hwritten ⊢
          cases hafter : between.writeText (Path.parse folder ++ [schemaName])
              (fileText Schema.file) with
          | error e => simp [hafter] at hwritten
          | ok after => exact ⟨start, between, hbetween, hafter⟩

/-- A configuration that was written into a folder is read from it, if its version is the current
one, and is refused for its version if not. -/
theorem read_written
    (c : ParsedConfiguration)
    (files : Files)
    (folder : String)
    (hwritten : (c.write files folder).1 = .ok ()) :
    read (c.write files folder).2 folder
        = (if c.version = 1 then .ok c else .error (.unsupportedVersion c.version)) ∧
      (ReadError.unsupportedVersion c.version).message
        = "unsupported configuration version " ++ toString c.version.toNat ++ ", expected 1" := by
  obtain ⟨start, between, hfile, hschema⟩ := writeText_of_write hwritten
  have hapart : fileName ≠ schemaName := by decide
  have htext := Files.readText_writeText_beside isFileName_fileName isFileName_schemaName hapart
    hfile hschema
  have hexpected : ", expected " ++ toString currentVersion.toNat = ", expected 1" := by decide
  refine ⟨?_, ?_⟩
  · unfold read
    simp only [Path.parse_join isFileName_fileName folder, htext]
    exact c.ofText_fileText _
  · rw [← hexpected, ← String.append_assoc]
    rfl

/-- A configuration of another version, with a pool without limits and a password that is no simple
text. -/
def awkward : ParsedConfiguration where
  version := 2
  database :=
    { user := "o\\neil", password := .plain "\"\t\x01é", host := "::1", name := "library",
      pool := { maxLifetime := none, idleTimeout := none } }

/-- Into a folder that is not there yet, the configuration is written and then refused; in the
current version it is read. -/
theorem read_written_awkward :
    let current : ParsedConfiguration := { awkward with version := 1 }
    read (awkward.write {} "conf/main").2 "conf/main" = .error (.unsupportedVersion 2) ∧
      read (current.write {} "conf/main").2 "conf/main" = .ok current :=
  ⟨(read_written awkward {} "conf/main" rfl).1,
    (read_written { awkward with version := 1 } {} "conf/main" rfl).1⟩

end ParsedConfiguration
end Configuration
end QueryBatch

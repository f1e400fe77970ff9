import QueryBatch.Json.Value

/-!
# The schema of the configuration file

A description of the file in JSON Schema. It is written beside the file for editors that know it.
-/

namespace QueryBatch
namespace Configuration
namespace Schema

/-- An object. -/
def object (fields : List (String × Json)) : Json := .object fields

/-- What a description is about. -/
def about (text : String) : String × Json := ("description", .string text)

/-- A type. -/
def type (name : String) : String × Json := ("type", .string name)

/-- A type of which the values may be null. -/
def nullable (name : String) : String × Json := ("type", Json.strings [name, "null"])

/-- The bounds of the integers of a width. -/
def natural (format : String) : List (String × Json) :=
  [("format", .string format), ("minimum", .number (.float ⟨0⟩))]

/-- A reference to a definition. -/
def reference (name : String) : String × Json := ("$ref", .string ("#/definitions/" ++ name))

/-- The database. -/
def database : Json :=
  object
    [about ("How to reach the database. Every connection uses UTC and, if \x60schema\x60 is set, "
        ++ "that schema as its search path."),
      type "object",
      ("required", Json.strings ["host", "name", "password", "user"]),
      ("properties", object
        [("user", object [about "Database user.", type "string"]),
          ("password", object
            [about ("Password of the database user, or \x60env:NAME\x60 to read it from the "
                ++ "environment variable NAME."),
              ("allOf", .array [object [reference "Secret"]])]),
          ("host", object
            [about "Host name or IP address. IPv6 addresses may be bracketed.", type "string"]),
          ("port", object ([("default", .nat 5432), type "integer"] ++ natural "uint16")),
          ("name", object [about "Database name.", type "string"]),
          ("schema", object
            [about "Sets \x60search_path\x60 on every connection.", nullable "string"]),
          ("disableTls", object
            [about "Connect without TLS. TLS is required otherwise.",
              ("default", .bool false), type "boolean"]),
          ("pool", object [reference "PoolSettings"])])]

/-- A secret. -/
def secret : Json :=
  object
    [about "A value that is either written down or read from the environment.",
      ("anyOf", .array
        [object [type "string"],
          object
            [type "object", ("required", Json.strings ["variable"]),
              ("properties", object [("variable", object [type "string"])])]])]

/-- The pool. -/
def pool : Json :=
  object
    [about "Settings for the PostgreSQL connection pool", type "object",
      ("properties", object
        [("maxConnections", object
            ([about "maximum number of pool connections", ("default", .nat 10), type "integer"]
              ++ natural "uint32")),
          ("minConnections", object
            ([about "connections kept open even when idle", ("default", .nat 0), type "integer"]
              ++ natural "uint32")),
          ("maxLifetime", object
            ([about "maximum lifetime for an individual connection (seconds)",
              ("default", .nat 3600), nullable "integer"] ++ natural "uint64")),
          ("idleTimeout", object
            ([about "idle timeout for releasing a connection from the pool (seconds)",
              ("default", .nat 1800), nullable "integer"] ++ natural "uint64"))])]

/-- The file. -/
def file : Json :=
  object
    [("$schema", .string "http://json-schema.org/draft-07/schema#"),
      ("title", .string "ParsedConfiguration"),
      about "The configuration as written on disk.", type "object",
      ("required", Json.strings ["database", "version"]),
      ("properties", object
        [("version", object (type "integer" :: natural "uint32")),
          ("database", object [reference "DatabaseConfig"])]),
      ("definitions", object
        [("DatabaseConfig", database), ("Secret", secret), ("PoolSettings", pool)])]

end Schema
end Configuration
end QueryBatch

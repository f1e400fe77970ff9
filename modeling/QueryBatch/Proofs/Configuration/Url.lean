import Mathlib
import QueryBatch.Configuration.Database
import QueryBatch.Proofs.Configuration.Hosts
import QueryBatch.Proofs.Text.Encoding

/-!
# The URL of a database

A URL is read here as its syntax has it, with nothing known of how it was written. `Url.split?` cuts
it at its delimiters, and `Url.read?` turns the parts back into texts.

Parts that are free of the delimiters around them are what a URL made of them is cut into
(`Url.split?_text`). A text from the settings is free of all of them once it is encoded, and a host
because it was checked. So the URL of valid settings says what the settings say, part by part.
-/

namespace QueryBatch
namespace Configuration
namespace Url

open Text

/-- What stands before a character where it occurs first, and what stands behind it there. -/
def cutFirst? (mark : Char) : List Char → Option (List Char × List Char)
  | [] => none
  | c :: cs =>
      if c = mark then some ([], cs)
      else (cutFirst? mark cs).map fun (before, behind) => (c :: before, behind)

/-- What stands before a character where it occurs last, and what stands behind it there. -/
def cutLast? (mark : Char) (cs : List Char) : Option (List Char × List Char) :=
  (cutFirst? mark cs.reverse).map fun (behind, before) => (before.reverse, behind.reverse)

/-- A key and a value with the only `=` between them. -/
def pair? (cs : List Char) : Option (List Char × List Char) :=
  match cs.splitOn '=' with
  | [key, value] => some (key, value)
  | _ => none

/-- The parts of a URL as they stand in it. -/
structure Parts where
  user : List Char
  password : List Char
  host : List Char
  port : List Char
  /-- The only segment of the path. -/
  name : List Char
  query : List (List Char × List Char)

/-- How a URL of a database starts. -/
def scheme : String := "postgres://"

/-- Cut a URL that has no fragment: the query behind the first `?`, the path behind the first `/`,
and in the authority the user and the password before the first `@`, with a `:` between them, and
the host and the port behind it, with the last `:` between them. -/
def split? (cs : List Char) : Option Parts := do
  guard ('#' ∉ cs)
  let cs ← cs.dropPrefix? scheme.toList
  let (hierarchy, query) ← cutFirst? '?' cs
  let (authority, name) ← cutFirst? '/' hierarchy
  guard ('/' ∉ name)
  let (userInfo, place) ← cutFirst? '@' authority
  let (user, password) ← cutFirst? ':' userInfo
  let (host, port) ← cutLast? ':' place
  return ⟨user, password, host, port, name, ← (query.splitOn '&').mapM pair?⟩

/-- What a URL says. -/
structure Reading where
  user : String
  password : String
  host : String
  port : Nat
  name : String
  options : List (String × String)
  deriving DecidableEq

/-- The text that stands encoded in a URL. -/
def decode? (cs : List Char) : Option String := (Percent.decode? cs).map String.ofList

/-- An option in a query. -/
def readOption? (pair : List Char × List Char) : Option (String × String) := do
  return (← decode? pair.1, ← decode? pair.2)

/-- What a URL says: the host as it stands there, the port in digits, and all else decoded. -/
def read? (url : String) : Option Reading := do
  let parts ← split? url.toList
  return {
    user := ← decode? parts.user
    password := ← decode? parts.password
    host := String.ofList parts.host
    port := ← (String.ofList parts.port).toNat?
    name := ← decode? parts.name
    options := ← parts.query.mapM readOption? }

section Cutting

variable {mark : Char} {before behind : List Char}

theorem cutFirst?_append
    (hbefore : mark ∉ before)
    (behind : List Char) :
    cutFirst? mark (before ++ mark :: behind) = some (before, behind) := by
  induction before with
  | nil => simp [cutFirst?]
  | cons c before ih =>
      obtain ⟨hc, hbefore⟩ := not_or.1 (mt List.mem_cons.2 hbefore)
      rw [List.cons_append, cutFirst?, if_neg (Ne.symm hc), ih hbefore]
      rfl

theorem cutLast?_append
    (hbehind : mark ∉ behind)
    (before : List Char) :
    cutLast? mark (before ++ mark :: behind) = some (before, behind) := by
  have hreverse : (before ++ mark :: behind).reverse
      = behind.reverse ++ mark :: before.reverse := by simp
  rw [cutLast?, hreverse, cutFirst?_append (by simpa using hbehind)]
  simp

theorem pair?_append
    {key value : List Char}
    (hkey : '=' ∉ key)
    (hvalue : '=' ∉ value) :
    pair? (key ++ '=' :: value) = some (key, value) := by
  rw [pair?, List.splitOn_append_cons_self_of_not_mem hkey, List.splitOn_eq_singleton hvalue]

theorem not_mem_intercalate
    {separator : Char}
    (hseparator : mark ≠ separator)
    {texts : List (List Char)}
    (htexts : ∀ text ∈ texts, mark ∉ text) :
    mark ∉ [separator].intercalate texts := by
  induction texts with
  | nil => simp [List.intercalate_nil]
  | cons text texts ih =>
      have htext := htexts text List.mem_cons_self
      have hrest := ih fun other hother => htexts other (List.mem_cons_of_mem _ hother)
      cases texts with
      | nil => rwa [List.intercalate_singleton]
      | cons next texts =>
          rw [List.intercalate_cons_cons]
          simp [htext, hseparator, hrest]

end Cutting

/-- A pair of the query as it stands in a URL. -/
def pairText (pair : List Char × List Char) : List Char := pair.1 ++ '=' :: pair.2

/-- The characters of a URL that is made of parts. -/
def Parts.text (parts : Parts) : List Char :=
  scheme.toList
    ++ ((parts.user ++ ':' :: parts.password) ++ '@' :: (parts.host ++ ':' :: parts.port)
        ++ '/' :: parts.name)
    ++ '?' :: ['&'].intercalate (parts.query.map pairText)

/-- Each part is free of the delimiters that are looked for in it. -/
structure Parts.Separate (parts : Parts) : Prop where
  user : parts.user.Disjoint [':', '@', '/', '?', '#']
  password : parts.password.Disjoint ['@', '/', '?', '#']
  host : parts.host.Disjoint ['/', '?', '#']
  port : parts.port.Disjoint [':', '/', '?', '#']
  name : parts.name.Disjoint ['/', '?', '#']
  query : parts.query ≠ []
  key : ∀ pair ∈ parts.query, pair.1.Disjoint ['=', '&', '#']
  value : ∀ pair ∈ parts.query, pair.2.Disjoint ['=', '&', '#']

namespace Parts.Separate

variable {parts : Parts}

theorem not_mem_pairText
    (h : parts.Separate)
    {mark : Char}
    (hmark : mark ∈ ['&', '#']) :
    ∀ text ∈ parts.query.map pairText, mark ∉ text := by
  intro text htext
  obtain ⟨pair, hpair, rfl⟩ := List.mem_map.1 htext
  have hall : mark ∈ ['=', '&', '#'] := List.mem_cons_of_mem _ hmark
  have hequals : mark ≠ '=' := by
    rintro rfl
    exact absurd hmark (by decide)
  simp only [pairText, List.mem_append, List.mem_cons, not_or]
  exact ⟨fun hmem => h.key pair hpair hmem hall, hequals,
    fun hmem => h.value pair hpair hmem hall⟩

/-- The query is cut into the pairs it is made of. -/
theorem mapM_pair?
    (h : parts.Separate) :
    ((['&'].intercalate (parts.query.map pairText)).splitOn '&').mapM pair?
      = some parts.query := by
  have hpieces : (['&'].intercalate (parts.query.map pairText)).splitOn '&'
      = parts.query.map pairText :=
    List.splitOn_intercalate '&' (h.not_mem_pairText (by decide)) (by simpa using h.query)
  rw [hpieces]
  have hpairs (pairs : List (List Char × List Char)) (hsub : ∀ pair ∈ pairs, pair ∈ parts.query) :
      (pairs.map pairText).mapM pair? = some pairs := by
    induction pairs with
    | nil => rfl
    | cons pair pairs ih =>
        have hpair := hsub pair List.mem_cons_self
        have hread : pair? (pairText pair) = some pair :=
          pair?_append (fun hmem => h.key pair hpair hmem (by decide))
            (fun hmem => h.value pair hpair hmem (by decide))
        rw [List.map_cons, List.mapM_cons, hread,
          ih fun other hother => hsub other (List.mem_cons_of_mem _ hother)]
        rfl
  exact hpairs parts.query fun _ hpair => hpair

theorem hash_not_mem
    (h : parts.Separate) :
    '#' ∉ parts.text := by
  have hquery : '#' ∉ ['&'].intercalate (parts.query.map pairText) :=
    not_mem_intercalate (by decide) (h.not_mem_pairText (by decide))
  have huser : '#' ∉ parts.user := fun hmem => h.user hmem (by decide)
  have hpassword : '#' ∉ parts.password := fun hmem => h.password hmem (by decide)
  have hhost : '#' ∉ parts.host := fun hmem => h.host hmem (by decide)
  have hport : '#' ∉ parts.port := fun hmem => h.port hmem (by decide)
  have hname : '#' ∉ parts.name := fun hmem => h.name hmem (by decide)
  have hscheme : '#' ∉ scheme.toList := by simp [scheme]
  simp [text, hquery, huser, hpassword, hhost, hport, hname, hscheme]

end Parts.Separate

/-- A URL is cut into the parts that it is made of. -/
theorem split?_text
    {parts : Parts}
    (h : parts.Separate) :
    split? parts.text = some parts := by
  have huser {mark : Char} (hmark : mark ∈ [':', '@', '/', '?', '#']) : mark ∉ parts.user :=
    fun hmem => h.user hmem hmark
  have hpassword {mark : Char} (hmark : mark ∈ ['@', '/', '?', '#']) : mark ∉ parts.password :=
    fun hmem => h.password hmem hmark
  have hhost {mark : Char} (hmark : mark ∈ ['/', '?', '#']) : mark ∉ parts.host :=
    fun hmem => h.host hmem hmark
  have hport {mark : Char} (hmark : mark ∈ [':', '/', '?', '#']) : mark ∉ parts.port :=
    fun hmem => h.port hmem hmark
  have hname {mark : Char} (hmark : mark ∈ ['/', '?', '#']) : mark ∉ parts.name :=
    fun hmem => h.name hmem hmark
  have huserInfo : '@' ∉ parts.user ++ ':' :: parts.password := by
    simp [huser, hpassword]
  have hauthority : '/' ∉ (parts.user ++ ':' :: parts.password)
      ++ '@' :: (parts.host ++ ':' :: parts.port) := by
    simp [huser, hpassword, hhost, hport]
  have hhierarchy : '?' ∉ (parts.user ++ ':' :: parts.password)
      ++ '@' :: (parts.host ++ ':' :: parts.port) ++ '/' :: parts.name := by
    simp [huser, hpassword, hhost, hport, hname]
  have hscheme (cs : List Char) : (scheme.toList ++ cs).dropPrefix? scheme.toList = some cs :=
    List.dropPrefix?_append_of_beq cs (BEq.refl _)
  have hsegment : '/' ∉ parts.name := hname (by decide)
  have hcolon : ':' ∉ parts.user := huser (by decide)
  have hdigits : ':' ∉ parts.port := hport (by decide)
  have hhash := h.hash_not_mem
  unfold split?
  rw [guard, if_pos hhash]
  unfold Parts.text
  rw [List.append_assoc, hscheme]
  simp only [Option.pure_def, Option.bind_eq_bind, Option.bind_some, cutFirst?_append hhierarchy,
    cutFirst?_append hauthority, cutFirst?_append huserInfo, cutFirst?_append hcolon,
    cutLast?_append hdigits, h.mapM_pair?, guard, if_pos hsegment]

end Url

namespace DatabaseSettings

open Text
open Url (Parts)

variable {settings : DatabaseSettings}

/-- What a URL says of the options of a connection. -/
def urlOptions (settings : DatabaseSettings) : List (String × String) :=
  [("sslmode", if settings.disableTls then "disable" else "require"), ("timezone", "utc")]
    ++ (settings.schema.map fun schema => ("search_path", schema)).toList

/-- The parts of the URL for a password. -/
def urlParts (settings : DatabaseSettings) (password : String) : Parts where
  user := Percent.encode settings.user.toList
  password := Percent.encode password.toList
  host := Host.inUrl settings.host.toList
  port := (toString settings.port.toNat).toList
  name := Percent.encode settings.name.toList
  query := settings.urlOptions.map fun (key, value) => (key.toList, Percent.encode value.toList)

/-- The values of two options need no encoding. -/
theorem encode_sslMode
    (settings : DatabaseSettings) :
    Percent.encode (if settings.disableTls then "disable" else "require").toList
      = settings.tls.sslMode.toList := by
  unfold tls
  cases settings.disableTls
  · exact Percent.encode_of_isPlain (by simp [Percent.isPlain])
  · exact Percent.encode_of_isPlain (by simp [Percent.isPlain])

theorem encode_timezone :
    Percent.encode "utc".toList = "utc".toList :=
  Percent.encode_of_isPlain (by simp [Percent.isPlain])

theorem urlWith_eq_text
    (settings : DatabaseSettings)
    (password : String) :
    settings.urlWith password = (settings.urlParts password).text := by
  have hmode : "?sslmode=".toList = '?' :: ("sslmode".toList ++ ['=']) := by simp
  have hzone : "&timezone=utc".toList = '&' :: ("timezone".toList ++ '=' :: "utc".toList) := by simp
  have hpath : "&search_path=".toList = '&' :: ("search_path".toList ++ ['=']) := by simp
  unfold urlWith Parts.text urlParts urlOptions
  rw [hmode, hzone, hpath, Url.scheme]
  cases settings.schema with
  | none =>
      simp only [Option.map_none, Option.toList_none, List.append_nil, List.map_cons, List.map_nil,
        List.intercalate_cons_cons, List.intercalate_singleton, Url.pairText, encode_sslMode,
        encode_timezone, List.append_assoc, List.cons_append, List.nil_append]
  | some schema =>
      simp only [Option.map_some, Option.toList_some, List.map_cons, List.map_nil,
        List.intercalate_cons_cons, List.intercalate_singleton, Url.pairText, encode_sslMode,
        encode_timezone, List.append_assoc, List.cons_append, List.nil_append]

section Separation

/-- The encoding keeps a delimiter out of every text. -/
theorem disjoint_encode
    {marks : List Char}
    (hmarks : ∀ mark ∈ marks, Percent.isPlain mark = false ∧ mark ≠ '%')
    (cs : List Char) :
    (Percent.encode cs).Disjoint marks :=
  fun _ hmem hmark => Percent.not_mem_encode (hmarks _ hmark).1 (hmarks _ hmark).2 hmem

theorem disjoint_digits
    {marks : List Char}
    (hmarks : ∀ mark ∈ marks, mark.isDigit = false)
    (n : Nat) :
    (toString n).toList.Disjoint marks := by
  intro c hc hmark
  rw [Nat.toString_eq_repr, Nat.toList_repr] at hc
  have hdigit := Nat.isDigit_of_mem_toDigits (by decide) (by decide) hc
  exact absurd hdigit (by simp [hmarks c hmark])

theorem key_of_mem_urlOptions
    {option : String × String}
    (hmem : option ∈ settings.urlOptions) :
    option.1 = "sslmode" ∨ option.1 = "timezone" ∨ option.1 = "search_path" := by
  unfold urlOptions at hmem
  cases hschema : settings.schema with
  | none =>
      simp only [hschema, Option.map_none, Option.toList_none, List.append_nil, List.mem_cons,
        List.not_mem_nil, or_false] at hmem
      rcases hmem with rfl | rfl
      · exact .inl rfl
      · exact .inr (.inl rfl)
  | some schema =>
      simp only [hschema, Option.map_some, Option.toList_some, List.cons_append, List.nil_append,
        List.mem_cons, List.not_mem_nil, or_false] at hmem
      rcases hmem with rfl | rfl | rfl
      · exact .inl rfl
      · exact .inr (.inl rfl)
      · exact .inr (.inr rfl)

/-- The parts of the URL of settings with a valid host are free of delimiters. -/
theorem separate_urlParts
    (hhost : Host.isValid settings.host.toList = true)
    (password : String) :
    (settings.urlParts password).Separate where
  user := disjoint_encode (by simp [Percent.isPlain]) _
  password := disjoint_encode (by simp [Percent.isPlain]) _
  host := by
    have hsub : ['/', '?', '#'] ⊆ ['/', '?', '#', '@'] := by decide
    exact fun c hmem hc => Host.not_mem_inUrl hhost (hsub hc) hmem
  port := disjoint_digits (by simp) _
  name := disjoint_encode (by simp [Percent.isPlain]) _
  query := by simp [urlParts, urlOptions]
  key := by
    intro pair hpair
    obtain ⟨option, hoption, rfl⟩ := List.mem_map.1 hpair
    rcases key_of_mem_urlOptions hoption with hkey | hkey | hkey <;>
      simp [hkey]
  value := by
    intro pair hpair
    obtain ⟨option, -, rfl⟩ := List.mem_map.1 hpair
    exact disjoint_encode (by simp [Percent.isPlain]) _

end Separation

section Reading

theorem decode?_encode
    (text : String) :
    Url.decode? (Percent.encode text.toList) = some text := by
  rw [Url.decode?, Percent.decode?_encode]
  simp

theorem decode?_key
    {option : String × String}
    (hmem : option ∈ settings.urlOptions) :
    Url.decode? option.1.toList = some option.1 := by
  have hplain : ∀ c ∈ option.1.toList, Percent.isPlain c = true := by
    rcases key_of_mem_urlOptions hmem with hkey | hkey | hkey
    · simp [hkey, Percent.isPlain]
    · simp [hkey, Percent.isPlain]
    · simp [hkey, Percent.isPlain]
  have hencoded := decode?_encode option.1
  rwa [Percent.encode_of_isPlain hplain] at hencoded

/-- The options are read back from the query. -/
theorem mapM_readOption?
    (settings : DatabaseSettings)
    (password : String) :
    (settings.urlParts password).query.mapM Url.readOption? = some settings.urlOptions := by
  have hread (options : List (String × String))
      (hsub : ∀ option ∈ options, option ∈ settings.urlOptions) :
      (options.map fun (key, value) => (key.toList, Percent.encode value.toList)).mapM
          Url.readOption?
        = some options := by
    induction options with
    | nil => rfl
    | cons option options ih =>
        have hkey := decode?_key (hsub option List.mem_cons_self)
        have hrest := ih fun other hother => hsub other (List.mem_cons_of_mem _ hother)
        have hoption : Url.readOption? (option.1.toList, Percent.encode option.2.toList)
            = some option := by
          simp [Url.readOption?, hkey, decode?_encode]
        rw [List.map_cons, List.mapM_cons, hoption, hrest]
        rfl
  exact hread settings.urlOptions fun _ hmem => hmem

/-- What the URL of settings with a valid host says. -/
theorem read?_urlWith
    (hhost : Host.isValid settings.host.toList = true)
    (password : String) :
    Url.read? (String.ofList (settings.urlWith password))
      = some {
          user := settings.user
          password := password
          host := String.ofList (Host.inUrl settings.host.toList)
          port := settings.port.toNat
          name := settings.name
          options := settings.urlOptions } := by
  have hsplit : Url.split? (String.ofList (settings.urlWith password)).toList
      = some (settings.urlParts password) := by
    rw [String.toList_ofList, urlWith_eq_text]
    exact Url.split?_text (separate_urlParts hhost password)
  have hport : (String.ofList (settings.urlParts password).port).toNat?
      = some settings.port.toNat := by
    rw [urlParts, String.ofList_toList, Nat.toString_eq_repr, Nat.toNat?_repr]
  unfold Url.read?
  rw [hsplit]
  simp only [Option.bind_eq_bind, Option.bind_some, mapM_readOption?, hport]
  simp only [urlParts, decode?_encode, Option.bind_some, Option.pure_def]

end Reading

theorem isValid_host_of_validate
    (hvalid : settings.validate = .ok ()) :
    Host.isValid settings.host.toList = true := by
  by_contra hhost
  unfold validate at hvalid
  split at hvalid
  · cases hvalid
  split at hvalid
  · cases hvalid
  split at hvalid
  · cases hvalid
  split at hvalid
  · cases hvalid
  · simp only [Bool.not_eq_true] at hhost
    simp [hhost] at hvalid

/-- The URL of settings that pass the check says, part by part, what they say: each text is there
exactly, and no setting shows anywhere but in its own part. The host stands there as it was given,
in brackets exactly if it is an address of version 6. -/
theorem url_says_settings
    {env : Environment}
    {password : String}
    (hvalid : settings.validate = .ok ())
    (hpassword : settings.password.resolve env = .ok password) :
    ∃ text reading, settings.url env = .ok text ∧ Url.read? text = some reading ∧
      reading = {
        user := settings.user
        password := password
        host :=
          if Host.isIpv6 settings.host.toList then "[" ++ settings.host ++ "]" else settings.host
        port := settings.port.toNat
        name := settings.name
        options :=
          [("sslmode", if settings.disableTls then "disable" else "require"), ("timezone", "utc")]
            ++ (settings.schema.map fun schema => ("search_path", schema)).toList } ∧
      (reading.host.toList.head? = some '['
        ↔ Host.isIpv6 (Host.forDriver settings.host.toList) = true) := by
  have hhost := isValid_host_of_validate hvalid
  have hurl : settings.url env = .ok (String.ofList (settings.urlWith password)) := by
    unfold url resolvePassword
    rw [hpassword]
    rfl
  have hbrackets : String.ofList (Host.inUrl settings.host.toList)
      = if Host.isIpv6 settings.host.toList then "[" ++ settings.host ++ "]"
        else settings.host := by
    unfold Host.inUrl
    split
    · simp [← String.toList_inj]
    · simp
  have hhead := Host.head_inUrl hhost
  refine ⟨_, _, hurl, read?_urlWith hhost password, ?_, ?_⟩
  · rw [hbrackets]
    rfl
  · rwa [String.toList_ofList]

/-- Settings whose texts are full of delimiters, for an address of version 6. -/
def awkward : DatabaseSettings :=
  { user := "o:neil@home", password := .fromEnvironment "PW", host := "::1", port := 6543,
    name := "a/b?c#d", schema := some "x&sslmode=disable" }

/-- Each delimiter stays in the text that it is from. -/
theorem url_says_awkward_settings :
    ∃ text, awkward.url (.ofList [("PW", .text "p@ss:w/rd")]) = .ok text ∧
      Url.read? text = some {
        user := "o:neil@home"
        password := "p@ss:w/rd"
        host := "[::1]"
        port := 6543
        name := "a/b?c#d"
        options := [("sslmode", "require"), ("timezone", "utc"),
          ("search_path", "x&sslmode=disable")] } := by
  have hvalid : awkward.validate = .ok () := by decide +kernel
  have hpassword : awkward.password.resolve (.ofList [("PW", .text "p@ss:w/rd")])
      = .ok "p@ss:w/rd" := by rfl
  obtain ⟨text, reading, hurl, hread, hsays, -⟩ := url_says_settings hvalid hpassword
  refine ⟨text, hurl, ?_⟩
  rw [hread, hsays]
  decide +kernel

end DatabaseSettings
end Configuration
end QueryBatch

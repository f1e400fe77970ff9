import QueryBatch.Proofs.Configuration.Url

/-!
# The server that a URL names

Programs outside reach a database by its URL, and the driver by its parameters. `Target` is what
both say of the server and of the session with it, in octets, for that is what goes over the wire.

A client decodes every part of a URL, the host like all others, and takes a comma in it for the end
of one host and the start of the next (`Target.ofUrl?`). It refuses a percent sign that is not
followed by two digits and an octet zero, which ends a text. All texts of the settings are encoded
for such a client but the host, which is only checked, and its check lets percent signs and commas
pass (`hosts?_inUrl`).
-/

namespace QueryBatch
namespace Configuration

open Text
open Postgres (Parameters Tls)

section Defs

/-- A server and a session with it. -/
structure Target where
  /-- Where to look for the server, one place after the other. -/
  hosts : List (List Nat)
  port : Nat
  user : List Nat
  password : List Nat
  /-- The name of the database. -/
  name : List Nat
  /-- Whether connections are encrypted, if that is not left to the server. -/
  tls : Option Tls
  deriving DecidableEq

/-- What a part of a URL stands for. The octet zero is no part of a text. -/
def component? (cs : List Char) : Option (List Nat) :=
  (Percent.octets? cs).filter fun octets => 0 ∉ octets

/-- A host without its brackets. -/
def unbracketed? : List Char → Option (List Char)
  | '[' :: rest => do
      let (address, behind) ← Url.cutFirst? ']' rest
      guard (behind = [])
      return address
  | cs => some cs

/-- The octet of a comma. -/
def comma : Nat := 0x2C

/-- The hosts that stand in a URL between commas, encoded or not. -/
def hosts? (cs : List Char) : Option (List (List Nat)) := do
  let hosts ← (cs.splitOn ',').mapM fun host => do component? (← unbracketed? host)
  return hosts.flatMap (·.splitOn comma)

/-- The number that octets spell. -/
def number? (octets : List Nat) : Option Nat := do
  (String.ofList (← Utf8.decode? octets)).toNat?

/-- An option of the query. -/
def option? (pair : List Char × List Char) : Option (List Nat × List Nat) := do
  return (← component? pair.1, ← component? pair.2)

/-- What an option asks for. Other modes than these two leave it to the server, or ask for more. -/
def encryption? (mode : List Nat) : Option Tls :=
  if mode = Utf8.encode "disable".toList then some .disabled
  else if mode = Utf8.encode "require".toList then some .required
  else none

/-- What the parts of a URL name. -/
def Target.ofParts? (parts : Url.Parts) : Option Target := do
  let options ← parts.query.mapM option?
  return {
    hosts := ← hosts? parts.host
    port := ← number? (← component? parts.port)
    user := ← component? parts.user
    password := ← component? parts.password
    name := ← component? parts.name
    tls := (options.lookup (Utf8.encode "sslmode".toList)).bind encryption? }

/-- What a URL names. -/
def Target.ofUrl? (url : String) : Option Target := (Url.split? url.toList).bind Target.ofParts?

/-- What the driver is told. A socket is no server to be found by its name. -/
def Target.ofParameters? (parameters : Parameters) : Option Target :=
  match parameters.address with
  | .socket _ => none
  | .tcp host => some {
      hosts := [Utf8.encode host.toList]
      port := parameters.port.toNat
      user := Utf8.encode parameters.user.toList
      password := Utf8.encode parameters.password.toList
      name := Utf8.encode parameters.database.toList
      tls := some parameters.tls }

end Defs

section Octets

variable {cs rest : List Char}

/-- An octet of ASCII is that of one character. -/
theorem mem_encode_ascii
    {c : Char}
    (hc : c.toNat < 0x80) :
    c.toNat ∈ Utf8.encode cs ↔ c ∈ cs := by
  have hchar (d : Char) : c.toNat ∈ Utf8.encodeChar d ↔ c = d := by
    unfold Utf8.encodeChar
    dsimp only
    split
    · rw [List.mem_singleton, Char.toNat_inj]
    · have hne : c ≠ d := by
        rintro rfl
        contradiction
      split
      · simp only [List.mem_cons, List.not_mem_nil, or_false, hne, iff_false]
        omega
      split
      · simp only [List.mem_cons, List.not_mem_nil, or_false, hne, iff_false]
        omega
      · simp only [List.mem_cons, List.not_mem_nil, or_false, hne, iff_false]
        omega
  simp [Utf8.encode, hchar]

theorem length_encodeChar_of_hexValue?
    {c : Char}
    {n : Nat}
    (h : Percent.hexValue? c = some n) :
    (Utf8.encodeChar c).length = 1 := by
  have hc : c.toNat < 0x80 := by
    have hle {d : Char} (hcd : c ≤ d) : c.toNat ≤ d.toNat := hcd
    unfold Percent.hexValue? at h
    split at h
    · next hdigit => exact lt_of_le_of_lt (hle hdigit.2) (by decide)
    split at h
    · next hupper => exact lt_of_le_of_lt (hle hupper.2) (by decide)
    split at h
    · next hlower => exact lt_of_le_of_lt (hle hlower.2) (by decide)
    · cases h
  simp [Utf8.encodeChar, hc]

theorem ne_percent_of_hexValue?
    {c : Char}
    {n : Nat}
    (h : Percent.hexValue? c = some n) :
    c ≠ '%' := by
  rintro rfl
  have hnone : Percent.hexValue? '%' = none := by decide
  rw [hnone] at h
  cases h

/-- Every percent sign takes two octets from a text. -/
theorem length_octets?
    {octets : List Nat}
    (h : Percent.octets? cs = some octets) :
    octets.length + 2 * cs.count '%' = (Utf8.encode cs).length := by
  have hencode (c : Char) (cs : List Char) :
      (Utf8.encode (c :: cs)).length = (Utf8.encodeChar c).length + (Utf8.encode cs).length :=
    List.length_append
  fun_induction Percent.octets? cs generalizing octets with
  | case1 =>
      cases h
      rfl
  | case2 a b rest ih =>
      simp only [Option.bind_eq_bind, Option.bind_eq_some_iff, Option.pure_def,
        Option.some.injEq] at h
      obtain ⟨high, hhigh, low, hlow, behind, hbehind, rfl⟩ := h
      have hrest := ih hbehind
      have hpercent : (Utf8.encodeChar '%').length = 1 := by decide
      have ha := length_encodeChar_of_hexValue? hhigh
      have hb := length_encodeChar_of_hexValue? hlow
      have hcount : ('%' :: a :: b :: rest).count '%' = rest.count '%' + 1 := by
        rw [List.count_cons_self, List.count_cons_of_ne (ne_percent_of_hexValue? hhigh),
          List.count_cons_of_ne (ne_percent_of_hexValue? hlow)]
      rw [hcount, hencode, hencode, hencode, List.length_cons]
      omega
  | case3 => cases h
  | case4 c rest hpair hpercent ih =>
      obtain ⟨behind, hbehind, rfl⟩ := Option.map_eq_some_iff.1 h
      have hrest := ih hbehind
      rw [hencode, List.length_append, List.count_cons_of_ne hpercent]
      omega

/-- A text that stands for its own octets holds no percent sign. -/
theorem octets?_eq_encode_iff :
    Percent.octets? cs = some (Utf8.encode cs) ↔ '%' ∉ cs := by
  constructor
  · intro h
    have hlength := length_octets? h
    rw [← List.count_eq_zero]
    omega
  · intro h
    induction cs with
    | nil => rfl
    | cons c cs ih =>
        obtain ⟨hc, hcs⟩ := not_or.1 (mt List.mem_cons.2 h)
        rw [Percent.octets?_cons_of_ne (Ne.symm hc), ih hcs]
        rfl

end Octets

section Components

variable {cs : List Char}

theorem zero_mem_encode :
    0 ∈ Utf8.encode cs ↔ '\x00' ∈ cs := by
  have hzero : ('\x00').toNat = 0 := by decide
  rw [← mem_encode_ascii (by decide), hzero]

theorem comma_mem_encode :
    comma ∈ Utf8.encode cs ↔ ',' ∈ cs := by
  have hcomma : (',').toNat = comma := by decide
  rw [← mem_encode_ascii (by decide), hcomma]

/-- A text that is encoded in a URL is read from there, unless it holds a zero. -/
theorem component?_encode
    (octets : List Nat) :
    component? (Percent.encode cs) = some octets ↔ octets = Utf8.encode cs ∧ '\x00' ∉ cs := by
  rw [component?, Percent.octets?_encode, Option.filter_eq_some_iff, Option.some_inj, decide_eq_true_iff]
  constructor
  · rintro ⟨rfl, hzero⟩
    exact ⟨rfl, mt zero_mem_encode.2 hzero⟩
  · rintro ⟨rfl, hzero⟩
    exact ⟨rfl, mt zero_mem_encode.1 hzero⟩

/-- A text that is pasted into a URL is read from there, unless it holds a zero or a percent
sign. -/
theorem component?_eq_encode_iff :
    component? cs = some (Utf8.encode cs) ↔ '%' ∉ cs ∧ '\x00' ∉ cs := by
  rw [component?, Option.filter_eq_some_iff, octets?_eq_encode_iff, decide_eq_true_iff,
    zero_mem_encode]

theorem splitOn_comma
    (h : ',' ∉ cs) :
    (Utf8.encode cs).splitOn comma = [Utf8.encode cs] :=
  List.splitOn_eq_singleton (mt comma_mem_encode.1 h)

end Components

section Hosts

variable {cs : List Char}

/-- The address between brackets is read without them. -/
theorem hosts?_bracketed
    {address : List Char}
    (haddress : ∀ c ∈ address, Host.isAddressChar c = true) :
    hosts? ('[' :: (address ++ [']'])) = some [Utf8.encode address] := by
  have hnot {c : Char} (hc : Host.isAddressChar c = false) : c ∉ address := by
    intro hmem
    rw [haddress c hmem] at hc
    cases hc
  have hpieces : ('[' :: (address ++ [']'])).splitOn ',' = ['[' :: (address ++ [']'])] :=
    List.splitOn_eq_singleton (by simp [hnot (c := ',') (by decide)])
  have hbare : unbracketed? ('[' :: (address ++ [']'])) = some address := by
    rw [unbracketed?, Url.cutFirst?_append (hnot (by decide))]
    rfl
  have hread : component? address = some (Utf8.encode address) :=
    component?_eq_encode_iff.2 ⟨hnot (by decide), hnot (by decide)⟩
  rw [hosts?, hpieces]
  simp [hbare, hread, splitOn_comma (hnot (c := ',') (by decide))]

theorem unbracketed?_of_not_mem
    (h : '[' ∉ cs) :
    unbracketed? cs = some cs := by
  unfold unbracketed?
  split
  · simp at h
  · rfl

theorem ne_nil_of_hosts?
    {hosts : List (List Nat)}
    (h : hosts? cs = some hosts) :
    hosts ≠ [] := by
  obtain ⟨piece, pieces, hpieces⟩ := List.exists_cons_of_ne_nil (List.splitOn_ne_nil ',' cs)
  simp only [hosts?, hpieces, List.mapM_cons, Option.bind_eq_bind, Option.bind_eq_some_iff,
    Option.pure_def, Option.some.injEq] at h
  obtain ⟨read, ⟨first, -, others, -, rfl⟩, rfl⟩ := h
  rw [List.flatMap_cons]
  exact List.append_ne_nil_of_left_ne_nil (List.splitOn_ne_nil comma first) _

/-- Hosts before a comma, and hosts behind it. -/
theorem hosts?_append
    (before behind : List Char) :
    hosts? (before ++ ',' :: behind) = do return (← hosts? before) ++ (← hosts? behind) := by
  unfold hosts?
  rw [List.splitOn_append_cons_self, List.mapM_append]
  simp [Option.bind_assoc]

/-- Hosts between commas are more than one. -/
theorem two_le_length_of_hosts?
    {hosts : List (List Nat)}
    (hcomma : ',' ∈ cs)
    (h : hosts? cs = some hosts) :
    2 ≤ hosts.length := by
  obtain ⟨before, behind, rfl⟩ := List.append_of_mem hcomma
  simp only [hosts?_append, Option.bind_eq_bind, Option.bind_eq_some_iff, Option.pure_def,
    Option.some.injEq] at h
  obtain ⟨first, hfirst, second, hsecond, rfl⟩ := h
  have hone := List.length_pos_of_ne_nil (ne_nil_of_hosts? hfirst)
  have htwo := List.length_pos_of_ne_nil (ne_nil_of_hosts? hsecond)
  rw [List.length_append]
  omega

/-- A host without brackets is read as one host with its own name exactly if it holds no percent
sign, no comma and no zero. -/
theorem hosts?_eq_singleton_iff
    (hbracket : '[' ∉ cs) :
    hosts? cs = some [Utf8.encode cs] ↔ '%' ∉ cs ∧ ',' ∉ cs ∧ '\x00' ∉ cs := by
  by_cases hcomma : ',' ∈ cs
  · simp only [hcomma, not_true, false_and, and_false, iff_false]
    intro h
    have htwo := two_le_length_of_hosts? hcomma h
    simp at htwo
  · have hpieces : cs.splitOn ',' = [cs] := List.splitOn_eq_singleton hcomma
    have hhosts : hosts? cs = (component? cs).map (·.splitOn comma) := by
      rw [hosts?, hpieces]
      cases hread : component? cs <;> simp [unbracketed?_of_not_mem hbracket, hread]
    rw [hhosts, Option.map_eq_some_iff]
    simp only [hcomma, not_false_iff, true_and]
    rw [← component?_eq_encode_iff]
    constructor
    · rintro ⟨octets, hread, hsplit⟩
      have hjoin : [comma].intercalate (octets.splitOn comma) = octets :=
        List.intercalate_splitOn comma
      rw [hsplit, List.intercalate_singleton] at hjoin
      rw [hread, hjoin]
    · intro hread
      exact ⟨Utf8.encode cs, hread, splitOn_comma hcomma⟩

/-- The two ways in which a valid host stands in a URL: an address in brackets, or a name as it
is. -/
theorem forms_of_isValid
    (h : Host.isValid cs = true) :
    (∃ address, Host.inUrl cs = '[' :: (address ++ [']']) ∧ Host.forDriver cs = address ∧
        (∀ c ∈ address, Host.isAddressChar c = true) ∧
        ∀ c ∈ cs, Host.isAddressChar c = true ∨ c = '[' ∨ c = ']')
      ∨ Host.inUrl cs = cs ∧ Host.forDriver cs = cs ∧ '[' ∉ cs := by
  have hnot {cs : List Char} (hcs : Host.isIpv6 cs = true) : '[' ∉ cs := by
    intro hmem
    exact absurd (Host.isAddressChar_of_isIpv6 hcs '[' hmem) (by decide)
  have hbare {cs : List Char} (hcs : '[' ∉ cs) : Host.forDriver cs = cs := by
    unfold Host.forDriver Host.bracketed?
    split
    · simp at hcs
    · rfl
  by_cases hipv6 : Host.isIpv6 cs = true
  · have hall := Host.isAddressChar_of_isIpv6 hipv6
    exact .inl ⟨cs, by rw [Host.inUrl, if_pos hipv6], hbare (hnot hipv6), hall,
      fun c hc => .inl (hall c hc)⟩
  · have hpasted : Host.inUrl cs = cs := by rw [Host.inUrl, if_neg hipv6]
    have hvalid := h
    unfold Host.isValid at h
    split at h
    · next rest =>
      obtain ⟨address, rfl, haddress⟩ := Host.of_isValid_bracket hvalid
      have hall := Host.isAddressChar_of_isIpv6 haddress
      refine .inl ⟨address, hpasted, by simp [Host.forDriver, Host.bracketed?], hall, ?_⟩
      intro c hc
      simp only [List.mem_cons, List.mem_append, List.not_mem_nil, or_false] at hc
      rcases hc with hc | hc | hc
      · exact .inr (.inl hc)
      · exact .inl (hall c hc)
      · exact .inr (.inr hc)
    · rw [if_neg (fun hcolon => hipv6 (by rwa [if_pos hcolon] at h))] at h
      have hbracket : '[' ∉ cs := fun hmem =>
        absurd (List.all_eq_true.1 h '[' hmem) (by decide)
      exact .inr ⟨hpasted, hbare hbracket, hbracket⟩

/-- The host that is pasted into a URL is read as the one host of the driver exactly if it holds no
percent sign, no comma and no zero. -/
theorem hosts?_inUrl
    (h : Host.isValid cs = true) :
    hosts? (Host.inUrl cs) = some [Utf8.encode (Host.forDriver cs)]
      ↔ '%' ∉ cs ∧ ',' ∉ cs ∧ '\x00' ∉ cs := by
  obtain ⟨address, hurl, hdriver, haddress, hall⟩ | ⟨hurl, hdriver, hbracket⟩ := forms_of_isValid h
  · have hnot {c : Char} (hc : ¬ (Host.isAddressChar c = true ∨ c = '[' ∨ c = ']')) : c ∉ cs :=
      mt (hall c) hc
    rw [hurl, hdriver]
    exact iff_of_true (hosts?_bracketed haddress)
      ⟨hnot (by decide), hnot (by decide), hnot (by decide)⟩
  · rw [hurl, hdriver]
    exact hosts?_eq_singleton_iff hbracket

end Hosts

namespace DatabaseSettings

variable {settings : DatabaseSettings}

/-- What the driver of settings is told. -/
def target (settings : DatabaseSettings) (password : String) : Target where
  hosts := [Utf8.encode (Host.forDriver settings.host.toList)]
  port := settings.port.toNat
  user := Utf8.encode settings.user.toList
  password := Utf8.encode password.toList
  name := Utf8.encode settings.name.toList
  tls := some settings.tls

/-- A valid host is no path of a socket. -/
theorem ofParameters?_parametersWith
    (hhost : Host.isValid settings.host.toList = true)
    (password : String) :
    Target.ofParameters? (settings.parametersWith password) = some (settings.target password) := by
  have hpath : (Host.forDriver settings.host.toList).head? ≠ some '/' := by
    intro hhead
    have hslash := List.mem_of_mem_head? (Option.mem_def.2 hhead)
    obtain ⟨address, -, hdriver, haddress, -⟩ | ⟨-, hdriver, -⟩ := forms_of_isValid hhost
    · rw [hdriver] at hslash
      exact absurd (haddress '/' hslash) (by decide)
    · rw [hdriver] at hslash
      have hchar := Host.chars_of_isValid hhost '/' hslash
      exact absurd hchar (by decide)
  simp [Target.ofParameters?, parametersWith, Postgres.Address.ofHost, hpath, target]

theorem url_eq_of_resolve
    {env : Environment}
    {password : String}
    (hpassword : settings.password.resolve env = .ok password) :
    settings.url env = .ok (String.ofList (settings.urlWith password)) := by
  rw [url, resolvePassword, hpassword]
  rfl

theorem parameters_eq_of_resolve
    {env : Environment}
    {password : String}
    (hpassword : settings.password.resolve env = .ok password) :
    settings.parameters env = .ok (settings.parametersWith password) := by
  rw [parameters, resolvePassword, hpassword]
  rfl

theorem number?_port
    (n : Nat) :
    (component? (toString n).toList).bind number? = some n := by
  have hdigits {c : Char} (hc : c.isDigit = false) : c ∉ (toString n).toList := by
    have hdisjoint : (toString n).toList.Disjoint [c] := disjoint_digits (by simpa using hc) n
    exact fun hmem => hdisjoint hmem List.mem_cons_self
  have hread : component? (toString n).toList = some (Utf8.encode (toString n).toList) :=
    component?_eq_encode_iff.2 ⟨hdigits (by decide), hdigits (by decide)⟩
  rw [hread, Option.bind_some, number?, Utf8.decode?_encode]
  simp only [Option.bind_eq_bind, Option.bind_some, String.ofList_toList]
  rw [Nat.toString_eq_repr, Nat.toNat?_repr]

/-- Options are read unless a value holds a zero. -/
theorem mapM_option?_eq_some_iff
    {options : List (String × String)}
    (hkeys : ∀ option ∈ options, '%' ∉ option.1.toList ∧ '\x00' ∉ option.1.toList)
    (read : List (List Nat × List Nat)) :
    (options.map fun (key, value) => (key.toList, Percent.encode value.toList)).mapM option?
        = some read
      ↔ read = options.map (fun (key, value) => (Utf8.encode key.toList, Utf8.encode value.toList))
        ∧ ∀ option ∈ options, '\x00' ∉ option.2.toList := by
  induction options generalizing read with
  | nil => simp [eq_comm]
  | cons option options ih =>
      have hkey := component?_eq_encode_iff.2 (hkeys option List.mem_cons_self)
      have hrest := ih fun other hother => hkeys other (List.mem_cons_of_mem _ hother)
      simp only [List.map_cons, List.mapM_cons, option?, hkey, Option.bind_eq_bind,
        Option.bind_eq_some_iff, Option.bind_some, Option.pure_def, Option.some.injEq,
        component?_encode, hrest, List.forall_mem_cons]
      constructor
      · rintro ⟨first, ⟨octets, ⟨rfl, hzero⟩, rfl⟩, others, ⟨rfl, hothers⟩, rfl⟩
        exact ⟨rfl, hzero, hothers⟩
      · rintro ⟨rfl, hzero, hothers⟩
        exact ⟨_, ⟨_, ⟨rfl, hzero⟩, rfl⟩, _, ⟨rfl, hothers⟩, rfl⟩

/-- The options are read unless the schema holds a zero, and then ask for the encryption of the
driver. -/
theorem options_urlParts
    (settings : DatabaseSettings)
    (password : String) :
    (∃ options, (settings.urlParts password).query.mapM option? = some options ∧
        (options.lookup (Utf8.encode "sslmode".toList)).bind encryption? = some settings.tls)
      ↔ ∀ schema ∈ settings.schema, '\x00' ∉ schema.toList := by
  have hkeys : ∀ option ∈ settings.urlOptions,
      '%' ∉ option.1.toList ∧ '\x00' ∉ option.1.toList := by
    intro option hmem
    rcases key_of_mem_urlOptions hmem with hkey | hkey | hkey
    · rw [hkey]
      decide
    · rw [hkey]
      decide
    · rw [hkey]
      decide
  have hvalues : (∀ option ∈ settings.urlOptions, '\x00' ∉ option.2.toList)
      ↔ ∀ schema ∈ settings.schema, '\x00' ∉ schema.toList := by
    have hfixed : '\x00' ∉ (if settings.disableTls then "disable" else "require").toList ∧
        '\x00' ∉ "utc".toList := by
      cases settings.disableTls
      · decide
      · decide
    unfold urlOptions
    cases settings.schema with
    | none => simp [hfixed.1]
    | some schema => simp [hfixed.1]
  have hmode : encryption?
      (Utf8.encode (if settings.disableTls then "disable" else "require").toList)
        = some settings.tls := by
    unfold tls
    cases settings.disableTls
    · decide
    · decide
  have hread := mapM_option?_eq_some_iff hkeys
  simp only [urlParts, hread, hvalues]
  constructor
  · rintro ⟨options, ⟨-, hschema⟩, -⟩
    exact hschema
  · intro hschema
    refine ⟨_, ⟨rfl, hschema⟩, ?_⟩
    rw [urlOptions, List.cons_append, List.map_cons, List.lookup_cons_self, Option.bind_some, hmode]

theorem ofParts?_eq_some_iff
    {parts : Url.Parts}
    {target : Target} :
    Target.ofParts? parts = some target
      ↔ (∃ options, parts.query.mapM option? = some options ∧
            (options.lookup (Utf8.encode "sslmode".toList)).bind encryption? = target.tls) ∧
        hosts? parts.host = some target.hosts ∧
        (component? parts.port).bind number? = some target.port ∧
        component? parts.user = some target.user ∧
        component? parts.password = some target.password ∧
        component? parts.name = some target.name := by
  simp only [Target.ofParts?, Option.bind_eq_bind, Option.bind_eq_some_iff, Option.pure_def,
    Option.some.injEq]
  constructor
  · rintro ⟨options, hoptions, hosts, hhosts, octets, hport, port, hnumber, user, huser, password,
      hpassword, name, hname, rfl⟩
    exact ⟨⟨options, hoptions, rfl⟩, hhosts, ⟨octets, hport, hnumber⟩, huser, hpassword, hname⟩
  · rintro ⟨⟨options, hoptions, htls⟩, hhosts, ⟨octets, hport, hnumber⟩, huser, hpassword, hname⟩
    refine ⟨options, hoptions, _, hhosts, octets, hport, _, hnumber, _, huser, _, hpassword, _,
      hname, ?_⟩
    rw [htls]

/-- What the URL of settings with a valid host names: the hosts that its host is read as, and the
session of the driver, unless an encoded text holds a zero. -/
theorem ofUrl?_urlWith
    (hhost : Host.isValid settings.host.toList = true)
    (password : String)
    (hosts : List (List Nat)) :
    Target.ofUrl? (String.ofList (settings.urlWith password))
        = some { settings.target password with hosts := hosts }
      ↔ hosts? (Host.inUrl settings.host.toList) = some hosts ∧
        ∀ part ∈ settings.user :: password :: settings.name :: settings.schema.toList,
          '\x00' ∉ part.toList := by
  have hsplit : Url.split? (String.ofList (settings.urlWith password)).toList
      = some (settings.urlParts password) := by
    rw [String.toList_ofList, urlWith_eq_text]
    exact Url.split?_text (separate_urlParts hhost password)
  have hport : (component? (settings.urlParts password).port).bind number?
      = some settings.port.toNat := number?_port settings.port.toNat
  have htext (text : String) :
      component? (Percent.encode text.toList) = some (Utf8.encode text.toList)
        ↔ '\x00' ∉ text.toList := by
    rw [component?_encode]
    exact and_iff_right rfl
  rw [Target.ofUrl?, hsplit, Option.bind_some, ofParts?_eq_some_iff]
  simp only [target, options_urlParts, hport, true_and]
  simp only [urlParts, htext, List.forall_mem_cons, Option.mem_toList]
  constructor
  · rintro ⟨hschema, hhosts, huser, hpassword, hname⟩
    exact ⟨hhosts, huser, hpassword, hname, hschema⟩
  · rintro ⟨hhosts, huser, hpassword, hname, hschema⟩
    exact ⟨hschema, hhosts, huser, hpassword, hname⟩

/-- The URL of settings that pass the check names the same server and the same session with it as
the parameters of the driver do, if and only if the host holds neither a percent sign nor a comma,
and no text holds a zero. -/
theorem url_names_server_of_driver_iff
    {env : Environment}
    {password : String}
    (hvalid : settings.validate = .ok ())
    (hpassword : settings.password.resolve env = .ok password) :
    ∃ text parameters target,
      settings.url env = .ok text ∧ settings.parameters env = .ok parameters ∧
      Target.ofParameters? parameters = some target ∧
      (Target.ofUrl? text = some target
        ↔ '%' ∉ settings.host.toList ∧ ',' ∉ settings.host.toList ∧
          ∀ part ∈ settings.host :: settings.user :: password :: settings.name
            :: settings.schema.toList, '\x00' ∉ part.toList) := by
  have hhost := isValid_host_of_validate hvalid
  refine ⟨_, _, settings.target password, url_eq_of_resolve hpassword,
    parameters_eq_of_resolve hpassword, ofParameters?_parametersWith hhost password, ?_⟩
  have hread := ofUrl?_urlWith hhost password [Utf8.encode (Host.forDriver settings.host.toList)]
  refine hread.trans ?_
  rw [hosts?_inUrl hhost, and_assoc, and_assoc]
  rw [List.forall_mem_cons (a := settings.host)]

/-- Settings for a server that is given by its host. -/
def forHost (host : String) : DatabaseSettings :=
  { user := "reader", password := .plain "p@ss,50%", host := host, name := "a/b%20c" }

/-- Brackets stand only in the URL. -/
theorem url_names_server_of_driver_in_brackets :
    ∃ text parameters target,
      (forHost "[::1]").url .empty = .ok text ∧
      (forHost "[::1]").parameters .empty = .ok parameters ∧
      Target.ofParameters? parameters = some target ∧ Target.ofUrl? text = some target := by
  have hvalid : (forHost "[::1]").validate = .ok () := by decide +kernel
  have hpassword : (forHost "[::1]").password.resolve .empty = .ok "p@ss,50%" := by rfl
  obtain ⟨text, parameters, target, hurl, hparameters, htarget, hsame⟩ :=
    url_names_server_of_driver_iff hvalid hpassword
  exact ⟨text, parameters, target, hurl, hparameters, htarget, hsame.2 (by decide +kernel)⟩

/-- A host with a percent sign passes the check, and the URL names another host than the driver is
told. -/
theorem url_names_other_host :
    ∃ text parameters,
      (forHost "db%31").validate = .ok () ∧
      (forHost "db%31").url .empty = .ok text ∧
      (forHost "db%31").parameters .empty = .ok parameters ∧
      (Target.ofParameters? parameters).map Target.hosts = some [Utf8.encode "db%31".toList] ∧
      (Target.ofUrl? text).map Target.hosts = some [Utf8.encode "db1".toList] := by
  have hhost : Host.isValid (forHost "db%31").host.toList = true := by decide +kernel
  have hpassword : (forHost "db%31").password.resolve .empty = .ok "p@ss,50%" := by rfl
  have hhosts : hosts? (Host.inUrl (forHost "db%31").host.toList)
      = some [Utf8.encode "db1".toList] := by decide +kernel
  refine ⟨_, _, by decide +kernel, url_eq_of_resolve hpassword, parameters_eq_of_resolve hpassword,
    ?_, ?_⟩
  · rw [ofParameters?_parametersWith hhost]
    decide +kernel
  · rw [(ofUrl?_urlWith hhost _ _).2 ⟨hhosts, by decide +kernel⟩, Option.map_some]

end DatabaseSettings
end Configuration
end QueryBatch

import Mathlib
import QueryBatch.Proofs.Configuration.Servers

/-!
# Brackets around an address

An address of version 6 can be configured with brackets or without. The check accepts both forms,
the URL puts brackets where there are none, and the driver is given the address without them. The
three agree because no address starts with a bracket and every address holds a colon
(`colon_mem_of_isIpv6`): so each form is taken for what it is, and the bracketed one is no address
itself.

All other hosts that pass the check are used as they are, and none of them is the path of a socket.
-/

namespace QueryBatch
namespace Configuration
namespace Host

section Colons

variable {cs rest : List Char}

theorem Spends.not_mem
    {c : Char}
    (h : Spends cs rest)
    (hc : c ∉ cs) :
    c ∉ rest := by
  obtain ⟨taken, rfl, -⟩ := h
  exact fun hmem => hc (List.mem_append_right taken hmem)

theorem after?_eq_none
    {c : Char}
    (hc : c ∉ cs) :
    after? c cs = none := by
  cases cs with
  | nil => rfl
  | cons d cs =>
      have hd : d ≠ c := fun h => hc (h ▸ List.mem_cons_self)
      rw [after?, if_neg hd]

/-- Without a colon no group follows another one. -/
theorem groups_eq_of_not_mem
    (hcs : ':' ∉ cs)
    (room : Nat) :
    groups (room + 1) false cs = ⟨room + 1, false, cs⟩ := by
  simp [groups, separated?, after?_eq_none hcs]

/-- An address of version 6 holds a colon. -/
theorem colon_mem_of_isIpv6
    (h : isIpv6 cs = true) :
    ':' ∈ cs := by
  by_contra hcs
  -- Without colons there is one group at most, and nothing stands for those that are missing.
  have hend : ∃ room dotted, groups 8 true cs = ⟨room + 1, dotted, (groups 8 true cs).rest⟩ := by
    cases hdotted : dotted? cs with
    | some rest => exact ⟨5, true, by simp [groups, separated?, hdotted]⟩
    | none =>
        cases hgroup : group? cs with
        | none => exact ⟨7, false, by simp [groups, separated?, hdotted, hgroup]⟩
        | some rest =>
            have hrest := groups_eq_of_not_mem ((spends_group hgroup).not_mem hcs) 6
            have hgroups : groups 8 true cs = groups 7 false rest := by
              rw [groups]
              simp [separated?, hdotted, hgroup]
            exact ⟨6, false, by rw [hgroups, hrest]⟩
  obtain ⟨room, dotted, hend⟩ := hend
  have hnone := after?_eq_none ((spends_groups 8 true cs).not_mem hcs)
  unfold isIpv6 at h
  rw [hend] at h
  simp [hnone] at h

end Colons

section Forms

variable {cs : List Char}

theorem not_bracket_mem_of_isIpv6
    (h : isIpv6 cs = true) :
    '[' ∉ cs ∧ ']' ∉ cs :=
  ⟨fun hmem => absurd (isAddressChar_of_isIpv6 h '[' hmem) (by decide),
    fun hmem => absurd (isAddressChar_of_isIpv6 h ']' hmem) (by decide)⟩

theorem bracketed?_brackets
    (cs : List Char) :
    bracketed? ('[' :: (cs ++ [']'])) = some cs := by
  simp [bracketed?]

theorem bracketed?_eq_none
    (hcs : cs.head? ≠ some '[') :
    bracketed? cs = none := by
  unfold bracketed?
  split
  · exact absurd rfl hcs
  · rfl

/-- An address does not start with a bracket. -/
theorem head_ne_of_isIpv6
    (h : isIpv6 cs = true) :
    cs.head? ≠ some '[' :=
  fun hhead => (not_bracket_mem_of_isIpv6 h).1 (List.mem_of_mem_head? (Option.mem_def.2 hhead))

/-- The bracketed form is no address itself. -/
theorem isIpv6_brackets
    (cs : List Char) :
    isIpv6 ('[' :: (cs ++ [']'])) = false := by
  by_contra h
  exact head_ne_of_isIpv6 (Bool.eq_true_of_not_eq_false h) rfl

/-- Both forms pass the check. -/
theorem isValid_of_isIpv6
    (h : isIpv6 cs = true) :
    isValid cs = true ∧ isValid ('[' :: (cs ++ [']'])) = true := by
  constructor
  · have hcolon : cs.contains ':' = true := by simpa using colon_mem_of_isIpv6 h
    unfold isValid
    split
    · exact absurd rfl (head_ne_of_isIpv6 h)
    · rw [if_pos hcolon, h]
  · rw [isValid, bracketed?_brackets, Option.any_some, h]

theorem inUrl_brackets
    (h : isIpv6 cs = true) :
    inUrl ('[' :: (cs ++ [']'])) = inUrl cs := by
  rw [inUrl, if_neg (by simp [isIpv6_brackets]), inUrl, if_pos h]

theorem forDriver_of_isIpv6
    (h : isIpv6 cs = true) :
    forDriver cs = cs := by
  rw [forDriver, bracketed?_eq_none (head_ne_of_isIpv6 h), Option.getD_none]

theorem forDriver_brackets
    (cs : List Char) :
    forDriver ('[' :: (cs ++ [']'])) = cs := by
  rw [forDriver, bracketed?_brackets, Option.getD_some]

/-- A valid host in brackets holds an address there. -/
theorem eq_brackets_of_isValid
    (h : isValid cs = true)
    (hhead : cs.head? = some '[') :
    ∃ address, isIpv6 address = true ∧ cs = '[' :: (address ++ [']']) := by
  cases cs with
  | nil => cases hhead
  | cons c rest =>
      obtain rfl := Option.some.inj hhead
      obtain ⟨address, rfl, haddress⟩ := of_isValid_bracket h
      exact ⟨address, haddress, rfl⟩

theorem slash_not_mem_of_isValid
    (h : isValid cs = true) :
    '/' ∉ cs :=
  fun hmem => absurd (chars_of_isValid h '/' hmem) (by decide)

end Forms

end Host

theorem address_eq_tcp
    {host : String}
    (hslash : '/' ∉ host.toList) :
    Postgres.Address.ofHost host = .tcp host := by
  have hhead : host.toList.head? ≠ some '/' :=
    fun hhead => hslash (List.mem_of_mem_head? (Option.mem_def.2 hhead))
  rw [Postgres.Address.ofHost, if_neg hhead]

namespace DatabaseSettings

/-- A host that passes the check in some settings. -/
def Accepts (host : String) : Prop :=
  ∃ settings : DatabaseSettings, settings.host = host ∧ settings.validate = .ok ()

/-- Settings for another host. -/
def withHost (settings : DatabaseSettings) (host : String) : DatabaseSettings :=
  { settings with host := host }

section Hosts

variable {host other : String}

theorem toList_brackets
    (address : String) :
    ("[" ++ address ++ "]").toList = '[' :: (address.toList ++ [']']) := by
  simp

/-- The check tells valid hosts apart by nothing. -/
theorem validate_withHost
    (hhost : host ≠ "" ∧ Host.isValid host.toList = true)
    (hother : other ≠ "" ∧ Host.isValid other.toList = true)
    (settings : DatabaseSettings) :
    (settings.withHost host).validate = (settings.withHost other).validate := by
  unfold validate withHost
  simp [hhost, hother]

/-- The URL of settings depends on the host as it stands there. -/
theorem url_withHost
    (h : Host.inUrl host.toList = Host.inUrl other.toList)
    (settings : DatabaseSettings)
    (env : Environment) :
    (settings.withHost host).url env = (settings.withHost other).url env := by
  have hwith (password : String) :
      (settings.withHost host).urlWith password = (settings.withHost other).urlWith password := by
    unfold urlWith withHost
    rw [h]
    rfl
  unfold url
  simp only [hwith]
  rfl

/-- The parameters of the driver depend on the host that the driver is given. -/
theorem parameters_withHost
    (h : Host.forDriver host.toList = Host.forDriver other.toList)
    (settings : DatabaseSettings)
    (env : Environment) :
    (settings.withHost host).parameters env = (settings.withHost other).parameters env := by
  have hwith (password : String) :
      (settings.withHost host).parametersWith password
        = (settings.withHost other).parametersWith password := by
    unfold parametersWith withHost
    rw [h]
    rfl
  unfold parameters
  simp only [hwith]
  rfl

/-- A host that passes the check, other than an address with or without brackets, stands in the URL
and goes to the driver as it was configured. -/
theorem host_used_as_configured
    {settings : DatabaseSettings}
    (haccepts : Accepts settings.host)
    (hipv6 : Host.isIpv6 settings.host.toList = false)
    (hbracketed : ∀ address, Host.isIpv6 address.toList = true →
      settings.host ≠ "[" ++ address ++ "]")
    (env : Environment)
    {password : String}
    (hpassword : settings.password.resolve env = .ok password) :
    ∃ text reading parameters, settings.url env = .ok text ∧
      Url.read? text = some reading ∧ reading.host = settings.host ∧
      settings.parameters env = .ok parameters ∧ parameters.address = .tcp settings.host := by
  obtain ⟨accepted, hhost, hvalid⟩ := haccepts
  have hisValid := isValid_host_of_validate hvalid
  rw [hhost] at hisValid
  have hhead : settings.host.toList.head? ≠ some '[' := by
    intro hhead
    obtain ⟨address, haddress, hform⟩ := Host.eq_brackets_of_isValid hisValid hhead
    refine hbracketed (String.ofList address) (by rwa [String.toList_ofList]) ?_
    rw [← String.toList_inj, toList_brackets, String.toList_ofList, hform]
  have hurl : String.ofList (Host.inUrl settings.host.toList) = settings.host := by
    rw [Host.inUrl, if_neg (by simp [hipv6]), String.ofList_toList]
  have hdriver : String.ofList (Host.forDriver settings.host.toList) = settings.host := by
    rw [Host.forDriver, Host.bracketed?_eq_none hhead, Option.getD_none, String.ofList_toList]
  have htcp := address_eq_tcp (Host.slash_not_mem_of_isValid hisValid)
  refine ⟨_, _, _, url_eq_of_resolve hpassword, read?_urlWith hisValid password, hurl,
    parameters_eq_of_resolve hpassword, ?_⟩
  rw [parametersWith, hdriver, htcp]

/-- An address of version 6 and the same address in brackets say the same. All other hosts that pass
the check are used as they are given.

Settings for an address and for its bracketed form pass the check or fail it alike, and have the
same URL and the same parameters for the driver, which is given the address without brackets. Every
other accepted host stands in the URL and goes to the driver as it was configured, and never as the
path of a socket. -/
theorem brackets_are_interchangeable :
    (∀ (settings : DatabaseSettings) env address, Host.isIpv6 address.toList = true →
      let bare := withHost settings address
      let bracketed := withHost settings ("[" ++ address ++ "]")
      bare.validate = bracketed.validate ∧
      bare.url env = bracketed.url env ∧
      bare.parameters env = bracketed.parameters env ∧
      (∀ password, settings.password.resolve env = .ok password →
        ∃ parameters, bare.parameters env = .ok parameters ∧ parameters.address = .tcp address) ∧
      '[' ∉ address.toList ∧ ']' ∉ address.toList) ∧
    ∀ (settings : DatabaseSettings) env, Accepts settings.host →
      Host.isIpv6 settings.host.toList = false →
      (∀ address, Host.isIpv6 address.toList = true → settings.host ≠ "[" ++ address ++ "]") →
      ∀ password, settings.password.resolve env = .ok password →
        ∃ text reading parameters, settings.url env = .ok text ∧
          Url.read? text = some reading ∧ reading.host = settings.host ∧
          settings.parameters env = .ok parameters ∧ parameters.address = .tcp settings.host := by
  refine ⟨fun settings env address haddress => ?_, ?_⟩
  · obtain ⟨hbare, hbracketed⟩ := Host.isValid_of_isIpv6 haddress
    obtain ⟨hopening, hclosing⟩ := Host.not_bracket_mem_of_isIpv6 haddress
    have hnonempty : address ≠ "" := by
      rintro rfl
      exact absurd (Host.colon_mem_of_isIpv6 haddress) (by simp)
    rw [← toList_brackets] at hbracketed
    refine ⟨validate_withHost ⟨hnonempty, hbare⟩ ⟨by simp, hbracketed⟩ settings,
      url_withHost ?_ settings env, parameters_withHost ?_ settings env, ?_, hopening, hclosing⟩
    · rw [toList_brackets, Host.inUrl_brackets haddress]
    · rw [toList_brackets, Host.forDriver_brackets, Host.forDriver_of_isIpv6 haddress]
    · intro password hpassword
      refine ⟨_, parameters_eq_of_resolve hpassword, ?_⟩
      have hdriver : String.ofList (Host.forDriver address.toList) = address := by
        rw [Host.forDriver_of_isIpv6 haddress, String.ofList_toList]
      change Postgres.Address.ofHost (String.ofList (Host.forDriver address.toList)) = .tcp address
      rw [hdriver, address_eq_tcp (Host.slash_not_mem_of_isValid hbare)]
  · intro settings env haccepts hipv6 hbracketed password hpassword
    exact host_used_as_configured haccepts hipv6 hbracketed env hpassword

/-- An address that ends in one of version 4, with and without brackets, and a name. -/
theorem brackets_are_interchangeable_for_mapped_address :
    let mapped := withHost initial "::ffff:10.0.0.7"
    let bracketed := withHost initial "[::ffff:10.0.0.7]"
    mapped.validate = bracketed.validate ∧
      mapped.url (.ofList [("PGPASSWORD", .text "pw")])
        = bracketed.url (.ofList [("PGPASSWORD", .text "pw")]) ∧
      ∃ parameters, (withHost initial "db.internal").parameters
          (.ofList [("PGPASSWORD", .text "pw")]) = .ok parameters ∧
        parameters.address = .tcp "db.internal" := by
  obtain ⟨haddress, hothers⟩ := brackets_are_interchangeable
  obtain ⟨hvalidate, hurl, -⟩ := haddress initial (.ofList [("PGPASSWORD", .text "pw")])
    "::ffff:10.0.0.7" (by decide +kernel)
  obtain ⟨-, -, parameters, -, -, -, hparameters, htcp⟩ :=
    hothers (withHost initial "db.internal") (.ofList [("PGPASSWORD", .text "pw")])
      ⟨withHost initial "db.internal", rfl, by decide +kernel⟩ (by decide +kernel)
      (fun address _ h => absurd (congrArg String.toList h) (by simp [withHost]))
      "pw" (by rfl)
  exact ⟨hvalidate, hurl, parameters, hparameters, htcp⟩

end Hosts

end DatabaseSettings
end Configuration
end QueryBatch

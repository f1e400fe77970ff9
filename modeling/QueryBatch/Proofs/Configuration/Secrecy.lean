import QueryBatch.Configuration.File

/-!
# What is shown of a password

Settings and environments that differ in the password alone are told apart by what goes to the
server and into the URL, and hardly by anything else: not by the settings as they are shown, not by
what the checks answer, and by the pool or the error that comes of them only in one way.

That way is whether there is a password. One that is written down must not be empty, which the
checks tell. One in a variable has to be a text: a variable that is not set, or set to octets that
are no text, is reported by its name, and no more is told of it than that (`connectLazy_of_error`).
-/

namespace QueryBatch
namespace Configuration

section Defs

/-- Two values of a variable that both are texts, or both are octets that are none. -/
inductive Setting.Alike : Setting → Setting → Prop
  | text (first second : String) : Alike (.text first) (.text second)
  | octets
      {first second : List Nat}
      (hfirst : Text.Utf8.decode? first = none)
      (hsecond : Text.Utf8.decode? second = none) :
      Alike (.octets first hfirst) (.octets second hsecond)

/-- Settings that differ at most in the text of a password that is written down. -/
structure DatabaseSettings.SameButPassword (first second : DatabaseSettings) : Prop where
  rest : first = { second with password := first.password }
  password : first.password = second.password ∨
    ∃ one other, one ≠ "" ∧ other ≠ "" ∧
      first.password = .plain one ∧ second.password = .plain other

/-- The variable that a secret names, if it names one, is set to a text in both environments, or to
octets that are none in both, or in neither. -/
def Secret.AlikeIn (secret : Secret) (first second : Environment) : Prop :=
  ∀ name, secret = .fromEnvironment name →
    Option.Rel Setting.Alike (first name) (second name)

/-- The parameters of a driver without the password. -/
def withoutPassword (parameters : Postgres.Parameters) : Postgres.Parameters :=
  { parameters with password := "" }

end Defs

/-- A pool does not show its password. -/
theorem shown_withoutPassword
    (parameters : Postgres.Parameters)
    (options : Postgres.PoolOptions) :
    (Postgres.ServerPool.new parameters options).shown
      = (Postgres.ServerPool.new (withoutPassword parameters) options).shown :=
  rfl

/-- What a variable is set to, if it can be read, is all that its value decides. -/
theorem Environment.read_alike
    {env other : Environment}
    {name : String}
    (hvalues : Option.Rel Setting.Alike (env name) (other name)) :
    (∃ one two, env.read name = .ok one ∧ other.read name = .ok two) ∨
      ∃ e, env.read name = .error e ∧ other.read name = .error e := by
  unfold read
  generalize env name = here at hvalues ⊢
  generalize other name = there at hvalues ⊢
  cases hvalues with
  | none => exact .inr ⟨.notPresent name, rfl, rfl⟩
  | some halike =>
      cases halike with
      | text one two => exact .inl ⟨one, two, rfl, rfl⟩
      | octets hfirst hsecond => exact .inr ⟨.notUnicode name, rfl, rfl⟩

namespace DatabaseSettings

variable {first second : DatabaseSettings} {env other : Environment}

/-- If the password cannot be read, the checks are made all the same, and then the reason is
reported. -/
theorem connectLazy_of_error
    {e : EnvironmentError}
    (hread : first.password.resolve env = .error e) :
    first.connectLazy env = (do
      first.validate.mapError .configuration
      throw (.configuration (.environment e))) := by
  unfold connectLazy parameters resolvePassword
  rw [hread]
  rfl

namespace SameButPassword

theorem isEmpty_eq
    (hsame : SameButPassword first second) :
    first.password.isEmpty = second.password.isEmpty := by
  rcases hsame.password with heq | ⟨one, other, hone, hother, hfirst, hsecond⟩
  · rw [heq]
  · simp [hfirst, hsecond, Secret.isEmpty, hone, hother]

theorem shown_password_eq
    (hsame : SameButPassword first second) :
    first.password.shown = second.password.shown := by
  rcases hsame.password with heq | ⟨one, other, -, -, hfirst, hsecond⟩
  · rw [heq]
  · rw [hfirst, hsecond]
    rfl

theorem shown_eq
    (hsame : SameButPassword first second) :
    first.shown = second.shown := by
  have hpassword := hsame.shown_password_eq
  rw [hsame.rest] at hpassword ⊢
  unfold shown
  rw [hpassword]

theorem validate_eq
    (hsame : SameButPassword first second) :
    first.validate = second.validate := by
  have hpassword := hsame.isEmpty_eq
  rw [hsame.rest] at hpassword ⊢
  unfold validate
  rw [hpassword]

/-- A password that can be read in one environment can be read in the other, and one that cannot
fails in both for the same reason. -/
theorem resolve_alike
    (hsame : SameButPassword first second)
    (henv : first.password.AlikeIn env other) :
    (∃ one two, first.password.resolve env = .ok one ∧ second.password.resolve other = .ok two) ∨
      ∃ e, first.password.resolve env = .error e ∧ second.password.resolve other = .error e := by
  rcases hsame.password with heq | ⟨one, two, -, -, hfirst, hsecond⟩
  · rw [← heq]
    cases hsecret : first.password with
    | plain value => exact .inl ⟨value, value, rfl, rfl⟩
    | fromEnvironment name => exact Environment.read_alike (henv name hsecret)
  · exact .inl ⟨one, two, by rw [hfirst]; rfl, by rw [hsecond]; rfl⟩

/-- The parameters of the driver are the same but for the password, or missing for the same
reason. -/
theorem parameters_eq
    (hsame : SameButPassword first second)
    (henv : first.password.AlikeIn env other) :
    (first.parameters env).map withoutPassword = (second.parameters other).map withoutPassword := by
  have hwith : ∀ one two, withoutPassword (first.parametersWith one)
      = withoutPassword (second.parametersWith two) := by
    intro one two
    rw [hsame.rest]
    rfl
  unfold parameters resolvePassword
  rcases hsame.resolve_alike henv with ⟨one, two, hone, htwo⟩ | ⟨e, hone, htwo⟩
  · rw [hone, htwo]
    exact congrArg Except.ok (hwith one two)
  · rw [hone, htwo]
    rfl

/-- The pool that comes of the settings is shown without its password. -/
theorem connectLazy_shown_eq
    (hsame : SameButPassword first second)
    (henv : first.password.AlikeIn env other) :
    (first.connectLazy env).map Postgres.ServerPool.shown
      = (second.connectLazy other).map Postgres.ServerPool.shown := by
  have hpool : first.pool = second.pool := by
    rw [hsame.rest]
  have hparameters := hsame.parameters_eq henv
  unfold connectLazy
  rw [hsame.validate_eq, hpool]
  cases second.validate with
  | error e => rfl
  | ok _ =>
      generalize first.parameters env = one at hparameters ⊢
      generalize second.parameters other = two at hparameters ⊢
      cases one with
      | error e =>
          cases two with
          | error why =>
              cases hparameters
              rfl
          | ok two => cases hparameters
      | ok one =>
          cases two with
          | error why => cases hparameters
          | ok two =>
              have hwithout : withoutPassword one = withoutPassword two :=
                Except.ok.inj hparameters
              have hshown : (Postgres.ServerPool.new one second.pool.options).shown
                  = (Postgres.ServerPool.new two second.pool.options).shown := by
                rw [shown_withoutPassword one, shown_withoutPassword two, hwithout]
              exact congrArg Except.ok hshown

end SameButPassword
end DatabaseSettings

/-- Nothing that is shown of settings tells their password: not the settings themselves, as they
were read or as they are run with, nor what the checks answer. The pool or the error that comes of
them tells at most whether there is a text to be read, and the parameters for the driver differ in
the password alone. Where there is no text, the checks are followed by the name of the variable and
the reason. -/
theorem shown_independent_of_password
    {first second : DatabaseSettings}
    (hsame : first.SameButPassword second)
    (env other : Environment)
    (version : UInt32) :
    first.shown = second.shown ∧
      ({ version := version, database := first } : ParsedConfiguration).shown
        = ({ version := version, database := second } : ParsedConfiguration).shown ∧
      first.validate = second.validate ∧
      ({ version := version, database := first } : ParsedConfiguration).runtime.map
          ParsedConfiguration.shownRuntime
        = ({ version := version, database := second } : ParsedConfiguration).runtime.map
          ParsedConfiguration.shownRuntime ∧
      (first.password.AlikeIn env other →
        (first.connectLazy env).map Postgres.ServerPool.shown
            = (second.connectLazy other).map Postgres.ServerPool.shown ∧
          (first.parameters env).map withoutPassword
            = (second.parameters other).map withoutPassword) ∧
      ∀ name, first.password = .fromEnvironment name →
        (env name = none → first.connectLazy env = (do
          first.validate.mapError .configuration
          throw (.configuration (.environment (.notPresent name))))) ∧
        ∀ raw malformed, env name = some (.octets raw malformed) → first.connectLazy env = (do
          first.validate.mapError .configuration
          throw (.configuration (.environment (.notUnicode name)))) := by
  have hshown := hsame.shown_eq
  have hvalid := hsame.validate_eq
  refine ⟨hshown, ?parsed, hvalid, ?runtime, ?alike, ?unreadable⟩
  case parsed =>
    unfold ParsedConfiguration.shown
    rw [hshown]
  case runtime =>
    unfold ParsedConfiguration.runtime
    rw [hvalid]
    cases second.validate with
    | error e => rfl
    | ok _ =>
        have hruntime : ParsedConfiguration.shownRuntime first
            = ParsedConfiguration.shownRuntime second := by
          unfold ParsedConfiguration.shownRuntime
          rw [hshown]
        exact congrArg Except.ok hruntime
  case alike =>
    intro henv
    exact ⟨hsame.connectLazy_shown_eq henv, hsame.parameters_eq henv⟩
  case unreadable =>
    intro name hname
    have hresolve : first.password.resolve env = env.read name := by
      rw [hname]
      rfl
    constructor
    · intro hunset
      have hread : env.read name = .error (.notPresent name) := by
        rw [Environment.read, hunset]
      exact DatabaseSettings.connectLazy_of_error (hresolve.trans hread)
    · intro raw malformed hoctets
      have hread : env.read name = .error (.notUnicode name) := by
        rw [Environment.read, hoctets]
      exact DatabaseSettings.connectLazy_of_error (hresolve.trans hread)

/-- Settings that differ in a password only. -/
def guest (password : Secret) : DatabaseSettings :=
  { user := "guest", password := password, host := "db.internal", name := "library" }

/-- A variable for the password that is set to these octets. -/
def passwordSet (raw : List Nat) : Environment :=
  Environment.ofList [("PW", .ofOctets raw)]

/-- Passwords that are written down, and then such that are in a variable: they lead to other URLs,
and to the same pool to look at. Octets that are no text lead to the same error, whichever they
are. -/
theorem shown_independent_of_guest_password :
    let tulip := passwordSet (Text.Utf8.encode "tulip".toList)
    let rose := passwordSet (Text.Utf8.encode "rose".toList)
    let reading := guest (.fromEnvironment "PW")
    (((guest (.plain "tulip")).url tulip).toOption
        ≠ ((guest (.plain "rose")).url tulip).toOption ∧
      ((guest (.plain "tulip")).connectLazy tulip).map Postgres.ServerPool.shown
        = ((guest (.plain "rose")).connectLazy tulip).map Postgres.ServerPool.shown) ∧
    ((reading.url tulip).toOption ≠ (reading.url rose).toOption ∧
      (reading.connectLazy tulip).map Postgres.ServerPool.shown
        = (reading.connectLazy rose).map Postgres.ServerPool.shown) ∧
    reading.connectLazy (passwordSet [255]) = (do
      reading.validate.mapError .configuration
      throw (.configuration (.environment (.notUnicode "PW")))) := by
  intro tulip rose reading
  have hplain : (guest (.plain "tulip")).SameButPassword (guest (.plain "rose")) :=
    ⟨rfl, .inr ⟨"tulip", "rose", by decide, by decide, rfl, rfl⟩⟩
  have hnone : (guest (.plain "tulip")).password.AlikeIn tulip tulip := by
    intro name hname
    cases hname
  have hnamed : reading.SameButPassword reading :=
    ⟨rfl, .inl rfl⟩
  have hvalues : reading.password.AlikeIn tulip rose := by
    intro name hname
    cases hname
    exact .some (.text "tulip" "rose")
  have hwritten := (shown_independent_of_password hplain tulip tulip 1).2.2.2.2.1 hnone
  have hread := (shown_independent_of_password hnamed tulip rose 1).2.2.2.2.1 hvalues
  have hunread := (shown_independent_of_password hnamed (passwordSet [255]) rose 1).2.2.2.2.2
  exact ⟨⟨by decide +kernel, hwritten.1⟩, ⟨by decide +kernel, hread.1⟩,
    (hunread "PW" rfl).2 [255] rfl rfl⟩

/-- Two environments that differ in the value of the variable for the password alone. Settings that
name it lead to a pool in the one, and to an error in the other, where the value is no text. -/
theorem guest_tells_text_from_octets :
    let reading := guest (.fromEnvironment "PW")
    let tulip := passwordSet (Text.Utf8.encode "tulip".toList)
    let garbled := passwordSet [255]
    (∀ name, name ≠ "PW" → tulip name = garbled name) ∧
      (reading.connectLazy tulip).map Postgres.ServerPool.shown
        ≠ (reading.connectLazy garbled).map Postgres.ServerPool.shown := by
  intro reading tulip garbled
  constructor
  · intro name hname
    simp only [tulip, garbled, passwordSet, Environment.ofList, List.foldl_cons, List.foldl_nil,
      Environment.set, if_neg hname]
  · intro heq
    have hpool : ((reading.connectLazy tulip).map Postgres.ServerPool.shown).isOk = true := by
      decide +kernel
    have herror : ((reading.connectLazy garbled).map Postgres.ServerPool.shown).isOk = false := by
      decide +kernel
    rw [heq, herror] at hpool
    cases hpool

end Configuration
end QueryBatch

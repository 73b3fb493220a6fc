import Tenancy.CommandLine
import Tenancy.Proofs.Basic

namespace Tenancy

def Credentials.withoutPassword (c : Credentials) : Credentials := { c with password := "" }

namespace Config

def Tenant.withoutPassword (t : Tenant) : Tenant := { t with password := "" }

def Provider.withoutPasswords (p : Provider) : Provider :=
  { p with tenants := p.tenants.map Tenant.withoutPassword }

def withoutPasswords (c : Config) : Config :=
  { c with providers := c.providers.map Provider.withoutPasswords }

end Config

def CatalogTarget.withoutPassword (t : CatalogTarget) : CatalogTarget :=
  { t with credentials := t.credentials.withoutPassword }

def Catalog.withoutPassword (c : Catalog) : Catalog :=
  { c with target := c.target.withoutPassword }

namespace CommandLine

def Output.withoutPassword : Output → Output
  | catalog c => .catalog c.withoutPassword
  | document j => .document j
  | region r => .region r

def Run.withoutPassword (r : Run) : Run := { r with result := r.result.map Output.withoutPassword }

end CommandLine

theorem Credentials.inspect_withoutPassword (c : Credentials) :
    c.withoutPassword.inspect = c.inspect :=
  rfl

namespace Config

variable {config : Config} {p : Provider} {t : Tenant}

theorem Tenant.inspect_withoutPassword (t : Tenant) : t.withoutPassword.inspect = t.inspect := rfl

theorem problemsOfTenants_withoutPassword (provider : String) (version : Option IdentityVersion)
    (before : List String) (tenants : List Tenant) :
    problemsOfTenants provider version before (tenants.map Tenant.withoutPassword) =
      problemsOfTenants provider version before tenants := by
  induction tenants generalizing before with
  | nil => rfl
  | cons t tenants ih =>
    simp only [List.map_cons, problemsOfTenants, ih]
    rfl

theorem Provider.problems_withoutPasswords (p : Provider) :
    p.withoutPasswords.problems = p.problems := by
  simp only [problems, withoutPasswords, problemsOfTenants_withoutPassword]
  rfl

theorem problems_withoutPasswords (config : Config) :
    config.withoutPasswords.problems = config.problems := by
  have hproviders (before : List String) (providers : List Provider) :
      problemsOfProviders before (providers.map Provider.withoutPasswords) =
        problemsOfProviders before providers := by
    induction providers generalizing before with
    | nil => rfl
    | cons p providers ih =>
      simp only [List.map_cons, problemsOfProviders, ih, Provider.problems_withoutPasswords]
      rfl
  exact hproviders [] config.providers

theorem Provider.encode_withoutPasswords (p : Provider) : p.withoutPasswords.encode = p.encode := by
  simp only [encode, withoutPasswords, List.map_map]
  rfl

theorem encode_withoutPasswords (config : Config) :
    config.withoutPasswords.encode = config.encode := by
  simp only [encode, withoutPasswords, List.map_map, Function.comp_def,
    Provider.encode_withoutPasswords]

theorem Provider.inspect_withoutPasswords (p : Provider) :
    p.withoutPasswords.inspectAll = p.inspectAll := by
  simp only [inspectAll, withoutPasswords, List.map_map]
  rfl

theorem inspect_withoutPasswords (config : Config) :
    config.withoutPasswords.inspect = config.inspect := by
  simp only [inspect, withoutPasswords, List.map_map, Function.comp_def,
    Provider.inspect_withoutPasswords]

theorem provider?_withoutPasswords (config : Config) (name : String) :
    config.withoutPasswords.provider? name =
      (config.provider? name).map Provider.withoutPasswords := by
  simp only [provider?, withoutPasswords, List.find?_map]
  rfl

theorem Provider.tenant?_withoutPasswords (p : Provider) (name : String) :
    p.withoutPasswords.tenant? name = (p.tenant? name).map Tenant.withoutPassword := by
  simp only [tenant?, withoutPasswords, List.find?_map]
  rfl

end Config

theorem CatalogTarget.inspect_withoutPassword (t : CatalogTarget) :
    t.withoutPassword.inspect = t.inspect :=
  rfl

theorem Catalog.inspect_withoutPassword (c : Catalog) : c.withoutPassword.inspect = c.inspect := rfl

theorem Catalog.of?_withoutPassword (t : CatalogTarget) :
    Catalog.of? t.withoutPassword = (Catalog.of? t).map Catalog.withoutPassword := by
  simp only [Catalog.of?, Option.map_map]
  rfl

namespace CommandLine

variable {now : Instant} {config config' : Config} {read : String → FileText}

theorem summary_withoutPasswords (config : Config) :
    summary config.withoutPasswords = summary config := by
  have hprovider (p : Config.Provider) : summaryOf p.withoutPasswords = summaryOf p := by
    simp only [summaryOf, Config.Provider.withoutPasswords, List.map_map]
    rfl
  simp only [summary, Config.withoutPasswords, List.map_map, Function.comp_def, hprovider]

theorem select_withoutPasswords (config : Config) (q : Query) :
    select config.withoutPasswords q = (select config q).map
      (Prod.map Config.Provider.withoutPasswords Config.Tenant.withoutPassword) := by
  simp only [select, Config.provider?_withoutPasswords]
  cases config.provider? q.provider with
  | none => rfl
  | some p =>
    simp only [Option.map_some, Config.Provider.tenant?_withoutPasswords]
    cases p.tenant? q.tenant <;> rfl

theorem catalogOf_withoutPasswords (p : Config.Provider) (t : Config.Tenant) :
    catalogOf p.withoutPasswords t.withoutPassword =
      (catalogOf p t).map Catalog.withoutPassword := by
  have hmade := Catalog.of?_withoutPassword
    ⟨p.identityUrl, t.name, t.domain, t.credentials, p.authOptions⟩
  have htarget : CatalogTarget.withoutPassword
      ⟨p.identityUrl, t.name, t.domain, t.credentials, p.authOptions⟩ =
      ⟨p.withoutPasswords.identityUrl, t.withoutPassword.name, t.withoutPassword.domain,
        t.withoutPassword.credentials, p.withoutPasswords.authOptions⟩ := rfl
  rw [catalogOf, catalogOf, ← htarget, hmade]
  cases Catalog.of? ⟨p.identityUrl, t.name, t.domain, t.credentials, p.authOptions⟩ <;> rfl

/-- The document is asked for a tenant by name. -/
theorem login_withoutPassword (now : Instant) (identity : StaticIdentity) (c : Catalog) :
    login now identity c.withoutPassword = login now identity c := by
  have hdomain : c.withoutPassword.domain? = c.domain? := rfl
  simp only [login, Catalog.request?, hdomain]
  cases c.domain? <;> rfl

theorem loginEvent_withoutPassword (c : Catalog) (result : Except CatalogError Snapshot) :
    loginEvent c.withoutPassword result = loginEvent c result := by
  cases result <;> rfl

theorem authenticate_withoutPasswords (now : Instant) (config : Config) (q : Query)
    (file : FileText) : authenticate now config.withoutPasswords q file =
      ((authenticate now config q file).1,
        (authenticate now config q file).2.map Catalog.withoutPassword) := by
  simp only [authenticate, select_withoutPasswords]
  cases select config q with
  | error failure => cases failure <;> rfl
  | ok selected =>
    obtain ⟨p, t⟩ := selected
    simp only [Except.map, bind, Except.bind, Prod.map_apply]
    cases StaticIdentity.load q.document file with
    | error error => rfl
    | ok identity =>
      simp only [mapError_ok, catalogOf_withoutPasswords]
      cases catalogOf p t with
      | error failure => cases failure <;> rfl
      | ok c =>
        simp only [Except.map, pure, Except.pure, login_withoutPassword,
          loginEvent_withoutPassword]
        cases login now identity c <;> rfl

theorem Output.text_withoutPassword (o : Output) (left : Snapshot → String) :
    o.withoutPassword.text left = o.text left := by
  cases o <;> rfl

theorem perform_withoutPasswords (now : Instant) (config : Config) (read : String → FileText)
    (command : Command) : perform now config.withoutPasswords read command =
      ((perform now config read command).1,
        (perform now config read command).2.map Output.withoutPassword) := by
  cases command with
  | check =>
    simp only [perform, summary_withoutPasswords]
    rfl
  | catalog q =>
    simp only [perform, authenticate_withoutPasswords]
    cases (authenticate now config q (read q.document)).2 <;> rfl
  | resolve q url =>
    simp only [perform, authenticate_withoutPasswords]
    cases (authenticate now config q (read q.document)).2 with
    | error failure => rfl
    | ok c =>
      have hregion : c.withoutPassword.regionOf url = c.regionOf url := rfl
      simp only [Except.map, hregion]
      cases c.regionOf url <;> rfl

theorem runLoaded_withoutPasswords (now : Instant) (read : String → FileText) (config : Config)
    (command : Command) : runLoaded now read config.withoutPasswords command =
      (runLoaded now read config command).withoutPassword := by
  simp only [runLoaded, perform_withoutPasswords]
  rfl

/-- Nobody can tell from outside that passwords were taken away. -/
theorem Run.shown_withoutPassword (r : Run) (left : Snapshot → String) :
    r.withoutPassword.exitCode = r.exitCode ∧ r.withoutPassword.output left = r.output left ∧
      r.withoutPassword.complaint = r.complaint := by
  obtain ⟨events, result⟩ := r
  cases result with
  | error failure => exact ⟨rfl, rfl, rfl⟩
  | ok output =>
    refine ⟨rfl, ?_, rfl⟩
    simp only [Run.output, Run.withoutPassword, Except.map, Output.text_withoutPassword]

/-- Configurations that are the same but for passwords have the same problems, are written and shown
as the same text, and every command prints and logs the same for both and ends in the same way. What
holds a password is shown as the same text with any other one. -/
theorem passwords_not_shown :
    (∀ config config' : Config, config.withoutPasswords = config'.withoutPasswords →
      config.problems = config'.problems ∧
      config.problems.map Config.Problem.message = config'.problems.map Config.Problem.message ∧
      config.encode = config'.encode ∧ config.inspect = config'.inspect ∧
      ∀ now read command left,
        (runLoaded now read config command).exitCode =
          (runLoaded now read config' command).exitCode ∧
        (runLoaded now read config command).output left =
          (runLoaded now read config' command).output left ∧
        (runLoaded now read config command).complaint =
          (runLoaded now read config' command).complaint) ∧
    (∀ c c' : Credentials, c.withoutPassword = c'.withoutPassword → c.inspect = c'.inspect) ∧
    (∀ t t' : Config.Tenant, t.withoutPassword = t'.withoutPassword → t.inspect = t'.inspect) ∧
    (∀ t t' : CatalogTarget, t.withoutPassword = t'.withoutPassword → t.inspect = t'.inspect) ∧
    ∀ c c' : Catalog, c.withoutPassword = c'.withoutPassword → c.inspect = c'.inspect := by
  refine ⟨?_, ?_, ?_, ?_, ?_⟩
  · intro config config' h
    have hproblems : config.problems = config'.problems := by
      rw [← config.problems_withoutPasswords, h, config'.problems_withoutPasswords]
    refine ⟨hproblems, congrArg _ hproblems, ?_, ?_, ?_⟩
    · rw [← config.encode_withoutPasswords, h, config'.encode_withoutPasswords]
    · rw [← config.inspect_withoutPasswords, h, config'.inspect_withoutPasswords]
    · intro now read command left
      have hrun : (runLoaded now read config command).withoutPassword =
          (runLoaded now read config' command).withoutPassword := by
        rw [← runLoaded_withoutPasswords, h, runLoaded_withoutPasswords]
      obtain ⟨hexit, houtput, hcomplaint⟩ :=
        (runLoaded now read config command).shown_withoutPassword left
      obtain ⟨hexit', houtput', hcomplaint'⟩ :=
        (runLoaded now read config' command).shown_withoutPassword left
      rw [hrun] at hexit houtput hcomplaint
      exact ⟨hexit.symm.trans hexit', houtput.symm.trans houtput', hcomplaint.symm.trans hcomplaint'⟩
  · intro c c' h
    rw [← c.inspect_withoutPassword, h, c'.inspect_withoutPassword]
  · intro t t' h
    rw [← t.inspect_withoutPassword, h, t'.inspect_withoutPassword]
  · intro t t' h
    rw [← t.inspect_withoutPassword, h, t'.inspect_withoutPassword]
  · intro c c' h
    rw [← c.inspect_withoutPassword, h, c'.inspect_withoutPassword]

/-- A configuration with one tenant, who has that password. -/
def guardedBy (password : String) : Config :=
  { providers := [{
      name := "cloud", identityUrl := "a:/v2",
      tenants := [{ name := "demo", userid := "ops", password }] }] }

theorem passwords_not_shown_demo : guardedBy "secret" ≠ guardedBy "hidden" ∧
    (guardedBy "secret").withoutPasswords = (guardedBy "hidden").withoutPasswords ∧
    (guardedBy "secret").inspect = (guardedBy "hidden").inspect ∧
    ∀ now read command left, (runLoaded now read (guardedBy "secret") command).output left =
      (runLoaded now read (guardedBy "hidden") command).output left := by
  have hsame : (guardedBy "secret").withoutPasswords = (guardedBy "hidden").withoutPasswords := rfl
  obtain ⟨-, -, -, hinspect, hruns⟩ := passwords_not_shown.1 _ _ hsame
  exact ⟨by decide, hsame, hinspect, fun now read command left =>
    (hruns now read command left).2.1⟩

end CommandLine
end Tenancy

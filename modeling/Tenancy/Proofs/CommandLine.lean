import Tenancy.CommandLine
import Tenancy.Proofs.Basic
import Tenancy.Proofs.Config
import Tenancy.Proofs.Inspect

namespace Tenancy.CommandLine

variable {now : Instant} {read : String → FileText} {i : Invocation} {q : Query} {url : String}
  {config : Config} {file : FileText} {identity : StaticIdentity} {p : Config.Provider}
  {t : Config.Tenant} {c : Catalog} {failure failure' : Failure} {r : Run} {text : String}
  {shown : Except String String}

/-- What a run has logged, line by line. -/
def Run.log (r : Run) : String := String.join (r.events.map fun e => e.line ++ "\n")

/-- The run ends well. The last that it prints is that text, on a line of its own. -/
structure Run.Prints (r : Run) (text : String) : Prop where
  exitCode : r.exitCode = 0
  output : ∀ left, r.output left = r.log ++ text ++ "\n"
  complaint : r.complaint = ""

/-- The run fails. It prints nothing but its log, and tells that text as the error. -/
structure Run.Complains (r : Run) (text : String) : Prop where
  exitCode : r.exitCode = 1
  output : ∀ left, r.output left = r.log
  complaint : r.complaint = "Error: " ++ text ++ "\n"

/-- What a run prints, or the error that it tells. -/
def Run.Shows (r : Run) : Except String String → Prop
  | .ok text => r.Prints text
  | .error text => r.Complains text

theorem Run.Shows.unique {x y : Except String String} (hx : r.Shows x) (hy : r.Shows y) :
    x = y := by
  cases x with
  | ok text =>
    cases y with
    | ok text' =>
      have hsame := (hx.output fun _ => "").symm.trans (hy.output fun _ => "")
      rw [String.append_left_inj, String.append_right_inj] at hsame
      rw [hsame]
    | error text' => cases hx.exitCode.symm.trans hy.exitCode
  | error text =>
    cases y with
    | ok text' => cases hx.exitCode.symm.trans hy.exitCode
    | error text' =>
      have hsame := hx.complaint.symm.trans hy.complaint
      rw [String.append_left_inj, String.append_right_inj] at hsame
      rw [hsame]

/-- How a catalog error is told: its kind, and its text in quotes. -/
def told (error : CatalogError) : String :=
  (if error.isConnection then "Connection(" else "Protocol(") ++ Text.quoted error.detail ++ ")"

theorem told_inj {e e' : CatalogError} :
    told e = told e' ↔ e.isConnection = e'.isConnection ∧ e.detail = e'.detail := by
  unfold told
  constructor
  · intro h
    have hhead := congrArg (fun text => text.toList.head?) h
    rw [String.append_left_inj] at h
    cases he : e.isConnection <;> cases he' : e'.isConnection <;> simp [he, he'] at hhead h
    all_goals exact ⟨rfl, Text.quoted_inj.mp h⟩
  · rintro ⟨hkind, hdetail⟩
    rw [hkind, hdetail]

theorem told_ne_quoted (e : CatalogError) (text : String) : told e ≠ Text.quoted text := by
  intro h
  have hhead := congrArg (fun text => text.toList.head?) h
  cases he : e.isConnection <;> simp [told, he, Text.quoted] at hhead

/-- The failures of the command `resolve` that are told by a sentence. -/
inductive Sentence (q : Query) (url : String) : Failure → String → Prop
  | noRegion : Sentence q url (.noRegion url) ("no region serves '" ++ url ++ "'")
  | unknownProvider :
      Sentence q url (.unknownProvider q.provider) ("unknown provider '" ++ q.provider ++ "'")
  | unknownTenant : Sentence q url (.unknownTenant q.provider q.tenant)
      ("provider '" ++ q.provider ++ "' has no tenant '" ++ q.tenant ++ "'")

/-- The sentences begin with different letters. -/
theorem Sentence.failure_eq (h : Sentence q url failure text) (h' : Sentence q url failure' text) :
    failure = failure' := by
  generalize hs : text = text' at h'
  have hhead := congrArg (fun text => text.toList.head?) hs
  cases h <;> cases h' <;> first | rfl | simp at hhead

/-- What a run shows that comes to such a result of the command `resolve`. -/
inductive Tells (q : Query) (url : String) : Except Failure Output → Except String String → Prop
  | region (region : String) : Tells q url (.ok (.region region)) (.ok region)
  | sentence {f : Failure} {text : String} (h : Sentence q url f text) :
      Tells q url (.error f) (.error (Text.quoted text))
  | catalog (error : CatalogError) : Tells q url (.error (.catalog error)) (.error (told error))

theorem Run.complains_of_result (hr : r.result = .error failure) (ht : failure.inspect = text) :
    r.Complains text where
  exitCode := by simp only [exitCode, hr]
  output left := by simp only [output, hr, log, String.append_empty]
  complaint := by simp only [complaint, hr, ht]

theorem Run.shows (h : Tells q url r.result shown) : r.Shows shown := by
  generalize hr : r.result = result at h
  cases h with
  | region region =>
    refine ⟨by simp only [exitCode, hr], fun left => ?_, by simp only [complaint, hr]⟩
    simp only [output, hr, Output.text, log, String.append_assoc]
  | sentence h =>
    refine complains_of_result hr ?_
    cases h <;> rfl
  | catalog error =>
    refine complains_of_result hr ?_
    simp only [Failure.inspect, CatalogError.inspect, Text.inspectValue,
      String.intercalate_singleton, told]
    split <;> rfl

section Shown

variable (hr : ∃ shown, Tells q url r.result shown)
include hr

theorem Run.shows_iff (shown : Except String String) :
    r.Shows shown ↔ Tells q url r.result shown := by
  refine ⟨fun h => ?_, shows⟩
  obtain ⟨shown', htells⟩ := hr
  rwa [h.unique (shows htells)]

theorem Run.prints_iff {region : String} : r.Prints region ↔ r.result = .ok (.region region) := by
  have hshows : r.Prints region ↔ Tells q url r.result (.ok region) :=
    shows_iff hr (.ok region)
  rw [hshows]
  generalize r.result = result
  constructor
  · intro h
    cases h
    rfl
  · rintro rfl
    exact .region region

theorem Run.complains_iff (hs : Sentence q url failure text) :
    r.Complains (Text.quoted text) ↔ r.result = .error failure := by
  have hshows : r.Complains (Text.quoted text) ↔
      Tells q url r.result (.error (Text.quoted text)) := shows_iff hr (.error (Text.quoted text))
  rw [hshows]
  generalize r.result = result
  constructor
  · intro h
    generalize hshown : Except.error (Text.quoted text) = shown at h
    cases h with
    | region => cases hshown
    | sentence hs' =>
      obtain rfl := Text.quoted_inj.mp (Except.error.inj hshown)
      rw [hs.failure_eq hs']
    | catalog e => exact absurd (Except.error.inj hshown).symm (told_ne_quoted e text)
  · rintro rfl
    exact .sentence hs

/-- Of a catalog error its kind and its text are told. -/
theorem Run.complains_told_iff {error : CatalogError} : r.Complains (told error) ↔
    ∃ same, same.isConnection = error.isConnection ∧ same.detail = error.detail ∧
      r.result = .error (.catalog same) := by
  have hshows : r.Complains (told error) ↔ Tells q url r.result (.error (told error)) :=
    shows_iff hr (.error (told error))
  rw [hshows]
  generalize r.result = result
  constructor
  · intro h
    generalize hshown : Except.error (told error) = shown at h
    cases h with
    | region => cases hshown
    | sentence => exact absurd (Except.error.inj hshown) (told_ne_quoted error _)
    | catalog same =>
      obtain ⟨hkind, hdetail⟩ := told_inj.mp (Except.error.inj hshown)
      exact ⟨same, hkind.symm, hdetail.symm, rfl⟩
  · rintro ⟨same, hkind, hdetail, rfl⟩
    rw [← told_inj.mpr ⟨hkind, hdetail⟩]
    exact .catalog same

end Shown

/-- The program is asked for the region of a URL. The configuration has no problems, and the
document can be read. -/
structure Resolves (read : String → FileText) (i : Invocation) (q : Query) (url : String)
    (config : Config) (identity : StaticIdentity) : Prop where
  loads : Config.load (read i.config) = .ok config
  opens : StaticIdentity.load q.document (read q.document) = .ok identity
  asks : i.command = .resolve q url

theorem problems_of_load (h : Config.load file = .ok config) : config.problems = [] := by
  unfold Config.load at h
  split at h
  · cases h
  · unfold Config.parse at h
    split at h
    · cases h
    · split at h
      · rename_i hnone
        cases h
        exact List.isEmpty_iff.mp hnone
      · cases h

theorem read_of_load {path : String} (h : StaticIdentity.load path file = .ok identity) :
    ∃ document, StaticIdentity.read? document = some identity := by
  unfold StaticIdentity.load at h
  split at h
  · cases h
  · split at h
    · rename_i document _ _ hread
      cases h
      exact ⟨document, hread⟩
    · cases h

/-- The region that the catalog names, or that there is none. -/
def routed (c : Catalog) (url : String) : Except Failure Output :=
  match c.regionOf url with
  | some region => .ok (.region region)
  | none => .error (.noRegion url)

theorem run_resolve (hc : Config.load (read i.config) = .ok config)
    (hi : i.command = .resolve q url) : (run now read i).result =
      (authenticate now config q (read q.document)).2.bind (routed · url) := by
  simp only [run, hc, runLoaded, perform, hi]
  cases (authenticate now config q (read q.document)).2 with
  | error failure => rfl
  | ok c =>
    simp only [Except.bind, routed]
    cases c.regionOf url <;> rfl

theorem authenticate_unselected (h : select config q = .error failure) :
    (authenticate now config q file).2 = .error failure := by
  simp only [authenticate, h]
  cases failure <;> rfl

theorem authenticate_selected (h : select config q = .ok (p, t))
    (hi : StaticIdentity.load q.document file = .ok identity) (hc : catalogOf p t = .ok c) :
    (authenticate now config q file).2 =
      ((login now identity c).map c.publish).mapError Failure.catalog := by
  simp only [authenticate, h, hi, hc, mapError_ok, bind, Except.bind, pure, Except.pure]

theorem tenant_of_catalogOf (h : catalogOf p t = .ok c) : c.target.tenant = t.name := by
  unfold catalogOf at h
  split at h
  · rename_i hmade
    cases h
    obtain ⟨version, -, rfl⟩ := Catalog.of?_eq_some_iff.mp hmade
    rfl
  · cases h

/-- The document is asked for the tenant of the catalog. -/
theorem login_of_request {request : AuthRequest} (h : c.request? = .ok request) :
    login now identity c = c.evaluate now (identity.authenticate c.target.tenant) := by
  obtain ⟨domain, hask, -⟩ | ⟨-, -, hnone⟩ := c.request?_cases
  · simp only [login, hask, bind, Except.bind]
  · cases hnone.symm.trans h

/-- Whoever is not in the configuration has no region. -/
theorem Resolves.unselected (hr : Resolves read i q url config identity)
    (h : select config q = .error failure) : (run now read i).result = .error failure := by
  rw [run_resolve hr.loads hr.asks, authenticate_unselected h]
  rfl

theorem Resolves.selected {request : AuthRequest} (hr : Resolves read i q url config identity)
    (h : select config q = .ok (p, t)) (hc : catalogOf p t = .ok c)
    (hask : c.request? = .ok request) : (run now read i).result =
      match c.evaluate now (identity.authenticate t.name) with
      | .ok s => routed (c.publish s) url
      | .error error => .error (.catalog error) := by
  rw [run_resolve hr.loads hr.asks, authenticate_selected h hr.opens hc, login_of_request hask,
    tenant_of_catalogOf hc]
  cases c.evaluate now (identity.authenticate t.name) <;> rfl

end Tenancy.CommandLine

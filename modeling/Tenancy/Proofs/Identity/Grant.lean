import Tenancy.CommandLine
import Tenancy.Proofs.Json
import Tenancy.Proofs.Moment
import Tenancy.Proofs.Record
import Tenancy.Proofs.Snapshot

namespace Tenancy

/-- The times of the token are read back from what is written of them. -/
structure Token.Timely (t : Token) : Prop where
  issuedAt : Timestamp.read? t.issuedAt.write = some t.issuedAt
  expiresAt : Timestamp.read? t.expiresAt.write = some t.expiresAt

theorem Token.decode?_encode {t : Token} (h : t.Timely) : decode? t.encode = some t := by
  simp [decode?, encode, Record.read?, Record.required?, List.lookup_cons, Json.asText?,
    Timestamp.decode?, h.issuedAt, h.expiresAt]

theorem Project.decode?_encode (p : Project) : decode? p.encode = some p := by
  simp [decode?, encode, Record.read?, Record.required?, List.lookup_cons, Json.asText?]

theorem PublishedEndpoint.decode?_encode (e : PublishedEndpoint) : decode? e.encode = some e := by
  simp [decode?, encode, Record.read?, Record.required?, Record.optional?, List.lookup_cons,
    Json.asText?, Json.asOption?_text]

theorem Service.decode?_encode (s : Service) : decode? s.encode = some s := by
  have hendpoints : Json.asList? PublishedEndpoint.decode?
      (.arr (s.endpoints.map PublishedEndpoint.encode)) = some (s.endpoints.map id) :=
    Json.asList?_map fun e _ => e.decode?_encode
  rw [List.map_id] at hendpoints
  simp [decode?, encode, Record.read?, Record.required?, Record.optional?, List.lookup_cons,
    Json.asText?, hendpoints]

theorem Grant.decode?_encode {g : Grant} (h : g.token.Timely) : decode? g.encode = some g := by
  have hcatalog : Json.asList? Service.decode? (.arr (g.catalog.map Service.encode)) =
      some (g.catalog.map id) :=
    Json.asList?_map fun s _ => s.decode?_encode
  rw [List.map_id] at hcatalog
  simp [decode?, encode, Record.read?, Record.required?, Record.optional?, List.lookup_cons,
    Token.decode?_encode h, Project.decode?_encode, hcatalog]

open Json (Plain)

theorem PublishedEndpoint.plain_encode (e : PublishedEndpoint) : Plain e.encode :=
  .obj (by simp [Plain.str, Json.plain_text])

theorem Service.plain_encode (s : Service) : Plain s.encode := by
  have hendpoints : Plain (.arr (s.endpoints.map PublishedEndpoint.encode)) :=
    .arr (List.forall_mem_map.mpr fun e _ => e.plain_encode)
  exact .obj (by simp [Plain.str, hendpoints])

theorem Grant.plain_encode (g : Grant) : Plain g.encode := by
  have htoken : Plain g.token.encode := .obj (by simp [Plain.str])
  have hproject : Plain g.project.encode := .obj (by simp [Plain.str])
  have hcatalog : Plain (.arr (g.catalog.map Service.encode)) :=
    .arr (List.forall_mem_map.mpr fun s _ => s.plain_encode)
  exact .obj (by simp [htoken, hproject, hcatalog])

/-- The text says what the grant is written as, however it is laid out. -/
def Grant.Written (g : Grant) (text : String) : Prop := Json.read? text = some g.encode

theorem Grant.written_compact (g : Grant) : g.Written g.encode.compact :=
  Json.read?_compact g.plain_encode

/-- What a snapshot offers: endpoints, services with their types and names, regions and the project,
but not the token nor when it expires. -/
def Snapshot.offer (s : Snapshot) :
    (String → List Endpoint) × SortedMap OpenService × List String × Option Project :=
  (s.endpoints, s.services, s.regions, s.project?)

variable {g : Grant} {document text : String} {identity : StaticIdentity} {now later : Instant}

/-- It does not matter when the grant is received, unless the clock comes to its limit. -/
theorem Snapshot.offer_ofGrant {version : IdentityVersion}
    (hnow : ∀ length, lifetime g.token = .ok length → now + length < Instant.limit)
    (hlater : ∀ length, lifetime g.token = .ok length → later + length < Instant.limit) :
    (ofGrant version later g).map offer = (ofGrant version now g).map offer := by
  cases hlength : lifetime g.token with
  | error e => simp only [ofGrant, hlength, bind, Except.bind]
  | ok length =>
    rw [ofGrant_of_lifetime hlength, ofGrant_of_lifetime hlength,
      if_neg (Nat.not_le.mpr (hnow length hlength)),
      if_neg (Nat.not_le.mpr (hlater length hlength))]
    cases g.catalog.foldlM (addService version) .empty <;> rfl

namespace StaticIdentity

theorem offer_login (h : read? document = some identity) (hnow : now < Instant.limit / 2)
    (hlater : later < Instant.limit / 2) (c : Catalog) :
    (CommandLine.login later identity c).map Snapshot.offer =
      (CommandLine.login now identity c).map Snapshot.offer := by
  unfold CommandLine.login authenticate
  cases c.request? with
  | error e => rfl
  | ok request =>
    by_cases hknown : request.tenant = identity.grant.project.name
    · simp only [bind, Except.bind, if_pos hknown]
      exact Snapshot.offer_ofGrant (fun _ hlength => expires_lt h hlength hnow)
        fun _ hlength => expires_lt h hlength hlater
    · simp only [bind, Except.bind, if_neg hknown]
      rfl

theorem read?_of_written (h : g.token.Timely) (hwritten : g.Written text) :
    read? text = some ⟨g⟩ := by
  rw [read?, hwritten, Option.bind_some, Grant.decode?_encode h, Option.map_some]

theorem authenticate_name (g : Grant) : authenticate ⟨g⟩ g.project.name = .ok g := if_pos rfl

theorem grant_of_authenticate {tenant : String} (h : identity.authenticate tenant = .ok g) :
    identity = ⟨g⟩ := by
  unfold authenticate at h
  split at h
  · rw [← Except.ok.inj h]
  · cases h

/-- What was read of times can be told. -/
theorem timely_of_read? (h : read? document = some identity) : identity.grant.token.Timely := by
  obtain ⟨⟨_, hissued⟩, _, hexpires⟩ := isRead_of_read? h
  exact ⟨Timestamp.read?_write_iff.mpr (Timestamp.tellable_of_read? hissued),
    Timestamp.read?_write_iff.mpr (Timestamp.tellable_of_read? hexpires)⟩

/-- A grant is read back from any text that says what it is written as, such as that on one line.
For a grant that was answered from a document nothing has to be assumed of its times; the text and
the document are then one to every catalog, of either version, and at any two moments of a clock
that is not half way to its limit they offer it the same or are refused for the same reason. -/
theorem documents_read_back :
    (∀ g : Grant, g.Written g.encode.compact) ∧
    (∀ (g : Grant) (text : String), g.token.Timely → g.Written text →
      ∃ identity, read? text = some identity ∧
        identity.authenticate g.project.name = .ok g) ∧
    ∀ (document tenant text : String) (identity : StaticIdentity) (g : Grant),
      read? document = some identity → identity.authenticate tenant = .ok g → g.Written text →
      ∃ again, read? text = some again ∧ again.authenticate tenant = .ok g ∧
        (∀ c now, CommandLine.login now again c = CommandLine.login now identity c) ∧
        ∀ c now later, now < Instant.limit / 2 → later < Instant.limit / 2 →
          (CommandLine.login later again c).map Snapshot.offer =
            (CommandLine.login now identity c).map Snapshot.offer := by
  refine ⟨Grant.written_compact, fun g text htimely hwritten => ?_, ?_⟩
  · exact ⟨⟨g⟩, read?_of_written htimely hwritten, authenticate_name g⟩
  · intro document tenant text identity g hread hanswer hwritten
    obtain rfl := grant_of_authenticate hanswer
    have hagain := read?_of_written (timely_of_read? hread) hwritten
    exact ⟨_, hagain, hanswer, fun _ _ => rfl,
      fun c _ _ hnow hlater => offer_login hread hnow hlater c⟩

/-- Nothing here is as it would be written: there is a member nobody asks for, records are arrays or
in another order, a leap second and a time of another zone, a `null`, and parts that are left out.
-/
def oddDocument : String :=
  "\x7b\"to\":null,\"project\":[\"p\",\"demo\"]," ++
  "\"token\":[\"\\t\",\"2016-12-31T23:59:60Z\",\"2017-01-01 02:00:00.5+01:00\"]," ++
  "\"catalog\":[\x7b\"type\":\"compute\",\"endpoints\":[[\"east\",\"a:b\"]," ++
    "\x7b\"url\":\"a:c\",\"region\":\"west\",\"interface\":null\x7d]\x7d]\x7d"

def oddGrant : Grant where
  token := ⟨"\t", ⟨17166, 86399, 1_000_000_000⟩, ⟨17167, 3600, 500_000_000⟩⟩
  project := ⟨"p", "demo"⟩
  catalog := [⟨"compute", "", [⟨"east", "a:b", none⟩, ⟨"west", "a:c", none⟩]⟩]

theorem documents_read_back_odd : ∃ identity again,
    read? oddDocument = some identity ∧ identity.authenticate "demo" = .ok oddGrant ∧
      read? oddGrant.encode.compact = some again ∧ again.authenticate "demo" = .ok oddGrant ∧
      ∀ c : Catalog, (CommandLine.login 1 again c).map Snapshot.offer =
        (CommandLine.login 0 identity c).map Snapshot.offer := by
  have hodd : (read? oddDocument).map grant = some oddGrant := by decide +kernel
  obtain ⟨identity, hread, hgrant⟩ := Option.map_eq_some_iff.mp hodd
  have hanswer : identity.authenticate "demo" = .ok oddGrant := by
    rw [← hgrant]
    exact if_pos (congrArg (fun g => g.project.name) hgrant.symm)
  obtain ⟨hwritten, -, hdocuments⟩ := documents_read_back
  obtain ⟨again, hagain, hsame, -, hoffer⟩ :=
    hdocuments oddDocument "demo" _ identity oddGrant hread hanswer (hwritten oddGrant)
  exact ⟨identity, again, hread, hanswer, hagain, hsame,
    fun c => hoffer c 0 1 (by decide) (by decide)⟩

end StaticIdentity
end Tenancy

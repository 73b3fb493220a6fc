import Tenancy.Proofs.Services

namespace Tenancy

namespace Url

variable {u v : Url} {scheme : String} {n : Nat} {port : Option Nat}

/-- The schemes that mean a port where none is written. -/
inductive MeansPort : String → Nat → Prop
  | http : MeansPort "http" 80
  | ws : MeansPort "ws" 80
  | https : MeansPort "https" 443
  | wss : MeansPort "wss" 443
  | ftp : MeansPort "ftp" 21

/-- The port that a URL stands for: the one that is written, else the one that its scheme means.
There may be none. -/
inductive UsesPort (u : Url) : Option Nat → Prop
  | written {a : Authority} {n : Nat} (ha : u.authority = some a) (hn : a.port = some n) :
      UsesPort u (some n)
  | meant {n : Nat} (hw : ∀ a, u.authority = some a → a.port = none) (hn : MeansPort u.scheme n) :
      UsesPort u (some n)
  | portless (hw : ∀ a, u.authority = some a → a.port = none)
      (hm : ∀ n, ¬MeansPort u.scheme n) : UsesPort u none

theorem defaultPort?_eq_some_iff : defaultPort? scheme = some n ↔ MeansPort scheme n := by
  constructor
  · intro h
    unfold defaultPort? at h
    split at h <;> cases h
    · exact .http
    · exact .ws
    · exact .https
    · exact .wss
    · exact .ftp
  · intro h
    cases h <;> rfl

theorem port?_of_unwritten (hw : ∀ a, u.authority = some a → a.port = none) :
    u.port? = defaultPort? u.scheme := by
  have hnone : u.authority.bind (·.port) = none := Option.bind_eq_none_iff.mpr hw
  rw [port?, hnone]
  rfl

theorem usesPort_port? (u : Url) : u.UsesPort u.port? := by
  cases hw : u.authority.bind (·.port) with
  | some n =>
    obtain ⟨a, ha, hn⟩ := Option.bind_eq_some_iff.mp hw
    rw [port?, hw]
    exact .written ha hn
  | none =>
    have hw' := Option.bind_eq_none_iff.mp hw
    rw [port?_of_unwritten hw']
    cases hd : defaultPort? u.scheme with
    | some n => exact .meant hw' (defaultPort?_eq_some_iff.mp hd)
    | none =>
      refine .portless hw' fun n hn => ?_
      cases hd.symm.trans (defaultPort?_eq_some_iff.mpr hn)

/-- There is one such port. -/
theorem usesPort_iff : u.UsesPort port ↔ u.port? = port := by
  constructor
  · intro h
    cases h with
    | written ha hn =>
      rw [port?, ha, Option.bind_some, hn]
      rfl
    | meant hw hm => rw [port?_of_unwritten hw, defaultPort?_eq_some_iff.mpr hm]
    | portless hw hm =>
      rw [port?_of_unwritten hw]
      refine Option.eq_none_iff_forall_ne_some.mpr fun n hd => ?_
      exact hm n (defaultPort?_eq_some_iff.mp hd)
  · rintro rfl
    exact usesPort_port? u

/-- Hosts that are written alike, but for the case of ASCII letters. -/
def Host.Same (a b : Host) : Prop :=
  a.display.toList.map Char.toLower = b.display.toList.map Char.toLower

theorem Host.same_iff {a b : Host} : a.Same b ↔ lowerAscii a.display = lowerAscii b.display :=
  String.ofList_inj.symm

/-- Both have the same host and the same port. -/
def Meets (u v : Url) : Prop :=
  ∃ a b port, u.host? = some a ∧ v.host? = some b ∧ a.Same b ∧ u.UsesPort port ∧ v.UsesPort port

theorem meets_iff : u.Meets v ↔
    ∃ target, v.hostPort? = some target ∧ u.hostPort? = some target := by
  simp only [hostPort?, Option.map_eq_some_iff]
  constructor
  · rintro ⟨a, b, port, ha, hb, hhost, hu, hv⟩
    have hport : u.port? = v.port? := (usesPort_iff.mp hu).trans (usesPort_iff.mp hv).symm
    exact ⟨_, ⟨b, hb, rfl⟩, a, ha, by rw [Host.same_iff.mp hhost, hport]⟩
  · rintro ⟨_, ⟨b, hb, rfl⟩, a, ha, hsame⟩
    obtain ⟨hhost, hport⟩ := Prod.mk.inj hsame
    exact ⟨a, b, v.port?, ha, hb, Host.same_iff.mpr hhost, usesPort_iff.mpr hport,
      usesPort_port? v⟩

theorem meets_self (h : u.host? ≠ none) : u.Meets u := by
  obtain ⟨a, ha⟩ := Option.ne_none_iff_exists'.mp h
  exact ⟨a, a, u.port?, ha, ha, rfl, usesPort_port? u, usesPort_port? u⟩

theorem hostPort?_congr (hhost : Option.Rel Host.Same u.host? v.host?) (hu : u.UsesPort port)
    (hv : v.UsesPort port) : u.hostPort? = v.hostPort? := by
  have hport : u.port? = v.port? := (usesPort_iff.mp hu).trans (usesPort_iff.mp hv).symm
  unfold hostPort?
  generalize u.host? = a, v.host? = b at hhost
  cases hhost with
  | some h => rw [Option.map_some, Option.map_some, Host.same_iff.mp h, hport]
  | none => rfl

end Url

namespace Snapshot

variable {s s' : Snapshot} {url : Url} {region : String}

/-- The text reads as a URL, and the first compute endpoint that meets it is of that region. -/
def Serves (s : Snapshot) (text region : String) : Prop :=
  ∃ url before e after, Url.read text = .ok url ∧
    s.endpoints computeService = before ++ e :: after ∧ e.url.Meets url ∧
    (∀ e' ∈ before, ¬e'.url.Meets url) ∧ e.region = region

/-- The first that meets it decides. -/
theorem regionOf_eq_some_iff : s.regionOf url = some region ↔
    ∃ before e after, s.endpoints computeService = before ++ e :: after ∧ e.url.Meets url ∧
      (∀ e' ∈ before, ¬e'.url.Meets url) ∧ e.region = region := by
  have hmeets {target : String × Option Nat} (ht : url.hostPort? = some target) (e : Endpoint) :
      e.url.Meets url ↔ e.url.hostPort? = some target := by
    simp [Url.meets_iff, ht]
  constructor
  · intro h
    obtain ⟨target, ht, h⟩ := Option.bind_eq_some_iff.mp h
    obtain ⟨e, he, hregion⟩ := Option.map_eq_some_iff.mp h
    obtain ⟨hfound, before, after, hsplit, hfirst⟩ := List.find?_eq_some_iff_append.mp he
    refine ⟨before, e, after, hsplit, (hmeets ht e).mpr (by simpa using hfound), ?_, hregion⟩
    intro e' he'
    rw [hmeets ht]
    simpa using hfirst e' he'
  · rintro ⟨before, e, after, hsplit, hserves, hfirst, hregion⟩
    obtain ⟨target, ht, he⟩ := Url.meets_iff.mp hserves
    refine Option.bind_eq_some_iff.mpr ⟨target, ht, Option.map_eq_some_iff.mpr ⟨e, ?_, hregion⟩⟩
    refine List.find?_eq_some_iff_append.mpr ⟨by simpa using he, before, after, hsplit, ?_⟩
    intro e' he'
    have hne := hfirst e' he'
    rw [hmeets ht] at hne
    simpa using hne

/-- Whatever some endpoint meets is served. -/
theorem exists_regionOf {e : Endpoint} (he : e ∈ s.endpoints computeService)
    (hmeets : e.url.Meets url) : ∃ region, s.regionOf url = some region := by
  obtain ⟨target, ht, htarget⟩ := Url.meets_iff.mp hmeets
  rw [regionOf, ht, Option.bind_some]
  cases hf : (s.endpoints computeService).find? fun e => e.url.hostPort? == some target with
  | some found => exact ⟨found.region, rfl⟩
  | none => simpa [htarget] using List.find?_eq_none.mp hf e he

/-- Endpoints behind the others do not change what is served already. -/
theorem regionOf_of_prefix (hs : s.endpoints computeService <+: s'.endpoints computeService)
    (h : s.regionOf url = some region) : s'.regionOf url = some region := by
  obtain ⟨more, hmore⟩ := hs
  obtain ⟨before, e, after, hsplit, hmeets, hfirst, hregion⟩ := regionOf_eq_some_iff.mp h
  refine regionOf_eq_some_iff.mpr ⟨before, e, after ++ more, ?_, hmeets, hfirst, hregion⟩
  rw [← hmore, hsplit, List.append_assoc, List.cons_append]

/-- Services added behind the others leave every list of endpoints as it begins. -/
theorem endpoints_prefix {version : IdentityVersion} {now now' : Instant} {g : Grant}
    {more : List Service} (h : ofGrant version now g = .ok s)
    (h' : ofGrant version now' { g with catalog := g.catalog ++ more } = .ok s') (type : String) :
    s.endpoints type <+: s'.endpoints type := by
  have hlist := (records_ofGrant h).endpoints type
  have hlist' := (records_ofGrant h').endpoints type
  simp only [IdentityVersion.offered, List.filter_append, List.flatMap_append,
    List.map_append] at hlist hlist'
  rw [hlist] at hlist'
  obtain ⟨before, after, hsplit, hbefore, -⟩ := List.map_eq_append_iff.mp hlist'.symm
  have hsame : s.endpoints type = before :=
    List.map_inj_right (fun _ _ => Except.ok.inj) |>.mp hbefore.symm
  exact ⟨after, by rw [hsplit, hsame]⟩

end Snapshot

namespace Catalog

variable {c c' : Catalog} {text region : String}

theorem regionOf_eq_some_iff : c.regionOf text = some region ↔
    ∃ url, Url.read text = .ok url ∧ c.snapshot.regionOf url = some region := by
  rw [regionOf, Option.bind_eq_some_iff, Url.read?]
  cases Url.read text <;> simp [Except.toOption]

theorem regionOf_iff_serves : c.regionOf text = some region ↔ c.snapshot.Serves text region := by
  simp only [regionOf_eq_some_iff, Snapshot.regionOf_eq_some_iff, Snapshot.Serves, exists_and_left]

/-- A catalog serves exactly the texts that read as a URL with host and port of one of its compute
endpoints, and the first of these gives the region. So a region is one of those reported, nothing
but host and port counts, every compute endpoint with a host is served, and more endpoints
leave what was served before as it is. -/
theorem regionOf_meets_specification (c : Catalog) (text : String) :
    (∀ region, c.regionOf text = some region ↔ c.snapshot.Serves text region) ∧
    (c.regionOf text = none ↔ ∀ url, Url.read text = .ok url →
      ∀ e ∈ c.snapshot.endpoints Snapshot.computeService, ¬e.url.Meets url) ∧
    (∀ text' url url' port, Url.read text = .ok url → Url.read text' = .ok url' →
      Option.Rel Url.Host.Same url.host? url'.host? → url.UsesPort port → url'.UsesPort port →
      c.regionOf text = c.regionOf text') ∧
    (∀ region, c.regionOf text = some region → region ∈ c.snapshot.regions) ∧
    (∀ e ∈ c.snapshot.endpoints Snapshot.computeService, e.url.host? ≠ none →
      ∃ region, c.snapshot.regionOf e.url = some region ∧
        (Url.read text = .ok e.url → c.regionOf text = some region)) ∧
    (∀ c' : Catalog, c.snapshot.endpoints Snapshot.computeService <+:
        c'.snapshot.endpoints Snapshot.computeService →
      ∀ region, c.regionOf text = some region → c'.regionOf text = some region) ∧
    ∀ version now now' g more s s', Snapshot.ofGrant version now g = .ok s →
      Snapshot.ofGrant version now' { g with catalog := g.catalog ++ more } = .ok s' →
      ∀ region, (c.publish s).regionOf text = some region →
        (c.publish s').regionOf text = some region := by
  have hprefix {c c' : Catalog} {region : String}
      (hs : c.snapshot.endpoints Snapshot.computeService <+:
        c'.snapshot.endpoints Snapshot.computeService) (h : c.regionOf text = some region) :
      c'.regionOf text = some region := by
    obtain ⟨url, hurl, h⟩ := regionOf_eq_some_iff.mp h
    exact regionOf_eq_some_iff.mpr ⟨url, hurl, Snapshot.regionOf_of_prefix hs h⟩
  refine ⟨fun _ => regionOf_iff_serves, ?_, ?_, fun _ => regionOf_mem, ?_,
    fun _ hs _ => hprefix hs, ?_⟩
  · constructor
    · intro hnone url hurl e he hmeets
      obtain ⟨region, h⟩ := Snapshot.exists_regionOf he hmeets
      cases hnone.symm.trans (regionOf_eq_some_iff.mpr ⟨url, hurl, h⟩)
    · intro hno
      cases h : c.regionOf text with
      | none => rfl
      | some region =>
        obtain ⟨url, before, e, after, hurl, hsplit, hmeets, -⟩ := regionOf_iff_serves.mp h
        refine absurd hmeets (hno url hurl e ?_)
        rw [hsplit]
        exact List.mem_append_right before List.mem_cons_self
  · intro text' url url' port hurl hurl' hhost hport hport'
    rw [regionOf, regionOf, Url.read?, Url.read?, hurl, hurl']
    change c.snapshot.regionOf url = c.snapshot.regionOf url'
    rw [Snapshot.regionOf, Snapshot.regionOf, Url.hostPort?_congr hhost hport hport']
  · intro e he hhost
    obtain ⟨region, h⟩ := Snapshot.exists_regionOf he (Url.meets_self hhost)
    exact ⟨region, h, fun hurl => regionOf_eq_some_iff.mpr ⟨e.url, hurl, h⟩⟩
  · intro version now now' g more s s' h h' region
    exact hprefix (Snapshot.endpoints_prefix h h' _)

/-- Two regions have one host and one port, spelled differently. A third writes no port. -/
def overlapping : Grant where
  token := ⟨"t", ⟨0, 0, 0⟩, ⟨0, 60, 0⟩⟩
  project := ⟨"p", "acme"⟩
  catalog := [⟨"compute", "nova",
    [⟨"east", "a://h:1/v2", none⟩, ⟨"west", "b://H:1", none⟩, ⟨"north", "http://[::1]", none⟩]⟩]

theorem regionOf_meets_specification_overlapping : ∃ (s : Snapshot) (c : Catalog),
    Snapshot.ofGrant .v2 0 overlapping = .ok s ∧ c.snapshot = s ∧
    s.Serves "b://u@H:1/x" "east" ∧ "east" ∈ s.regions ∧ c.regionOf "a://h:1?y" = some "east" ∧
    s.Serves "ws://[::1]/x" "north" ∧ c.regionOf "https://[::1]:80" = some "north" ∧
    c.regionOf "https://[::1]" = none ∧ c.regionOf "a://[::1]" = none ∧
    c.regionOf "a://h:2" = none ∧ c.regionOf "a://g:1" = none := by
  have hmade : ((Snapshot.ofGrant .v2 0 overlapping).toOption.map fun s =>
      ["b://u@H:1/x", "ws://[::1]/x", "https://[::1]", "a://[::1]", "a://h:2", "a://g:1"].map
        fun text => (Url.read? text).bind s.regionOf) =
      some [some "east", some "north", none, none, none, none] := by
    decide +kernel
  have hexplicit : Url.read? "https://[::1]:80" = some
      ⟨"https", some ⟨"", none, some (.ipv6 [0, 0, 0, 0, 0, 0, 0, 1]), some 80⟩, .rooted [""],
        none, none⟩ := by
    decide +kernel
  have hmeant : Url.read? "ws://[::1]/x" = some
      ⟨"ws", some ⟨"", none, some (.ipv6 [0, 0, 0, 0, 0, 0, 0, 1]), none⟩, .rooted ["x"],
        none, none⟩ := by
    decide +kernel
  have hupper : Url.read? "b://u@H:1/x" = some
      ⟨"b", some ⟨"u", none, some (.name "H"), some 1⟩, .rooted ["x"], none, none⟩ := by
    decide +kernel
  have hlower : Url.read? "a://h:1?y" = some
      ⟨"a", some ⟨"", none, some (.name "h"), some 1⟩, .rootless "", some "y", none⟩ := by
    decide +kernel
  obtain ⟨s, hs, hroutes⟩ := Option.map_eq_some_iff.mp hmade
  obtain ⟨c, rfl⟩ : ∃ c : Catalog, c.snapshot = s := ⟨⟨.v2, ⟨"", "", none, ⟨"", ""⟩, {}⟩, s⟩, rfl⟩
  simp only [List.map_cons, List.map_nil, List.cons.injEq, and_true] at hroutes
  obtain ⟨heast, hnorth, hscheme, hportless, hport, hhost⟩ := hroutes
  obtain ⟨heastServes, -, heastSame, hregions, -⟩ := regionOf_meets_specification c "b://u@H:1/x"
  obtain ⟨hnorthServes, -, hnorthSame, -⟩ := regionOf_meets_specification c "ws://[::1]/x"
  have hone : c.regionOf "b://u@H:1/x" = c.regionOf "a://h:1?y" :=
    heastSame "a://h:1?y" _ _ (some 1) (ok_of_toOption hupper) (ok_of_toOption hlower)
      (.some rfl) (.written rfl rfl) (.written rfl rfl)
  have heighty : c.regionOf "ws://[::1]/x" = c.regionOf "https://[::1]:80" := by
    have hunwritten (a : Url.Authority)
        (h : some ⟨"", none, some (.ipv6 [0, 0, 0, 0, 0, 0, 0, 1]), none⟩ = some a) :
        a.port = none := by
      cases h
      rfl
    exact hnorthSame "https://[::1]:80" _ _ (some 80) (ok_of_toOption hmeant)
      (ok_of_toOption hexplicit) (.some rfl) (.meant hunwritten .ws) (.written rfl rfl)
  exact ⟨_, c, ok_of_toOption hs, rfl, (heastServes "east").mp heast, hregions "east" heast,
    hone ▸ heast, (hnorthServes "north").mp hnorth, heighty ▸ hnorth, hscheme, hportless, hport,
    hhost⟩

end Catalog
end Tenancy

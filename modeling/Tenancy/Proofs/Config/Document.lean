import Tenancy.Config.Document
import Tenancy.Proofs.Json
import Tenancy.Proofs.Passwords
import Tenancy.Proofs.Record

namespace Tenancy.Config

variable {exact : Bool} {j : Json} {c : Config}

/-- Sizes are whole numbers of 64 bits, one of them for the sign. -/
structure PoolSize.Storable (p : PoolSize) : Prop where
  minSize : Int64.minValue.toInt ≤ p.minSize ∧ p.minSize ≤ Int64.maxValue.toInt
  maxSize : Int64.minValue.toInt ≤ p.maxSize ∧ p.maxSize ≤ Int64.maxValue.toInt

def Storable (c : Config) : Prop := ∀ p ∈ c.providers, p.pool.Storable

theorem asInt?_eq_some_iff {n : Int} :
    Json.asInt? (-(1 <<< 63 : Nat)) (1 <<< 63 : Nat) j = some n ↔
      j = .int n ∧ Int64.minValue.toInt ≤ n ∧ n ≤ Int64.maxValue.toInt := by
  have hmin : Int64.minValue.toInt = -(1 <<< 63 : Nat) := by decide
  have hmax : Int64.maxValue.toInt = (1 <<< 63 : Nat) - 1 := by decide
  rw [hmin, hmax]
  cases j with
  | int m =>
    simp only [Json.asInt?, Json.int.injEq, Bool.and_eq_true, decide_eq_true_eq,
      Option.ite_none_right_eq_some, Option.some.injEq]
    omega
  | _ => simp [Json.asInt?]

variable {first second pool retry proxy hosts tenants : Json}

/-- The numbers are whatever parts are read as such. With written numbers in their place the kernel
would unfold them. -/
theorem PoolSize.decode?_obj {least most : Int}
    (hfirst : Json.asInt? (-(1 <<< 63 : Nat)) (1 <<< 63 : Nat) first = some least)
    (hsecond : Json.asInt? (-(1 <<< 63 : Nat)) (1 <<< 63 : Nat) second = some most) :
    decode? exact (.obj [("min_size", first), ("max_size", second)]) = some ⟨least, most⟩ := by
  simp only [decode?]
  generalize Json.asInt? (-(1 <<< 63 : Nat)) (1 <<< 63 : Nat) = number? at hfirst hsecond ⊢
  simp [Record.read?, Record.optional?, List.lookup_cons, hfirst, hsecond]

theorem RetrySetting.decode?_obj {seconds : UInt64} {attempts : UInt32}
    (hfirst : first.asNat? UInt64.size = some seconds.toNat)
    (hsecond : second.asNat? UInt32.size = some attempts.toNat) :
    decode? exact (.obj [("delay_secs", first), ("max_attempts", second)]) =
      some ⟨seconds, attempts⟩ := by
  simp [decode?, Record.read?, Record.optional?, List.lookup_cons, hfirst, hsecond]

theorem decodeProxy?_obj {host : String} {port : UInt16}
    (hsecond : second.asNat? UInt16.size = some port.toNat) :
    decodeProxy? exact (.obj [("host", .str host), ("port", second)]) = some ⟨host, port⟩ := by
  simp [decodeProxy?, Record.read?, Record.required?, List.lookup_cons, Json.asText?, hsecond]

theorem Provider.decode?_obj {p : Provider}
    (hpool : PoolSize.decode? exact pool = some p.pool)
    (hretry : RetrySetting.decode? exact retry = some p.retry)
    (hproxy : Json.asOption? (decodeProxy? exact) proxy = some p.proxy)
    (hhosts : Json.asList? Json.asText? hosts = some p.trustedHosts)
    (htenants : Json.asList? (Tenant.decode? exact) tenants = some p.tenants) :
    decode? exact (.obj [("name", .str p.name), ("identity_url", .str p.identityUrl),
      ("connector", .str p.connector), ("pool", pool), ("retry", retry), ("proxy", proxy),
      ("trusted_hosts", hosts), ("tenants", tenants)]) = some p := by
  simp [decode?, Record.read?, Record.required?, Record.optional?, List.lookup_cons, Json.asText?,
    hpool, hretry, hproxy, hhosts, htenants]

theorem PoolSize.decode?_encode {p : PoolSize} (h : p.Storable) :
    decode? exact p.encode = some p :=
  decode?_obj (asInt?_eq_some_iff.mpr ⟨rfl, h.minSize⟩) (asInt?_eq_some_iff.mpr ⟨rfl, h.maxSize⟩)

theorem RetrySetting.decode?_encode (r : RetrySetting) : decode? exact r.encode = some r :=
  decode?_obj (Json.asNat?_nat r.delaySeconds.toNat_lt_size)
    (Json.asNat?_nat r.maxAttempts.toNat_lt_size)

theorem decodeProxy?_encodeProxy (p : Proxy) : decodeProxy? exact (encodeProxy p) = some p :=
  decodeProxy?_obj (Json.asNat?_nat p.port.toNat_lt_size)

theorem Tenant.decode?_encode (t : Tenant) :
    decode? exact t.encode = some t.withoutPassword := by
  simp [decode?, encode, withoutPassword, Record.read?, Record.required?, Record.optional?,
    List.lookup_cons, Json.asText?, Json.asOption?_text]

theorem Provider.decode?_encode {p : Provider} (h : p.pool.Storable) :
    decode? exact p.encode = some p.withoutPasswords := by
  have hproxy : Json.asOption? (decodeProxy? exact) ((p.proxy.map encodeProxy).getD .null) =
      some p.proxy :=
    Json.asOption?_getD (fun _ => Json.noConfusion) decodeProxy?_encodeProxy
  have hhosts : Json.asList? Json.asText? (.arr (p.trustedHosts.map .str)) =
      some (p.trustedHosts.map id) :=
    Json.asList?_map fun _ _ => rfl
  have htenants : Json.asList? (Tenant.decode? exact) (.arr (p.tenants.map Tenant.encode)) =
      some (p.tenants.map Tenant.withoutPassword) :=
    Json.asList?_map fun t _ => t.decode?_encode
  rw [List.map_id] at hhosts
  exact decode?_obj (p := p.withoutPasswords) (PoolSize.decode?_encode h) p.retry.decode?_encode
    hproxy hhosts htenants

theorem Observability.decode?_encode (o : Observability) : decode? exact o.encode = some o := by
  simp [decode?, encode, Record.read?, Record.optional?, List.lookup_cons, Json.asText?,
    Json.asBool?]

theorem decode?_encode (h : c.Storable) : decode? exact c.encode = some c.withoutPasswords := by
  have hproviders : Json.asList? (Provider.decode? exact)
      (.arr (c.providers.map Provider.encode)) =
        some (c.providers.map Provider.withoutPasswords) :=
    Json.asList?_map fun p hp => Provider.decode?_encode (h p hp)
  simp [decode?, encode, withoutPasswords, Record.read?, Record.optional?, List.lookup_cons,
    c.observability.decode?_encode, hproviders]

open Json (Plain)

theorem PoolSize.plain_encode {p : PoolSize} (h : p.Storable) : Plain p.encode := by
  have hword {n : Int} (hn : Int64.minValue.toInt ≤ n ∧ n ≤ Int64.maxValue.toInt) :
      Plain (.int n) :=
    .int ⟨hn.1, Int.lt_of_le_of_lt hn.2 (by decide)⟩
  exact .obj (by simp [hword h.minSize, hword h.maxSize])

theorem RetrySetting.plain_encode (r : RetrySetting) : Plain r.encode := by
  have hseconds := Json.plain_nat r.delaySeconds.toNat_lt_size
  have hattempts := Json.plain_nat (Nat.lt_trans r.maxAttempts.toNat_lt_size (by decide))
  exact .obj (by simp [hseconds, hattempts])

theorem plain_encodeProxy (p : Proxy) : Plain (encodeProxy p) := by
  have hport := Json.plain_nat (Nat.lt_trans p.port.toNat_lt_size (by decide))
  exact .obj (by simp [Plain.str, hport])

theorem Tenant.plain_encode (t : Tenant) : Plain t.encode :=
  .obj (by simp [Plain.str, Json.plain_text])

theorem Provider.plain_encode {p : Provider} (h : p.pool.Storable) : Plain p.encode := by
  have hproxy : Plain ((p.proxy.map encodeProxy).getD .null) := by
    cases p.proxy with
    | none => exact .null
    | some proxy => exact plain_encodeProxy proxy
  have hhosts : Plain (.arr (p.trustedHosts.map .str)) :=
    .arr (List.forall_mem_map.mpr fun host _ => .str host)
  have htenants : Plain (.arr (p.tenants.map Tenant.encode)) :=
    .arr (List.forall_mem_map.mpr fun t _ => t.plain_encode)
  exact .obj (by simp [Plain.str, PoolSize.plain_encode h, p.retry.plain_encode, hproxy, hhosts,
    htenants])

theorem plain_encode (h : c.Storable) : Plain c.encode := by
  have hobservability : Plain c.observability.encode := .obj (by simp [Plain.str, Plain.bool])
  have hproviders : Plain (.arr (c.providers.map Provider.encode)) :=
    .arr (List.forall_mem_map.mpr fun p hp => Provider.plain_encode (h p hp))
  exact .obj (by simp [hobservability, hproviders])

theorem PoolSize.storable_default : ({} : PoolSize).Storable where
  minSize := by decide
  maxSize := by decide

theorem PoolSize.storable_of_decode? {p : PoolSize} (h : decode? exact j = some p) :
    p.Storable := by
  obtain ⟨r, -, h⟩ := Option.bind_eq_some_iff.mp h
  obtain ⟨least, hleast, h⟩ := Option.bind_eq_some_iff.mp h
  obtain ⟨most, hmost, h⟩ := Option.bind_eq_some_iff.mp h
  cases h
  constructor
  · rcases Record.optional?_cases hleast with rfl | ⟨j, hj⟩
    · exact storable_default.minSize
    · exact (asInt?_eq_some_iff.mp hj).2
  · rcases Record.optional?_cases hmost with rfl | ⟨j, hj⟩
    · exact storable_default.maxSize
    · exact (asInt?_eq_some_iff.mp hj).2

theorem Provider.storable_of_decode? {p : Provider} (h : decode? exact j = some p) :
    p.pool.Storable := by
  obtain ⟨r, -, h⟩ := Option.bind_eq_some_iff.mp h
  obtain ⟨name, -, h⟩ := Option.bind_eq_some_iff.mp h
  obtain ⟨url, -, h⟩ := Option.bind_eq_some_iff.mp h
  obtain ⟨connector, -, h⟩ := Option.bind_eq_some_iff.mp h
  obtain ⟨pool, hpool, h⟩ := Option.bind_eq_some_iff.mp h
  obtain ⟨retry, -, h⟩ := Option.bind_eq_some_iff.mp h
  obtain ⟨proxy, -, h⟩ := Option.bind_eq_some_iff.mp h
  obtain ⟨hosts, -, h⟩ := Option.bind_eq_some_iff.mp h
  obtain ⟨tenants, -, h⟩ := Option.bind_eq_some_iff.mp h
  cases h
  rcases Record.optional?_cases hpool with rfl | ⟨j, hj⟩
  · exact PoolSize.storable_default
  · exact PoolSize.storable_of_decode? hj

/-- Whatever document a configuration comes from, it can be written. -/
theorem storable_of_decode? (h : decode? exact j = some c) : c.Storable := by
  obtain ⟨r, -, h⟩ := Option.bind_eq_some_iff.mp h
  obtain ⟨observability, -, h⟩ := Option.bind_eq_some_iff.mp h
  obtain ⟨providers, hproviders, h⟩ := Option.bind_eq_some_iff.mp h
  cases h
  intro p hp
  rcases Record.optional?_cases hproviders with rfl | ⟨j, hj⟩
  · cases hp
  · obtain ⟨item, hitem⟩ := Json.exists_of_asList? hj hp
    exact Provider.storable_of_decode? hitem

/-- What is lost by writing and reading is the passwords, in every tenant and nothing else, whether
the document is passed on as a value or as text. They are neither validated nor written again. -/
theorem document_reads_back (h : c.Storable) :
    decode? exact c.encode = some c.withoutPasswords ∧
      (Json.read? c.encode.compact).bind (decode? exact) = some c.withoutPasswords ∧
      c.withoutPasswords.problems = c.problems ∧ c.withoutPasswords.encode = c.encode := by
  have hvalue : decode? exact c.encode = some c.withoutPasswords := decode?_encode h
  have htext : (Json.read? c.encode.compact).bind (decode? exact) = some c.withoutPasswords := by
    rw [Json.read?_compact (plain_encode h), Option.bind_some, hvalue]
  exact ⟨hvalue, htext, problems_withoutPasswords c, encode_withoutPasswords c⟩

/-- Two providers, one with the least and greatest numbers there are and nothing at its default, the
other without tenants and options. -/
def extremes : Config where
  observability := ⟨"trace", true, "[::]:1"⟩
  providers := [
    { name := "north"
      identityUrl := "https://id.example/v3"
      connector := "volumes"
      pool := ⟨-9_223_372_036_854_775_808, 9_223_372_036_854_775_807⟩
      retry := ⟨18_446_744_073_709_551_615, 4_294_967_295⟩
      proxy := some ⟨"proxy.example", 65_535⟩
      trustedHosts := ["b.example", "a.example", "b.example"]
      tenants := [⟨"one", some "default", "alice", "secret"⟩, ⟨"two", none, "bob", ""⟩] },
    { name := "south", identityUrl := "not a url" }]

theorem document_reads_back_extremes :
    extremes.Storable ∧ decode? true extremes.encode = some extremes.withoutPasswords ∧
      (Json.read? extremes.encode.compact).bind (decode? true) = some extremes.withoutPasswords ∧
      extremes.withoutPasswords.problems = extremes.problems ∧
      extremes.withoutPasswords.encode = extremes.encode := by
  have hstorable : extremes.Storable := by
    rintro p (_ | ⟨_, _ | ⟨_, ⟨⟩⟩⟩)
    · exact ⟨by decide, by decide⟩
    · exact PoolSize.storable_default
  exact ⟨hstorable, document_reads_back hstorable⟩

end Tenancy.Config

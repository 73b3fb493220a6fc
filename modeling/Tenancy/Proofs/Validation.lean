import Mathlib.Data.Finset.Card
import Mathlib.Data.Finset.Dedup
import Tenancy.Proofs.Config

namespace Tenancy.Config

variable {provider : String} {names : List String} {p : Provider} {t : Tenant} {c : Config}
  {y : Problem} {xs ys : List Problem}

/-- The name of a provider is wrong; `before` are the providers before it. -/
inductive Provider.Misnamed (before : List Provider) (p : Provider) : Problem → Prop
  | unnamed (h : p.name = "") : p.Misnamed before .emptyProviderName
  | repeated (h : p.name ≠ "") (hbefore : ∃ q ∈ before, q.name = p.name) :
    p.Misnamed before (.duplicateProvider p.name)

/-- A provider is wrong whatever stands around it. Of several faults of the bounds only one counts:
first a negative number, the least size before the greatest, and then their order. -/
inductive Provider.Flaw (p : Provider) : Problem → Prop
  | unsupported (h : p.version? = none) : p.Flaw (.unsupportedIdentity p.name p.identityUrl)
  | negativeMin (h : p.pool.minSize < 0) :
    p.Flaw (.badBounds p.name (.badBounds (.negativeMin p.pool.minSize)))
  | negativeMax (h : 0 ≤ p.pool.minSize) (hmax : p.pool.maxSize < 0) :
    p.Flaw (.badBounds p.name (.badBounds (.negativeMax p.pool.maxSize)))
  | inverted (h : 0 < p.pool.maxSize) (hmin : p.pool.maxSize < p.pool.minSize) :
    p.Flaw (.badBounds p.name (.badBounds (.inverted p.pool.minSize p.pool.maxSize)))
  | noAttempts (h : p.retry.maxAttempts = 0) : p.Flaw (.noAttempts p.name)
  | unusableProxy {proxy} (h : p.proxy = some proxy) (hproxy : proxy.host = "" ∨ proxy.port = 0) :
    p.Flaw (.invalidProxy p.name)

/-- A tenant of `p` is wrong; `before` are the tenants before it. -/
inductive Tenant.Flaw (p : Provider) (before : List Tenant) (t : Tenant) : Problem → Prop
  | incomplete (h : t.name = "" ∨ t.userid = "") : t.Flaw p before (.incompleteTenant p.name t.name)
  | repeated (h : ∃ u ∈ before, u.name = t.name) : t.Flaw p before (.duplicateTenant p.name t.name)
  | domainless (h : p.version? = some .v3) (hdomain : t.domain = none ∨ t.domain = some "") :
    t.Flaw p before (.missingDomain p.name t.name)

/-- The place of a problem among those of one provider, or of one tenant. -/
@[simp]
def Problem.rank : Problem → Nat
  | emptyProviderName => 0
  | duplicateProvider _ => 0
  | unsupportedIdentity _ _ => 1
  | badBounds _ _ => 2
  | noAttempts _ => 3
  | invalidProxy _ => 4
  | incompleteTenant _ _ => 5
  | duplicateTenant _ _ => 6
  | missingDomain _ _ => 7

/-- Exactly what is wrong, and each of it once. -/
structure Lists (F : Problem → Prop) (xs : List Problem) : Prop where
  mem : ∀ y, y ∈ xs ↔ F y
  ordered : xs.Pairwise (·.rank < ·.rank)

/-- A part for each element of a list, in its order. -/
inductive Parts {α : Type} (part : List α → α → List Problem → Prop) :
    List α → List α → List Problem → Prop
  | nil {before} : Parts part before [] []
  | cons {before a as xs ys} (h : part before a xs) (hrest : Parts part (before ++ [a]) as ys) :
    Parts part before (a :: as) (xs ++ ys)

/-- What there is to report of a provider: its own problems and then those of its tenants. -/
def Provider.Reports (before : List Provider) (p : Provider) (xs : List Problem) : Prop :=
  ∃ own ofTenants, xs = own ++ ofTenants ∧
    Lists (fun y => p.Misnamed before y ∨ p.Flaw y) own ∧
    Parts (fun earlier t => Lists (t.Flaw p earlier)) [] p.tenants ofTenants

def Reports (c : Config) (xs : List Problem) : Prop :=
  Parts (fun before p => p.Reports before) [] c.providers xs

section Lists

variable {F G : Problem → Prop}

/-- There is one list of what is wrong. -/
theorem Lists.unique (hx : Lists F xs) (hy : Lists F ys) : xs = ys := by
  have hasymm (a b : Problem) (hab : a.rank < b.rank) (hba : b.rank < a.rank) : a = b := by omega
  have hnodup {zs : List Problem} (hz : zs.Pairwise (·.rank < ·.rank)) : zs.Nodup :=
    hz.imp fun h heq => absurd (heq ▸ h) (Nat.lt_irrefl _)
  have hperm : xs.Perm ys := by
    apply (List.perm_ext_iff_of_nodup (hnodup hx.ordered) (hnodup hy.ordered)).mpr
    intro y
    rw [hx.mem, hy.mem]
  exact hperm.eq_of_pairwise (fun a b _ _ => hasymm a b) hx.ordered hy.ordered

theorem Lists.congr (hx : Lists F xs) (h : ∀ y, F y ↔ G y) : Lists G xs :=
  ⟨fun y => (hx.mem y).trans (h y), hx.ordered⟩

theorem Lists.append (hx : Lists F xs) (hy : Lists G ys)
    (h : ∀ x y, F x → G y → x.rank < y.rank) : Lists (fun y => F y ∨ G y) (xs ++ ys) := by
  constructor
  · intro y
    rw [List.mem_append, hx.mem, hy.mem]
  · apply List.pairwise_append.mpr
    refine ⟨hx.ordered, hy.ordered, ?_⟩
    intro x hxmem y hymem
    exact h x y ((hx.mem x).mp hxmem) ((hy.mem y).mp hymem)

theorem lists_ite {q : Prop} [Decidable q] : Lists (fun z => q ∧ z = y) (if q then [y] else []) := by
  split
  · rename_i h
    exact ⟨by simp [h], List.pairwise_singleton _ _⟩
  · rename_i h
    exact ⟨by simp [h], .nil⟩

theorem lists_ite_not {q : Prop} [Decidable q] :
    Lists (fun z => ¬ q ∧ z = y) (if q then [] else [y]) := by
  rw [← ite_not]
  exact lists_ite

end Lists

/-- A function that goes through a list and takes note of the names makes the parts, if it makes
each of them. -/
theorem parts_iff {α : Type} {part : List α → α → List Problem → Prop} {name : α → String}
    {of : List String → α → List Problem} {all : List String → List α → List Problem}
    (hnil : ∀ names, all names [] = [])
    (hcons : ∀ names a as, all names (a :: as) = of names a ++ all (name a :: names) as)
    (hpart : ∀ before names a xs, (∀ n, n ∈ names ↔ ∃ b ∈ before, name b = n) →
      (part before a xs ↔ xs = of names a))
    {before as : List α} (hnames : ∀ n, n ∈ names ↔ ∃ b ∈ before, name b = n) :
    Parts part before as xs ↔ xs = all names as := by
  induction as generalizing before names xs with
  | nil =>
    rw [hnil]
    constructor
    · intro h
      cases h
      rfl
    · rintro rfl
      exact .nil
  | cons a as ih =>
    have hnext (n : String) : n ∈ name a :: names ↔ ∃ b ∈ before ++ [a], name b = n := by
      simp only [List.mem_cons, hnames, List.mem_append]
      constructor
      · rintro (rfl | ⟨b, hb, rfl⟩)
        · exact ⟨a, .inr (.inl rfl), rfl⟩
        · exact ⟨b, .inl hb, rfl⟩
      · rintro ⟨b, hb | hb | hb, rfl⟩
        · exact .inr ⟨b, hb, rfl⟩
        · exact .inl (hb ▸ rfl)
        · cases hb
    rw [hcons]
    constructor
    · intro h
      cases h with
      | cons h hrest => rw [(hpart _ _ _ _ hnames).mp h, (ih hnext).mp hrest]
    · rintro rfl
      exact .cons ((hpart _ _ _ _ hnames).mpr rfl) ((ih hnext).mpr rfl)

theorem Parts.forall_mem {α : Type} {part : List α → α → List Problem → Prop} {before as : List α}
    {Q : Problem → Prop} (h : Parts part before as xs)
    (hpart : ∀ before a ys, part before a ys → ∀ y ∈ ys, Q y) : ∀ y ∈ xs, Q y := by
  induction h with
  | nil => simp
  | cons h _ ih => exact List.forall_mem_append.mpr ⟨hpart _ _ _ h, ih⟩

theorem Tenant.hasDomain_eq_false_iff :
    t.hasDomain = false ↔ t.domain = none ∨ t.domain = some "" := by
  unfold Tenant.hasDomain
  cases t.domain <;> simp

theorem Tenant.lists_problems {before : List Tenant}
    (hnames : ∀ n, n ∈ names ↔ ∃ u ∈ before, u.name = n) :
    Lists (t.Flaw p before) (t.problems p.name p.version? names) := by
  refine ((lists_ite.append lists_ite ?_).append lists_ite ?_).congr ?_
  · rintro _ _ ⟨-, rfl⟩ ⟨-, rfl⟩
    simp
  · rintro _ _ (⟨-, rfl⟩ | ⟨-, rfl⟩) ⟨-, rfl⟩ <;> simp
  · intro y
    simp only [Bool.or_eq_true, String.isEmpty_iff, List.contains_iff_mem, hnames,
      Bool.and_eq_true, beq_iff_eq, Bool.not_eq_true', Tenant.hasDomain_eq_false_iff]
    constructor
    · rintro ((⟨h, rfl⟩ | ⟨h, rfl⟩) | ⟨⟨hversion, hdomain⟩, rfl⟩)
      · exact .incomplete h
      · exact .repeated h
      · exact .domainless hversion hdomain
    · rintro (h | h | ⟨hversion, hdomain⟩)
      · exact .inl (.inl ⟨h, rfl⟩)
      · exact .inl (.inr ⟨h, rfl⟩)
      · exact .inr ⟨⟨hversion, hdomain⟩, rfl⟩

theorem parts_tenants_iff : Parts (fun earlier t => Lists (t.Flaw p earlier)) [] p.tenants xs ↔
    xs = problemsOfTenants p.name p.version? [] p.tenants := by
  refine parts_iff (fun _ => rfl) (fun _ _ _ => rfl) ?_ (by simp)
  intro before names t ys hnames
  have hlists := Tenant.lists_problems (p := p) (t := t) hnames
  constructor
  · intro h
    exact h.unique hlists
  · rintro rfl
    exact hlists

theorem Provider.Misnamed.rank {before : List Provider} (h : p.Misnamed before y) : y.rank = 0 := by
  cases h <;> rfl

theorem Provider.Flaw.rank_pos (h : p.Flaw y) : 0 < y.rank := by
  cases h <;> simp

theorem Provider.lists_nameProblems {before : List Provider}
    (hnames : ∀ n, n ∈ names ↔ ∃ q ∈ before, q.name = n) :
    Lists (p.Misnamed before) (nameProblems names p.name) := by
  unfold nameProblems
  by_cases hname : p.name.isEmpty = true
  · rw [if_pos hname]
    refine ⟨?_, List.pairwise_singleton _ _⟩
    intro y
    rw [List.mem_singleton]
    constructor
    · rintro rfl
      exact .unnamed (String.isEmpty_iff.mp hname)
    · rintro (_ | ⟨hne, -⟩)
      · rfl
      · exact absurd (String.isEmpty_iff.mp hname) hne
  · rw [if_neg hname]
    have hne : p.name ≠ "" := fun h => hname (String.isEmpty_iff.mpr h)
    refine lists_ite.congr ?_
    intro y
    rw [List.contains_iff_mem, hnames]
    constructor
    · rintro ⟨hbefore, rfl⟩
      exact .repeated hne hbefore
    · rintro (h | ⟨-, hbefore⟩)
      · exact absurd h hne
      · exact ⟨hbefore, rfl⟩

theorem Provider.bounds_eq_error_iff {error : PoolError} : p.pool.bounds = .error error ↔
    p.Flaw (.badBounds p.name error) := by
  unfold PoolSize.bounds PoolBounds.of?
  constructor
  · intro h
    split at h
    · cases h
      exact .negativeMin ‹_›
    · split at h
      · cases h
        exact .negativeMax (by omega) ‹_›
      · split at h
        · rename_i hinverted
          cases h
          exact .inverted hinverted.1 hinverted.2
        · cases h
  · intro h
    cases h with
    | negativeMin h => rw [if_pos h]
    | negativeMax h hmax => rw [if_neg (by omega), if_pos hmax]
    | inverted h hmin => rw [if_neg (by omega), if_neg (by omega), if_pos ⟨h, hmin⟩]

theorem proxy_unusable_iff : ¬ (p.proxy.map Proxy.isUsable).getD true = true ↔
    ∃ proxy, p.proxy = some proxy ∧ (proxy.host = "" ∨ proxy.port = 0) := by
  cases p.proxy with
  | none => simp
  | some proxy => simp [Proxy.isUsable, or_iff_not_imp_left]

/-- The problems of a provider are its own, and then those of its tenants. -/
theorem Provider.exists_own (p : Provider) : ∃ own, p.problems =
    own ++ problemsOfTenants p.name p.version? [] p.tenants ∧ Lists p.Flaw own := by
  refine ⟨_, rfl, ?_⟩
  have hbounds {xs : List Problem} (hok : ∀ bounds, p.pool.bounds = .ok bounds → xs = [])
      (herror : ∀ error, p.pool.bounds = .error error → xs = [.badBounds p.name error]) :
      Lists (fun y => ∃ error, p.pool.bounds = .error error ∧ .badBounds p.name error = y) xs := by
    cases hb : p.pool.bounds with
    | ok bounds =>
      rw [hok bounds hb]
      exact ⟨by simp, .nil⟩
    | error error =>
      rw [herror error hb]
      exact ⟨by simp [eq_comm], List.pairwise_singleton _ _⟩
  refine Lists.congr (.append (.append (.append lists_ite (hbounds ?_ ?_) ?_) lists_ite ?_)
    lists_ite_not ?_) ?_
  · intro bounds hb
    rw [hb]
  · intro error hb
    rw [hb]
  · rintro _ _ ⟨-, rfl⟩ ⟨_, -, rfl⟩
    simp
  · rintro _ _ (⟨-, rfl⟩ | ⟨_, -, rfl⟩) ⟨-, rfl⟩ <;> simp
  · rintro _ _ ((⟨-, rfl⟩ | ⟨_, -, rfl⟩) | ⟨-, rfl⟩) ⟨-, rfl⟩ <;> simp
  · intro y
    simp only [Option.isNone_iff_eq_none, bounds_eq_error_iff, proxy_unusable_iff]
    constructor
    · rintro (((⟨h, rfl⟩ | ⟨_, h, rfl⟩) | ⟨h, rfl⟩) | ⟨⟨proxy, h, hproxy⟩, rfl⟩)
      · exact .unsupported h
      · exact h
      · exact .noAttempts h
      · exact .unusableProxy h hproxy
    · intro hflaw
      cases id hflaw with
      | unsupported h => exact .inl (.inl (.inl ⟨h, rfl⟩))
      | negativeMin | negativeMax | inverted => exact .inl (.inl (.inr ⟨_, hflaw, rfl⟩))
      | noAttempts h => exact .inl (.inr ⟨h, rfl⟩)
      | unusableProxy h hproxy => exact .inr ⟨⟨_, h, hproxy⟩, rfl⟩

theorem Provider.reports_iff {before : List Provider}
    (hnames : ∀ n, n ∈ names ↔ ∃ q ∈ before, q.name = n) :
    p.Reports before xs ↔ xs = nameProblems names p.name ++ p.problems := by
  obtain ⟨own, hown, hflaws⟩ := p.exists_own
  have hlists : Lists (fun y => p.Misnamed before y ∨ p.Flaw y) (nameProblems names p.name ++ own) := by
    refine (lists_nameProblems hnames).append hflaws ?_
    intro x y hx hy
    rw [hx.rank]
    exact hy.rank_pos
  rw [hown, ← List.append_assoc]
  constructor
  · rintro ⟨own', ofTenants, rfl, hown', htenants⟩
    rw [hown'.unique hlists, parts_tenants_iff.mp htenants]
  · rintro rfl
    exact ⟨_, _, rfl, hlists, parts_tenants_iff.mpr rfl⟩

theorem reports_iff : c.Reports xs ↔ xs = c.problems := by
  refine parts_iff (fun _ => rfl) (fun _ _ _ => rfl) ?_ (by simp)
  intro before names p ys hnames
  exact Provider.reports_iff hnames

/-- Nothing is missing for a tenant of `p`. -/
structure Tenant.Sound (p : Provider) (t : Tenant) : Prop where
  name : t.name ≠ ""
  userid : t.userid ≠ ""
  domain : p.version? = some .v3 → ∃ domain, t.domain = some domain ∧ domain ≠ ""

structure Provider.Sound (p : Provider) : Prop where
  name : p.name ≠ ""
  version : ∃ version, p.version? = some version
  bounds : 0 ≤ p.pool.minSize ∧ 0 ≤ p.pool.maxSize ∧
    (p.pool.maxSize = 0 ∨ p.pool.minSize ≤ p.pool.maxSize)
  attempts : 1 ≤ p.retry.maxAttempts
  proxy : ∀ proxy, p.proxy = some proxy → proxy.host ≠ "" ∧ proxy.port ≠ 0
  tenants : ∀ t ∈ p.tenants, t.Sound p
  names : (p.tenants.map Tenant.name).Nodup

theorem Tenant.complete_iff : t.Complete p.version? ↔ t.Sound p := by
  have hempty {text : String} : text.isEmpty = false ↔ text ≠ "" := by
    rw [← Bool.not_eq_true, String.isEmpty_iff]
  have hdomain : t.hasDomain = true ↔ ∃ domain, t.domain = some domain ∧ domain ≠ "" := by
    unfold Tenant.hasDomain
    cases t.domain <;> simp
  constructor
  · rintro ⟨hname, huserid, hdom⟩
    exact ⟨hempty.mp hname, hempty.mp huserid, fun h => hdomain.mp (hdom h)⟩
  · rintro ⟨hname, huserid, hdom⟩
    exact ⟨hempty.mpr hname, hempty.mpr huserid, fun h => hdomain.mpr (hdom h)⟩

theorem PoolSize.exists_bounds_iff {size : PoolSize} : (∃ bounds, size.bounds = .ok bounds) ↔
    0 ≤ size.minSize ∧ 0 ≤ size.maxSize ∧ (size.maxSize = 0 ∨ size.minSize ≤ size.maxSize) := by
  unfold PoolSize.bounds PoolBounds.of?
  constructor
  · rintro ⟨bounds, h⟩
    split at h
    · cases h
    · split at h
      · cases h
      · split at h
        · cases h
        · omega
  · rintro ⟨hmin, hmax, horder⟩
    exact ⟨_, by rw [if_neg (by omega), if_neg (by omega), if_neg (by omega)]⟩

theorem Provider.complete_iff : p.name.isEmpty = false ∧ p.Complete ↔ p.Sound := by
  have hname : p.name.isEmpty = false ↔ p.name ≠ "" := by
    rw [← Bool.not_eq_true, String.isEmpty_iff]
  have hattempts : p.retry.maxAttempts ≠ 0 ↔ 1 ≤ p.retry.maxAttempts := by
    rw [Ne, ← UInt32.toNat_inj, UInt32.le_iff_toNat_le]
    exact Nat.one_le_iff_ne_zero.symm
  have hproxy : (p.proxy.map Proxy.isUsable).getD true = true ↔
      ∀ proxy, p.proxy = some proxy → proxy.host ≠ "" ∧ proxy.port ≠ 0 := by
    rw [← not_iff_not, proxy_unusable_iff]
    simp [← or_iff_not_imp_left]
  constructor
  · rintro ⟨hp, hversion, hbounds, hatt, hprox, hnames, htenants⟩
    exact ⟨hname.mp hp, Option.isSome_iff_exists.mp hversion, PoolSize.exists_bounds_iff.mp hbounds,
      hattempts.mp hatt, hproxy.mp hprox, fun t ht => Tenant.complete_iff.mp (htenants t ht), hnames⟩
  · rintro ⟨hp, hversion, hbounds, hatt, hprox, htenants, hnames⟩
    exact ⟨hname.mpr hp, Option.isSome_iff_exists.mpr hversion,
      PoolSize.exists_bounds_iff.mpr hbounds, hattempts.mpr hatt, hproxy.mpr hprox, hnames,
      fun t ht => Tenant.complete_iff.mpr (htenants t ht)⟩

theorem problems_eq_nil_iff_sound : c.problems = [] ↔
    (∀ p ∈ c.providers, p.Sound) ∧ (c.providers.map Provider.name).Nodup := by
  rw [problems_eq_nil_iff]
  simp only [Provider.complete_iff]

def Problem.isDuplicateProvider : Problem → Bool
  | duplicateProvider _ => true
  | _ => false

/-- The names of those that have one. -/
def namesOf (ps : List Provider) : List String := (ps.map Provider.name).filter (· ≠ "")

/-- Only a name can make a provider a duplicate. -/
theorem Provider.no_duplicate (p : Provider) :
    p.problems.countP Problem.isDuplicateProvider = 0 := by
  obtain ⟨own, hown, hflaws⟩ := p.exists_own
  rw [List.countP_eq_zero, hown]
  refine List.forall_mem_append.mpr ⟨?_, ?_⟩
  · intro y hy
    cases (hflaws.mem y).mp hy <;> simp [Problem.isDuplicateProvider]
  · refine (parts_tenants_iff.mpr rfl).forall_mem ?_
    intro before t ys hys y hy
    cases (hys.mem y).mp hy <;> simp [Problem.isDuplicateProvider]

theorem countP_nameProblems (names : List String) (name : String) :
    (nameProblems names name).countP Problem.isDuplicateProvider =
      if name ≠ "" ∧ name ∈ names then 1 else 0 := by
  unfold nameProblems
  by_cases hname : name = ""
  · simp [hname, Problem.isDuplicateProvider]
  · by_cases hmem : name ∈ names <;> simp [hname, hmem, Problem.isDuplicateProvider]

/-- Duplicates are the names that are not new; `names` are those that stand before. -/
theorem count_duplicates {ps : List Provider} :
    (problemsOfProviders names ps).countP Problem.isDuplicateProvider +
      ((namesOf ps).toFinset \ names.toFinset).card = (namesOf ps).length := by
  induction ps generalizing names with
  | nil => simp [problemsOfProviders, namesOf]
  | cons p ps ih =>
    have ih := @ih (p.name :: names)
    rw [List.toFinset_cons] at ih
    rw [problemsOfProviders, List.countP_append, List.countP_append, p.no_duplicate,
      countP_nameProblems]
    by_cases hname : p.name = ""
    · have hnames : namesOf (p :: ps) = namesOf ps := by simp [namesOf, hname]
      have hempty : p.name ∉ (namesOf ps).toFinset := by simp [namesOf, hname]
      rw [Finset.sdiff_insert_of_notMem hempty] at ih
      rw [hnames, if_neg (fun h => h.1 hname)]
      omega
    · have hnames : namesOf (p :: ps) = p.name :: namesOf ps := by simp [namesOf, hname]
      rw [hnames, List.toFinset_cons, List.length_cons]
      by_cases hmem : p.name ∈ names
      · have hN : p.name ∈ names.toFinset := List.mem_toFinset.mpr hmem
        rw [Finset.insert_eq_of_mem hN] at ih
        rw [Finset.insert_sdiff_of_mem _ hN, if_pos ⟨hname, hmem⟩]
        omega
      · have hN : p.name ∉ names.toFinset := fun h => hmem (List.mem_toFinset.mp h)
        have hcard : (((namesOf ps).toFinset \ names.toFinset).erase p.name).card + 1 =
            (insert p.name ((namesOf ps).toFinset \ names.toFinset)).card := by
          rw [← Finset.erase_insert_eq_erase]
          exact Finset.card_erase_add_one (Finset.mem_insert_self _ _)
        rw [Finset.sdiff_insert] at ih
        rw [Finset.insert_sdiff_of_notMem _ hN, if_neg (fun h => hmem h.2)]
        omega

/-- Of a configuration exactly that is reported which is wrong with it: for each provider and each
tenant, in their order, every problem that it has, once. Nothing is wrong if all of them are sound
and no name comes twice, and as many providers are reported as duplicates as names come again. -/
theorem problems_exact (c : Config) :
    (∀ xs, c.Reports xs ↔ xs = c.problems) ∧
      (c.problems = [] ↔
        (∀ p ∈ c.providers, p.Sound) ∧ (c.providers.map Provider.name).Nodup) ∧
      c.problems.countP Problem.isDuplicateProvider + (namesOf c.providers).dedup.length =
        (namesOf c.providers).length := by
  refine ⟨fun xs => reports_iff, problems_eq_nil_iff_sound, ?_⟩
  have h : c.problems.countP Problem.isDuplicateProvider +
      ((namesOf c.providers).toFinset \ ([] : List String).toFinset).card =
        (namesOf c.providers).length :=
    count_duplicates
  rwa [List.toFinset_nil, Finset.sdiff_empty, List.card_toFinset] at h

end Tenancy.Config

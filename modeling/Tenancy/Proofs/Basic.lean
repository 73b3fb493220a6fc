namespace Tenancy

theorem ok_of_toOption {ε α : Type} {x : Except ε α} {a : α} (h : x.toOption = some a) :
    x = .ok a := by
  cases x with
  | error fault => cases h
  | ok b => exact congrArg Except.ok (Option.some.inj h)

theorem mapError_ok {ε ε' α : Type} (f : ε → ε') (a : α) :
    (Except.ok a : Except ε α).mapError f = .ok a := rfl

theorem bind_ok_iff {ε α β : Type} {x : Except ε α} {next : α → Except ε β} {b : β} :
    (x >>= next) = .ok b ↔ ∃ a, x = .ok a ∧ next a = .ok b := by
  cases x with
  | error fault => simp [bind, Except.bind]
  | ok a => simp [bind, Except.bind]

theorem bind_error_iff {ε α β : Type} {x : Except ε α} {next : α → Except ε β} {e : ε} :
    (x >>= next) = .error e ↔ x = .error e ∨ ∃ a, x = .ok a ∧ next a = .error e := by
  cases x with
  | error fault => simp [bind, Except.bind]
  | ok a => simp [bind, Except.bind]

/-- Two ways to take a row of steps that agree about each of them agree about all. -/
theorem foldlM_map_of_step {ε σ τ α : Type} {step : σ → α → Except ε σ} {step' : τ → α → Except ε τ}
    {f : σ → τ} (h : ∀ s x, step' (f s) x = (step s x).map f) (s : σ) (xs : List α) :
    xs.foldlM step' (f s) = (xs.foldlM step s).map f := by
  induction xs generalizing s with
  | nil => rfl
  | cons x xs ih =>
    rw [List.foldlM_cons, List.foldlM_cons, h]
    cases step s x with
    | error fault => rfl
    | ok t => exact ih t

/-- What holds at the start and what each of the steps keeps holds if all of them succeed. -/
theorem foldlM_ok_invariant {ε σ α : Type} {step : σ → α → Except ε σ} {P : σ → Prop} {s s' : σ}
    {xs : List α} (h : P s) (hstep : ∀ t x t', P t → step t x = .ok t' → P t')
    (hr : xs.foldlM step s = .ok s') : P s' := by
  induction xs generalizing s with
  | nil =>
    cases hr
    exact h
  | cons x xs ih =>
    obtain ⟨t, ht, hr⟩ := bind_ok_iff.mp hr
    exact ih (hstep s x t h ht) hr

/-- A property of what was gone through and what it led to, if each step extends it. -/
theorem foldlM_ok_history {ε σ α : Type} {step : σ → α → Except ε σ} {P : List α → σ → Prop}
    {before xs : List α} {s s' : σ} (h : P before s)
    (hstep : ∀ before t x t', P before t → step t x = .ok t' → P (before ++ [x]) t')
    (hr : xs.foldlM step s = .ok s') : P (before ++ xs) s' := by
  induction xs generalizing before s with
  | nil =>
    cases hr
    rwa [List.append_nil]
  | cons x xs ih =>
    obtain ⟨t, ht, hr⟩ := bind_ok_iff.mp hr
    rw [List.append_cons]
    exact ih (hstep before s x t h ht) hr

/-- A row of steps succeeds if whether one succeeds does not depend on those before. -/
theorem exists_foldlM_ok_iff {ε σ α : Type} {step : σ → α → Except ε σ} {Q : α → Prop}
    (h : ∀ s x, (∃ s', step s x = .ok s') ↔ Q x) (s : σ) (xs : List α) :
    (∃ s', xs.foldlM step s = .ok s') ↔ ∀ x ∈ xs, Q x := by
  induction xs generalizing s with
  | nil => exact ⟨fun _ x hx => (List.not_mem_nil hx).elim, fun _ => ⟨s, rfl⟩⟩
  | cons x xs ih =>
    rw [List.forall_mem_cons, ← h s x]
    constructor
    · rintro ⟨s', hr⟩
      obtain ⟨t, ht, hr⟩ := bind_ok_iff.mp hr
      exact ⟨⟨t, ht⟩, (ih t).mp ⟨s', hr⟩⟩
    · rintro ⟨⟨t, ht⟩, hrest⟩
      obtain ⟨s', hr⟩ := (ih t).mpr hrest
      exact ⟨s', bind_ok_iff.mpr ⟨t, ht, hr⟩⟩

theorem exists_mapM_ok_iff {ε α β : Type} {f : α → Except ε β} {xs : List α} :
    (∃ ys, xs.mapM f = .ok ys) ↔ ∀ x ∈ xs, ∃ y, f x = .ok y := by
  induction xs with
  | nil => exact ⟨fun _ x hx => (List.not_mem_nil hx).elim, fun _ => ⟨[], rfl⟩⟩
  | cons x xs ih =>
    rw [List.forall_mem_cons, ← ih, List.mapM_cons]
    constructor
    · rintro ⟨ys, hr⟩
      obtain ⟨y, hy, hr⟩ := bind_ok_iff.mp hr
      obtain ⟨zs, hzs, -⟩ := bind_ok_iff.mp hr
      exact ⟨⟨y, hy⟩, zs, hzs⟩
    · rintro ⟨⟨y, hy⟩, zs, hzs⟩
      exact ⟨y :: zs, bind_ok_iff.mpr ⟨y, hy, bind_ok_iff.mpr ⟨zs, hzs, rfl⟩⟩⟩

/-- What all succeed in is what each of them succeeds in. -/
theorem map_of_mapM_ok {ε ε' α β : Type} {f : α → Except ε β} {g : α → Except ε' β} {xs : List α}
    {ys : List β} (hfg : ∀ x y, f x = .ok y → g x = .ok y) (h : xs.mapM f = .ok ys) :
    xs.map g = ys.map .ok := by
  induction xs generalizing ys with
  | nil =>
    cases h
    rfl
  | cons x xs ih =>
    rw [List.mapM_cons] at h
    obtain ⟨y, hy, h⟩ := bind_ok_iff.mp h
    obtain ⟨zs, hzs, h⟩ := bind_ok_iff.mp h
    cases h
    rw [List.map_cons, List.map_cons, hfg x y hy, ih hzs]

/-- An error of a row of steps is the error of one of them. -/
theorem exists_of_foldlM_error {ε σ α : Type} {step : σ → α → Except ε σ} {s : σ} {xs : List α}
    {e : ε} (h : xs.foldlM step s = .error e) : ∃ t, ∃ x ∈ xs, step t x = .error e := by
  induction xs generalizing s with
  | nil => cases h
  | cons x xs ih =>
    obtain hx | ⟨t, -, hrest⟩ := bind_error_iff.mp h
    · exact ⟨s, x, List.mem_cons_self, hx⟩
    · obtain ⟨t, y, hy, he⟩ := ih hrest
      exact ⟨t, y, List.mem_cons_of_mem x hy, he⟩

theorem exists_of_mapM_error {ε α β : Type} {f : α → Except ε β} {xs : List α} {e : ε}
    (h : xs.mapM f = .error e) : ∃ x ∈ xs, f x = .error e := by
  induction xs with
  | nil => cases h
  | cons x xs ih =>
    rw [List.mapM_cons] at h
    obtain hx | ⟨y, -, hrest⟩ := bind_error_iff.mp h
    · exact ⟨x, List.mem_cons_self, hx⟩
    · obtain hrest | ⟨ys, -, hnone⟩ := bind_error_iff.mp hrest
      · obtain ⟨y, hy, he⟩ := ih hrest
        exact ⟨y, List.mem_cons_of_mem x hy, he⟩
      · cases hnone

theorem exists_of_mapM_ok {ε α β : Type} {f : α → Except ε β} {xs : List α} {ys : List β} {y : β}
    (h : xs.mapM f = .ok ys) (hy : y ∈ ys) : ∃ x ∈ xs, f x = .ok y := by
  induction xs generalizing ys with
  | nil =>
    cases h
    cases hy
  | cons x xs ih =>
    rw [List.mapM_cons] at h
    obtain ⟨z, hz, h⟩ := bind_ok_iff.mp h
    obtain ⟨zs, hzs, h⟩ := bind_ok_iff.mp h
    cases h
    obtain rfl | hy := List.mem_cons.mp hy
    · exact ⟨x, List.mem_cons_self, hz⟩
    · obtain ⟨x', hx', hy⟩ := ih hzs hy
      exact ⟨x', List.mem_cons_of_mem x hx', hy⟩

/-- What holds at the start and what each of the steps keeps holds at the end. -/
theorem foldlM_invariant {σ μ : Type} {step : σ → μ → Option σ} {P : σ → Prop} {s s' : σ}
    {moves : List μ} (h : P s) (hstep : ∀ m ∈ moves, ∀ t t', P t → step t m = some t' → P t')
    (hr : moves.foldlM step s = some s') : P s' := by
  induction moves generalizing s with
  | nil =>
    cases hr
    exact h
  | cons m moves ih =>
    obtain ⟨t, ht, hr⟩ := Option.bind_eq_some_iff.mp hr
    exact ih (hstep m List.mem_cons_self s t h ht)
      (fun m hm => hstep m (List.mem_cons_of_mem _ hm)) hr

end Tenancy

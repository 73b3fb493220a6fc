import Tenancy.Json.Record

namespace Tenancy

namespace Json

variable {α β : Type}

theorem asInt?_int {least limit n : Int} (hleast : least ≤ n) (hlimit : n < limit) :
    asInt? least limit (.int n) = some n := by
  simp [asInt?, hleast, hlimit]

theorem asNat?_nat {limit n : Nat} (h : n < limit) : asNat? limit (.nat n) = some n := by
  rw [asNat?, nat, asInt?_int (Int.natCast_nonneg n) (Int.ofNat_lt.mpr h)]
  rfl

/-- Items that can be read one by one make up a list. -/
theorem asList?_map {item? : Json → Option α} {write : β → Json} {f : β → α} {xs : List β}
    (h : ∀ x ∈ xs, item? (write x) = some (f x)) :
    asList? item? (.arr (xs.map write)) = some (xs.map f) := by
  rw [asList?]
  induction xs with
  | nil => rfl
  | cons x xs ih =>
    obtain ⟨hx, hxs⟩ := List.forall_mem_cons.mp h
    rw [List.map_cons, List.mapM_cons, hx, ih hxs]
    rfl

theorem exists_of_asList? {item? : Json → Option α} {j : Json} {ys : List α} {y : α}
    (h : asList? item? j = some ys) (hy : y ∈ ys) : ∃ item, item? item = some y := by
  unfold asList? at h
  split at h
  · rename_i items
    induction items generalizing ys with
    | nil =>
      cases h
      cases hy
    | cons item items ih =>
      rw [List.mapM_cons] at h
      obtain ⟨z, hz, h⟩ := Option.bind_eq_some_iff.mp h
      obtain ⟨zs, hzs, h⟩ := Option.bind_eq_some_iff.mp h
      cases h
      rcases List.mem_cons.mp hy with rfl | hy
      · exact ⟨item, hz⟩
      · exact ih hy hzs
  · cases h

/-- Nothing is written as `null`, and something as nothing else. -/
theorem asOption?_getD {item? : Json → Option α} {write : α → Json} {x : Option α}
    (hnull : ∀ a, write a ≠ .null) (h : ∀ a, item? (write a) = some a) :
    asOption? item? ((x.map write).getD .null) = some x := by
  cases x with
  | none => rfl
  | some a =>
    rw [Option.map_some, Option.getD_some, asOption?]
    · rw [h a]
      rfl
    · exact hnull a

theorem asOption?_text (s : Option String) : asOption? asText? (.text s) = some s :=
  asOption?_getD (fun _ => Json.noConfusion) fun _ => rfl

end Json

namespace Record

variable {α : Type} {r : Record} {name : String} {part? : Json → Option α} {default a : α}

/-- A part that was left out has its default, and any other was read. -/
theorem optional?_cases (h : r.optional? name part? default = some a) :
    a = default ∨ ∃ j, part? j = some a := by
  unfold optional? at h
  split at h
  · cases h
    exact .inl rfl
  · exact .inr ⟨_, h⟩

end Record
end Tenancy

namespace Tenancy

/-- An order in which what a table holds is gone through. A table has none of its own, so it may be
any. -/
structure Arrangement (α : Type) where
  arrange : List α → List α
  perm (xs : List α) : (arrange xs).Perm xs

namespace Arrangement

variable {α : Type}

def asListed : Arrangement α := ⟨id, .refl⟩

def sorted (le : α → α → Bool) : Arrangement α :=
  ⟨fun xs => xs.mergeSort le, fun xs => xs.mergeSort_perm le⟩

variable (order : Arrangement α) {xs : List α} {x : α}

@[simp] theorem arrange_nil : order.arrange [] = [] := (order.perm []).eq_nil

end Arrangement
end Tenancy

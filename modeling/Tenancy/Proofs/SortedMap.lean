import Mathlib.Data.List.Nodup
import Tenancy.SortedMap

namespace Tenancy.SortedMap

variable {α β : Type} {key k : String} {value value' : α} {m m' : SortedMap α}

theorem mem_keys_put {entries : List (String × α)} :
    k ∈ (put key value entries).map Prod.fst ↔ k = key ∨ k ∈ entries.map Prod.fst := by
  induction entries with
  | nil => simp [put]
  | cons head rest ih =>
    obtain ⟨k', v'⟩ := head
    unfold put
    split
    · simp
    · split
      · simp only [List.map_cons, List.mem_cons, ih]
        exact or_left_comm
      · rename_i hlt hgt
        have hsame : key = k' :=
          String.le_antisymm (String.not_lt.mp hgt) (String.not_lt.mp hlt)
        simp [hsame]

theorem mem_keys_insert : k ∈ (m.insert key value).keys ↔ k = key ∨ k ∈ m.keys := mem_keys_put

theorem mem_keys_foldl_insert {keys : List String} {m : SortedMap Unit} :
    k ∈ (keys.foldl (fun m key => m.insert key ()) m).keys ↔ k ∈ keys ∨ k ∈ m.keys := by
  induction keys generalizing m with
  | nil => simp
  | cons key keys ih =>
    rw [List.foldl_cons, ih, mem_keys_insert, List.mem_cons]
    exact or_left_comm.trans or_assoc.symm

theorem lookup_put_self {entries : List (String × α)} :
    (put key value entries).lookup key = some value := by
  induction entries with
  | nil => simp [put]
  | cons head rest ih =>
    obtain ⟨k', v'⟩ := head
    unfold put
    split
    · simp
    · split
      · rename_i hgt
        have hne : key ≠ k' := by
          rintro rfl
          exact String.lt_irrefl key hgt
        rw [List.lookup_cons, beq_false_of_ne hne]
        exact ih
      · simp

theorem lookup_put_ne {entries : List (String × α)} (h : k ≠ key) :
    (put key value entries).lookup k = entries.lookup k := by
  induction entries with
  | nil => simp [put, List.lookup_cons, beq_false_of_ne h]
  | cons head rest ih =>
    obtain ⟨k', v'⟩ := head
    unfold put
    split
    · simp [List.lookup_cons, beq_false_of_ne h]
    · split
      · simp only [List.lookup_cons, ih]
      · rename_i hlt hgt
        have hsame : key = k' :=
          String.le_antisymm (String.not_lt.mp hgt) (String.not_lt.mp hlt)
        subst hsame
        simp [List.lookup_cons, beq_false_of_ne h]

theorem get?_insert_self : (m.insert key value).get? key = some value := lookup_put_self

theorem get?_insert_ne (h : k ≠ key) : (m.insert key value).get? k = m.get? k := lookup_put_ne h

theorem keys_nodup (m : SortedMap α) : m.keys.Nodup := by
  refine List.pairwise_map.mpr (m.sorted.imp fun hlt heq => ?_)
  rw [heq] at hlt
  exact String.lt_irrefl _ hlt

theorem get?_insert : (m.insert key value).get? k = if k = key then some value else m.get? k := by
  split
  · rename_i hsame
    rw [hsame, get?_insert_self]
  · rename_i hne
    rw [get?_insert_ne hne]

theorem mem_iff_lookup {entries : List (String × α)} (h : (entries.map Prod.fst).Nodup) :
    (k, value) ∈ entries ↔ entries.lookup k = some value := by
  induction entries with
  | nil => simp
  | cons e rest ih =>
    obtain ⟨k', v'⟩ := e
    obtain ⟨hhead, hrest⟩ := List.nodup_cons.mp h
    by_cases hk : k = k'
    · subst hk
      have hnot : (k, value) ∉ rest := fun hmem => hhead (List.mem_map.mpr ⟨_, hmem, rfl⟩)
      simp [hnot, eq_comm]
    · simp [List.lookup_cons, beq_false_of_ne hk, hk, ih hrest]

theorem mem_entries_iff : (k, value) ∈ m.entries ↔ m.get? k = some value :=
  mem_iff_lookup m.keys_nodup

theorem mem_keys_iff : k ∈ m.keys ↔ ∃ v, m.get? k = some v := by
  simp [keys, ← mem_entries_iff]

theorem mem_values_iff : value ∈ m.values ↔ ∃ k, m.get? k = some value := by
  simp [values, ← mem_entries_iff]

/-- A map is what can be looked up in it. -/
theorem ext_get? (h : ∀ k, m.get? k = m'.get? k) : m = m' := by
  have hasymm (a b : String × α) (hab : a.1 < b.1) (hba : b.1 < a.1) : a = b :=
    absurd (String.lt_trans hab hba) (String.lt_irrefl _)
  have hperm : m.entries.Perm m'.entries := by
    have hnodup (m : SortedMap α) : m.entries.Nodup := List.Nodup.of_map _ m.keys_nodup
    refine (List.perm_ext_iff_of_nodup (hnodup m) (hnodup m')).mpr fun e => ?_
    obtain ⟨k, v⟩ := e
    rw [mem_entries_iff, mem_entries_iff, h]
  have hentries := hperm.eq_of_pairwise (fun a b _ _ => hasymm a b) m.sorted m'.sorted
  cases m
  cases m'
  cases hentries
  rfl

theorem ext_keys {m m' : SortedMap Unit} (h : ∀ k, k ∈ m.keys ↔ k ∈ m'.keys) : m = m' := by
  refine ext_get? fun k => Option.ext fun _ => ?_
  have hk := h k
  rw [mem_keys_iff, mem_keys_iff] at hk
  constructor
  · intro hv
    exact (hk.mp ⟨_, hv⟩).choose_spec
  · intro hv
    exact (hk.mpr ⟨_, hv⟩).choose_spec

theorem insert_insert : (m.insert key value).insert key value' = m.insert key value' := by
  refine ext_get? fun k => ?_
  simp only [get?_insert]
  split <;> rfl

theorem insert_of_get? (h : m.get? key = some value) : m.insert key value = m := by
  refine ext_get? fun k => ?_
  rw [get?_insert]
  split
  · rename_i hk
    rw [hk, h]
  · rfl

/-- The same keys with other values. -/
def map (f : α → β) (m : SortedMap α) : SortedMap β where
  entries := m.entries.map fun e => (e.1, f e.2)
  sorted := List.pairwise_map.mpr m.sorted

theorem keys_map (f : α → β) (m : SortedMap α) : (m.map f).keys = m.keys := by
  simp [map, keys]

theorem get?_map (f : α → β) (m : SortedMap α) (k : String) :
    (m.map f).get? k = (m.get? k).map f := by
  refine Option.ext fun v => ?_
  rw [← mem_entries_iff, Option.map_eq_some_iff]
  simp [map, ← mem_entries_iff]

theorem map_insert (f : α → β) : (m.insert key value).map f = (m.map f).insert key (f value) := by
  refine ext_get? fun k => ?_
  simp only [get?_map, get?_insert]
  split <;> rfl

end Tenancy.SortedMap

import Tenancy.Proofs.Yard.Course

namespace Tenancy.Yard

variable {n created created' : Nat} {p p' : Pool} {d : Deed} {r : Reaction} {new ts ts' : List Task}
  {e : Event} {es es' : List Event}

/-- The numbers taken for resources that are being made. -/
def claimed (ts : List Task) : List Nat :=
  ts.filterMap fun | .allocating _ slot _ => some slot | _ => none

/-- Every number was taken once, for what was made or is being made, and what the pool has is among
what was made for it. -/
structure Numbered (created : Nat) (p : Pool) (ts : List Task) (es : List Event) : Prop where
  once : ((made es).map Slot.id ++ claimed ts).Nodup
  below : ∀ id ∈ (made es).map Slot.id ++ claimed ts, id < p.nextId
  fresh : ((made es).map Slot.resource).Nodup
  past : ∀ slot ∈ made es, slot.resource < created
  known : ∀ slot ∈ p.slots, slot ∈ made es
  distinct : (p.slots.map Slot.id).Nodup

@[simp] theorem claimed_handing (use : Use) :
    claimed ((handing n slot use).2 ++ ts) = claimed ts := by
  cases use <;> rfl

@[simp] theorem claimed_giving (resources : List Nat) :
    claimed ((giving n total resources).2 ++ ts) = claimed ts := by
  cases resources <;> rfl

/-- Nothing is made, and the pool loses slots. -/
theorem Numbered.lose {lost : List Slot} (h : Numbered created p ts es) (hm : made es' = made es)
    (hc : (claimed ts').Sublist (claimed ts)) (hn : p'.nextId = p.nextId)
    (hs : (lost ++ p'.slots).Perm p.slots) : Numbered created p' ts' es' := by
  have hids := (hs.map Slot.id).nodup_iff.mpr h.distinct
  rw [List.map_append] at hids
  refine ⟨?_, ?_, hm ▸ h.fresh, hm ▸ h.past, ?_, hids.of_append_right⟩
  · rw [hm]
    exact h.once.sublist (hc.append_left _)
  · rw [hm, hn]
    exact fun id hid => h.below id ((hc.append_left _).subset hid)
  · rw [hm]
    exact fun slot hslot => h.known slot (hs.subset (List.mem_append_right lost hslot))

/-- Nothing is made, and the pool moves slots at most. -/
theorem Numbered.keep (h : Numbered created p ts es) (hm : made es' = made es)
    (hc : (claimed ts').Sublist (claimed ts)) (hn : p'.nextId = p.nextId)
    (hs : p'.slots.Perm p.slots) : Numbered created p' ts' es' :=
  h.lose hm hc hn (show ([] ++ p'.slots).Perm p.slots from hs)

/-- The number announced is new. -/
theorem Numbered.announce {use : Use} (h : Numbered created p ts es) (hm : made es' = made es) :
    Numbered created p.announce (.allocating n p.nextId use :: ts) es' := by
  have hnew : p.nextId ∉ (made es).map Slot.id ++ claimed ts :=
    fun hid => Nat.lt_irrefl _ (h.below _ hid)
  refine ⟨?_, ?_, hm ▸ h.fresh, hm ▸ h.past, hm ▸ h.known, h.distinct⟩
  · rw [hm]
    exact List.perm_middle.nodup_iff.mpr (List.nodup_cons.mpr ⟨hnew, h.once⟩)
  · intro id hid
    rw [hm] at hid
    rcases List.mem_cons.mp (List.perm_middle.subset hid) with rfl | hid
    · exact Nat.lt_succ_self _
    · exact Nat.lt_succ_of_lt (h.below id hid)

/-- What is made takes the number claimed for it, whether the pool keeps it or not. -/
theorem Numbered.make {use : Use} {slot : Nat}
    (h : Numbered created p (.allocating n slot use :: ts) es)
    (hm : made es' = ⟨slot, created⟩ :: made es) (hc : claimed ts' = claimed ts)
    (hn : p'.nextId = p.nextId)
    (hs : p'.slots.Perm p.slots ∨ p'.slots.Perm (⟨slot, created⟩ :: p.slots)) :
    Numbered (created + 1) p' ts' es' := by
  have hids : ((made es').map Slot.id ++ claimed ts').Perm
      ((made es).map Slot.id ++ claimed (.allocating n slot use :: ts)) := by
    rw [hm, hc]
    exact List.perm_middle.symm
  have hslot : slot ∉ (made es).map Slot.id :=
    fun hid => (List.nodup_append.mp h.once).2.2 slot hid slot List.mem_cons_self rfl
  have hmem : ∀ s ∈ p'.slots, s = ⟨slot, created⟩ ∨ s ∈ p.slots := by
    intro s hmem
    rcases hs with hs | hs
    · exact .inr (hs.subset hmem)
    · exact List.mem_cons.mp (hs.subset hmem)
  refine ⟨hids.nodup_iff.mpr h.once, ?_, ?_, ?_, ?_, ?_⟩
  · intro id hid
    rw [hn]
    exact h.below id (hids.subset hid)
  · rw [hm]
    refine List.nodup_cons.mpr ⟨?_, h.fresh⟩
    intro hres
    obtain ⟨s, hs, he⟩ := List.mem_map.mp hres
    exact Nat.ne_of_lt (h.past s hs) he
  · intro s hs
    rw [hm] at hs
    rcases List.mem_cons.mp hs with rfl | hs
    · exact Nat.lt_succ_self _
    · exact Nat.lt_succ_of_lt (h.past s hs)
  · intro s hslots
    rw [hm]
    rcases hmem s hslots with rfl | hslots
    · exact List.mem_cons_self
    · exact List.mem_cons_of_mem _ (h.known s hslots)
  · rcases hs with hs | hs
    · exact (hs.map Slot.id).nodup_iff.mpr h.distinct
    · refine (hs.map Slot.id).nodup_iff.mpr (List.nodup_cons.mpr ⟨?_, h.distinct⟩)
      intro hid
      obtain ⟨s, hs, he⟩ := List.mem_map.mp hid
      exact hslot (List.mem_map.mpr ⟨s, h.known s hs, he⟩)

theorem Numbered.loaned_distinct (h : Numbered created p ts es) :
    (p.loaned.map Slot.id).Nodup := by
  have := h.distinct
  rw [Pool.slots, List.map_append] at this
  exact this.of_append_right

theorem Turn.numbered (h : Turn n created p d r p' new created')
    (hn : Numbered created p (d.answered ++ ts) es) :
    Numbered created' p' (new ++ ts) (⟨d, created, r⟩ :: es) := by
  have hback := Pool.slots_takeBack hn.loaned_distinct
  cases h with
  | drained | full | foreign | drainAgain | discard =>
    exact hn.keep rfl (List.Sublist.refl _) rfl (.refl p.slots)
  | reuse hd hf =>
    refine hn.keep rfl ?_ rfl (Pool.slots_reuse hf)
    simp [Deed.answered]
  | announce => exact hn.announce rfl
  | release => exact hn.keep rfl (List.Sublist.refl _) Pool.takeBack_nextId (hback _)
  | dropGuard => exact hn.keep rfl (List.Sublist.refl _) Pool.takeBack_nextId (hback _)
  | trim => exact hn.lose rfl (by simp [Deed.answered]) rfl (p.slots_trim _)
  | drain => exact hn.lose rfl (by simp [Deed.answered]) rfl (p.slots_drain _)
  | destroyNext =>
    refine hn.keep rfl ?_ rfl (.refl p.slots)
    rw [claimed_giving]
    exact List.Sublist.refl _
  | notMade ho =>
    obtain ⟨rfl, -⟩ | ⟨rfl, -⟩ := ho
    · exact hn.keep rfl (List.sublist_cons_self _ _) rfl (.refl p.slots)
    · exact hn.keep rfl (List.sublist_cons_self _ _) rfl (.refl p.slots)
  | lend => exact hn.make rfl (claimed_handing _) rfl (.inr List.perm_middle)
  | lendLate => exact hn.make rfl rfl rfl (.inl (List.Perm.refl _))

theorem Numbered.perm (h : Numbered created p ts es) (ht : ts.Perm ts') :
    Numbered created p ts' es := by
  have hc : (claimed ts).Perm (claimed ts') := ht.filterMap _
  have hids := hc.append_left ((made es).map Slot.id)
  exact ⟨hids.nodup_iff.mp h.once, fun id hid => h.below id (hids.symm.subset hid), h.fresh,
    h.past, h.known, h.distinct⟩

theorem Course.numbered (h : Course n created p ts es) : Numbered created p ts es := by
  induction h with
  | new hp =>
    rw [Pool.of?_ok hp]
    constructor <;> simp [made, claimed, Pool.slots]
  | later _ hc ih =>
    exact ⟨ih.once, ih.below, ih.fresh, fun s hs => Nat.lt_of_lt_of_le (ih.past s hs) hc,
      ih.known, ih.distinct⟩
  | perm _ ht ih => exact ih.perm ht
  | turn _ _ ht ih => exact ht.numbered ih

end Tenancy.Yard

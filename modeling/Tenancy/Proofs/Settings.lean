import Mathlib.Data.List.DropRight
import Tenancy.Proofs.SortedMap
import Tenancy.Settings

namespace Tenancy

namespace Text

variable {separator : Char → Bool} {c : Char} {cs ds part : List Char}

theorem split_of_none (h : ∀ c ∈ cs, separator c = false) : split separator cs = [cs] := by
  induction cs with
  | nil => rfl
  | cons c cs ih =>
    obtain ⟨hc, hcs⟩ := List.forall_mem_cons.mp h
    simp [split, hc, ih hcs]

/-- A separator ends what stands before it. -/
theorem split_append_cons (hc : separator c = true) (cs ds : List Char) :
    split separator (cs ++ c :: ds) = split separator cs ++ split separator ds := by
  induction cs with
  | nil => simp [split, hc]
  | cons b cs ih =>
    cases hb : separator b with
    | true => simp [split, hb, ih]
    | false =>
      obtain ⟨part, parts, hparts⟩ := List.exists_cons_of_ne_nil (split_ne_nil separator cs)
      simp [split, hb, ih, hparts]

theorem not_separator_of_mem_split (h : part ∈ split separator cs) :
    ∀ c ∈ part, separator c = false := by
  induction cs generalizing part with
  | nil =>
    obtain rfl : part = [] := by simpa [split] using h
    simp
  | cons c cs ih =>
    cases hc : separator c with
    | true =>
      obtain rfl | h : part = [] ∨ part ∈ split separator cs := by simpa [split, hc] using h
      · simp
      · exact ih h
    | false =>
      obtain ⟨first, parts, hparts⟩ := List.exists_cons_of_ne_nil (split_ne_nil separator cs)
      rw [hparts] at ih
      obtain rfl | h : part = c :: first ∨ part ∈ parts := by simpa [split, hc, hparts] using h
      · exact List.forall_mem_cons.mpr ⟨hc, ih List.mem_cons_self⟩
      · exact ih (List.mem_cons_of_mem _ h)

theorem prefix_trimEnd (cs : List Char) : trimEnd cs <+: cs := by
  have hsuffix : cs.reverse.dropWhile isBlank <:+ cs.reverse := List.dropWhile_suffix _
  simpa [trimEnd] using List.reverse_prefix.mpr hsuffix

theorem trim_subset (cs : List Char) : trim cs ⊆ cs :=
  List.Subset.trans (prefix_trimEnd (trimStart cs)).subset (List.dropWhile_suffix isBlank).subset

/-- What has been trimmed begins with no blank. -/
theorem trimStart_trim (cs : List Char) : trimStart (trim cs) = trim cs := by
  obtain ⟨rest, hrest⟩ := prefix_trimEnd (trimStart cs)
  cases htrim : trim cs with
  | nil => rfl
  | cons c ds =>
    have hstart : trimStart cs = c :: (ds ++ rest) := by
      rw [← hrest, ← List.cons_append, ← htrim]
      rfl
    have hblank : isBlank c = false := by
      have hhead := List.head?_dropWhile_not isBlank cs
      rw [show cs.dropWhile isBlank = _ from hstart] at hhead
      simpa using hhead
    simp [trimStart, hblank]

theorem trim_trim (cs : List Char) : trim (trim cs) = trim cs := by
  rw [trim, trimStart_trim, trim, trimEnd, trimEnd, List.reverse_reverse,
    List.dropWhile_idempotent]

end Text

namespace Settings

variable {s : Settings} {key other value text host : String} {hosts : List String}

theorem get?_set_self : (s.set key value).get? key = some value := SortedMap.get?_insert_self

theorem get?_set_ne (h : other ≠ key) : (s.set key value).get? other = s.get? other :=
  SortedMap.get?_insert_ne h

/-- A name that stands between two commas as it is: it has no comma and no blank at its ends, and
something in between. -/
def IsPlain (host : String) : Prop :=
  host ≠ "" ∧ ',' ∉ host.toList ∧ Text.trim host.toList = host.toList

instance (host : String) : Decidable (IsPlain host) := inferInstanceAs (Decidable (_ ∧ _ ∧ _))

theorem readHosts_of_isPlain (h : IsPlain host) : readHosts host = [host] := by
  obtain ⟨hfull, hcomma, htrim⟩ := h
  have hsplit : Text.split (· == ',') host.toList = [host.toList] := by
    refine Text.split_of_none fun c hc => ?_
    have hne : c ≠ ',' := fun heq => hcomma (heq ▸ hc)
    simpa using hne
  simp [readHosts, hsplit, htrim, hfull]

theorem isPlain_of_mem_readHosts (h : host ∈ readHosts text) : IsPlain host := by
  obtain ⟨cs, hcs, rfl⟩ := List.mem_map.mp h
  obtain ⟨hmem, hfull⟩ := List.mem_filter.mp hcs
  obtain ⟨part, hpart, rfl⟩ := List.mem_map.mp hmem
  have hcomma := Text.not_separator_of_mem_split hpart
  refine ⟨?_, ?_, ?_⟩
  · simpa using hfull
  · rw [String.toList_ofList]
    intro hc
    have hnot := hcomma ',' (Text.trim_subset part hc)
    simp at hnot
  · rw [String.toList_ofList, Text.trim_trim]

/-- Nothing goes across from one name to another. -/
theorem readHosts_writeHosts (hosts : List String) :
    readHosts (writeHosts hosts) = hosts.flatMap readHosts := by
  induction hosts with
  | nil => rfl
  | cons host hosts ih =>
    cases hosts with
    | nil => simp [writeHosts]
    | cons next hosts =>
      have htext : (writeHosts (host :: next :: hosts)).toList =
          host.toList ++ ',' :: (writeHosts (next :: hosts)).toList := by
        simp [writeHosts, String.intercalate_cons_cons]
      rw [List.flatMap_cons, ← ih]
      simp only [readHosts, htext]
      rw [Text.split_append_cons rfl, List.map_append, List.filter_append, List.map_append]

/-- Just the plain names come back as they were. -/
theorem flatMap_readHosts_eq_iff : hosts.flatMap readHosts = hosts ↔ ∀ h ∈ hosts, IsPlain h := by
  refine ⟨fun heq host hh => ?_, fun hplain => ?_⟩
  · rw [← heq] at hh
    obtain ⟨text, -, hread⟩ := List.mem_flatMap.mp hh
    exact isPlain_of_mem_readHosts hread
  · induction hosts with
    | nil => rfl
    | cons host hosts ih =>
      obtain ⟨hhost, hhosts⟩ := List.forall_mem_cons.mp hplain
      rw [List.flatMap_cons, readHosts_of_isPlain hhost, ih hhosts]
      rfl

end Settings
end Tenancy

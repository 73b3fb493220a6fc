import Mathlib.Data.Nat.Digits.Defs
import Tenancy.Identity.Version
import Tenancy.Proofs.Settings

namespace Tenancy

namespace Text

variable {sep : Char} {cs part : List Char} {parts : List (List Char)}

/-- The first part is all there is, or it ends where a separator stands. -/
theorem split_eq_cons (h : split (· == sep) cs = part :: parts) :
    cs = part ∧ parts = [] ∨ ∃ rest, cs = part ++ sep :: rest ∧ split (· == sep) rest = parts := by
  induction cs generalizing part with
  | nil =>
    obtain ⟨rfl, rfl⟩ : [] = part ∧ [] = parts := by simpa [split] using h
    exact .inl ⟨rfl, rfl⟩
  | cons c cs ih =>
    by_cases hc : c = sep
    · subst hc
      obtain ⟨rfl, rfl⟩ : [] = part ∧ split (· == c) cs = parts := by simpa [split] using h
      exact .inr ⟨cs, rfl, rfl⟩
    · obtain ⟨first, others, hsplit⟩ := List.exists_cons_of_ne_nil (split_ne_nil (· == sep) cs)
      obtain ⟨rfl, rfl⟩ : c :: first = part ∧ others = parts := by simpa [split, hc, hsplit] using h
      rcases ih hsplit with ⟨rfl, rfl⟩ | ⟨rest, rfl, hrest⟩
      · exact .inl ⟨rfl, rfl⟩
      · exact .inr ⟨rest, rfl, hrest⟩

/-- At least one character, and only ASCII digits. -/
def Digits (cs : List Char) : Prop := cs ≠ [] ∧ ∀ c ∈ cs, '0' ≤ c ∧ c ≤ '9'

theorem isNumber_iff : isNumber cs = true ↔ Digits cs := by
  simp [isNumber, Digits, isDigit]

/-- The number that digits stand for to the base ten, the last of them for units. -/
theorem value_eq_ofDigits (cs : List Char) :
    value cs = Nat.ofDigits 10 (cs.reverse.map digitValue) := by
  rw [Nat.ofDigits_eq_foldr, List.map_reverse, List.foldr_reverse, List.foldl_map, value]
  simp only [Nat.add_comm, Nat.cast_id]

/-- Runs of digits with dots between them; `run` is the first of them. -/
inductive Dotted : List Char → List Char → Prop
  | single {run} (h : Digits run) : Dotted run run
  | more {run next rest} (h : Digits run) (hd : Dotted next rest) : Dotted run (run ++ '.' :: rest)

variable {run : List Char}

theorem Digits.split (h : Digits cs) : Text.split (· == '.') cs = [cs] := by
  apply split_of_none
  intro c hc
  have hle := (h.2 c hc).1
  have hne : c ≠ '.' := by
    rintro rfl
    exact absurd hle (by decide)
  simpa using hne

theorem Dotted.split (h : Dotted run cs) :
    ∃ parts, Text.split (· == '.') cs = run :: parts ∧ ∀ part ∈ run :: parts, Digits part := by
  induction h with
  | single h => exact ⟨[], h.split, by simpa using h⟩
  | @more run next rest h _ ih =>
    obtain ⟨parts, hparts, hall⟩ := ih
    refine ⟨next :: parts, ?_, List.forall_mem_cons.mpr ⟨h, hall⟩⟩
    rw [split_append_cons (by simp), h.split, hparts]
    rfl

theorem dotted_of_split (h : Text.split (· == '.') cs = run :: parts)
    (hd : ∀ part ∈ run :: parts, Digits part) : Dotted run cs := by
  induction parts generalizing run cs with
  | nil =>
    rcases split_eq_cons h with ⟨rfl, -⟩ | ⟨rest, -, hrest⟩
    · exact .single (hd _ List.mem_cons_self)
    · exact absurd hrest (split_ne_nil _ _)
  | cons next parts ih =>
    obtain ⟨hrun, hparts⟩ := List.forall_mem_cons.mp hd
    rcases split_eq_cons h with ⟨-, hnil⟩ | ⟨rest, rfl, hrest⟩
    · cases hnil
    · exact .more hrun (ih hrest hparts)

end Text

namespace IdentityVersion

variable {segment : String} {segments : List String} {major : Nat} {counts : Nat → Prop}
  {version : IdentityVersion}

def number : IdentityVersion → Nat
  | v2 => 2
  | v3 => 3

theorem ofNumber?_eq_some_iff : ofNumber? major = some version ↔ major = version.number := by
  constructor
  · intro h
    unfold ofNumber? at h
    split at h <;> cases h <;> rfl
  · rintro rfl
    cases version <;> rfl

/-- The segment is `v` or `V` and behind it runs of digits with dots between them, of which the
first is the number `major`. -/
def Tags (segment : String) (major : Nat) : Prop :=
  ∃ letter run rest, segment.toList = letter :: rest ∧ (letter = 'v' ∨ letter = 'V') ∧
    Text.Dotted run rest ∧ major = Nat.ofDigits 10 (run.reverse.map Text.digitValue)

/-- Of the segments with a tag whose number counts, the first has `major`. -/
def FirstTag (counts : Nat → Prop) (segments : List String) (major : Nat) : Prop :=
  ∃ before segment after, segments = before ++ segment :: after ∧ Tags segment major ∧
    counts major ∧ ∀ s ∈ before, ∀ n, Tags s n → ¬ counts n

theorem tagNumber?_letter {letter : Char} (h : letter = 'v' ∨ letter = 'V') (rest : List Char) :
    tagNumber? (letter :: rest) =
      if (Text.split (· == '.') rest).all Text.isNumber then
        (Text.split (· == '.') rest).head?.bind fun part =>
          if Text.value part < UInt32.size then some (Text.value part) else none
      else none := by
  rcases h with rfl | rfl <;> rfl

theorem exists_letter {cs : List Char} (h : tagNumber? cs = some major) :
    ∃ letter rest, cs = letter :: rest ∧ (letter = 'v' ∨ letter = 'V') := by
  unfold tagNumber? at h
  split at h
  · exact ⟨_, _, rfl, .inl rfl⟩
  · exact ⟨_, _, rfl, .inr rfl⟩
  · cases h

/-- Behind the letter a tag can be checked by splitting at the dots. -/
theorem tags_iff {letter : Char} {rest : List Char} (hsegment : segment.toList = letter :: rest)
    (hletter : letter = 'v' ∨ letter = 'V') :
    Tags segment major ↔ (Text.split (· == '.') rest).all Text.isNumber = true ∧
      (Text.split (· == '.') rest).head?.map Text.value = some major := by
  constructor
  · rintro ⟨letter', run, rest', hsegment', -, hdotted, rfl⟩
    obtain ⟨-, rfl⟩ := List.cons.inj (hsegment.symm.trans hsegment')
    obtain ⟨parts, hsplit, hdigits⟩ := hdotted.split
    rw [hsplit, ← Text.value_eq_ofDigits]
    refine ⟨List.all_eq_true.mpr ?_, rfl⟩
    intro part hpart
    exact Text.isNumber_iff.mpr (hdigits part hpart)
  · rintro ⟨hall, hhead⟩
    obtain ⟨run, parts, hsplit⟩ := List.exists_cons_of_ne_nil (Text.split_ne_nil (· == '.') rest)
    rw [hsplit] at hall hhead
    have hdigits : ∀ part ∈ run :: parts, Text.Digits part := by
      intro part hpart
      exact Text.isNumber_iff.mp (List.all_eq_true.mp hall part hpart)
    obtain rfl : Text.value run = major := Option.some.inj hhead
    exact ⟨letter, run, rest, hsegment, hletter, Text.dotted_of_split hsplit hdigits,
      Text.value_eq_ofDigits run⟩

/-- A tag is read if its leading number fits, and nothing else is read as one. -/
theorem tagNumber?_eq_some_iff :
    tagNumber? segment.toList = some major ↔ Tags segment major ∧ major < UInt32.size := by
  constructor
  · intro h
    obtain ⟨letter, rest, hsegment, hletter⟩ := exists_letter h
    rw [tags_iff hsegment hletter]
    rw [hsegment, tagNumber?_letter hletter] at h
    split at h
    · rename_i hall
      obtain ⟨part, hpart, hfits⟩ := Option.bind_eq_some_iff.mp h
      split at hfits
      · rename_i hlt
        cases hfits
        exact ⟨⟨hall, by rw [hpart]; rfl⟩, hlt⟩
      · cases hfits
    · cases h
  · rintro ⟨htags, hlt⟩
    obtain ⟨letter, run, rest, hsegment, hletter, -⟩ := id htags
    obtain ⟨hall, hhead⟩ := (tags_iff hsegment hletter).mp htags
    obtain ⟨part, hpart, rfl⟩ := Option.map_eq_some_iff.mp hhead
    rw [hsegment, tagNumber?_letter hletter, if_pos hall, hpart]
    exact if_pos hlt

theorem tagNumber?_eq_none_iff :
    tagNumber? segment.toList = none ↔ ∀ n, Tags segment n → ¬ n < UInt32.size := by
  rw [Option.eq_none_iff_forall_not_mem]
  apply forall_congr'
  intro n
  rw [Option.mem_def, tagNumber?_eq_some_iff, not_and]

theorem ofSegments?_eq_some_iff :
    ofSegments? segments = some version ↔ FirstTag (· < UInt32.size) segments version.number := by
  have hfirst (major : Nat) :
      segments.findSome? (fun segment => tagNumber? segment.toList) = some major ↔
        FirstTag (· < UInt32.size) segments major := by
    simp only [List.findSome?_eq_some_iff, tagNumber?_eq_some_iff, tagNumber?_eq_none_iff, FirstTag,
      and_assoc]
  rw [ofSegments?, Option.bind_eq_some_iff]
  constructor
  · rintro ⟨major, hmajor, hversion⟩
    rw [← ofNumber?_eq_some_iff.mp hversion]
    exact (hfirst major).mp hmajor
  · intro h
    exact ⟨version.number, (hfirst _).mpr h, ofNumber?_eq_some_iff.mpr rfl⟩

/-- A tag has one leading number. -/
theorem Tags.unique {other : Nat} (h : Tags segment major) (h' : Tags segment other) :
    major = other := by
  obtain ⟨letter, run, rest, hsegment, hletter, -⟩ := id h
  have hhead := ((tags_iff hsegment hletter).mp h).2
  have hhead' := ((tags_iff hsegment hletter).mp h').2
  exact Option.some.inj (hhead.symm.trans hhead')

theorem firstTag_cons_iff : FirstTag counts (segment :: segments) major ↔
    Tags segment major ∧ counts major ∨
      (∀ n, Tags segment n → ¬ counts n) ∧ FirstTag counts segments major := by
  constructor
  · rintro ⟨before, first, after, heq, htags, hcounts, hbefore⟩
    cases before with
    | nil =>
      obtain ⟨rfl, -⟩ := List.cons.inj heq
      exact .inl ⟨htags, hcounts⟩
    | cons s before =>
      obtain ⟨rfl, rfl⟩ := List.cons.inj heq
      obtain ⟨hs, hbefore⟩ := List.forall_mem_cons.mp hbefore
      exact .inr ⟨hs, before, first, after, rfl, htags, hcounts, hbefore⟩
  · rintro (⟨htags, hcounts⟩ | ⟨hs, before, first, after, rfl, htags, hcounts, hbefore⟩)
    · exact ⟨[], segment, segments, rfl, htags, hcounts, by simp⟩
    · exact ⟨segment :: before, first, after, rfl, htags, hcounts,
        List.forall_mem_cons.mpr ⟨hs, hbefore⟩⟩

/-- Where the first tag of all counts, it is the first that does. -/
theorem firstTag_iff (h : ∀ n, FirstTag (fun _ => True) segments n → counts n) :
    FirstTag counts segments major ↔ FirstTag (fun _ => True) segments major := by
  induction segments with
  | nil => simp [FirstTag]
  | cons segment segments ih =>
    simp only [firstTag_cons_iff, and_true, not_true_eq_false] at h ⊢
    by_cases htagged : ∃ n, Tags segment n
    · obtain ⟨n, htags⟩ := htagged
      have hn := h n (.inl htags)
      constructor
      · rintro (⟨hmajor, -⟩ | ⟨hnone, -⟩)
        · exact .inl hmajor
        · exact absurd hn (hnone n htags)
      · rintro (hmajor | ⟨hnone, -⟩)
        · exact .inl ⟨hmajor, hmajor.unique htags ▸ hn⟩
        · exact (hnone n htags).elim
    · have hnone (n : Nat) : ¬ Tags segment n := fun htags => htagged ⟨n, htags⟩
      have ih := ih fun n hn => h n (.inr ⟨hnone, hn⟩)
      simpa [hnone] using ih

/-- The first tag of a URL decides, among those whose leading number is below 2^32. Where the first
tag of all is one of these, it is the one: the version is that of its number, and a number other
than 2 and 3 is no version. -/
theorem first_tag_decides {text : String} {url : Url} (hread : Url.read? text = some url)
    (hsegments : url.segments? = some segments) (version : IdentityVersion) :
    (ofUrl? text = some version ↔ FirstTag (· < UInt32.size) segments version.number) ∧
      ((∀ n, FirstTag (fun _ => True) segments n → n < UInt32.size) →
        (ofUrl? text = some version ↔ FirstTag (fun _ => True) segments version.number)) := by
  have hdecides : ofUrl? text = some version ↔ FirstTag (· < UInt32.size) segments version.number := by
    rw [← ofSegments?_eq_some_iff, ofUrl?, hread, Option.bind_some, hsegments, Option.bind_some]
  refine ⟨hdecides, ?_⟩
  intro hfits
  rw [hdecides]
  exact firstTag_iff hfits

/-- `vault` is no tag, the zeros do not matter, and the tag for version 2 comes too late. -/
theorem first_tag_decides_zeros :
    ∃ url segments, Url.read? "a:/vault/V00000000003.0/v2" = some url ∧
      url.segments? = some segments ∧ (∀ n, FirstTag (fun _ => True) segments n → n < UInt32.size) ∧
      ofUrl? "a:/vault/V00000000003.0/v2" = some v3 ∧ FirstTag (fun _ => True) segments 3 := by
  have hpath : (Url.read? "a:/vault/V00000000003.0/v2").bind Url.segments? =
      some ["vault", "V00000000003.0", "v2"] := by decide +kernel
  obtain ⟨url, hread, hsegments⟩ := Option.bind_eq_some_iff.mp hpath
  have hfits (n : Nat) (h : FirstTag (fun _ => True) ["vault", "V00000000003.0", "v2"] n) :
      n < UInt32.size := by
    have hvault : ¬ Tags "vault" n := by
      rw [tags_iff rfl (.inl rfl)]
      exact fun htags => absurd htags.1 (by decide)
    have htag : Tags "V00000000003.0" 3 := (tags_iff rfl (.inr rfl)).mpr ⟨by decide, by decide⟩
    rcases firstTag_cons_iff.mp h with ⟨htags, -⟩ | ⟨-, h⟩
    · exact absurd htags hvault
    · rcases firstTag_cons_iff.mp h with ⟨htags, -⟩ | ⟨hnone, -⟩
      · rw [htags.unique htag]
        decide
      · exact absurd trivial (hnone 3 htag)
  have hversion : ofUrl? "a:/vault/V00000000003.0/v2" = some v3 := by decide +kernel
  exact ⟨url, _, hread, hsegments, hfits, hversion,
    ((first_tag_decides hread hsegments v3).2 hfits).mp hversion⟩

/-- A leading number of 2^32 is passed over, as if the segment were no tag, and a later tag
decides. -/
theorem huge_tag_passed_over :
    ∃ url segments, Url.read? "a:/v4294967296/v2" = some url ∧ url.segments? = some segments ∧
      FirstTag (fun _ => True) segments 4294967296 ∧
      ofUrl? "a:/v4294967296/v2" = some v2 ∧ ¬ FirstTag (fun _ => True) segments 2 := by
  have hpath : (Url.read? "a:/v4294967296/v2").bind Url.segments? =
      some ["v4294967296", "v2"] := by decide +kernel
  obtain ⟨url, hread, hsegments⟩ := Option.bind_eq_some_iff.mp hpath
  have htag : Tags "v4294967296" 4294967296 := (tags_iff rfl (.inl rfl)).mpr ⟨by decide, by decide⟩
  refine ⟨url, _, hread, hsegments, firstTag_cons_iff.mpr (.inl ⟨htag, trivial⟩),
    by decide +kernel, ?_⟩
  intro h
  rcases firstTag_cons_iff.mp h with ⟨htwo, -⟩ | ⟨hnone, -⟩
  · exact absurd (htwo.unique htag) (by decide)
  · exact hnone _ htag trivial

end IdentityVersion
end Tenancy

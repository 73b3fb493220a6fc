import Tenancy.Text.Inspect

namespace Tenancy.Text

variable {c c' : Char} {m n : Nat} {s s' : String} {x x' cs cs' : List Char}

theorem toDigits_hex (h : 16 ≤ n) :
    Nat.toDigits 16 n = Nat.toDigits 16 (n / 16) ++ [Nat.digitChar (n % 16)] :=
  Nat.toDigits_of_base_le (by decide) h

/-- No digit ends the escape that it stands in. -/
theorem ne_of_mem_toDigits_hex (h : c ∈ Nat.toDigits 16 n) : c ≠ '\x7d' := by
  have hdigits : ∀ d < 16, Nat.digitChar d ≠ '\x7d' := by decide
  induction n using Nat.strongRecOn with
  | ind n ih =>
    rcases Nat.lt_or_ge n 16 with hlt | hge
    · rw [Nat.toDigits_of_lt_base hlt, List.mem_singleton] at h
      exact h ▸ hdigits n hlt
    · rw [toDigits_hex hge, List.mem_append, List.mem_singleton] at h
      rcases h with h | rfl
      · exact ih (n / 16) (by omega) h
      · exact hdigits _ (Nat.mod_lt n (by decide))

theorem toDigits_hex_inj (h : Nat.toDigits 16 m = Nat.toDigits 16 n) : m = n := by
  have hdigits : ∀ d < 16, ∀ e < 16, Nat.digitChar d = Nat.digitChar e → d = e := by decide
  -- A number below the base has one digit, any other has more.
  have hone {k l : Nat} (hk : k < 16) (hl : 16 ≤ l) :
      Nat.toDigits 16 k ≠ Nat.toDigits 16 l := by
    rw [Nat.toDigits_of_lt_base hk, toDigits_hex hl]
    intro heq
    have hinit := (List.append_inj' (show [] ++ [Nat.digitChar k] = _ from heq) rfl).1
    exact Nat.toDigits_ne_nil hinit.symm
  induction m using Nat.strongRecOn generalizing n with
  | ind m ih =>
    rcases Nat.lt_or_ge m 16 with hm | hm <;> rcases Nat.lt_or_ge n 16 with hn | hn
    · rw [Nat.toDigits_of_lt_base hm, Nat.toDigits_of_lt_base hn] at h
      exact hdigits m hm n hn (List.cons.inj h).1
    · exact absurd h (hone hm hn)
    · exact absurd h.symm (hone hn hm)
    · rw [toDigits_hex hm, toDigits_hex hn] at h
      obtain ⟨hinit, hlast⟩ := List.append_inj' h rfl
      have hdiv := ih (m / 16) (by omega) hinit
      have hmod := hdigits _ (Nat.mod_lt m (by decide)) _ (Nat.mod_lt n (by decide))
        (List.cons.inj hlast).1
      omega

/-- The end of a number tells where its digits end. -/
theorem hex_cancel
    (h : Nat.toDigits 16 m ++ '\x7d' :: x = Nat.toDigits 16 n ++ '\x7d' :: x') : m = n ∧ x = x' := by
  have hdigits (k : Nat) : ∀ d ∈ Nat.toDigits 16 k, (d != '\x7d') = true := fun d hd =>
    bne_iff_ne.mpr (ne_of_mem_toDigits_hex hd)
  have hhead := congrArg (List.takeWhile (· != '\x7d')) h
  have htail := congrArg (List.dropWhile (· != '\x7d')) h
  rw [List.takeWhile_append_of_pos (hdigits m), List.takeWhile_append_of_pos (hdigits n)] at hhead
  rw [List.dropWhile_append_of_pos (hdigits m), List.dropWhile_append_of_pos (hdigits n)] at htail
  exact ⟨toDigits_hex_inj (by simpa using hhead), by simpa using htail⟩

/-- The characters with an escape of their own, each with the letter that stands for it. -/
def shortEscapes : List (Char × Char) :=
  [('"', '"'), ('\\', '\\'), ('\n', 'n'), ('\r', 'r'), ('\t', 't'), ('\x00', '0')]

/-- How a character is written: as itself, by a letter or by its number. -/
inductive Escape (c : Char) : List Char → Prop
  | plain (hc : c ≠ '\\') : Escape c [c]
  | letter {l : Char} (h : (c, l) ∈ shortEscapes) : Escape c ['\\', l]
  | number : Escape c ('\\' :: 'u' :: '\x7b' :: (Nat.toDigits 16 c.toNat ++ ['\x7d']))

theorem escape_escapeChar (c : Char) : Escape c (escapeChar c).toList := by
  unfold escapeChar
  split
  · exact .letter (by decide)
  · exact .letter (by decide)
  · exact .letter (by decide)
  · exact .letter (by decide)
  · exact .letter (by decide)
  · exact .letter (by decide)
  · rename_i hslash _ _ _ _
    split
    · simpa [hexText] using Escape.number (c := c)
    · simpa using Escape.plain hslash

/-- What a text begins with tells which character is written there. -/
theorem Escape.cancel (h : Escape c cs) (h' : Escape c' cs') (heq : cs ++ x = cs' ++ x') :
    c = c' ∧ x = x' := by
  have hletters : ∀ p ∈ shortEscapes, ∀ q ∈ shortEscapes, p.2 = q.2 → p.1 = q.1 := by decide
  have hnumber : ∀ p ∈ shortEscapes, p.2 ≠ 'u' := by decide
  cases h with
  | plain hc =>
    cases h' with
    | plain => exact List.cons.inj heq
    | letter | number => exact absurd (List.cons.inj heq).1 hc
  | letter hl =>
    cases h' with
    | plain hc => exact absurd (List.cons.inj heq).1.symm hc
    | letter hl' =>
      obtain ⟨hletter, hrest⟩ := List.cons.inj (List.cons.inj heq).2
      exact ⟨hletters _ hl _ hl' hletter, hrest⟩
    | number => exact absurd (List.cons.inj (List.cons.inj heq).2).1 (hnumber _ hl)
  | number =>
    cases h' with
    | plain hc => exact absurd (List.cons.inj heq).1.symm hc
    | letter hl => exact absurd (List.cons.inj (List.cons.inj heq).2).1.symm (hnumber _ hl)
    | number =>
      simp only [List.cons_append, List.append_assoc, List.nil_append, List.cons.injEq,
        true_and] at heq
      obtain ⟨hsame, hrest⟩ := hex_cancel heq
      exact ⟨Char.toNat_inj.mp hsame, hrest⟩

theorem toList_escapeChar_ne_nil (c : Char) : (escapeChar c).toList ≠ [] := by
  intro hnil
  cases hnil ▸ escape_escapeChar c

theorem flatMap_escapeChar_inj
    (h : (cs.flatMap fun c => (escapeChar c).toList) =
      cs'.flatMap fun c => (escapeChar c).toList) : cs = cs' := by
  induction cs generalizing cs' with
  | nil =>
    cases cs' with
    | nil => rfl
    | cons c cs' =>
      exact absurd (List.append_eq_nil_iff.mp h.symm).1 (toList_escapeChar_ne_nil c)
  | cons c cs ih =>
    cases cs' with
    | nil => exact absurd (List.append_eq_nil_iff.mp h).1 (toList_escapeChar_ne_nil c)
    | cons c' cs' =>
      obtain ⟨rfl, hrest⟩ := (escape_escapeChar c).cancel (escape_escapeChar c') h
      rw [ih hrest]

/-- Texts in quotes are the same only if the texts are. -/
theorem quoted_inj : quoted s = quoted s' ↔ s = s' := by
  refine ⟨fun h => ?_, congrArg quoted⟩
  have hlist (t : String) : (quoted t).toList =
      '"' :: ((t.toList.flatMap fun c => (escapeChar c).toList) ++ ['"']) := by
    simp [quoted, String.toList_join, List.flatMap_map]
  have hsame := congrArg String.toList h
  rw [hlist, hlist, List.cons.injEq, List.append_left_inj] at hsame
  exact String.toList_inj.mp (flatMap_escapeChar_inj hsame.2)

end Tenancy.Text

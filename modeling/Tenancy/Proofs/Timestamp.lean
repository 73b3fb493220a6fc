import Tenancy.Identity.Static
import Tenancy.Catalog

namespace Tenancy

namespace Text

theorem digitValue_lt {c : Char} (h : isDigit c = true) : digitValue c < 10 := by
  simp only [isDigit, Bool.and_eq_true, decide_eq_true_eq] at h
  have hmost : c.toNat ≤ '9'.toNat := h.2
  simp only [digitValue]
  change c.toNat ≤ 57 at hmost
  change c.toNat - 48 < 10
  omega

/-- Digits behind a number make it larger by less than the next one would be. -/
theorem foldl_value_lt {cs : List Char} (h : ∀ c ∈ cs, isDigit c = true) (n : Nat) :
    cs.foldl (fun n c => 10 * n + digitValue c) n < (n + 1) * Nat.pow 10 cs.length := by
  induction cs generalizing n with
  | nil => simp
  | cons c cs ih =>
    have hdigit := digitValue_lt (h c List.mem_cons_self)
    have hrest := ih (fun c hc => h c (List.mem_cons_of_mem _ hc)) (10 * n + digitValue c)
    have hle : (10 * n + digitValue c + 1) * Nat.pow 10 cs.length ≤
        (10 * (n + 1)) * Nat.pow 10 cs.length := Nat.mul_le_mul_right _ (by omega)
    have hpow : (n + 1) * Nat.pow 10 (cs.length + 1) = (10 * (n + 1)) * Nat.pow 10 cs.length := by
      change (n + 1) * (Nat.pow 10 cs.length * 10) = _
      rw [Nat.mul_comm 10, Nat.mul_assoc, Nat.mul_comm 10]
    rw [List.foldl_cons, List.length_cons, hpow]
    exact Nat.lt_of_lt_of_le hrest hle

theorem value_lt {cs : List Char} (h : ∀ c ∈ cs, isDigit c = true) :
    value cs < Nat.pow 10 cs.length := by
  have hlt := foldl_value_lt h 0
  rw [Nat.zero_add, Nat.one_mul] at hlt
  exact hlt

end Text

namespace Timestamp

/-- The limits of what can be read: years, the seconds of a day, and leap seconds. -/
structure Bounded (t : Timestamp) : Prop where
  day : inRange t.day = true
  second : t.second < 86400
  nanos : t.nanos < 2_000_000_000

theorem readFraction_lt {cs rest : List Char} {n : Nat} (h : readFraction cs = some (n, rest)) :
    n < 1_000_000_000 := by
  unfold readFraction at h
  split at h
  · rename_i rest'
    dsimp only at h
    split at h
    · cases h
    · obtain ⟨rfl, -⟩ := Prod.mk.inj (Option.some.inj h)
      have hdigits : ∀ c ∈ (rest'.takeWhile Text.isDigit).take 9, Text.isDigit c = true :=
        fun c hc => List.all_eq_true.mp List.all_takeWhile c (List.mem_of_mem_take hc)
      have hlength : ((rest'.takeWhile Text.isDigit).take 9).length ≤ 9 := List.length_take_le _ _
      generalize (rest'.takeWhile Text.isDigit).take 9 = digits at hdigits hlength ⊢
      have hvalue := Text.value_lt hdigits
      have hpos : 0 < Nat.pow 10 (9 - digits.length) := Nat.pow_pos (by decide)
      have hsplit : Nat.pow 10 digits.length * Nat.pow 10 (9 - digits.length) = 1_000_000_000 := by
        have hadd := Nat.pow_add 10 digits.length (9 - digits.length)
        rw [Nat.add_sub_cancel' hlength] at hadd
        exact hadd.symm
      rw [← hsplit]
      exact Nat.mul_lt_mul_of_pos_right hvalue hpos
  · cases h
    decide

theorem some_of_guard {α : Type} {c : Prop} [Decidable c] {x y : Option α} {a : α} (hx : x = none)
    (h : (if c then x else y) = some a) : y = some a := by
  split at h
  · cases hx.symm.trans h
  · exact h

theorem readHours_mod {cs rest : List Char} {n : Nat} (h : readHours cs = some (n, rest)) :
    n % 60 = 0 := by
  unfold readHours at h
  split at h
  · split at h
    · split at h
      · cases h
        omega
      · cases h
    · cases h
  · cases h

/-- Offsets are whole minutes. -/
theorem readOffset_emod {cs rest : List Char} {offset : Int}
    (h : readOffset cs = some (offset, rest)) : offset % 60 = 0 := by
  unfold readOffset at h
  split at h
  case h_1 | h_2 =>
    cases h
    rfl
  case h_3 | h_4 | h_5 =>
    obtain ⟨n, hn, h⟩ := Option.map_eq_some_iff.mp h
    cases h
    have hminutes := readHours_mod hn
    omega
  case h_6 =>
    split at h
    · cases h
      rfl
    · cases h
  case h_7 => cases h

theorem read?_cases {s : String} {t : Timestamp} (h : read? s = some t) :
    ∃ (hour minute second fraction : Nat) (offset : Int) (digits zone rest rest' : List Char),
      readFraction digits = some (fraction, rest) ∧ readOffset zone = some (offset, rest') ∧
      inRange t.day = true ∧
      t.second = (Int.fmod (hour * 3600 + minute * 60 + (min second 59 : Nat) - offset) 86400).toNat ∧
      t.nanos = if second = 60 then fraction + 1_000_000_000 else fraction := by
  unfold read? at h
  iterate 4 obtain ⟨_, -, h⟩ := Option.bind_eq_some_iff.mp h
  obtain ⟨⟨day, rest⟩, -, h⟩ := Option.bind_eq_some_iff.mp h
  dsimp only at h
  split at h
  case h_4 => cases h
  all_goals
    obtain ⟨_, -, h⟩ := Option.bind_eq_some_iff.mp h
    obtain ⟨hour, -, h⟩ := Option.bind_eq_some_iff.mp h
    obtain ⟨_, -, h⟩ := Option.bind_eq_some_iff.mp h
    obtain ⟨minute, -, h⟩ := Option.bind_eq_some_iff.mp h
    obtain ⟨_, -, h⟩ := Option.bind_eq_some_iff.mp h
    obtain ⟨second, -, h⟩ := Option.bind_eq_some_iff.mp h
    obtain ⟨fraction, hfraction, h⟩ := Option.bind_eq_some_iff.mp h
    obtain ⟨offset, hoffset, h⟩ := Option.bind_eq_some_iff.mp h
    replace h := some_of_guard rfl (some_of_guard rfl (some_of_guard rfl (some_of_guard rfl h)))
    split at h
    · rename_i hday
      cases h
      exact ⟨hour.1, minute.1, second.1, fraction.1, offset.1, _, _, fraction.2, offset.2,
        hfraction, hoffset, hday, rfl, rfl⟩
    · cases h

theorem read?_bounded {s : String} {t : Timestamp} (h : read? s = some t) : t.Bounded := by
  obtain ⟨hour, minute, second, fraction, offset, digits, zone, rest, rest', hfraction, -, hday,
    hsecond, hnanos⟩ := read?_cases h
  have hmod := Int.fmod_lt_of_pos (hour * 3600 + minute * 60 + (min second 59 : Nat) - offset)
    (by decide : (0 : Int) < 86400)
  have hlt := readFraction_lt hfraction
  refine ⟨hday, by omega, ?_⟩
  split at hnanos <;> omega

/-- A leap second is read as the last second of its minute, whatever the offset. -/
theorem read?_leap {s : String} {t : Timestamp} (h : read? s = some t)
    (hleap : 1_000_000_000 ≤ t.nanos) : t.second % 60 = 59 := by
  obtain ⟨hour, minute, second, fraction, offset, digits, zone, rest, rest', hfraction, hoffset, -,
    hsecond, hnanos⟩ := read?_cases h
  have hlt := readFraction_lt hfraction
  have hminutes := readOffset_emod hoffset
  rw [Int.fmod_eq_emod_of_nonneg _ (by decide)] at hsecond
  split at hnanos
  · omega
  · omega

/-- Bounded moments are less than half of what the clock can count apart. -/
theorem Bounded.since_lt {t past : Timestamp} (ht : t.Bounded) (hp : past.Bounded) :
    t.since past < (Instant.limit / 2 : Nat) := by
  have hfirst : dayOfDate firstYear 1 1 = -96465292 := by decide
  have hlast : dayOfDate lastYear 12 31 = 95026236 := by decide
  have hlimit : Instant.limit / 2 = 4611686018427387904000000000 := by decide
  obtain ⟨hday, hsecond, hnanos⟩ := ht
  obtain ⟨hpast, -, -⟩ := hp
  simp only [inRange, hfirst, hlast, Bool.and_eq_true, decide_eq_true_eq] at hday hpast
  have hleap : (if past.second < t.second && 1_000_000_000 ≤ past.nanos then (1 : Int)
      else if t.second < past.second && 1_000_000_000 ≤ t.nanos then -1 else 0) ≤ 1 := by
    split
    · exact Int.le_refl 1
    · split <;> decide
  rw [hlimit, since]
  omega

end Timestamp

/-- Some text stands for the moment. -/
def Timestamp.IsRead (t : Timestamp) : Prop := ∃ text, read? text = some t

theorem Timestamp.isRead_of_decode? {r : Record} {name : String} {t : Timestamp}
    (h : r.required? name Timestamp.decode? = some t) : t.IsRead := by
  obtain ⟨j, -, h⟩ := Option.bind_eq_some_iff.mp h
  obtain ⟨text, -, h⟩ := Option.bind_eq_some_iff.mp h
  exact ⟨text, h⟩

theorem Token.isRead_of_decode? {j : Json} {t : Token} (h : Token.decode? j = some t) :
    t.issuedAt.IsRead ∧ t.expiresAt.IsRead := by
  simp only [Token.decode?, Option.bind_eq_bind, Option.bind_eq_some_iff] at h
  obtain ⟨r, -, id, -, issuedAt, hissued, expiresAt, hexpires, ht⟩ := h
  cases ht
  exact ⟨Timestamp.isRead_of_decode? hissued, Timestamp.isRead_of_decode? hexpires⟩

theorem Grant.isRead_of_decode? {j : Json} {g : Grant} (h : Grant.decode? j = some g) :
    g.token.issuedAt.IsRead ∧ g.token.expiresAt.IsRead := by
  simp only [Grant.decode?, Option.bind_eq_bind, Option.bind_eq_some_iff] at h
  obtain ⟨r, -, token, htoken, project, -, catalog, -, hg⟩ := h
  cases hg
  obtain ⟨part, -, htoken⟩ := Option.bind_eq_some_iff.mp htoken
  exact Token.isRead_of_decode? htoken

theorem StaticIdentity.isRead_of_read? {document : String} {identity : StaticIdentity}
    (h : read? document = some identity) :
    identity.grant.token.issuedAt.IsRead ∧ identity.grant.token.expiresAt.IsRead := by
  obtain ⟨g, hg, rfl⟩ := Option.map_eq_some_iff.mp h
  obtain ⟨j, -, hg⟩ := Option.bind_eq_some_iff.mp hg
  exact Grant.isRead_of_decode? hg

/-- The lifetime that a document names is less than half of what the clock can count. -/
theorem StaticIdentity.lifetime_lt {document : String} {identity : StaticIdentity} {length : Nat}
    (h : read? document = some identity)
    (hl : Snapshot.lifetime identity.grant.token = .ok length) : length < Instant.limit / 2 := by
  obtain ⟨⟨_, hissued⟩, _, hexpires⟩ := isRead_of_read? h
  have hlt := (Timestamp.read?_bounded hexpires).since_lt (Timestamp.read?_bounded hissued)
  simp only [Snapshot.lifetime] at hl
  split at hl
  · cases hl
  · obtain rfl := Except.ok.inj hl
    omega

/-- While the clock is not half way to its limit, the tokens of documents do not go beyond it. -/
theorem StaticIdentity.expires_lt {document : String} {identity : StaticIdentity} {now : Instant}
    {length : Nat} (h : read? document = some identity)
    (hl : Snapshot.lifetime identity.grant.token = .ok length) (hnow : now < Instant.limit / 2) :
    now + length < Instant.limit := by
  have hhalves : Instant.limit / 2 + Instant.limit / 2 ≤ Instant.limit := by decide
  exact Nat.lt_of_lt_of_le (Nat.add_lt_add hnow (lifetime_lt h hl)) hhalves

end Tenancy

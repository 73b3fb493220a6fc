import Tenancy.Json.Printer
import Tenancy.Json.Reader
import Tenancy.Proofs.Decimal

namespace Tenancy.Json

open Text

variable {c : Char} {cs rest : List Char} {units : List Nat} {j : Json} {items : List Json}
  {members : List (String × Json)} {fuel : Nat}

/-- Four digits stand for the control character. -/
theorem unit?_control : ∀ n < 0x20,
    unit? '0' '0' (hexDigit (n / 16)) (hexDigit (n % 16)) = some n := by
  decide

/-- A character is no surrogate and joins with nothing. -/
theorem joinUnits_cons (c : Char) (units : List Nat) :
    joinUnits (c.toNat :: units) = (joinUnits units).map (c :: ·) := by
  have hvalid : c.toNat < 0xD800 ∨ 0xDFFF < c.toNat := c.valid.imp_right And.left
  have hsurrogate : ¬ (0xD800 ≤ c.toNat ∧ c.toNat < 0xE000) := by omega
  cases units with
  | nil => simp [joinUnits, hsurrogate]
  | cons v units =>
    have hhigh : ¬ (0xD800 ≤ c.toNat ∧ c.toNat < 0xDC00) := by omega
    have hlow : ¬ (0xDC00 ≤ c.toNat ∧ c.toNat < 0xE000) := by omega
    simp [joinUnits, hhigh, hlow]

theorem joinUnits_map (cs : List Char) : joinUnits (cs.map Char.toNat) = some cs := by
  induction cs with
  | nil => rfl
  | cons c cs ih => rw [List.map_cons, joinUnits_cons, ih, Option.map_some]

theorem readUnits_cons (hquote : c ≠ '"') (hslash : c ≠ '\\') (h : ¬ c.toNat < 0x20) :
    readUnits (c :: rest) = (readUnits rest).map (Prod.map (c.toNat :: ·) id) := by
  rw [readUnits]
  · rw [if_neg (by simp [h, hslash])]
    cases readUnits rest <;> rfl
  · exact hquote
  · rintro _ _ _ _ _ rfl
    exact absurd rfl hslash
  · rintro _ _ rfl
    exact absurd rfl hslash

/-- However a character is written, it is one unit. -/
theorem readUnits_escape (c : Char) (rest : List Char) :
    readUnits (escape c ++ rest) = (readUnits rest).map (Prod.map (c.toNat :: ·) id) := by
  unfold escape
  split
  case h_8 hquote hslash _ _ _ _ _ =>
    split
    · rename_i hcontrol
      change (unit? '0' '0' _ _).bind _ = _
      rw [unit?_control c.toNat hcontrol, Option.bind_some]
      change (readUnits rest).bind _ = _
      cases readUnits rest <;> rfl
    · rename_i hplain
      exact readUnits_cons hquote hslash hplain
  all_goals
    change ((readUnits rest).bind _) = _
    cases readUnits rest <;> rfl

theorem readUnits_quoted (cs rest : List Char) :
    readUnits (cs.flatMap escape ++ '"' :: rest) = some (cs.map Char.toNat, rest) := by
  induction cs with
  | nil => rfl
  | cons c cs ih => rw [List.flatMap_cons, List.append_assoc, readUnits_escape, ih]; rfl

theorem readText_quoted (s : String) (rest : List Char) :
    readText (s.toList.flatMap escape ++ '"' :: rest) = some (some s, rest) := by
  simp [readText, readUnits_quoted, joinUnits_map]

/-- The text goes on with what cannot be part of a number. -/
structure EndsNumber (cs : List Char) : Prop where
  digit : NoDigit cs
  point : cs.head? ≠ some '.'
  lower : cs.head? ≠ some 'e'
  upper : cs.head? ≠ some 'E'

/-- Digits are read up to where the number ends. -/
theorem EndsNumber.readNumber (h : EndsNumber rest) (negative : Bool)
    (hfront : (cs.takeWhile isDigit).isEmpty = false)
    (hzero : (cs.takeWhile isDigit).head? = some '0' → (cs.takeWhile isDigit).length ≤ 1)
    (hrest : cs.dropWhile isDigit = rest) : readNumber ((if negative then ['-'] else []) ++ cs) =
      some (wholeNumber negative (value (cs.takeWhile isDigit)), rest) := by
  have hminus : ∀ more, cs ≠ '-' :: more := by
    rintro more rfl
    cases hfront
  have hleading : ((cs.takeWhile isDigit).head? == some '0' &&
      decide (1 < (cs.takeWhile isDigit).length)) = false := by
    simpa using hzero
  cases rest with
  | nil =>
    cases negative with
    | false => simp [Json.readNumber, hfront, hleading, hrest]
    | true => simp [Json.readNumber, hfront, hleading, hrest]
  | cons c rest =>
    have hpoint : c ≠ '.' := fun hc => h.point (congrArg some hc)
    have hlower : c ≠ 'e' := fun hc => h.lower (congrArg some hc)
    have hupper : c ≠ 'E' := fun hc => h.upper (congrArg some hc)
    cases negative with
    | false => simp [Json.readNumber, hfront, hleading, hrest, hpoint, hlower, hupper]
    | true => simp [Json.readNumber, hfront, hleading, hrest, hpoint, hlower, hupper]

theorem readNumber_toDigits (negative : Bool) (n : Nat) (h : EndsNumber rest) :
    readNumber ((if negative then ['-'] else []) ++ (Nat.toDigits 10 n ++ rest)) =
      some (wholeNumber negative n, rest) := by
  have hdigits : ∀ c ∈ Nat.toDigits 10 n, isDigit c = true := fun c => isDigit_of_mem_toDigits
  have htake := takeWhile_isDigit hdigits h.digit
  have hzero : (Nat.toDigits 10 n).head? = some '0' → (Nat.toDigits 10 n).length ≤ 1 := by
    intro hhead
    by_cases hn : n = 0
    · rw [hn]
      decide
    · exact absurd hhead (head?_toDigits hn)
  have hempty : (Nat.toDigits 10 n).isEmpty = false :=
    List.isEmpty_eq_false_iff.mpr Nat.toDigits_ne_nil
  rw [← htake] at hempty hzero
  rw [h.readNumber negative hempty hzero (dropWhile_isDigit hdigits h.digit), htake, value_toDigits]

/-- Whole numbers that have a value of 64 bits, with or without a sign. -/
def IsWord (n : Int) : Prop := -(1 <<< 63 : Nat) ≤ n ∧ n < UInt64.size

theorem toList_toString (n : Int) : (toString n).toList =
    (if decide (n < 0) then ['-'] else []) ++ Nat.toDigits 10 n.natAbs := by
  cases n with
  | ofNat n =>
    change (Nat.repr n).toList = _
    rw [Nat.toList_repr]
    rfl
  | negSucc n =>
    change ("-" ++ Nat.repr (n + 1)).toList = _
    have hnegative : decide (Int.negSucc n < 0) = true := decide_eq_true (Int.negSucc_lt_zero n)
    rw [String.toList_append, Nat.toList_repr, hnegative]
    rfl

theorem exists_toString_eq_cons (n : Int) :
    ∃ c cs, (toString n).toList = c :: cs ∧ (c = '-' ∨ isDigit c = true) := by
  rw [toList_toString]
  cases decide (n < 0) with
  | true => exact ⟨'-', _, rfl, .inl rfl⟩
  | false =>
    obtain ⟨c, cs, hcons⟩ := List.exists_cons_of_ne_nil (@Nat.toDigits_ne_nil n.natAbs 10)
    exact ⟨c, cs, hcons, .inr (isDigit_of_mem_toDigits (hcons ▸ List.mem_cons_self))⟩

theorem IsWord.readNumber {n : Int} (hn : IsWord n) (h : EndsNumber rest) :
    readNumber ((toString n).toList ++ rest) = some (.int n, rest) := by
  obtain ⟨hmin, hmax⟩ := hn
  rw [toList_toString, List.append_assoc, readNumber_toDigits _ _ h, wholeNumber]
  cases hsign : decide (n < 0) with
  | false =>
    have hnonneg := of_decide_eq_false hsign
    have hvalue : (n.natAbs : Int) = n := by omega
    have hlt : n.natAbs < UInt64.size := by omega
    rw [if_neg Bool.false_ne_true, if_pos hlt, hvalue]
  | true =>
    have hnegative := of_decide_eq_true hsign
    have hvalue : -(n.natAbs : Int) = n := by omega
    have hpos : 0 < n.natAbs := by omega
    have hle : n.natAbs ≤ 1 <<< 63 := by omega
    rw [if_pos rfl, if_pos (Bool.and_eq_true_iff.mpr ⟨decide_eq_true hpos, decide_eq_true hle⟩),
      hvalue]

theorem isGap_of_isDigit (h : isDigit c = true) : isGap c = false := by
  cases hgap : isGap c with
  | false => rfl
  | true =>
    simp only [isGap, Bool.or_eq_true, beq_iff_eq] at hgap
    rcases hgap with ((rfl | rfl) | rfl) | rfl <;> cases h

/-- Made of what has a value and is no fraction. -/
inductive Plain : Json → Prop
  | null : Plain .null
  | bool (b : Bool) : Plain (.bool b)
  | int {n : Int} (h : IsWord n) : Plain (.int n)
  | str (s : String) : Plain (.str s)
  | arr {items : List Json} (h : ∀ item ∈ items, Plain item) : Plain (.arr items)
  | obj {members : List (String × Json)} (h : ∀ member ∈ members, Plain member.2) :
      Plain (.obj members)

theorem plain_text (s : Option String) : Plain (.text s) := by
  cases s with
  | none => exact .null
  | some s => exact .str s

theorem plain_nat {n : Nat} (h : n < UInt64.size) : Plain (.nat n) :=
  .int ⟨by omega, Int.ofNat_lt.mpr h⟩

theorem toList_quote (s : String) :
    (quote s).toList = '"' :: (s.toList.flatMap escape ++ ['"']) := by
  simp [quote]

/-- The items as they stand between the brackets. -/
def itemsText (items : List Json) : List Char := (",".intercalate (compactItems items)).toList

/-- The members as they stand between the braces. -/
def membersText (members : List (String × Json)) : List Char :=
  (",".intercalate (compactMembers members)).toList

theorem toList_arr (items : List Json) :
    (arr items).compact.toList = '[' :: (itemsText items ++ [']']) := by
  rw [compact, String.toList_append, String.toList_append]
  rfl

theorem toList_obj (members : List (String × Json)) :
    (obj members).compact.toList = '\x7b' :: (membersText members ++ ['\x7d']) := by
  rw [compact, String.toList_append, String.toList_append]
  rfl

theorem itemsText_singleton (item : Json) : itemsText [item] = item.compact.toList := by
  rw [itemsText, compactItems, compactItems, String.intercalate_singleton]

theorem itemsText_cons_cons (item next : Json) (items : List Json) :
    itemsText (item :: next :: items) = item.compact.toList ++ ',' :: itemsText (next :: items) := by
  rw [itemsText, itemsText, compactItems, compactItems, String.intercalate_cons_cons,
    String.toList_append, String.toList_append, List.append_assoc]
  rfl

theorem membersText_singleton (name : String) (value : Json) : membersText [(name, value)] =
    '"' :: (name.toList.flatMap escape ++ '"' :: ':' :: value.compact.toList) := by
  simp [membersText, compactMembers, toList_quote]

theorem membersText_cons_cons (name : String) (value : Json) (next : String × Json)
    (members : List (String × Json)) : membersText ((name, value) :: next :: members) =
      '"' :: (name.toList.flatMap escape ++ '"' :: ':' ::
        (value.compact.toList ++ ',' :: membersText (next :: members))) := by
  obtain ⟨name', value'⟩ := next
  simp [membersText, compactMembers, String.intercalate_cons_cons, toList_quote]

/-- A value begins neither with a blank nor with the end of a list. -/
theorem Plain.exists_eq_cons (h : Plain j) :
    ∃ c cs, j.compact.toList = c :: cs ∧ isGap c = false ∧ c ≠ ']' := by
  cases h with
  | null => exact ⟨'n', _, rfl, rfl, by decide⟩
  | bool b => cases b with
    | false => exact ⟨'f', _, rfl, rfl, by decide⟩
    | true => exact ⟨'t', _, rfl, rfl, by decide⟩
  | @int n h =>
    obtain ⟨c, cs, hcons, rfl | hdigit⟩ := exists_toString_eq_cons n
    · exact ⟨'-', cs, hcons, rfl, by decide⟩
    · refine ⟨c, cs, hcons, isGap_of_isDigit hdigit, ?_⟩
      rintro rfl
      cases hdigit
  | str s => exact ⟨'"', _, toList_quote s, rfl, by decide⟩
  | @arr items h => exact ⟨'[', _, toList_arr items, rfl, by decide⟩
  | @obj members h => exact ⟨'\x7b', _, toList_obj members, rfl, by decide⟩

theorem endsNumber_cons (h : isDigit c = false) (hpoint : c ≠ '.') (hlower : c ≠ 'e')
    (hupper : c ≠ 'E') : EndsNumber (c :: rest) :=
  ⟨noDigit_cons h, fun hc => hpoint (Option.some.inj hc), fun hc => hlower (Option.some.inj hc),
    fun hc => hupper (Option.some.inj hc)⟩

theorem skipGap_cons (h : isGap c = false) : skipGap (c :: cs) = c :: cs := by
  simp [skipGap, h]

/-- So much fuel is enough for texts of less than that length. -/
structure ReadsBack (fuel : Nat) : Prop where
  value : ∀ j rest, Plain j → EndsNumber rest → j.compact.toList.length < fuel →
    readValue fuel (j.compact.toList ++ rest) = some (j, rest)
  items : ∀ item items rest, (∀ i ∈ item :: items, Plain i) →
    (itemsText (item :: items)).length + 1 < fuel →
    readItems fuel (itemsText (item :: items) ++ ']' :: rest) = some (item :: items, rest)
  members : ∀ member members rest, (∀ m ∈ member :: members, Plain (Prod.snd m)) →
    (membersText (member :: members)).length + 1 < fuel →
    readMembers fuel (membersText (member :: members) ++ '\x7d' :: rest) =
      some (some (member :: members), rest)

theorem ReadsBack.items_succ (h : ReadsBack fuel) {item : Json}
    (hplain : ∀ i ∈ item :: items, Plain i)
    (hlength : (itemsText (item :: items)).length + 1 < fuel + 1) :
    readItems (fuel + 1) (itemsText (item :: items) ++ ']' :: rest) =
      some (item :: items, rest) := by
  obtain ⟨hitem, hitems⟩ := List.forall_mem_cons.mp hplain
  cases items with
  | nil =>
    rw [itemsText_singleton] at hlength ⊢
    have hends : EndsNumber (']' :: rest) :=
      endsNumber_cons rfl (by decide) (by decide) (by decide)
    rw [readItems, h.value item _ hitem hends (by omega), Option.bind_eq_bind, Option.bind_some]
    rfl
  | cons next items =>
    rw [itemsText_cons_cons, List.length_append, List.length_cons] at hlength
    have hends : EndsNumber (',' :: (itemsText (next :: items) ++ ']' :: rest)) :=
      endsNumber_cons rfl (by decide) (by decide) (by decide)
    rw [itemsText_cons_cons, List.append_assoc, List.cons_append, readItems,
      h.value item _ hitem hends (by omega), Option.bind_eq_bind, Option.bind_some]
    change (readItems fuel _).bind _ = _
    rw [h.items next items rest hitems (by omega)]
    rfl

theorem ReadsBack.members_succ (h : ReadsBack fuel) {member : String × Json}
    (hplain : ∀ m ∈ member :: members, Plain (Prod.snd m))
    (hlength : (membersText (member :: members)).length + 1 < fuel + 1) :
    readMembers (fuel + 1) (membersText (member :: members) ++ '\x7d' :: rest) =
      some (some (member :: members), rest) := by
  obtain ⟨hmember, hmembers⟩ := List.forall_mem_cons.mp hplain
  obtain ⟨name, value⟩ := member
  cases members with
  | nil =>
    rw [membersText_singleton, List.length_cons, List.length_append, List.length_cons,
      List.length_cons] at hlength
    have hends : EndsNumber ('\x7d' :: rest) :=
      endsNumber_cons rfl (by decide) (by decide) (by decide)
    rw [membersText_singleton, List.cons_append, List.append_assoc, List.cons_append,
      List.cons_append, readMembers]
    change (readText _).bind _ = _
    rw [readText_quoted, Option.bind_some]
    change (readValue fuel _).bind _ = _
    rw [h.value value _ hmember hends (by omega)]
    rfl
  | cons next members =>
    rw [membersText_cons_cons, List.length_cons, List.length_append, List.length_cons,
      List.length_cons, List.length_append, List.length_cons] at hlength
    have hends : EndsNumber (',' :: (membersText (next :: members) ++ '\x7d' :: rest)) :=
      endsNumber_cons rfl (by decide) (by decide) (by decide)
    rw [membersText_cons_cons, List.cons_append, List.append_assoc, List.cons_append,
      List.cons_append, List.append_assoc, List.cons_append, readMembers]
    change (readText _).bind _ = _
    rw [readText_quoted, Option.bind_some]
    change (readValue fuel _).bind _ = _
    rw [h.value value _ hmember hends (by omega), Option.bind_some]
    change (readMembers fuel _).bind _ = _
    rw [h.members next members rest hmembers (by omega)]
    rfl

/-- What begins with a sign or a digit is read as a number. -/
theorem readValue_of_number (hgap : isGap c = false) (hnumber : c = '-' ∨ isDigit c = true) :
    readValue (fuel + 1) (c :: cs) = readNumber (c :: cs) := by
  rw [readValue, skipGap_cons hgap]
  split
  case h_7 => rfl
  all_goals
    rename_i hletter
    cases hletter
    rcases hnumber with hminus | hdigit
    · cases hminus
    · cases hdigit

theorem IsWord.readValue {n : Int} (hn : IsWord n) (h : EndsNumber rest) :
    readValue (fuel + 1) ((toString n).toList ++ rest) = some (.int n, rest) := by
  obtain ⟨c, cs, hcons, hhead⟩ := exists_toString_eq_cons n
  have hnumber := hn.readNumber h
  have hgap : isGap c = false := by
    rcases hhead with rfl | hdigit
    · rfl
    · exact isGap_of_isDigit hdigit
  rw [hcons, List.cons_append] at hnumber ⊢
  rw [readValue_of_number hgap hhead, hnumber]

theorem exists_itemsText_eq_cons {item : Json} (h : Plain item) (items : List Json) :
    ∃ c cs, itemsText (item :: items) = c :: cs ∧ isGap c = false ∧ c ≠ ']' := by
  obtain ⟨c, cs, hcons, hhead⟩ := h.exists_eq_cons
  cases items with
  | nil => exact ⟨c, cs, by rw [itemsText_singleton, hcons], hhead⟩
  | cons next items =>
    exact ⟨c, _, by rw [itemsText_cons_cons, hcons, List.cons_append], hhead⟩

theorem exists_membersText_eq_cons (member : String × Json) (members : List (String × Json)) :
    ∃ cs, membersText (member :: members) = '"' :: cs := by
  obtain ⟨name, value⟩ := member
  cases members with
  | nil => exact ⟨_, membersText_singleton name value⟩
  | cons next members => exact ⟨_, membersText_cons_cons name value next members⟩

theorem ReadsBack.value_succ (h : ReadsBack fuel) (hj : Plain j) (hends : EndsNumber rest)
    (hlength : j.compact.toList.length < fuel + 1) :
    readValue (fuel + 1) (j.compact.toList ++ rest) = some (j, rest) := by
  cases hj with
  | null => rfl
  | bool b => cases b <;> rfl
  | @int n hn => exact hn.readValue hends
  | str s =>
    rw [compact, toList_quote, List.cons_append, List.append_assoc, List.cons_append]
    change (readText _).map _ = _
    rw [readText_quoted]
    rfl
  | @arr items hitems =>
    rw [toList_arr, List.length_cons, List.length_append, List.length_singleton] at hlength
    rw [toList_arr, List.cons_append, List.append_assoc, List.singleton_append]
    cases items with
    | nil => rfl
    | cons item items =>
      have hread := h.items item items rest hitems (by omega)
      obtain ⟨c, cs, hcons, hgap, hbracket⟩ :=
        exists_itemsText_eq_cons (hitems item List.mem_cons_self) items
      rw [hcons, List.cons_append] at hread ⊢
      rw [readValue, skipGap_cons rfl]
      simp only [skipGap_cons hgap]
      split
      · rename_i hend
        cases hend
        exact absurd rfl hbracket
      · rw [hread]
        rfl
  | @obj members hmembers =>
    rw [toList_obj, List.length_cons, List.length_append, List.length_singleton] at hlength
    rw [toList_obj, List.cons_append, List.append_assoc, List.singleton_append]
    cases members with
    | nil => rfl
    | cons member members =>
      have hread := h.members member members rest hmembers (by omega)
      obtain ⟨cs, hcons⟩ := exists_membersText_eq_cons member members
      rw [hcons, List.cons_append] at hread ⊢
      change (readMembers fuel _).map _ = _
      rw [hread]
      rfl

theorem readsBack (fuel : Nat) : ReadsBack fuel := by
  induction fuel with
  | zero =>
    exact ⟨fun _ _ _ _ h => absurd h (Nat.not_lt_zero _),
      fun _ _ _ _ h => absurd h (Nat.not_lt_zero _), fun _ _ _ _ h => absurd h (Nat.not_lt_zero _)⟩
  | succ fuel ih =>
    exact ⟨fun _ _ => ih.value_succ, fun _ _ _ => ih.items_succ, fun _ _ _ => ih.members_succ⟩

theorem endsNumber_nil : EndsNumber [] where
  digit := fun c hc => by cases hc
  point := by decide
  lower := by decide
  upper := by decide

/-- The text of a value on one line holds that value. -/
theorem read?_compact (h : Plain j) : read? j.compact = some j := by
  have hread := (readsBack _).value j [] h endsNumber_nil (Nat.lt_succ_self _)
  rw [List.append_nil] at hread
  simp only [read?, hread]
  rfl

end Tenancy.Json

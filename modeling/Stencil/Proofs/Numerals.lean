import Mathlib.Computability.Language
import Mathlib.Data.Nat.Digits.Lemmas
import Stencil.Numeral.Spelling

/-!
# The grammar of numerals

    integers := -? D+
    numbers  := -? (D+ .? D* | . D+) ([eE] [+-]? D+)?

The grammar is given as languages, with a digit `D` of any script. The reader of numerals goes through
a text once and never back; it reads just the numbers (`Spelling.read?_of_mem_numbers`,
`Spelling.mem_numbers_of_read?`), and takes just the integers among them for integers. What makes
going back needless is that none of the characters that may follow some digits is a digit.
-/

namespace Stencil.Numeral

open Text
open scoped Computability

/-! ## The grammar -/

/-- `D`: one decimal digit, of any script. -/
def oneDigit : Language Char :=
  {cs | ∃ c, isDecimalDigit c ∧ cs = [c]}

/-- `D+` -/
def digitRun : Language Char :=
  oneDigit * oneDigit∗

/-- `l?` -/
def optional (l : Language Char) : Language Char :=
  1 + l

/-- `-? D+` -/
def integers : Language Char :=
  optional {['-']} * digitRun

/-- `D+ .? D* | . D+` -/
def mantissas : Language Char :=
  digitRun * optional {['.']} * oneDigit∗ + {['.']} * digitRun

/-- `[eE] [+-]? D+` -/
def exponents : Language Char :=
  ({['e']} + {['E']}) * optional ({['+']} + {['-']}) * digitRun

/-- `-? (D+ .? D* | . D+) ([eE] [+-]? D+)?` -/
def numbers : Language Char :=
  optional {['-']} * mantissas * optional exponents

/-- All characters are digits. -/
def AllDigits (cs : List Char) : Prop :=
  ∀ c ∈ cs, isDecimalDigit c

theorem mem_optional {l : Language Char} {cs : List Char} :
    cs ∈ optional l ↔ cs = [] ∨ cs ∈ l :=
  Iff.rfl

theorem mem_kstar_oneDigit {cs : List Char} : cs ∈ oneDigit∗ ↔ AllDigits cs := by
  rw [Language.mem_kstar]
  constructor
  · rintro ⟨groups, rfl, hgroups⟩ c hc
    obtain ⟨group, hgroup, hc⟩ := List.mem_flatten.mp hc
    obtain ⟨d, hd, rfl⟩ := hgroups group hgroup
    rwa [List.mem_singleton.mp hc]
  · intro h
    refine ⟨cs.map ([·]), (List.flatMap_singleton' cs).symm, ?_⟩
    rw [List.forall_mem_map]
    exact fun c hc => ⟨c, h c hc, rfl⟩

theorem mem_digitRun {cs : List Char} : cs ∈ digitRun ↔ cs ≠ [] ∧ AllDigits cs := by
  unfold digitRun
  rw [Language.mem_mul]
  constructor
  · rintro ⟨_, ⟨c, hc, rfl⟩, rest, hrest, rfl⟩
    rw [mem_kstar_oneDigit] at hrest
    exact ⟨List.cons_ne_nil _ _, List.forall_mem_cons.mpr ⟨hc, hrest⟩⟩
  · rintro ⟨hne, h⟩
    obtain ⟨c, rest, rfl⟩ := List.exists_cons_of_ne_nil hne
    obtain ⟨hc, hrest⟩ := List.forall_mem_cons.mp h
    exact ⟨[c], ⟨c, hc, rfl⟩, rest, mem_kstar_oneDigit.mpr hrest, rfl⟩

theorem mem_integers {cs : List Char} :
    cs ∈ integers ↔ ∃ sign ds, (sign = [] ∨ sign = ['-']) ∧ ds ≠ [] ∧ AllDigits ds
      ∧ sign ++ ds = cs := by
  unfold integers
  rw [Language.mem_mul]
  constructor
  · rintro ⟨sign, hsign, ds, hds, rfl⟩
    rw [mem_digitRun] at hds
    exact ⟨sign, ds, hsign, hds.1, hds.2, rfl⟩
  · rintro ⟨sign, ds, hsign, hne, hds, rfl⟩
    exact ⟨sign, hsign, ds, mem_digitRun.mpr ⟨hne, hds⟩, rfl⟩

/-- A mantissa is a run of digits, or digits with a point among them. -/
theorem mem_mantissas {cs : List Char} :
    cs ∈ mantissas ↔ (cs ≠ [] ∧ AllDigits cs)
      ∨ ∃ whole fraction, AllDigits whole ∧ AllDigits fraction ∧ whole ++ fraction ≠ []
          ∧ whole ++ '.' :: fraction = cs := by
  unfold mantissas
  rw [Language.mem_add, Language.mem_mul, Language.mem_mul]
  constructor
  · rintro (⟨_, hfront, fraction, hfraction, rfl⟩ | ⟨_, rfl, fraction, hfraction, rfl⟩)
    · rw [Language.mem_mul] at hfront
      obtain ⟨whole, hwhole, point, hpoint, rfl⟩ := hfront
      rw [mem_digitRun] at hwhole
      rw [mem_kstar_oneDigit] at hfraction
      rcases mem_optional.mp hpoint with rfl | rfl
      · refine .inl ⟨by simp [hwhole.1], ?_⟩
        rw [List.append_nil]
        exact List.forall_mem_append.mpr ⟨hwhole.2, hfraction⟩
      · exact .inr ⟨whole, fraction, hwhole.2, hfraction, by simp [hwhole.1], by simp⟩
    · rw [mem_digitRun] at hfraction
      exact .inr ⟨[], fraction, nofun, hfraction.2, hfraction.1, rfl⟩
  · rintro (⟨hne, h⟩ | ⟨whole, fraction, hwhole, hfraction, hne, rfl⟩)
    · refine .inl ⟨cs, ?_, [], Language.nil_mem_kstar _, List.append_nil cs⟩
      exact Language.mem_mul.mpr
        ⟨cs, mem_digitRun.mpr ⟨hne, h⟩, [], mem_optional.mpr (.inl rfl), List.append_nil cs⟩
    · cases whole with
      | nil => exact .inr ⟨['.'], rfl, fraction, mem_digitRun.mpr ⟨hne, hfraction⟩, rfl⟩
      | cons c whole =>
          refine .inl ⟨c :: whole ++ ['.'], ?_, fraction, mem_kstar_oneDigit.mpr hfraction,
            by simp⟩
          exact Language.append_mem_mul (mem_digitRun.mpr ⟨List.cons_ne_nil _ _, hwhole⟩)
            (mem_optional.mpr (.inr rfl))

theorem mem_exponents {cs : List Char} :
    cs ∈ exponents ↔ ∃ marker sign ds, (marker = 'e' ∨ marker = 'E')
      ∧ (sign = [] ∨ sign = ['+'] ∨ sign = ['-']) ∧ ds ≠ [] ∧ AllDigits ds
      ∧ marker :: (sign ++ ds) = cs := by
  unfold exponents
  rw [Language.mem_mul]
  constructor
  · rintro ⟨_, hfront, ds, hds, rfl⟩
    rw [Language.mem_mul] at hfront
    obtain ⟨_, hmarker, sign, hsign, rfl⟩ := hfront
    rw [mem_digitRun] at hds
    rcases hmarker with rfl | rfl
    · exact ⟨'e', sign, ds, .inl rfl, hsign, hds.1, hds.2, rfl⟩
    · exact ⟨'E', sign, ds, .inr rfl, hsign, hds.1, hds.2, rfl⟩
  · rintro ⟨marker, sign, ds, hmarker, hsign, hne, hds, rfl⟩
    refine ⟨[marker] ++ sign, ?_, ds, mem_digitRun.mpr ⟨hne, hds⟩, by simp⟩
    refine Language.append_mem_mul ?_ hsign
    rcases hmarker with rfl | rfl
    · exact .inl rfl
    · exact .inr rfl

theorem mem_numbers {cs : List Char} :
    cs ∈ numbers ↔ ∃ sign mantissa exponent, (sign = [] ∨ sign = ['-']) ∧ mantissa ∈ mantissas
      ∧ exponent ∈ optional exponents ∧ sign ++ (mantissa ++ exponent) = cs := by
  unfold numbers
  rw [mul_assoc, Language.mem_mul]
  constructor
  · rintro ⟨sign, hsign, _, hbody, rfl⟩
    obtain ⟨mantissa, hmantissa, exponent, hexponent, rfl⟩ := Language.mem_mul.mp hbody
    exact ⟨sign, mantissa, exponent, hsign, hmantissa, hexponent, rfl⟩
  · rintro ⟨sign, mantissa, exponent, hsign, hmantissa, hexponent, rfl⟩
    exact ⟨sign, hsign, _, Language.append_mem_mul hmantissa hexponent, rfl⟩

/-- No numeral starts with anything but a sign, a point or a digit. -/
theorem head?_of_mem_numbers {cs : List Char} (h : cs ∈ numbers) :
    ∃ c ∈ cs.head?, c = '-' ∨ c = '.' ∨ isDecimalDigit c := by
  obtain ⟨sign, mantissa, exponent, hsign, hmantissa, -, rfl⟩ := mem_numbers.mp h
  rcases hsign with rfl | rfl
  · rw [mem_mantissas] at hmantissa
    rcases hmantissa with ⟨hne, hds⟩ | ⟨whole, fraction, hwhole, -, -, rfl⟩
    · obtain ⟨d, ds, rfl⟩ := List.exists_cons_of_ne_nil hne
      exact ⟨d, rfl, .inr (.inr (hds d List.mem_cons_self))⟩
    · cases whole with
      | nil => exact ⟨'.', rfl, .inr (.inl rfl)⟩
      | cons d ds => exact ⟨d, rfl, .inr (.inr (hwhole d List.mem_cons_self))⟩
  · exact ⟨'-', rfl, .inl rfl⟩

theorem numbers_of_integers {cs : List Char} (h : cs ∈ integers) : cs ∈ numbers := by
  obtain ⟨sign, ds, hsign, hne, hds, rfl⟩ := mem_integers.mp h
  refine mem_numbers.mpr ⟨sign, ds, [], hsign, mem_mantissas.mpr (.inl ⟨hne, hds⟩),
    mem_optional.mpr (.inl rfl), ?_⟩
  rw [List.append_nil]

/-! ## The values of digits -/

theorem isSome_decimalDigit? (c : Char) : (decimalDigit? c).isSome = isDecimalDigit c := by
  rw [decimalDigit?, Option.isSome_map, Bool.eq_iff_iff, List.find?_isSome]
  simp [isDecimalDigit, Ranges.contains]

/-- The values of the digits among some characters. -/
def digitValues (cs : List Char) : List Nat :=
  cs.filterMap decimalDigit?

theorem digitValues_cons {c : Char} {d : Nat} (h : decimalDigit? c = some d) (cs : List Char) :
    digitValues (c :: cs) = d :: digitValues cs :=
  List.filterMap_cons_some h

theorem length_digitValues (cs : List Char) :
    (digitValues cs).length = cs.countP isDecimalDigit := by
  unfold digitValues
  rw [List.length_filterMap_eq_countP]
  exact List.countP_congr fun c _ => by rw [isSome_decimalDigit?]

theorem digitValues_eq_nil {cs : List Char} (h : AllDigits cs) : digitValues cs = [] ↔ cs = [] := by
  rw [← List.length_eq_zero_iff, length_digitValues, List.countP_eq_length.mpr h,
    List.length_eq_zero_iff]

theorem ofDigits_eq (ds : List Nat) : ofDigits ds = Nat.ofDigits 10 ds.reverse := by
  rw [Nat.ofDigits_eq_foldr, List.foldr_reverse]
  exact congrArg (fun step => ds.foldl step 0) (funext fun n => funext fun d => Nat.add_comm _ _)

/-- The number that an integer numeral stands for. -/
def integerValue (cs : List Char) : Int :=
  let magnitude : Nat := Nat.ofDigits 10 (digitValues cs).reverse
  if cs.head? = some '-' then -magnitude else magnitude

/-! ## Signs and points -/

/-- Taking off a minus sign loses nothing. -/
theorem eq_of_splitMinus {cs ds : List Char} {negative : Bool}
    (h : splitMinus cs = (negative, ds)) : cs = if negative then '-' :: ds else ds := by
  unfold splitMinus at h
  split at h <;> cases h <;> rfl

theorem splitMinus_of_ne {cs : List Char} (h : cs.head? ≠ some '-') :
    splitMinus cs = (false, cs) := by
  unfold splitMinus
  split
  · exact absurd rfl h
  · rfl

theorem splitMinus_append {sign cs : List Char} (hsign : sign = [] ∨ sign = ['-'])
    (hcs : cs.head? ≠ some '-') : splitMinus (sign ++ cs) = (decide (sign = ['-']), cs) := by
  rcases hsign with rfl | rfl
  · exact splitMinus_of_ne hcs
  · rfl

theorem exists_of_splitMinus {cs body : List Char} {negative : Bool}
    (h : splitMinus cs = (negative, body)) :
    ∃ sign, (sign = [] ∨ sign = ['-']) ∧ sign ++ body = cs := by
  rw [eq_of_splitMinus h]
  cases negative with
  | false => exact ⟨[], .inl rfl, rfl⟩
  | true => exact ⟨['-'], .inr rfl, rfl⟩

theorem head?_ne_of_allDigits {ds : List Char} (hds : AllDigits ds) {c : Char}
    (hc : isDecimalDigit c = false) : ds.head? ≠ some c := by
  intro h
  have hdigit := hds c (List.mem_of_mem_head? h)
  rw [hc] at hdigit
  cases hdigit

namespace Spelling

theorem splitPoint_of_ne {cs : List Char} (h : cs.head? ≠ some '.') :
    splitPoint cs = (false, cs) := by
  unfold splitPoint
  split
  · exact absurd rfl h
  · rfl

theorem splitPoint_cases (cs : List Char) :
    splitPoint cs = (false, cs) ∨ ∃ rest, cs = '.' :: rest := by
  unfold splitPoint
  split
  · exact .inr ⟨_, rfl⟩
  · exact .inl rfl

theorem splitSign_append {sign ds : List Char} (hsign : sign = [] ∨ sign = ['+'] ∨ sign = ['-'])
    (hds : AllDigits ds) : (splitSign (sign ++ ds)).2 = ds := by
  rcases hsign with rfl | rfl | rfl
  · rw [List.nil_append]
    unfold splitSign
    split
    · exact absurd rfl (head?_ne_of_allDigits hds (c := '-') (by decide))
    · exact absurd rfl (head?_ne_of_allDigits hds (c := '+') (by decide))
    · rfl
  · rfl
  · rfl

theorem exists_of_splitSign (cs : List Char) :
    ∃ sign, (sign = [] ∨ sign = ['+'] ∨ sign = ['-']) ∧ sign ++ (splitSign cs).2 = cs := by
  unfold splitSign
  split
  · exact ⟨['-'], .inr (.inr rfl), rfl⟩
  · exact ⟨['+'], .inr (.inl rfl), rfl⟩
  · exact ⟨[], .inl rfl, rfl⟩

/-! ## Reading digits -/

/-- Digits are read up to the first character that is none. -/
theorem digits_append {ds rest : List Char} (hds : AllDigits ds)
    (hrest : ∀ c ∈ rest.head?, isDecimalDigit c = false) :
    digits (ds ++ rest) = (digitValues ds, rest) := by
  induction ds with
  | nil =>
      cases rest with
      | nil => rfl
      | cons c rest =>
          have hc : decimalDigit? c = none := by
            have hother := hrest c rfl
            rwa [← isSome_decimalDigit?, Option.isSome_eq_false_iff,
              Option.isNone_iff_eq_none] at hother
          rw [List.nil_append, digits, hc]
          rfl
  | cons d ds ih =>
      obtain ⟨hd, hds⟩ := List.forall_mem_cons.mp hds
      rw [← isSome_decimalDigit?, Option.isSome_iff_exists] at hd
      obtain ⟨n, hn⟩ := hd
      rw [List.cons_append, digits, hn, ih hds, digitValues_cons hn]

theorem digits_of_allDigits {ds : List Char} (hds : AllDigits ds) :
    digits ds = (digitValues ds, []) := by
  have hend : digits (ds ++ []) = (digitValues ds, []) := digits_append hds nofun
  rwa [List.append_nil] at hend

theorem exists_of_digits {cs rest : List Char} {values : List Nat}
    (h : digits cs = (values, rest)) :
    ∃ ds, AllDigits ds ∧ ds ++ rest = cs ∧ digitValues ds = values := by
  induction cs generalizing values with
  | nil =>
      cases h
      exact ⟨[], nofun, rfl, rfl⟩
  | cons c cs ih =>
      rw [digits] at h
      split at h
      · cases h
        exact ⟨[], nofun, rfl, rfl⟩
      · next d hd =>
          obtain ⟨rfl, rfl⟩ := Prod.mk.inj h
          obtain ⟨ds, hds, hcs, hvalues⟩ := ih rfl
          have hc : isDecimalDigit c := by rw [← isSome_decimalDigit?, hd]; rfl
          refine ⟨c :: ds, List.forall_mem_cons.mpr ⟨hc, hds⟩, by rw [List.cons_append, hcs], ?_⟩
          rw [digitValues_cons hd, hvalues]

/-! ## Reading exponents -/

theorem readExponent?_cons (c : Char) (cs : List Char) :
    (∃ found, readExponent? (c :: cs) = some found)
      ↔ (c = 'e' ∨ c = 'E') ∧ (digits (splitSign cs).2).1 ≠ []
        ∧ (digits (splitSign cs).2).2 = [] := by
  rw [readExponent?]
  by_cases hc : c = 'e' ∨ c = 'E'
  · by_cases hvalues : (digits (splitSign cs).2).1 = []
    · simp [hc, hvalues]
    · by_cases hrest : (digits (splitSign cs).2).2 = [] <;> simp [hc, hvalues, hrest]
  · simp [hc]

theorem readExponent?_iff {cs : List Char} :
    (∃ found, readExponent? cs = some found) ↔ cs ∈ optional exponents := by
  rw [mem_optional, mem_exponents]
  cases cs with
  | nil => exact ⟨fun _ => .inl rfl, fun _ => ⟨none, rfl⟩⟩
  | cons marker body =>
      rw [readExponent?_cons]
      constructor
      · rintro ⟨hmarker, hvalues, hrest⟩
        obtain ⟨sign, hsign, hbody⟩ := exists_of_splitSign body
        obtain ⟨ds, hds, happend, hdigits⟩ := exists_of_digits
          (Prod.ext rfl hrest : digits (splitSign body).2 = (_, []))
        rw [List.append_nil] at happend
        refine .inr ⟨marker, sign, ds, hmarker, hsign, ?_, hds, by rw [happend, hbody]⟩
        rintro rfl
        exact hvalues hdigits.symm
      · rintro (hnil | ⟨_, sign, ds, hmarker, hsign, hne, hds, heq⟩)
        · cases hnil
        · obtain ⟨rfl, rfl⟩ := List.cons.inj heq
          rw [splitSign_append hsign hds, digits_of_allDigits hds]
          exact ⟨hmarker, fun h => hne ((digitValues_eq_nil hds).mp h), rfl⟩

/-- Only the empty text has no exponent. -/
theorem readExponent?_eq_none_iff {cs : List Char} : readExponent? cs = some none ↔ cs = [] := by
  cases cs with
  | nil => exact ⟨fun _ => rfl, fun _ => rfl⟩
  | cons c cs =>
      rw [readExponent?]
      split
      · split
        simp
      · simp

theorem head?_exponent {cs : List Char} (h : cs ∈ optional exponents) {c : Char}
    (hc : c ∈ cs.head?) : c = 'e' ∨ c = 'E' := by
  rw [mem_optional, mem_exponents] at h
  rcases h with rfl | ⟨marker, sign, ds, hmarker, -, -, -, rfl⟩
  · cases hc
  · cases hc
    exact hmarker

/-! ## Reading numerals -/

theorem read?_without_point {cs body rest : List Char} {negative : Bool} {whole : List Nat}
    (hsign : splitMinus cs = (negative, body)) (hwhole : digits body = (whole, rest))
    (hpoint : splitPoint rest = (false, rest)) :
    read? cs = if whole = [] then none
      else (readExponent? rest).map fun exponent => ⟨negative, whole, false, [], exponent⟩ := by
  simp [read?, hsign, hwhole, hpoint]

theorem read?_with_point {cs body rest afterPoint : List Char} {negative : Bool}
    {whole fraction : List Nat} (hsign : splitMinus cs = (negative, body))
    (hwhole : digits body = (whole, '.' :: afterPoint))
    (hfraction : digits afterPoint = (fraction, rest)) :
    read? cs = if whole = [] ∧ fraction = [] then none
      else (readExponent? rest).map fun exponent =>
        ⟨negative, whole, true, fraction, exponent⟩ := by
  simp [read?, hsign, hwhole, splitPoint, hfraction]

section Parts

variable {sign whole fraction exponent : List Char} (hsign : sign = [] ∨ sign = ['-'])
  (hwhole : AllDigits whole) (hexponent : exponent ∈ optional exponents)
include hsign hwhole hexponent

theorem read?_of_digits (hne : whole ≠ []) :
    read? (sign ++ (whole ++ exponent)) = (readExponent? exponent).map fun exponent =>
      ⟨decide (sign = ['-']), digitValues whole, false, [], exponent⟩ := by
  have hminus : (whole ++ exponent).head? ≠ some '-' := by
    rw [List.head?_append_of_ne_nil _ hne]
    exact head?_ne_of_allDigits hwhole (by decide)
  have hdigits : digits (whole ++ exponent) = (digitValues whole, exponent) :=
    digits_append hwhole fun c hc => by rcases head?_exponent hexponent hc with rfl | rfl <;> decide
  have hpoint : splitPoint exponent = (false, exponent) :=
    splitPoint_of_ne fun hc => by rcases head?_exponent hexponent hc with h | h <;> cases h
  rw [read?_without_point (splitMinus_append hsign hminus) hdigits hpoint]
  exact if_neg fun h => hne ((digitValues_eq_nil hwhole).mp h)

theorem read?_of_point (hfraction : AllDigits fraction) (hne : whole ++ fraction ≠ []) :
    read? (sign ++ (whole ++ '.' :: (fraction ++ exponent)))
      = (readExponent? exponent).map fun exponent =>
        ⟨decide (sign = ['-']), digitValues whole, true, digitValues fraction, exponent⟩ := by
  have hminus : (whole ++ '.' :: (fraction ++ exponent)).head? ≠ some '-' := by
    cases whole with
    | nil => nofun
    | cons c whole => exact head?_ne_of_allDigits hwhole (c := '-') (by decide)
  have hdigits : digits (whole ++ '.' :: (fraction ++ exponent))
      = (digitValues whole, '.' :: (fraction ++ exponent)) :=
    digits_append hwhole fun c hc => by cases hc; decide
  have hrest : digits (fraction ++ exponent) = (digitValues fraction, exponent) :=
    digits_append hfraction fun c hc => by
      rcases head?_exponent hexponent hc with rfl | rfl <;> decide
  rw [read?_with_point (splitMinus_append hsign hminus) hdigits hrest]
  refine if_neg fun h => hne (List.append_eq_nil_iff.mpr ?_)
  exact ⟨(digitValues_eq_nil hwhole).mp h.1, (digitValues_eq_nil hfraction).mp h.2⟩

end Parts

theorem read?_of_mem_integers {cs : List Char} (h : cs ∈ integers) :
    read? cs = some ⟨cs.head? = some '-', digitValues cs, false, [], none⟩ := by
  obtain ⟨sign, ds, hsign, hne, hds, rfl⟩ := mem_integers.mp h
  have hread := read?_of_digits hsign hds (mem_optional.mpr (.inl rfl)) hne
  rw [List.append_nil] at hread
  rw [hread]
  rcases hsign with rfl | rfl
  · simp [readExponent?, head?_ne_of_allDigits hds (c := '-') (by decide)]
  · rfl

/-- A number that is no integer is read as one that is none. -/
theorem read?_of_mem_numbers {cs : List Char} (h : cs ∈ numbers) (hint : cs ∉ integers) :
    ∃ s, read? cs = some s ∧ s.isInteger = false := by
  obtain ⟨sign, mantissa, exponent, hsign, hmantissa, hexponent, rfl⟩ := mem_numbers.mp h
  obtain ⟨found, hfound⟩ := readExponent?_iff.mpr hexponent
  rw [mem_mantissas] at hmantissa
  rcases hmantissa with ⟨hne, hds⟩ | ⟨whole, fraction, hwhole, hfraction, hne, rfl⟩
  · refine ⟨_, (read?_of_digits hsign hds hexponent hne).trans (by rw [hfound]; rfl), ?_⟩
    cases found with
    | some n => rfl
    | none =>
        cases readExponent?_eq_none_iff.mp hfound
        refine absurd (mem_integers.mpr ⟨sign, mantissa, hsign, hne, hds, ?_⟩) hint
        rw [List.append_nil]
  · rw [List.append_assoc, List.cons_append]
    exact ⟨_, (read?_of_point hsign hwhole hexponent hfraction hne).trans (by rw [hfound]; rfl), rfl⟩

/-- Nothing but a number is read. -/
theorem mem_numbers_of_read? {cs : List Char} {s : Spelling} (h : read? cs = some s) :
    cs ∈ numbers := by
  obtain ⟨negative, body, hminus⟩ : ∃ negative body, splitMinus cs = (negative, body) := ⟨_, _, rfl⟩
  obtain ⟨values, rest, hdigits⟩ : ∃ values rest, digits body = (values, rest) := ⟨_, _, rfl⟩
  obtain ⟨sign, hsign, rfl⟩ := exists_of_splitMinus hminus
  obtain ⟨whole, hwhole, rfl, hvalues⟩ := exists_of_digits hdigits
  rcases splitPoint_cases rest with hpoint | ⟨afterPoint, rfl⟩
  · rw [read?_without_point hminus hdigits hpoint] at h
    split at h
    · cases h
    · next hne =>
        obtain ⟨found, hfound, -⟩ := Option.map_eq_some_iff.mp h
        refine mem_numbers.mpr ⟨sign, whole, rest, hsign, mem_mantissas.mpr (.inl ⟨?_, hwhole⟩),
          readExponent?_iff.mp ⟨found, hfound⟩, rfl⟩
        rintro rfl
        exact hne hvalues.symm
  · obtain ⟨values', rest, hdigits'⟩ : ∃ values rest, digits afterPoint = (values, rest) :=
      ⟨_, _, rfl⟩
    obtain ⟨fraction, hfraction, rfl, hvalues'⟩ := exists_of_digits hdigits'
    rw [read?_with_point hminus hdigits hdigits'] at h
    split at h
    · cases h
    · next hne =>
        obtain ⟨found, hfound, -⟩ := Option.map_eq_some_iff.mp h
        refine mem_numbers.mpr ⟨sign, whole ++ '.' :: fraction, rest, hsign,
          mem_mantissas.mpr (.inr ⟨whole, fraction, hwhole, hfraction, ?_, rfl⟩),
          readExponent?_iff.mp ⟨found, hfound⟩, by simp⟩
        intro hnil
        obtain ⟨rfl, rfl⟩ := List.append_eq_nil_iff.mp hnil
        exact hne ⟨hvalues.symm, hvalues'.symm⟩

end Spelling

/-! ## Integers written in decimal -/

/-- The decimal text of an integer. -/
theorem toList_toString (n : Int) :
    (toString n).toList = (if n < 0 then ['-'] else []) ++ Nat.toDigits 10 n.natAbs := by
  cases n <;> simp [toString, Int.repr, Nat.repr]

theorem decimalDigit?_of_isDigit {c : Char} (h : c.isDigit) :
    decimalDigit? c = some (c.toNat - '0'.toNat) := by
  have hrange : 48 ≤ c.toNat ∧ c.toNat ≤ 57 := by
    simpa [Char.isDigit, UInt32.le_iff_toNat_le] using h
  have hzero : '0'.toNat = 48 := rfl
  have hvalue : (c.toNat - 48) % 10 = c.toNat - 48 := Nat.mod_eq_of_lt (by omega)
  rw [decimalDigit?, decimalDigitRanges, List.find?_cons_of_pos (by simpa using hrange), hzero,
    Option.map_some, hvalue]

theorem digitValues_of_isDigit {cs : List Char} (h : ∀ c ∈ cs, c.isDigit) :
    digitValues cs = cs.map fun c => c.toNat - '0'.toNat := by
  induction cs with
  | nil => rfl
  | cons c cs ih =>
      obtain ⟨hc, hcs⟩ := List.forall_mem_cons.mp h
      rw [digitValues_cons (decimalDigit?_of_isDigit hc), ih hcs, List.map_cons]

theorem isDigit_of_mem_toDigits {n : Nat} {c : Char} (h : c ∈ Nat.toDigits 10 n) : c.isDigit :=
  Nat.isDigit_of_mem_toDigits (by decide) (by decide) h

theorem allDigits_toDigits (n : Nat) : AllDigits (Nat.toDigits 10 n) := by
  intro c hc
  rw [← isSome_decimalDigit?, decimalDigit?_of_isDigit (isDigit_of_mem_toDigits hc)]
  rfl

theorem toString_mem_integers (n : Int) : (toString n).toList ∈ integers := by
  refine mem_integers.mpr ⟨_, _, ?_, Nat.toDigits_ne_nil, allDigits_toDigits n.natAbs,
    (toList_toString n).symm⟩
  split
  · exact .inr rfl
  · exact .inl rfl

theorem digitValues_toString (n : Int) :
    digitValues (toString n).toList = digitValues (Nat.toDigits 10 n.natAbs) := by
  rw [toList_toString]
  split <;> rfl

/-- The digits of the text are those of the number, and what they stand for is the number. -/
theorem integerValue_toString (n : Int) : integerValue (toString n).toList = n := by
  have hmagnitude : Nat.ofDigits 10 (digitValues (toString n).toList).reverse = n.natAbs := by
    rw [digitValues_toString, ← ofDigits_eq, digitValues_of_isDigit fun c => isDigit_of_mem_toDigits,
      ofDigits, List.foldl_map]
    exact Nat.ofDigitChars_ten_toDigits
  have hhead : (toString n).toList.head? = some '-' ↔ n < 0 := by
    rw [toList_toString]
    split
    · next hneg => exact ⟨fun _ => hneg, fun _ => rfl⟩
    · next hneg =>
        refine ⟨fun hhead => absurd hhead ?_, fun h => absurd h hneg⟩
        exact head?_ne_of_allDigits (allDigits_toDigits n.natAbs) (by decide)
  simp only [integerValue, hmagnitude, hhead]
  split <;> omega

end Stencil.Numeral

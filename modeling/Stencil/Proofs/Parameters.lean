import Stencil.Param
import Stencil.Proofs.Numerals

/-!
# What the text of a parameter is

The cases of a parameter are tried in order, on a text without the blanks around it. Each of them has a
condition of its own on that text, without regard to the others (`Param.Classified`), and these exclude
one another because the first character tells them apart: strings start with a quote, numerals with a
sign, a point or a digit (`Param.bare_of_mem_numbers`). What is written as a string, or as a decimal
integer, is read as what was written (`param_classified`).
-/

namespace Stencil

open Text Numeral

/-! ## Texts without blanks around them -/

namespace Text

theorem strip_padded {before middle after : List Char} {x y : Char}
    (hbefore : ∀ c ∈ before, isBlank c) (hx : isBlank x = false) (hy : isBlank y = false)
    (hafter : ∀ c ∈ after, isBlank c) :
    strip (before ++ x :: (middle ++ y :: after)) = x :: (middle ++ [y]) := by
  have hback : (x :: (middle ++ y :: after)).reverse
      = after.reverse ++ y :: (x :: middle).reverse := by simp
  unfold strip
  rw [List.dropWhile_append_of_pos hbefore, List.dropWhile_cons_of_neg (by simp [hx]), hback,
    List.dropWhile_append_of_pos (fun c hc => hafter c (List.mem_reverse.mp hc)),
    List.dropWhile_cons_of_neg (by simp [hy]), List.reverse_cons, List.reverse_reverse]
  rfl

theorem strip_of_none {cs : List Char} (h : ∀ c ∈ cs, isBlank c = false) : strip cs = cs := by
  have hdrop : ∀ xs : List Char, (∀ c ∈ xs, isBlank c = false) → xs.dropWhile isBlank = xs := by
    intro xs hxs
    cases xs with
    | nil => rfl
    | cons x xs => exact List.dropWhile_cons_of_neg (by simp [hxs x List.mem_cons_self])
  rw [strip, hdrop cs h, hdrop cs.reverse fun c hc => h c (List.mem_reverse.mp hc),
    List.reverse_reverse]

theorem isBlank_of_isDigit {c : Char} (h : c.isDigit) : isBlank c = false := by
  have hrange : 48 ≤ c.toNat ∧ c.toNat ≤ 57 := by
    simpa [Char.isDigit, UInt32.le_iff_toNat_le] using h
  simp only [isBlank, Ranges.contains, blankRanges, List.any_cons, List.any_nil, Bool.or_false,
    Bool.or_eq_false_iff, Bool.and_eq_false_iff, decide_eq_false_iff_not]
  omega

theorem isBlank_toString (n : Int) : ∀ c ∈ (toString n).toList, isBlank c = false := by
  intro c hc
  rw [toList_toString, List.mem_append] at hc
  rcases hc with hsign | hdigit
  · split at hsign
    · rw [List.mem_singleton.mp hsign]
      decide
    · cases hsign
  · exact isBlank_of_isDigit (isDigit_of_mem_toDigits hdigit)

theorem ofList_eq_iff {cs : List Char} {text : String} :
    String.ofList cs = text ↔ text.toList = cs := by
  rw [eq_comm, ← String.toList_inj, String.toList_ofList]

end Text

/-! ## Numbers in parameters -/

theorem readNumber?_of_not_mem {text : String} (h : text.toList ∉ numbers) :
    readNumber? text = .ok none := by
  unfold readNumber?
  split
  · rfl
  · next s hs => exact absurd (Spelling.mem_numbers_of_read? hs) h

/-- An integer numeral is read, or refused for its length. -/
theorem readNumber?_of_mem_integers {text : String} (h : text.toList ∈ integers) :
    readNumber? text = if text.toList.countP isDecimalDigit ≤ maxDigits
      then .ok (some (.int (integerValue text.toList)))
      else .error (text.toList.countP isDecimalDigit) := by
  have hvalue : integerValue text.toList
      = if text.toList.head? = some '-' then -(ofDigits (digitValues text.toList) : Int)
        else ofDigits (digitValues text.toList) := by
    rw [integerValue, ofDigits_eq]
  rw [readNumber?, Spelling.read?_of_mem_integers h, hvalue, ← length_digitValues]
  simp only [Spelling.value, Spelling.isInteger, readInteger, decide_eq_true_eq]
  by_cases hshort : (digitValues text.toList).length ≤ maxDigits
  · rw [if_pos hshort, if_pos hshort]
    rfl
  · rw [if_neg hshort, if_neg hshort]
    rfl

theorem readNumber?_of_mem_numbers {text : String} (h : text.toList ∈ numbers)
    (hint : text.toList ∉ integers) : ∃ x, readNumber? text = .ok (some (.float x)) := by
  obtain ⟨s, hs, hfloat⟩ := Spelling.read?_of_mem_numbers h hint
  refine ⟨s.toFloat, ?_⟩
  simp [readNumber?, hs, Spelling.value, hfloat, Except.map]

namespace Param

/-! ## The conditions -/

/-- The word for a truth value. -/
def truthWord (b : Bool) : String :=
  if b then "true" else "false"

/-- The text starts with a quote that no second one at its end closes. -/
def Unterminated (v : List Char) : Prop :=
  v.head? = some '"' ∧ ¬∃ inside, v = '"' :: (inside ++ ['"'])

/-- The text is neither empty nor in quotes nor a word for a truth value. -/
structure Bare (v : List Char) : Prop where
  ne_nil : v ≠ []
  unquoted : v.head? ≠ some '"'
  notTruth : ∀ b, v ≠ (truthWord b).toList

/--
What a text without blanks around it is read as, one condition on the text for each kind of result. It
is refused if it is empty, a string without its second quote, or an integer numeral of too many digits;
else it is the string between its quotes, a truth value, an integer, a floating point number for any
other number of the grammar, or a key.
-/
structure Classified (v : List Char) (r : Except Invalid Param) : Prop where
  empty : r = .error .empty ↔ v = []
  unterminated : ∀ value, r = .error (.unterminated value) ↔ Unterminated v ∧ value.toList = v
  tooLong : ∀ digits, r = .error (.integerTooLong digits)
    ↔ v ∈ integers ∧ v.countP isDecimalDigit = digits ∧ maxDigits < digits
  string : ∀ inside, r = .ok (.literal (.str inside)) ↔ v = '"' :: (inside.toList ++ ['"'])
  truth : ∀ b, r = .ok (.literal (.bool b)) ↔ v = (truthWord b).toList
  integer : ∀ n, r = .ok (.literal (.int n))
    ↔ v ∈ integers ∧ v.countP isDecimalDigit ≤ maxDigits ∧ integerValue v = n
  float : (∃ x, r = .ok (.literal (.float x))) ↔ v ∈ numbers ∧ v ∉ integers
  reference : ∀ key, r = .ok (.reference key) ↔ key.toList = v ∧ Bare v ∧ v ∉ numbers

variable {v : List Char}

/-! ## No two conditions at once -/

theorem truthWord_head? : ∀ b,
    (truthWord b).toList.head? = some 't' ∨ (truthWord b).toList.head? = some 'f' := by
  decide

theorem truthWord_inj : ∀ {b c}, (truthWord b).toList = (truthWord c).toList ↔ b = c := by
  decide

theorem truthWord_ne_empty : ∀ b, truthWord b ≠ "" := by
  decide

theorem truthWord_ne_quote (b : Bool) (rest : List Char) : (truthWord b).toList ≠ '"' :: rest := by
  intro h
  have hhead := truthWord_head? b
  rw [h] at hhead
  simp at hhead

theorem not_bare_nil : ¬Bare [] := fun h => h.ne_nil rfl

theorem not_bare_quote {rest : List Char} : ¬Bare ('"' :: rest) := fun h => h.unquoted rfl

theorem not_bare_truthWord (b : Bool) : ¬Bare (truthWord b).toList := fun h => h.notTruth b rfl

theorem Bare.ne_quote (h : Bare v) (rest : List Char) : v ≠ '"' :: rest := by
  rintro rfl
  exact not_bare_quote h

theorem Bare.not_unterminated (h : Bare v) : ¬Unterminated v := fun hopen => h.unquoted hopen.1

/-- A numeral starts with a sign, a point or a digit, so it cannot be taken for anything else. -/
theorem bare_of_mem_numbers (h : v ∈ numbers) : Bare v := by
  obtain ⟨c, hc, hstart⟩ := head?_of_mem_numbers h
  have hother : ∀ d ∈ ['"', 't', 'f'], v.head? ≠ some d := by
    intro d hd hv
    obtain rfl : d = c := Option.some.inj (hv.symm.trans hc)
    revert hstart
    simp only [List.mem_cons, List.not_mem_nil, or_false] at hd
    rcases hd with rfl | rfl | rfl <;> decide
  refine ⟨?_, hother _ (by decide), fun b => ?_⟩
  · rintro rfl
    cases hc
  · rintro rfl
    rcases truthWord_head? b with hhead | hhead
    · exact hother 't' (by decide) hhead
    · exact hother 'f' (by decide) hhead

theorem not_mem_integers (h : v ∉ numbers) : v ∉ integers :=
  fun hint => h (numbers_of_integers hint)

theorem not_mem_numbers (h : ¬Bare v) : v ∉ numbers :=
  fun hnum => h (bare_of_mem_numbers hnum)

/-! ## The cases, one by one -/

theorem classified_nil : Classified [] (.error .empty) := by
  have hnum : [] ∉ numbers := not_mem_numbers not_bare_nil
  have hint : [] ∉ integers := not_mem_integers hnum
  have hword : ∀ b, [] ≠ (truthWord b).toList := by decide
  constructor <;> simp [hnum, hint, hword, not_bare_nil, Unterminated]

theorem classified_string (inside : List Char) :
    Classified ('"' :: (inside ++ ['"'])) (.ok (.literal (.str (String.ofList inside)))) := by
  have hbare : ¬Bare ('"' :: (inside ++ ['"'])) := not_bare_quote
  have hnum : '"' :: (inside ++ ['"']) ∉ numbers := not_mem_numbers hbare
  have hint : '"' :: (inside ++ ['"']) ∉ integers := not_mem_integers hnum
  have hword := fun b => (truthWord_ne_quote b (inside ++ ['"'])).symm
  constructor <;> simp [hbare, hnum, hint, hword, Unterminated, ← String.toList_inj]

theorem classified_unterminated (h : Unterminated v) :
    Classified v (.error (.unterminated (String.ofList v))) := by
  have hbare : ¬Bare v := fun hbare => hbare.not_unterminated h
  have hnum : v ∉ numbers := not_mem_numbers hbare
  have hint : v ∉ integers := not_mem_integers hnum
  have hne : v ≠ [] := by
    rintro rfl
    cases h.1
  have hclosed : ∀ inside, v ≠ '"' :: (inside ++ ['"']) := not_exists.mp h.2
  have hword : ∀ b, v ≠ (truthWord b).toList := by
    rintro b rfl
    obtain ⟨rest, hrest⟩ := List.head?_eq_some_iff.mp h.1
    exact truthWord_ne_quote b rest hrest
  constructor <;> simp [h, hbare, hnum, hint, hne, hclosed, hword, ofList_eq_iff]

theorem classified_truthWord (b : Bool) :
    Classified (truthWord b).toList (.ok (.literal (.bool b))) := by
  have hnum : (truthWord b).toList ∉ numbers := not_mem_numbers (not_bare_truthWord b)
  have hint : (truthWord b).toList ∉ integers := not_mem_integers hnum
  have hopen : ¬Unterminated (truthWord b).toList := by
    rintro ⟨hquote, -⟩
    obtain ⟨rest, hrest⟩ := List.head?_eq_some_iff.mp hquote
    exact truthWord_ne_quote b rest hrest
  constructor <;> simp [hnum, hint, hopen, truthWord_ne_empty, truthWord_ne_quote, truthWord_inj,
    not_bare_truthWord]

theorem classified_tooLong (h : v ∈ integers) (hlong : maxDigits < v.countP isDecimalDigit) :
    Classified v (.error (.integerTooLong (v.countP isDecimalDigit))) := by
  have hnum := numbers_of_integers h
  have hbare := bare_of_mem_numbers hnum
  have hshort : ¬v.countP isDecimalDigit ≤ maxDigits := Nat.not_le.mpr hlong
  constructor <;> simp [hnum, h, hshort, hbare.ne_nil, hbare.ne_quote, hbare.notTruth,
    hbare.not_unterminated]
  exact hlong

theorem classified_integer (h : v ∈ integers) (hshort : v.countP isDecimalDigit ≤ maxDigits) :
    Classified v (.ok (.literal (.int (integerValue v)))) := by
  have hnum := numbers_of_integers h
  have hbare := bare_of_mem_numbers hnum
  constructor <;> simp [hnum, h, hshort, hbare.ne_nil, hbare.ne_quote, hbare.notTruth,
    hbare.not_unterminated]

theorem classified_float (h : v ∈ numbers) (hint : v ∉ integers) (x : Float) :
    Classified v (.ok (.literal (.float x))) := by
  have hbare := bare_of_mem_numbers h
  constructor <;> simp [h, hint, hbare.ne_nil, hbare.ne_quote, hbare.notTruth,
    hbare.not_unterminated]

theorem classified_reference (hbare : Bare v) (h : v ∉ numbers) :
    Classified v (.ok (.reference (String.ofList v))) := by
  have hint : v ∉ integers := not_mem_integers h
  constructor <;> simp [h, hint, ofList_eq_iff, hbare, hbare.ne_nil, hbare.ne_quote, hbare.notTruth,
    hbare.not_unterminated]

/-! ## All cases -/

theorem unquote?_append (inside : List Char) : unquote? (inside ++ ['"']) = some inside := by
  rw [unquote?, List.getLast?_concat, List.dropLast_concat]
  rfl

theorem unquote?_of_ne {rest : List Char} (h : ¬∃ inside, rest = inside ++ ['"']) :
    unquote? rest = none := by
  unfold unquote?
  split
  · next hlast =>
      obtain ⟨inside, hinside⟩ := List.getLast?_eq_some_iff.mp hlast
      exact absurd ⟨inside, hinside⟩ h
  · rfl

theorem ofStripped_truthWord (b : Bool) :
    ofStripped (truthWord b).toList = .ok (.literal (.bool b)) := by
  cases b <;> rfl

theorem ofStripped_of_bare (h : Bare v) :
    ofStripped v = match readNumber? (String.ofList v) with
      | .error digits => .error (.integerTooLong digits)
      | .ok (some value) => .ok (.literal value)
      | .ok none => .ok (.reference (String.ofList v)) := by
  have htrue : String.ofList v ≠ "true" := fun htext =>
    h.notTruth true (ofList_eq_iff.mp htext).symm
  have hfalse : String.ofList v ≠ "false" := fun htext =>
    h.notTruth false (ofList_eq_iff.mp htext).symm
  unfold ofStripped
  split
  · exact absurd h not_bare_nil
  · exact absurd h not_bare_quote
  · exact (if_neg htrue).trans (if_neg hfalse)

theorem classified_of_bare (h : Bare v) : Classified v (ofStripped v) := by
  have htext : (String.ofList v).toList = v := String.toList_ofList
  rw [ofStripped_of_bare h]
  by_cases hnum : v ∈ numbers
  · by_cases hint : v ∈ integers
    · rw [readNumber?_of_mem_integers (htext.symm ▸ hint), htext]
      by_cases hshort : v.countP isDecimalDigit ≤ maxDigits
      · rw [if_pos hshort]
        exact classified_integer hint hshort
      · rw [if_neg hshort]
        exact classified_tooLong hint (Nat.not_le.mp hshort)
    · obtain ⟨x, hx⟩ := readNumber?_of_mem_numbers (htext.symm ▸ hnum) (htext.symm ▸ hint)
      rw [hx]
      exact classified_float hnum hint x
  · rw [readNumber?_of_not_mem (htext.symm ▸ hnum)]
    exact classified_reference h hnum

theorem classified_ofStripped (v : List Char) : Classified v (ofStripped v) := by
  by_cases hbare : Bare v
  · exact classified_of_bare hbare
  by_cases htruth : ∃ b, v = (truthWord b).toList
  · obtain ⟨b, rfl⟩ := htruth
    rw [ofStripped_truthWord]
    exact classified_truthWord b
  cases v with
  | nil => exact classified_nil
  | cons c rest =>
      obtain rfl : c = '"' := by
        by_contra hc
        exact hbare ⟨List.cons_ne_nil _ _, by simpa using hc, not_exists.mp htruth⟩
      rw [ofStripped]
      by_cases h : ∃ inside, rest = inside ++ ['"']
      · obtain ⟨inside, rfl⟩ := h
        rw [unquote?_append]
        exact classified_string inside
      · rw [unquote?_of_ne h]
        refine classified_unterminated ⟨rfl, ?_⟩
        rintro ⟨inside, hinside⟩
        exact h ⟨inside, List.tail_eq_of_cons_eq hinside⟩

end Param

/--
Every text of a parameter is in exactly one case: what it is read as is decided by conditions on the
text without the blanks around it, which hold for one kind of result only. A text in quotes, with any
blanks around it, is read as the string that it quotes, whatever that holds; and the decimal text of an
integer that is short enough as that integer.
-/
theorem param_classified (text : String) :
    Param.Classified (strip text.toList) (Param.ofText text)
      ∧ (∀ (inside : String) (before after : List Char),
          (∀ c ∈ before, isBlank c) → (∀ c ∈ after, isBlank c) →
          Param.ofText (String.ofList (before ++ '"' :: (inside.toList ++ '"' :: after)))
            = .ok (.literal (.str inside)))
      ∧ ∀ n : Int, (Nat.toDigits 10 n.natAbs).length ≤ maxDigits →
          Param.ofText (toString n) = .ok (.literal (.int n)) := by
  refine ⟨Param.classified_ofStripped _, fun inside before after hbefore hafter => ?_,
    fun n hshort => ?_⟩
  · have hquote : isBlank '"' = false := by decide
    rw [Param.ofText, String.toList_ofList, strip_padded hbefore hquote hquote hafter]
    exact ((Param.classified_ofStripped _).string inside).mpr rfl
  · have hcount : (toString n).toList.countP isDecimalDigit
        = (Nat.toDigits 10 n.natAbs).length := by
      rw [← length_digitValues, digitValues_toString, length_digitValues]
      exact List.countP_eq_length.mpr (allDigits_toDigits n.natAbs)
    rw [Param.ofText, strip_of_none (isBlank_toString n)]
    refine ((Param.classified_ofStripped _).integer n).mpr ⟨toString_mem_integers n, ?_, ?_⟩
    · rw [hcount]
      exact hshort
    · exact integerValue_toString n

/-- A quote in a string, blanks around it, and a negative number. -/
theorem param_classified_quoted :
    (∀ c ∈ [' ', '\n'], isBlank c)
      ∧ Param.ofText " \n\"a\" 1\"" = .ok (.literal (.str "a\" 1"))
      ∧ Param.ofText "-30" = .ok (.literal (.int (-30))) := by
  have hblank : ∀ c ∈ [' ', '\n'], isBlank c :=
    List.forall_mem_cons.mpr ⟨by decide, List.forall_mem_singleton.mpr (by decide)⟩
  have hdecimal : toString (-30 : Int) = "-30" := by decide +kernel
  obtain ⟨-, hstrings, hintegers⟩ := param_classified ""
  have hstring := hstrings "a\" 1" [' ', '\n'] [] hblank (List.forall_mem_nil _)
  have hinteger := hintegers (-30) (by decide +kernel)
  rw [hdecimal] at hinteger
  exact ⟨hblank, hstring, hinteger⟩

end Stencil

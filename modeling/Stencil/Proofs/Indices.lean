import Mathlib.Data.Set.List
import Stencil.Proofs.Numerals
import Stencil.Proofs.PlainData

/-!
# Indices of sequences

The text of an index is a minus sign, perhaps, and digits (`IndexText`). Read against a sequence it
gives the item that counts so many from the front, or from the back, or nothing when there is no such
item (`read?_indexText`), with one exception: the digits can be too many to be read. So a path through
mappings, sequences and scalars leads to a value or to nothing, unless it comes to such an index
(`WithoutObjects.resolve?_ok_iff`).
-/

namespace Stencil

open Numeral

/-! ## The text of an index -/

/-- A minus sign, perhaps, and at least one digit. -/
structure IndexText where
  negative : Bool
  digits : List (Fin 10)
  digits_ne_nil : digits ≠ []

namespace IndexText

def digitChars (i : IndexText) : List Char :=
  i.digits.map fun d => Nat.digitChar d.val

/-- The index as it is written. -/
def key (i : IndexText) : String :=
  String.ofList (if i.negative then '-' :: i.digitChars else i.digitChars)

/-- The number that is written; a minus sign before zero makes no difference. -/
def value (i : IndexText) : Int :=
  let magnitude : Nat := Nat.ofDigits 10 (i.digits.reverse.map Fin.val)
  if i.negative then -magnitude else magnitude

/-- There are more digits than can be read. -/
def TooLong (i : IndexText) : Prop :=
  maxDigits < i.digits.length

instance (i : IndexText) : Decidable i.TooLong :=
  inferInstanceAs (Decidable (maxDigits < i.digits.length))

end IndexText

theorem isAsciiDigit_digitChar : ∀ d : Fin 10, isAsciiDigit (Nat.digitChar d.val) := by
  decide

theorem digitChar_ne_minus : ∀ d : Fin 10, Nat.digitChar d.val ≠ '-' := by
  decide

theorem toNat_digitChar : ∀ d : Fin 10, (Nat.digitChar d.val).toNat - '0'.toNat = d := by
  decide

theorem exists_digitChar {c : Char} (h : isAsciiDigit c) :
    ∃ d : Fin 10, Nat.digitChar d.val = c := by
  simp only [isAsciiDigit, Bool.and_eq_true, decide_eq_true_eq] at h
  have hlower : '0'.toNat ≤ c.toNat := h.1
  have hupper : c.toNat ≤ '9'.toNat := h.2
  have hzero : '0'.toNat = 48 := rfl
  have hnine : '9'.toNat = 57 := rfl
  have hbound : c.toNat - 48 < 10 := by omega
  refine ⟨⟨c.toNat - 48, hbound⟩, Char.toNat_inj.mp ?_⟩
  rw [Nat.toNat_digitChar_of_lt_ten hbound]
  omega

namespace IndexText

theorem splitMinus_key (i : IndexText) : splitMinus i.key.toList = (i.negative, i.digitChars) := by
  unfold key
  rw [String.toList_ofList]
  cases i.negative with
  | true => rfl
  | false =>
      refine splitMinus_of_ne fun hhead => ?_
      obtain ⟨d, -, hd⟩ := List.mem_map.mp (List.mem_of_mem_head? hhead)
      exact digitChar_ne_minus d hd

theorem map_digitChars (i : IndexText) :
    i.digitChars.map (fun c => c.toNat - '0'.toNat) = i.digits.map Fin.val := by
  unfold digitChars
  rw [List.map_map]
  exact List.map_congr_left fun d _ => toNat_digitChar d

theorem readInteger_eq (i : IndexText) :
    readInteger i.negative (i.digits.map Fin.val)
      = if i.TooLong then .error i.digits.length else .ok i.value := by
  unfold readInteger
  rw [ofDigits_eq, ← List.map_reverse, List.length_map]
  by_cases hlength : i.digits.length ≤ maxDigits
  · have hshort : ¬i.TooLong := Nat.not_lt.mpr hlength
    rw [if_pos hlength, if_neg hshort]
    rfl
  · have hlong : i.TooLong := Nat.not_le.mp hlength
    rw [if_neg hlength, if_pos hlong]

theorem readIndex?_key (i : IndexText) :
    readIndex? i.key
      = if i.TooLong then .error (.integerTooLongToRead i.digits.length)
        else .ok (some i.value) := by
  have hempty : i.digitChars.isEmpty = false := by
    rw [List.isEmpty_eq_false_iff, digitChars, Ne, List.map_eq_nil_iff]
    exact i.digits_ne_nil
  have hall : i.digitChars.all isAsciiDigit = true := by
    rw [digitChars, List.all_map, List.all_eq_true]
    exact fun d _ => isAsciiDigit_digitChar d
  unfold readIndex?
  simp only [i.splitMinus_key, hempty, hall, Bool.not_true, Bool.or_self, Bool.false_eq_true,
    if_false, i.map_digitChars, i.readInteger_eq]
  by_cases hlong : i.TooLong
  · simp only [if_pos hlong]
  · simp only [if_neg hlong]

/-- There are no other indices. -/
theorem exists_key_iff {key : String} :
    (∃ i : IndexText, i.key = key) ↔ readIndex? key ≠ .ok none := by
  constructor
  · rintro ⟨i, rfl⟩
    rw [readIndex?_key]
    split <;> nofun
  · intro h
    unfold readIndex? at h
    obtain ⟨negative, ds, hsplit⟩ : ∃ negative ds, splitMinus key.toList = (negative, ds) :=
      ⟨_, _, rfl⟩
    simp only [hsplit] at h
    split at h
    · exact absurd rfl h
    · next hdigits =>
        simp only [Bool.or_eq_true, Bool.not_eq_true', not_or, Bool.not_eq_false,
          List.all_eq_true, List.isEmpty_iff] at hdigits
        obtain ⟨hne, hall⟩ := hdigits
        have hrange : ds ∈ Set.range (List.map fun d : Fin 10 => Nat.digitChar d.val) := by
          rw [Set.range_list_map]
          exact fun c hc => exists_digitChar (hall c hc)
        obtain ⟨digits, rfl⟩ := hrange
        refine ⟨⟨negative, digits, fun hnil => hne (congrArg _ hnil)⟩, ?_⟩
        rw [IndexText.key, digitChars, ← eq_of_splitMinus hsplit, String.ofList_toList]

theorem indexTooLong_key {i : IndexText} {digits : Nat} :
    IndexTooLong i.key digits ↔ i.TooLong ∧ i.digits.length = digits := by
  have hall : ∀ c ∈ i.digitChars, isAsciiDigit c := by
    intro c hc
    obtain ⟨d, -, rfl⟩ := List.mem_map.mp hc
    exact isAsciiDigit_digitChar d
  unfold IndexTooLong TooLong maxDigits
  rw [i.splitMinus_key, digitChars, List.length_map]
  constructor
  · rintro ⟨-, rfl, hlong⟩
    exact ⟨hlong, rfl⟩
  · rintro ⟨hlong, rfl⟩
    exact ⟨hall, rfl, hlong⟩

end IndexText

theorem indexTooLong_iff {key : String} {digits : Nat} :
    IndexTooLong key digits
      ↔ ∃ i : IndexText, i.key = key ∧ i.TooLong ∧ i.digits.length = digits := by
  constructor
  · intro h
    have hread : readIndex? key = .error (.integerTooLongToRead digits) :=
      readIndex?_error_iff.mpr ⟨digits, h, rfl⟩
    obtain ⟨i, rfl⟩ := IndexText.exists_key_iff.mpr (by rw [hread]; nofun)
    exact ⟨i, rfl, IndexText.indexTooLong_key.mp h⟩
  · rintro ⟨i, rfl, h⟩
    exact IndexText.indexTooLong_key.mpr h

/-! ## Items -/

/-- The item that an index stands for: so many from the front, or from the back for a negative one. -/
def item? (items : List Value) (index : Int) : Option Value :=
  if h : -items.length ≤ index ∧ index < items.length then
    some (items.get ⟨(index % items.length).toNat, by
      have hpos : (0 : Int) < items.length := by omega
      have := Int.emod_lt_of_pos index hpos
      omega⟩)
  else none

theorem itemAt?_eq (items : List Value) (index : Int) : itemAt? items index = item? items index := by
  unfold itemAt? item?
  by_cases hneg : index < 0
  · rw [if_pos hneg]
    by_cases hlow : -index ≤ items.length
    · have hmod : index % items.length = items.length + index := by
        rw [← Int.add_emod_left, Int.emod_eq_of_lt (by omega) (by omega)]
      rw [if_pos hlow, dif_pos (by omega), List.getElem?_eq_getElem (by omega)]
      simp only [hmod, List.get_eq_getElem]
    · rw [if_neg hlow, dif_neg (by omega)]
  · rw [if_neg hneg]
    by_cases hhigh : index < items.length
    · have hmod : index % items.length = index := Int.emod_eq_of_lt (by omega) hhigh
      rw [dif_pos (by omega), List.getElem?_eq_getElem (by omega)]
      simp only [hmod, List.get_eq_getElem]
    · rw [dif_neg (by omega), List.getElem?_eq_none (by omega)]

namespace Value

/-- The items of a list or a tuple. -/
def sequence? : Value → Option (List Value)
  | list items | tuple items => some items
  | _ => Option.none

/-- An index is read against a sequence as the item that it stands for, unless it is too long. -/
theorem read?_indexText {owner : Value} {items : List Value} (hitems : owner.sequence? = some items)
    (i : IndexText) :
    owner.read? i.key
      = if i.TooLong then .error (.fault (.integerTooLongToRead i.digits.length))
        else .ok (item? items i.value) := by
  have hsequence : owner.sequenceItem? (fun index => .ok (itemAt? items index)) i.key
      = if i.TooLong then .error (.fault (.integerTooLongToRead i.digits.length))
        else .ok (item? items i.value) := by
    unfold sequenceItem?
    rw [i.readIndex?_key]
    by_cases hlong : i.TooLong
    · simp only [if_pos hlong]
    · simp only [if_neg hlong, itemAt?_eq, Except.mapError]
  cases owner with
  | list | tuple =>
      cases hitems
      exact hsequence
  | none | bool | int | float | str | bytes | dict | object => cases hitems

/-! ## Values without objects -/

/-- Scalars, sequences and mappings, and nothing that has an attribute to compute. -/
inductive WithoutObjects : Value → Prop
  | none : WithoutObjects none
  | bool (b : Bool) : WithoutObjects (bool b)
  | int (n : Int) : WithoutObjects (int n)
  | float (x : Float) : WithoutObjects (float x)
  | str (s : String) : WithoutObjects (str s)
  | bytes (bs : List UInt8) : WithoutObjects (bytes bs)
  | list {items : List Value} (h : ∀ v ∈ items, WithoutObjects v) : WithoutObjects (list items)
  | tuple {items : List Value} (h : ∀ v ∈ items, WithoutObjects v) : WithoutObjects (tuple items)
  | dict {entries : List (String × Value)} (h : ∀ e ∈ entries, WithoutObjects e.2) :
      WithoutObjects (dict entries)

/-- All attributes of a value without objects have a value, which is without objects again. -/
theorem WithoutObjects.attributes {v : Value} (h : v.WithoutObjects) {name : String}
    {outcome : Except Fault Value} (hmem : (name, outcome) ∈ v.attributes) :
    ∃ w : Value, outcome = .ok w ∧ w.WithoutObjects := by
  cases h with
  | none | str | bytes | list | tuple | dict => cases hmem
  | bool | int =>
      simp only [Value.attributes, List.mem_cons, List.not_mem_nil, or_false, Prod.mk.injEq] at hmem
      rcases hmem with ⟨-, rfl⟩ | ⟨-, rfl⟩ | ⟨-, rfl⟩ | ⟨-, rfl⟩ <;> exact ⟨_, rfl, .int _⟩
  | float =>
      simp only [Value.attributes, List.mem_cons, List.not_mem_nil, or_false, Prod.mk.injEq] at hmem
      rcases hmem with ⟨-, rfl⟩ | ⟨-, rfl⟩ <;> exact ⟨_, rfl, .float _⟩

/-- What is inside a value without objects is without objects again. -/
theorem WithoutObjects.hereditary : Hereditary WithoutObjects := by
  intro v w h hinside
  cases hinside with
  | list hmem => cases h with
    | list h => exact h w hmem
  | tuple hmem => cases h with
    | tuple h => exact h w hmem
  | dict hmem => cases h with
    | dict h => exact h _ hmem
  | «attribute» hmem =>
      obtain ⟨_, ⟨⟩, hw⟩ := h.attributes hmem
      exact hw
  | lookup | item => cases h

theorem mem_of_readAttribute?_error {α : Type} {attributes : Entries (Except Fault α)}
    {key : String} {cause : Fault} (h : readAttribute? attributes key = .error cause) :
    (key, .error cause) ∈ attributes := by
  unfold readAttribute? at h
  split at h
  · cases h
  · cases h
  · next hget =>
      split at h
      · cases h
      · cases h
        exact Entries.mem_of_get? hget

/-- Nothing fails but an index. -/
theorem WithoutObjects.read?_error {v : Value} (h : v.WithoutObjects) {key : String}
    {failure : Failure} (hread : v.read? key = .error failure) :
    ∃ cause, failure = .fault cause := by
  rcases Value.read?_error hread with ⟨cause, hfault, -⟩ | ⟨cause, -, hattribute⟩
  · exact ⟨cause, hfault⟩
  · obtain ⟨_, ⟨⟩, -⟩ := h.attributes (mem_of_readAttribute?_error hattribute)

theorem WithoutObjects.resolve?_error {v : Value} (h : v.WithoutObjects) {path : List String}
    {failure : Failure} (hpath : v.resolve? path = .error failure) :
    ∃ cause, failure = .fault cause := by
  obtain ⟨owner, key, hcomes, hread⟩ := resolve?_error_iff.mp hpath
  exact (hereditary.comesTo h hcomes).read?_error hread

theorem WithoutObjects.isSequence_iff {owner : Value} (h : owner.WithoutObjects) :
    owner.IsSequence ↔ ∃ items, owner.sequence? = some items := by
  cases h with
  | list | tuple => exact ⟨fun _ => ⟨_, rfl⟩, fun _ => trivial⟩
  | none | bool | int | float | str | bytes | dict => simp [IsSequence, sequence?]

/-- The path comes to a sequence with an index that is too long. -/
def ComesToLongIndex (context : Value) (path : List String) : Prop :=
  ∃ (before : List String) (i : IndexText) (after : List String) (owner : Value) (items : List Value),
    path = before ++ i.key :: after ∧ context.resolve? before = .ok (some owner)
      ∧ owner.sequence? = some items ∧ i.TooLong

theorem WithoutObjects.comesToLongIndex_iff {context : Value} (h : context.WithoutObjects)
    {path : List String} :
    context.ComesToLongIndex path ↔ ∃ digits, context.ReadsLongIndex path digits := by
  constructor
  · rintro ⟨before, i, after, owner, items, rfl, howner, hitems, hlong⟩
    have hsequence := (hereditary.resolve? h howner).isSequence_iff.mpr ⟨items, hitems⟩
    exact ⟨_, owner, i.key, ⟨before, after, rfl, howner⟩, hsequence,
      IndexText.indexTooLong_key.mpr ⟨hlong, rfl⟩⟩
  · rintro ⟨digits, owner, key, ⟨before, after, rfl, howner⟩, hsequence, hkey⟩
    obtain ⟨items, hitems⟩ := (hereditary.resolve? h howner).isSequence_iff.mp hsequence
    obtain ⟨i, rfl, hlong, -⟩ := indexTooLong_iff.mp hkey
    exact ⟨before, i, after, owner, items, rfl, howner, hitems, hlong⟩

/-- A path through values without objects leads to a value or to nothing, unless an index that is too
long is read on the way. -/
theorem WithoutObjects.resolve?_ok_iff {v : Value} (h : v.WithoutObjects) {path : List String} :
    (∃ found, v.resolve? path = .ok found) ↔ ¬v.ComesToLongIndex path := by
  rw [h.comesToLongIndex_iff]
  constructor
  · rintro ⟨found, hfound⟩ ⟨digits, hlong⟩
    cases hfound.symm.trans (resolve?_fault_iff.mpr hlong.walkRaises)
  · intro hshort
    cases hpath : v.resolve? path with
    | ok found => exact ⟨found, rfl⟩
    | error failure =>
        obtain ⟨cause, rfl⟩ := h.resolve?_error hpath
        have hobject (o : Object Value) : ¬(Value.object o).WithoutObjects := nofun
        obtain ⟨digits, hlong, -⟩ :=
          (resolve?_fault_iff.mp hpath).readsLongIndex WithoutObjects.hereditary hobject h
        exact absurd ⟨digits, hlong⟩ hshort

/-! ## Indices on the way along a path -/

theorem resolve?_append {value owner : Value} {before : List String}
    (h : value.resolve? before = .ok (some owner)) (rest : List String) :
    value.resolve? (before ++ rest) = owner.resolve? rest := by
  induction before generalizing value with
  | nil =>
      cases h
      rfl
  | cons key before ih =>
      rcases resolve?_cons value key with ⟨failure, -, hall⟩ | hall | ⟨v, hall⟩
      · cases (hall before).symm.trans h
      · cases (hall before).symm.trans h
      · rw [hall] at h
        rw [List.cons_append, hall]
        exact ih h

theorem resolve?_of_read?_none {value : Value} {key : String}
    (h : value.read? key = .ok Option.none) (path : List String) :
    value.resolve? (key :: path) = .ok Option.none := by
  rw [resolve?, h]
  rfl

/-- Beyond the ends of a sequence the walk ends with nothing. -/
theorem resolve?_of_out_of_range {context owner : Value} {items : List Value}
    {before : List String} {i : IndexText}
    (howner : context.resolve? before = .ok (some owner)) (hitems : owner.sequence? = some items)
    (hshort : ¬i.TooLong) (hrange : ¬(-items.length ≤ i.value ∧ i.value < items.length))
    (after : List String) : context.resolve? (before ++ i.key :: after) = .ok Option.none := by
  have hread : owner.read? i.key = .ok Option.none := by
    rw [read?_indexText hitems, if_neg hshort, item?, dif_neg hrange]
  rw [resolve?_append howner, resolve?_of_read?_none hread]

end Value

/--
An index that is read against a list or a tuple gives the item that it stands for, counted from the
front or from the back, or nothing when there is none; but one of too many digits fails. So every
path through scalars, sequences and mappings leads to a value or to nothing, except when such an index
is read on the way. And a variable whose path comes to an index beyond the ends shows its source.
-/
theorem index_reads_item {σ : Type} :
    (∀ (owner : Value) (items : List Value) (i : IndexText), owner.sequence? = some items →
      owner.read? i.key
        = if i.TooLong then .error (.fault (.integerTooLongToRead i.digits.length))
          else .ok (item? items i.value))
    ∧ (∀ (context : Value) (path : List String), context.WithoutObjects →
        ((∃ found, context.resolve? path = .ok found) ↔ ¬context.ComesToLongIndex path))
    ∧ ∀ (scene : Scene σ) (before : List String) (i : IndexText) (after : List String)
        (owner : Value) (items : List Value),
        scene.context.resolve? before = .ok (some owner) → owner.sequence? = some items →
        ¬i.TooLong → ¬(-items.length ≤ i.value ∧ i.value < items.length) →
        ∀ (filters : List Call) (source : String) (run : Run σ),
          scene.renderNode (.variable (before ++ i.key :: after) filters source) run
            = (.ok source, run) := by
  refine ⟨?_, ?_, ?_⟩
  · intro owner items i hitems
    exact Value.read?_indexText hitems i
  · intro context path hcontext
    exact hcontext.resolve?_ok_iff
  · intro scene before i after owner items howner hitems hshort hrange filters source run
    rw [Scene.renderNode_variable_run,
      Value.resolve?_of_out_of_range howner hitems hshort hrange after]

/-- The last item but one, the miss beyond the end, and a variable that shows its source for it. -/
theorem index_reads_item_pair :
    let pair : Value := .list [.str "a", .str "b"]
    let context : Value := .dict [("pair", pair)]
    pair.read? "-2" = .ok (some (.str "a"))
      ∧ pair.read? "2" = .ok none
      ∧ ¬context.ComesToLongIndex ["pair", "-01"]
      ∧ (Scene.mk context [] : Scene Unit).renderNode (.variable ["pair", "2"] [] "?") ⟨(), []⟩
        = (.ok "?", ⟨(), []⟩) := by
  intro pair context
  have hreads := index_reads_item (σ := Unit)
  have hcontext : context.WithoutObjects := by
    refine .dict ?_
    simp only [List.forall_mem_singleton]
    refine .list ?_
    simp [Value.WithoutObjects.str]
  refine ⟨?_, ?_, ?_, ?_⟩
  · exact hreads.1 pair _ ⟨true, [2], by decide⟩ rfl
  · exact hreads.1 pair _ ⟨false, [2], by decide⟩ rfl
  · exact (hreads.2.1 context ["pair", "-01"] hcontext).mp ⟨_, rfl⟩
  · exact hreads.2.2 ⟨context, []⟩ ["pair"] ⟨false, [2], by decide⟩ [] pair _ rfl rfl
      (by decide) (by decide) [] "?" ⟨(), []⟩

/-- The index `10 ^ 4300`, which has one digit too many. -/
def IndexText.huge : IndexText where
  negative := false
  digits := 1 :: List.replicate 4300 0
  digits_ne_nil := List.cons_ne_nil _ _

/-- The index that is too long is no index of the sequence, but reading it fails. -/
theorem index_not_read : ¬∀ (owner : Value) (items : List Value) (i : IndexText),
    owner.sequence? = some items → owner.read? i.key = .ok (item? items i.value) := by
  intro h
  have hlong : IndexText.huge.TooLong := by
    unfold IndexText.TooLong IndexText.huge maxDigits
    rw [List.length_cons, List.length_replicate]
    omega
  have hread := h (.list [.str "a"]) _ IndexText.huge rfl
  rw [Value.read?_indexText rfl, if_pos hlong] at hread
  cases hread

end Stencil

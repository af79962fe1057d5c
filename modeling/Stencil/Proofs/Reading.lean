import Stencil.Proofs.Relations
import Stencil.Value.Attribute

/-!
# Reading steps of a path

What a step of a path, and a walk along a path, can come to. A value that is found is one of those
inside the owner (`Value.Inside`). A failure is accounted for if it is one to read an attribute; all
others are raised by the step itself (`Value.StepRaises`): an index of too many digits is read against
a sequence, or an object raises something when its type is tested or, if it is a mapping or a sequence
of the caller's own, when it is asked for a key or an index.
-/

namespace Stencil

open Numeral

/-! ## Indices that are too long -/

/-- A list, a tuple, or an object that turns out to be a sequence. -/
def Value.IsSequence : Value → Prop
  | .list _ | .tuple _ => True
  | .object o => ∃ item, o.shape = .ok (.sequence item)
  | _ => False

/-- The key is an index of this many digits, which are too many. -/
def IndexTooLong (key : String) (digits : Nat) : Prop :=
  (∀ c ∈ (splitMinus key.toList).2, isAsciiDigit c) ∧ (splitMinus key.toList).2.length = digits
    ∧ 4300 < digits

theorem readIndex?_error_iff {key : String} {cause : Fault} :
    readIndex? key = .error cause
      ↔ ∃ digits, IndexTooLong key digits ∧ cause = .integerTooLongToRead digits := by
  unfold readIndex? IndexTooLong
  obtain ⟨negative, ds⟩ := splitMinus key.toList
  simp only [readInteger, maxDigits]
  by_cases hds : ds.isEmpty || !ds.all isAsciiDigit
  · rw [if_pos hds]
    constructor
    · intro h
      cases h
    · rintro ⟨digits, ⟨hall, hlen, hlong⟩, -⟩
      rw [Bool.or_eq_true, List.isEmpty_iff, Bool.not_eq_true'] at hds
      rcases hds with rfl | hnot
      · simp only [List.length_nil] at hlen
        omega
      · rw [List.all_eq_true.mpr hall] at hnot
        cases hnot
  · rw [if_neg hds]
    simp only [Bool.or_eq_true, Bool.not_eq_true', not_or, Bool.not_eq_false,
      List.all_eq_true] at hds
    by_cases hlen : ds.length ≤ 4300
    · simp only [List.length_map, if_pos hlen]
      constructor
      · intro h
        cases h
      · rintro ⟨digits, ⟨-, rfl, hlong⟩, -⟩
        omega
    · simp only [List.length_map, if_neg hlen, Except.error.injEq]
      constructor
      · rintro rfl
        exact ⟨_, ⟨hds.2, rfl, by omega⟩, rfl⟩
      · rintro ⟨digits, ⟨-, rfl, -⟩, rfl⟩
        rfl

namespace Value

/-! ## Values inside values -/

/-- One value is held by another: as an item, under a key, as an attribute, or behind a key or an index
of a container of the caller's own. -/
inductive Inside : Value → Value → Prop
  | list {w : Value} {items : List Value} (h : w ∈ items) : Inside w (.list items)
  | tuple {w : Value} {items : List Value} (h : w ∈ items) : Inside w (.tuple items)
  | dict {w : Value} {entries : List (String × Value)} {name : String} (h : (name, w) ∈ entries) :
      Inside w (.dict entries)
  | attribute {v w : Value} {name : String} (h : (name, .ok w) ∈ v.attributes) : Inside w v
  | lookup {w : Value} {o : Object Value} {find : String → Except Fault (Option Value)} {key : String}
      (hshape : o.shape = .ok (.mapping find)) (h : find key = .ok (some w)) : Inside w (.object o)
  | item {w : Value} {o : Object Value} {get : Int → Except Fault (Option Value)} {index : Int}
      (hshape : o.shape = .ok (.sequence get)) (h : get index = .ok (some w)) :
      Inside w (.object o)

theorem mem_of_itemAt? {items : List Value} {index : Int} {w : Value}
    (h : itemAt? items index = some w) : w ∈ items := by
  unfold itemAt? at h
  split at h
  · split at h
    · exact List.mem_of_getElem? h
    · cases h
  · exact List.mem_of_getElem? h

theorem mem_of_readAttribute? {α : Type} {attributes : Entries (Except Fault α)} {key : String}
    {w : α} (h : readAttribute? attributes key = .ok (some w)) : (key, .ok w) ∈ attributes := by
  unfold readAttribute? at h
  split at h
  · cases h
  · next hget =>
      cases h
      exact Entries.mem_of_get? hget
  · split at h <;> cases h

/-! ## Steps -/

/-- What reading one step raises without an account. -/
inductive StepRaises : Value → String → Fault → Prop
  /-- An index of so many digits, which are too many, is read against a sequence. -/
  | index {owner : Value} {key : String} {digits : Nat} (hsequence : owner.IsSequence)
      (hkey : IndexTooLong key digits) : StepRaises owner key (.integerTooLongToRead digits)
  /-- An object raises something when its type is tested. -/
  | test {o : Object Value} {key : String} {cause : Fault} (h : o.shape = .error cause) :
      StepRaises (.object o) key cause
  /-- A mapping of the caller's own raises something when a key is looked up. -/
  | lookup {o : Object Value} {find : String → Except Fault (Option Value)} {key : String}
      {cause : Fault} (hshape : o.shape = .ok (.mapping find)) (h : find key = .error cause) :
      StepRaises (.object o) key cause
  /-- A sequence of the caller's own raises something when an index is read. -/
  | item {o : Object Value} {get : Int → Except Fault (Option Value)} {key : String} {index : Int}
      {cause : Fault} (hshape : o.shape = .ok (.sequence get))
      (hkey : readIndex? key = .ok (some index)) (h : get index = .error cause) :
      StepRaises (.object o) key cause

/-- What a step can come to. -/
inductive StepGives (owner : Value) (key : String) : Except Failure (Option Value) → Prop
  | nothing : StepGives owner key (.ok Option.none)
  | found {w : Value} (h : w.Inside owner) : StepGives owner key (.ok (some w))
  | raised {cause : Fault} (h : owner.StepRaises key cause) :
      StepGives owner key (.error (.fault cause))
  | readFailed {cause : Fault} (h : readAttribute? owner.attributes key = .error cause) :
      StepGives owner key (.error (.readFailed key cause))

theorem stepGives_attribute? (owner : Value) (key : String) :
    owner.StepGives key (owner.attribute? key) := by
  unfold attribute?
  split
  · exact .nothing
  · rcases hread : readAttribute? owner.attributes key with cause | (_ | w)
    · exact .readFailed hread
    · exact .nothing
    · exact .found (.attribute (mem_of_readAttribute? hread))

theorem stepGives_mapError {owner : Value} {key : String} {x : Except Fault (Option Value)}
    (hfound : ∀ w, x = .ok (some w) → w.Inside owner)
    (hraised : ∀ cause, x = .error cause → owner.StepRaises key cause) :
    owner.StepGives key (x.mapError .fault) := by
  rcases x with cause | (_ | w)
  · exact .raised (hraised cause rfl)
  · exact .nothing
  · exact .found (hfound w rfl)

theorem stepGives_sequenceItem? {owner : Value} {item : Int → Except Fault (Option Value)}
    {key : String} (hsequence : owner.IsSequence)
    (hfound : ∀ index w, item index = .ok (some w) → w.Inside owner)
    (hraised : ∀ index cause, readIndex? key = .ok (some index) → item index = .error cause →
      owner.StepRaises key cause) :
    owner.StepGives key (owner.sequenceItem? item key) := by
  unfold sequenceItem?
  rcases hindex : readIndex? key with cause | (_ | index)
  · obtain ⟨digits, hkey, rfl⟩ := readIndex?_error_iff.mp hindex
    exact .raised (.index hsequence hkey)
  · exact owner.stepGives_attribute? key
  · exact stepGives_mapError (hfound index) fun cause => hraised index cause hindex

theorem stepGives_read? (owner : Value) (key : String) : owner.StepGives key (owner.read? key) := by
  have hattribute := owner.stepGives_attribute? key
  cases owner with
  | none => exact .nothing
  | dict entries =>
      rw [read?]
      cases hget : Entries.get? entries key with
      | none => exact .nothing
      | some w => exact .found (.dict (Entries.mem_of_get? hget))
  | list items =>
      exact stepGives_sequenceItem? trivial
        (fun _ _ hitem => .list (mem_of_itemAt? (Except.ok.inj hitem))) nofun
  | tuple items =>
      exact stepGives_sequenceItem? trivial
        (fun _ _ hitem => .tuple (mem_of_itemAt? (Except.ok.inj hitem))) nofun
  | bool | int | float | str | bytes => exact hattribute
  | object o =>
      rw [read?]
      rcases hshape : o.shape with cause | (_ | find | get)
      · exact .raised (.test hshape)
      · exact hattribute
      · exact stepGives_mapError (fun _ => .lookup hshape) fun _ => .lookup hshape
      · exact stepGives_sequenceItem? ⟨get, hshape⟩ (fun _ _ => .item hshape)
          fun _ _ => .item hshape

/-- What a step finds is inside the value that it is read from. -/
theorem inside_of_read? {v w : Value} {key : String} (h : v.read? key = .ok (some w)) :
    w.Inside v := by
  have hgives := v.stepGives_read? key
  rw [h] at hgives
  cases hgives with
  | found hinside => exact hinside

/-- A failure of a step is raised by the step itself, or it is one to read an attribute. -/
theorem read?_error {owner : Value} {key : String} {failure : Failure}
    (h : owner.read? key = .error failure) :
    (∃ cause, failure = .fault cause ∧ owner.StepRaises key cause)
      ∨ ∃ cause, failure = .readFailed key cause
          ∧ readAttribute? owner.attributes key = .error cause := by
  have hgives := owner.stepGives_read? key
  rw [h] at hgives
  cases hgives with
  | raised hraises => exact .inl ⟨_, rfl, hraises⟩
  | readFailed hread => exact .inr ⟨_, rfl, hread⟩

theorem sequenceItem?_of_tooLong {owner : Value} {item : Int → Except Fault (Option Value)}
    {key : String} {digits : Nat} (h : IndexTooLong key digits) :
    owner.sequenceItem? item key = .error (.fault (.integerTooLongToRead digits)) := by
  rw [sequenceItem?, readIndex?_error_iff.mpr ⟨digits, h, rfl⟩]

theorem read?_of_stepRaises {owner : Value} {key : String} {cause : Fault}
    (h : owner.StepRaises key cause) : owner.read? key = .error (.fault cause) := by
  cases h with
  | index hsequence hkey => cases owner with
    | list | tuple => exact sequenceItem?_of_tooLong hkey
    | object o =>
        obtain ⟨item, hshape⟩ := hsequence
        simp only [read?, hshape]
        exact sequenceItem?_of_tooLong hkey
    | none | bool | int | float | str | bytes | dict => cases hsequence
  | test h => simp only [read?, h]
  | lookup hshape h => simp only [read?, hshape, h, Except.mapError]
  | item hshape hkey h => simp only [read?, hshape, sequenceItem?, hkey, h, Except.mapError]

/-- Reading a step fails without an account just where it raises something. -/
theorem read?_fault_iff {owner : Value} {key : String} {cause : Fault} :
    owner.read? key = .error (.fault cause) ↔ owner.StepRaises key cause := by
  refine ⟨fun h => ?_, read?_of_stepRaises⟩
  rcases read?_error h with ⟨_, heq, hraises⟩ | ⟨_, ⟨⟩, -⟩
  cases heq
  exact hraises

/-! ## Walks -/

theorem resolve?_of_read?_error {value : Value} {key : String} {failure : Failure}
    (h : value.read? key = .error failure) (path : List String) :
    value.resolve? (key :: path) = .error failure := by
  rw [resolve?, h]
  rfl

/-- The first step of a walk fails, ends it, or leads to a value from which the rest is walked. -/
theorem resolve?_cons (value : Value) (key : String) :
    (∃ failure, value.read? key = .error failure
        ∧ ∀ path, value.resolve? (key :: path) = .error failure)
      ∨ (∀ path, value.resolve? (key :: path) = .ok Option.none)
      ∨ ∃ v : Value, ∀ path, value.resolve? (key :: path) = v.resolve? path := by
  cases hread : value.read? key with
  | error failure => exact .inl ⟨failure, rfl, resolve?_of_read?_error hread⟩
  | ok found =>
      refine .inr ?_
      simp only [resolve?, hread]
      cases found with
      | none => exact .inl fun _ => rfl
      | some v => cases v with
        | none => exact .inl fun _ => rfl
        | bool | int | float | str | bytes | list | tuple | dict | object =>
            exact .inr ⟨_, fun _ => rfl⟩

/-- A property that the values inside a value have if the value has it. -/
def Hereditary (P : Value → Prop) : Prop :=
  ∀ {v w : Value}, P v → w.Inside v → P w

/-- What a walk finds has the property again. -/
theorem Hereditary.resolve? {P : Value → Prop} (hP : Hereditary P) {v w : Value} (h : P v)
    {path : List String} (hpath : v.resolve? path = .ok (some w)) : P w := by
  induction path generalizing v with
  | nil =>
      cases hpath
      exact h
  | cons key path ih =>
      rw [Value.resolve?] at hpath
      obtain ⟨found, hread, hpath⟩ := bind_eq_ok_iff.mp hpath
      split at hpath
      · cases hpath
      · cases hpath
      · exact ih (hP h (inside_of_read? hread)) hpath

/-- On the way along a path the key is read from the owner. -/
def ComesTo (context : Value) (path : List String) (owner : Value) (key : String) : Prop :=
  ∃ before after, path = before ++ key :: after ∧ context.resolve? before = .ok (some owner)

theorem Hereditary.comesTo {P : Value → Prop} (hP : Hereditary P) {context owner : Value}
    {path : List String} {key : String} (h : P context) (hcomes : context.ComesTo path owner key) :
    P owner := by
  obtain ⟨before, after, -, hbefore⟩ := hcomes
  exact hP.resolve? h hbefore

/-- Walking a path fails just where a step on the way fails, and in the same way. -/
theorem resolve?_error_iff {value : Value} {path : List String} {failure : Failure} :
    value.resolve? path = .error failure
      ↔ ∃ owner key, value.ComesTo path owner key ∧ owner.read? key = .error failure := by
  induction path generalizing value with
  | nil => simp [resolve?, ComesTo]
  | cons key path ih =>
      constructor
      · intro h
        rcases resolve?_cons value key with ⟨found, hread, hall⟩ | hall | ⟨v, hall⟩
        · cases (hall path).symm.trans h
          exact ⟨value, key, ⟨[], path, rfl, rfl⟩, hread⟩
        · cases (hall path).symm.trans h
        · rw [hall] at h
          obtain ⟨owner, k, ⟨before, after, rfl, hbefore⟩, hread⟩ := ih.mp h
          rw [← hall] at hbefore
          exact ⟨owner, k, ⟨key :: before, after, rfl, hbefore⟩, hread⟩
      · rintro ⟨owner, k, ⟨before, after, heq, hbefore⟩, hread⟩
        cases before with
        | nil =>
            rw [List.nil_append, List.cons.injEq] at heq
            obtain ⟨rfl, rfl⟩ := heq
            cases hbefore
            exact resolve?_of_read?_error hread path
        | cons k' before =>
            rw [List.cons_append, List.cons.injEq] at heq
            obtain ⟨rfl, rfl⟩ := heq
            rcases resolve?_cons value key with ⟨found, -, hall⟩ | hall | ⟨v, hall⟩
            · cases (hall before).symm.trans hbefore
            · cases (hall before).symm.trans hbefore
            · rw [hall] at hbefore ⊢
              exact ih.mpr ⟨owner, k, ⟨before, after, rfl, hbefore⟩, hread⟩

/-- A step on the way along a path raises something. -/
def WalkRaises (context : Value) (path : List String) (cause : Fault) : Prop :=
  ∃ owner key, context.ComesTo path owner key ∧ owner.StepRaises key cause

/-- Walking a path fails without an account just where a step on the way raises something. -/
theorem resolve?_fault_iff {value : Value} {path : List String} {cause : Fault} :
    value.resolve? path = .error (.fault cause) ↔ value.WalkRaises path cause := by
  simp only [resolve?_error_iff, read?_fault_iff, WalkRaises]

/-- On the way along a path an index of so many digits, which are too many, is read against a
sequence. -/
def ReadsLongIndex (context : Value) (path : List String) (digits : Nat) : Prop :=
  ∃ owner key, context.ComesTo path owner key ∧ owner.IsSequence ∧ IndexTooLong key digits

theorem ReadsLongIndex.walkRaises {context : Value} {path : List String} {digits : Nat}
    (h : context.ReadsLongIndex path digits) :
    context.WalkRaises path (.integerTooLongToRead digits) := by
  obtain ⟨owner, key, hcomes, hsequence, hkey⟩ := h
  exact ⟨owner, key, hcomes, .index hsequence hkey⟩

/-- Where there are no objects, a walk raises nothing but a long index. -/
theorem WalkRaises.readsLongIndex {P : Value → Prop} (hP : Hereditary P)
    (hobject : ∀ o, ¬P (object o)) {context : Value} (hcontext : P context) {path : List String}
    {cause : Fault} (h : context.WalkRaises path cause) :
    ∃ digits, context.ReadsLongIndex path digits ∧ cause = .integerTooLongToRead digits := by
  obtain ⟨owner, key, hcomes, hraises⟩ := h
  have howner : P owner := hP.comesTo hcontext hcomes
  cases hraises with
  | index hsequence hkey => exact ⟨_, ⟨owner, key, hcomes, hsequence, hkey⟩, rfl⟩
  | test | lookup | item => exact absurd howner (hobject _)

end Value

end Stencil

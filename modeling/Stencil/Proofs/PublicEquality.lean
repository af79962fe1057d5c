import Stencil.Evaluate
import Stencil.Proofs.Relations

/-!
# Values that differ in private attributes

Two values are public-equal if they are the same but for the attributes of objects whose names start
with an underscore. What the tests of an object's type find is not left free, though the class that they
ask the object for has a private name. Public-equal values have the same texts, and what a path or a
parameter finds in them is public-equal again, or the same failure (`Value.PublicEqual.sameReads`). A
case of this is a value all private attributes of which fail with a cause of our choice
(`Value.sealed`): as this cause never shows up, nothing reads such an attribute.
-/

namespace Stencil

/-- The same kind of object, with related values behind each key or index. -/
inductive Shape.Rel {α β : Type} (r : α → β → Prop) : Shape α → Shape β → Prop
  | plain : Rel r .plain .plain
  | mapping {find : String → Except Fault (Option α)} {find' : String → Except Fault (Option β)}
      (h : ∀ key, SameOutcome (Option.Rel r) (find key) (find' key)) :
      Rel r (.mapping find) (.mapping find')
  | sequence {item : Int → Except Fault (Option α)} {item' : Int → Except Fault (Option β)}
      (h : ∀ index, SameOutcome (Option.Rel r) (item index) (item' index)) :
      Rel r (.sequence item) (.sequence item')

/-- The same scalars, sequences, mappings and objects. Mappings have their entries in the same order.
The tests of an object's type have the same outcome; objects have the same texts, and reading an
attribute that is not private has the same outcome. -/
inductive Value.PublicEqual : Value → Value → Prop
  | none : PublicEqual .none .none
  | bool (b : Bool) : PublicEqual (.bool b) (.bool b)
  | int (n : Int) : PublicEqual (.int n) (.int n)
  | float (x : Float) : PublicEqual (.float x) (.float x)
  | str (s : String) : PublicEqual (.str s) (.str s)
  | bytes (bs : List UInt8) : PublicEqual (.bytes bs) (.bytes bs)
  | list {items items' : List Value} (h : List.Forall₂ PublicEqual items items') :
      PublicEqual (.list items) (.list items')
  | tuple {items items' : List Value} (h : List.Forall₂ PublicEqual items items') :
      PublicEqual (.tuple items) (.tuple items')
  | dict {entries entries' : Entries Value} (h : Entries.Rel PublicEqual entries entries') :
      PublicEqual (.dict entries) (.dict entries')
  | object {o o' : Object Value} (shape : SameOutcome (Shape.Rel PublicEqual) o.shape o'.shape)
      (attributes : ∀ key, key.startsWith "_" = false →
        SameOutcome (Option.Rel PublicEqual) (readAttribute? o.attributes key)
          (readAttribute? o'.attributes key))
      (text : o.text = o'.text) (inner : o.inner = o'.inner) :
      PublicEqual (.object o) (.object o')

/-- Attributes of the same outcome are read alike. -/
theorem sameOutcome_readAttribute? {α β : Type} {r : α → β → Prop}
    {attributes : Entries (Except Fault α)} {attributes' : Entries (Except Fault β)} {key : String}
    (h : Option.Rel (SameOutcome r) (attributes.get? key) (attributes'.get? key)) :
    SameOutcome (Option.Rel r) (readAttribute? attributes key)
      (readAttribute? attributes' key) := by
  unfold readAttribute?
  generalize attributes.get? key = found at h ⊢
  generalize attributes'.get? key = found' at h ⊢
  cases h with
  | none => exact .ok .none
  | some houtcome => cases houtcome with
    | ok hvalue => exact .ok (.some hvalue)
    | error cause => cases h : cause.isMissing with
      | false => simpa only [h] using .error cause
      | true => simpa only [h] using .ok .none

namespace Value

/-! ## Reflexivity -/

mutual

theorem PublicEqual.refl : ∀ v : Value, v.PublicEqual v
  | .none => .none
  | .bool b => .bool b
  | .int n => .int n
  | .float x => .float x
  | .str s => .str s
  | .bytes bs => .bytes bs
  | .list items => .list (forall₂_publicEqual_refl items)
  | .tuple items => .tuple (forall₂_publicEqual_refl items)
  | .dict entries => .dict (entriesRel_publicEqual_refl entries)
  | .object ⟨_, shape, attributes, _, _⟩ =>
      .object (shapeRel_publicEqual_refl shape)
        (fun key _ => sameOutcome_readAttribute? (get?_publicEqual_refl attributes key)) rfl rfl

theorem shapeRel_publicEqual_refl : ∀ shape : Except Fault (Shape Value),
    SameOutcome (Shape.Rel PublicEqual) shape shape
  | .error cause => .error cause
  | .ok .plain => .ok .plain
  | .ok (.mapping find) => .ok (.mapping fun key => found_publicEqual_refl (find key))
  | .ok (.sequence item) => .ok (.sequence fun index => found_publicEqual_refl (item index))

theorem found_publicEqual_refl : ∀ found : Except Fault (Option Value),
    SameOutcome (Option.Rel PublicEqual) found found
  | .error cause => .error cause
  | .ok Option.none => .ok .none
  | .ok (some v) => .ok (.some (PublicEqual.refl v))

theorem forall₂_publicEqual_refl : ∀ items : List Value, List.Forall₂ PublicEqual items items
  | [] => .nil
  | v :: vs => .cons (PublicEqual.refl v) (forall₂_publicEqual_refl vs)

theorem entriesRel_publicEqual_refl :
    ∀ entries : List (String × Value), Entries.Rel PublicEqual entries entries
  | [] => .nil
  | (name, v) :: rest => .cons name (PublicEqual.refl v) (entriesRel_publicEqual_refl rest)

theorem get?_publicEqual_refl : ∀ (attributes : List (String × Except Fault Value)) (key : String),
    Option.Rel (SameOutcome PublicEqual) (Entries.get? attributes key) (Entries.get? attributes key)
  | [], _ => .none
  | (name, .ok v) :: rest, key => by
      rw [Entries.get?]
      split
      · exact .some (.ok (PublicEqual.refl v))
      · exact get?_publicEqual_refl rest key
  | (name, .error cause) :: rest, key => by
      rw [Entries.get?]
      split
      · exact .some (.error cause)
      · exact get?_publicEqual_refl rest key

end

/-! ## Values whose private attributes fail -/

mutual

/-- The value with all private attributes failing, also those of the values inside it. -/
def sealed (cause : Fault) : Value → Value
  | list items => .list (sealedItems cause items)
  | tuple items => .tuple (sealedItems cause items)
  | dict entries => .dict (sealedEntries cause entries)
  | object ⟨typeName, shape, attributes, text, inner⟩ =>
    .object ⟨typeName, sealedShape cause shape, sealedAttributes cause attributes, text, inner⟩
  | none => .none
  | bool b => .bool b
  | int n => .int n
  | float x => .float x
  | str s => .str s
  | bytes bs => .bytes bs

/-- The items of a sequence with all private attributes failing. -/
def sealedItems (cause : Fault) : List Value → List Value
  | [] => []
  | v :: vs => sealed cause v :: sealedItems cause vs

/-- The entries of a mapping with all private attributes failing. -/
def sealedEntries (cause : Fault) : List (String × Value) → List (String × Value)
  | [] => []
  | (name, v) :: rest => (name, sealed cause v) :: sealedEntries cause rest

/-- The attributes of an object with the private ones failing. -/
def sealedAttributes (cause : Fault) :
    List (String × Except Fault Value) → List (String × Except Fault Value)
  | [] => []
  | (name, .ok v) :: rest =>
    (name, if name.startsWith "_" then .error cause else .ok (sealed cause v))
      :: sealedAttributes cause rest
  | (name, .error fault) :: rest =>
    (name, .error (if name.startsWith "_" then cause else fault)) :: sealedAttributes cause rest

/-- What the tests of a type find, with all private attributes failing behind it. -/
def sealedShape (cause : Fault) : Except Fault (Shape Value) → Except Fault (Shape Value)
  | .error fault => .error fault
  | .ok .plain => .ok .plain
  | .ok (.mapping find) => .ok (.mapping fun key => sealedFound cause (find key))
  | .ok (.sequence item) => .ok (.sequence fun index => sealedFound cause (item index))

/-- What a key or an index gives, with all private attributes failing. -/
def sealedFound (cause : Fault) : Except Fault (Option Value) → Except Fault (Option Value)
  | .error fault => .error fault
  | .ok Option.none => .ok Option.none
  | .ok (some v) => .ok (some (sealed cause v))

end

mutual

theorem publicEqual_sealed (cause : Fault) : ∀ v : Value, v.PublicEqual (v.sealed cause)
  | .none => .none
  | .bool b => .bool b
  | .int n => .int n
  | .float x => .float x
  | .str s => .str s
  | .bytes bs => .bytes bs
  | .list items => .list (forall₂_publicEqual_sealed cause items)
  | .tuple items => .tuple (forall₂_publicEqual_sealed cause items)
  | .dict entries => .dict (entriesRel_publicEqual_sealed cause entries)
  | .object ⟨_, shape, attributes, _, _⟩ =>
      .object (shapeRel_publicEqual_sealed cause shape)
        (fun _ hkey => sameOutcome_readAttribute? (get?_publicEqual_sealed cause attributes hkey))
        rfl rfl

theorem shapeRel_publicEqual_sealed (cause : Fault) : ∀ shape : Except Fault (Shape Value),
    SameOutcome (Shape.Rel PublicEqual) shape (sealedShape cause shape)
  | .error fault => .error fault
  | .ok .plain => .ok .plain
  | .ok (.mapping find) => .ok (.mapping fun key => found_publicEqual_sealed cause (find key))
  | .ok (.sequence item) =>
      .ok (.sequence fun index => found_publicEqual_sealed cause (item index))

theorem found_publicEqual_sealed (cause : Fault) : ∀ found : Except Fault (Option Value),
    SameOutcome (Option.Rel PublicEqual) found (sealedFound cause found)
  | .error fault => .error fault
  | .ok Option.none => .ok .none
  | .ok (some v) => .ok (.some (publicEqual_sealed cause v))

theorem forall₂_publicEqual_sealed (cause : Fault) :
    ∀ items : List Value, List.Forall₂ PublicEqual items (sealedItems cause items)
  | [] => .nil
  | v :: vs => .cons (publicEqual_sealed cause v) (forall₂_publicEqual_sealed cause vs)

theorem entriesRel_publicEqual_sealed (cause : Fault) :
    ∀ entries : List (String × Value), Entries.Rel PublicEqual entries (sealedEntries cause entries)
  | [] => .nil
  | (name, v) :: rest =>
      .cons name (publicEqual_sealed cause v) (entriesRel_publicEqual_sealed cause rest)

theorem get?_publicEqual_sealed (cause : Fault) :
    ∀ (attributes : List (String × Except Fault Value)) {key : String},
      key.startsWith "_" = false →
        Option.Rel (SameOutcome PublicEqual) (Entries.get? attributes key)
          (Entries.get? (sealedAttributes cause attributes) key)
  | [], _, _ => .none
  | (name, .ok v) :: rest, key, hkey => by
      rw [sealedAttributes, Entries.get?, Entries.get?]
      split
      · next hname =>
          rw [hname, hkey]
          exact .some (.ok (publicEqual_sealed cause v))
      · exact get?_publicEqual_sealed cause rest hkey
  | (name, .error fault) :: rest, key, hkey => by
      rw [sealedAttributes, Entries.get?, Entries.get?]
      split
      · next hname =>
          rw [hname, hkey]
          exact .some (.error fault)
      · exact get?_publicEqual_sealed cause rest hkey

end

/-! ## Texts -/

mutual

theorem inner_eq_of_publicEqual : ∀ (v : Value) {w : Value}, v.PublicEqual w → v.inner = w.inner
  | .none, _, .none => rfl
  | .bool _, _, .bool _ => rfl
  | .int _, _, .int _ => rfl
  | .float _, _, .float _ => rfl
  | .str _, _, .str _ => rfl
  | .bytes _, _, .bytes _ => rfl
  | .list items, _, .list h => by rw [inner, inner, innerItems_eq_of_publicEqual items h]
  | .tuple items, _, .tuple h => by rw [inner, inner, innerItems_eq_of_publicEqual items h]
  | .dict entries, _, .dict h => by rw [inner, inner, innerEntries_eq_of_publicEqual entries h]
  | .object _, _, .object _ _ _ hinner => by rw [inner, inner, hinner]

theorem innerItems_eq_of_publicEqual : ∀ (vs : List Value) {ws : List Value},
    List.Forall₂ PublicEqual vs ws → innerItems vs = innerItems ws
  | [], _, .nil => rfl
  | v :: vs, _, .cons h hs => by
      rw [innerItems, innerItems, inner_eq_of_publicEqual v h, innerItems_eq_of_publicEqual vs hs]

theorem innerEntries_eq_of_publicEqual : ∀ (es : List (String × Value)) {fs : Entries Value},
    Entries.Rel PublicEqual es fs → innerEntries es = innerEntries fs
  | [], _, .nil => rfl
  | (name, v) :: es, _, .cons _ h hs => by
      rw [innerEntries, innerEntries, inner_eq_of_publicEqual v h,
        innerEntries_eq_of_publicEqual es hs]

end

namespace PublicEqual

variable {v w : Value}

theorem shown_eq (h : v.PublicEqual w) : v.shown = w.shown := by
  have hinner := inner_eq_of_publicEqual v h
  cases h with
  | none | bool | str => rfl
  | int | float | bytes | list | tuple | dict => exact hinner
  | object _ _ htext => exact htext

/-! ## Reading -/

theorem readAttribute? (h : v.PublicEqual w) {key : String} (hkey : key.startsWith "_" = false) :
    SameOutcome (Option.Rel PublicEqual) (readAttribute? v.attributes key)
      (readAttribute? w.attributes key) := by
  cases h with
  | object _ hread => exact hread key hkey
  | none | bool | int | float | str | bytes =>
      exact sameOutcome_readAttribute? (get?_publicEqual_refl _ key)
  | list | tuple | dict => exact .ok .none

/-- An attribute is public and read alike, or private and not read at all. -/
theorem attribute? (h : v.PublicEqual w) (key : String) :
    SameOutcome (Option.Rel PublicEqual) (v.attribute? key) (w.attribute? key) := by
  unfold Value.attribute?
  cases hkey : key.startsWith "_" with
  | true => exact .ok .none
  | false => exact (h.readAttribute? hkey).mapError (Failure.readFailed key)

theorem itemAt? {items items' : List Value} (h : List.Forall₂ PublicEqual items items')
    (index : Int) : Option.Rel PublicEqual (itemAt? items index) (itemAt? items' index) := by
  unfold Stencil.itemAt?
  rw [h.length_eq]
  split
  · split
    · exact forall₂_getElem? h _
    · exact .none
  · exact forall₂_getElem? h _

theorem sequenceItem? (h : v.PublicEqual w) {item item' : Int → Except Fault (Option Value)}
    (hitem : ∀ index, SameOutcome (Option.Rel PublicEqual) (item index) (item' index))
    (key : String) :
    SameOutcome (Option.Rel PublicEqual) (v.sequenceItem? item key)
      (w.sequenceItem? item' key) := by
  unfold Value.sequenceItem?
  rcases readIndex? key with cause | (_ | index)
  · exact .error (Failure.fault cause)
  · exact h.attribute? key
  · exact (hitem index).mapError Failure.fault

theorem read? (h : v.PublicEqual w) (key : String) :
    SameOutcome (Option.Rel PublicEqual) (v.read? key) (w.read? key) := by
  have hattribute := h.attribute? key
  have hsequence {item item' : Int → Except Fault (Option Value)} :
      (∀ index, SameOutcome (Option.Rel PublicEqual) (item index) (item' index)) →
        SameOutcome (Option.Rel PublicEqual) (v.sequenceItem? item key)
          (w.sequenceItem? item' key) := fun hitem => h.sequenceItem? hitem key
  cases h with
  | none => exact .ok .none
  | dict hentries => exact .ok (hentries.get? key)
  | list hitems => exact hsequence fun index => .ok (itemAt? hitems index)
  | tuple hitems => exact hsequence fun index => .ok (itemAt? hitems index)
  | bool | int | float | str | bytes => exact hattribute
  | @object o o' hshape =>
      rw [Value.read?, Value.read?]
      generalize o.shape = shape at hshape ⊢
      generalize o'.shape = shape' at hshape ⊢
      cases hshape with
      | error cause => exact .error (Failure.fault cause)
      | ok hshape => cases hshape with
        | plain => exact hattribute
        | mapping hfind => exact (hfind key).mapError Failure.fault
        | sequence hitem => exact hsequence hitem

theorem resolve? (h : v.PublicEqual w) (path : List String) :
    SameOutcome (Option.Rel PublicEqual) (v.resolve? path) (w.resolve? path) := by
  induction path generalizing v w with
  | nil => exact .ok (.some h)
  | cons key path ih =>
      have hread := h.read? key
      rw [Value.resolve?, Value.resolve?]
      generalize v.read? key = found at hread ⊢
      generalize w.read? key = found' at hread ⊢
      cases hread with
      | error cause => exact .error cause
      | ok hfound => cases hfound with
        | none => exact .ok .none
        | some hvalue =>
            have hrest := ih hvalue
            cases hvalue with
            | none => exact .ok .none
            | bool | int | float | str | bytes | list | tuple | dict | object => exact hrest

theorem param (h : v.PublicEqual w) (p : Param) :
    SameOutcome PublicEqual (p.resolve v) (p.resolve w) := by
  cases p with
  | literal value => exact .ok (refl value)
  | reference key =>
      refine (h.read? key).map fun hfound => ?_
      cases hfound with
      | none => exact refl _
      | some hvalue => exact hvalue
  | unknown typeName => exact .error _

end PublicEqual

end Value

end Stencil

import Mathlib.Data.List.Forall2
import Stencil.Entries

/-!
# Related results

A relation between values is carried over to what holds values: to results that may be failures, to
lists by their indices, and to entries by their names. Before that, what a result is whose failure is
put into other terms; behind it, where entries come from and which value is found under a name.
-/

namespace Stencil

section

variable {ε ε' α α' β β' : Type} {r : α → β → Prop} {s : α' → β' → Prop}

theorem mapError_eq_ok_iff {x : Except ε α} {f : ε → ε'} {a : α} :
    x.mapError f = .ok a ↔ x = .ok a := by
  cases x with
  | ok b => exact ⟨fun h => by cases h; rfl, fun h => by cases h; rfl⟩
  | error cause => exact ⟨nofun, nofun⟩

theorem mapError_eq_error_iff {x : Except ε α} {f : ε → ε'} (hf : Function.Injective f)
    {cause : ε} : x.mapError f = .error (f cause) ↔ x = .error cause := by
  cases x with
  | ok b => exact ⟨nofun, nofun⟩
  | error found =>
      constructor
      · intro h
        rw [hf (Except.error.inj h)]
      · intro h
        cases h
        rfl

theorem toOption_eq_some_iff {x : Except ε α} {a : α} : x.toOption = some a ↔ x = .ok a := by
  cases x with
  | ok b => exact ⟨fun h => by cases h; rfl, fun h => by cases h; rfl⟩
  | error cause => exact ⟨nofun, nofun⟩

theorem bind_eq_ok_iff {x : Except ε α} {f : α → Except ε β} {b : β} :
    x >>= f = .ok b ↔ ∃ a, x = .ok a ∧ f a = .ok b := by
  cases x with
  | ok a =>
      constructor
      · exact fun h => ⟨a, rfl, h⟩
      · rintro ⟨a', h, hf⟩
        cases h
        exact hf
  | error cause => exact ⟨nofun, nofun⟩

/-- Two results that are related values, or one and the same failure. -/
inductive SameOutcome (r : α → β → Prop) : Except ε α → Except ε β → Prop
  | ok {a : α} {b : β} (h : r a b) : SameOutcome r (.ok a) (.ok b)
  | error (cause : ε) : SameOutcome r (.error cause) (.error cause)

namespace SameOutcome

theorem eq {x y : Except ε α} (h : SameOutcome Eq x y) : x = y := by
  cases h with
  | ok h => rw [h]
  | error => rfl

theorem refl {r : α → α → Prop} (h : ∀ a, r a a) (x : Except ε α) : SameOutcome r x x := by
  cases x with
  | ok a => exact .ok (h a)
  | error cause => exact .error cause

variable {x : Except ε α} {y : Except ε β}

theorem map {f : α → α'} {g : β → β'} (h : SameOutcome r x y)
    (hfg : ∀ {a b}, r a b → s (f a) (g b)) : SameOutcome s (x.map f) (y.map g) := by
  cases h with
  | ok h => exact .ok (hfg h)
  | error cause => exact .error cause

theorem mapError (h : SameOutcome r x y) (f : ε → ε') :
    SameOutcome r (x.mapError f) (y.mapError f) := by
  cases h with
  | ok h => exact .ok h
  | error cause => exact .error (f cause)

end SameOutcome

/-- The results for the items of a list, if all of them succeed. -/
theorem forall₂_of_mapM {f : α → Except ε β} {xs : List α} {ys : List β}
    (h : xs.mapM f = .ok ys) : List.Forall₂ (fun x y => f x = .ok y) xs ys := by
  induction xs generalizing ys with
  | nil =>
      cases h
      exact .nil
  | cons x xs ih =>
      rw [List.mapM_cons] at h
      obtain ⟨y, hy, h⟩ := bind_eq_ok_iff.mp h
      obtain ⟨ys', hys, h⟩ := bind_eq_ok_iff.mp h
      cases h
      exact .cons hy (ih hys)

theorem forall₂_mem_right {xs : List α} {ys : List β} (h : List.Forall₂ r xs ys) {y : β}
    (hy : y ∈ ys) : ∃ x ∈ xs, r x y := by
  induction h with
  | nil => cases hy
  | cons hxy _ ih =>
      rcases List.mem_cons.mp hy with rfl | hy
      · exact ⟨_, List.mem_cons_self, hxy⟩
      · obtain ⟨x, hx, hr⟩ := ih hy
        exact ⟨x, List.mem_cons_of_mem _ hx, hr⟩

theorem forall₂_mem_left {xs : List α} {ys : List β} (h : List.Forall₂ r xs ys) {x : α}
    (hx : x ∈ xs) : ∃ y ∈ ys, r x y :=
  forall₂_mem_right h.flip hx

theorem forall₂_and_mem_left {xs : List α} {ys : List β} (h : List.Forall₂ r xs ys) :
    List.Forall₂ (fun x y => x ∈ xs ∧ r x y) xs ys := by
  induction h with
  | nil => exact .nil
  | cons hxy _ ih =>
      exact .cons ⟨List.mem_cons_self, hxy⟩
        (ih.imp fun x y hr => ⟨List.mem_cons_of_mem _ hr.1, hr.2⟩)

/-- What holds between the items of a list in their order holds between those related to them. -/
theorem forall₂_pairwise {p : α → α → Prop} {q : β → β → Prop} {xs : List α} {ys : List β}
    (h : List.Forall₂ r xs ys) (hxs : xs.Pairwise p)
    (hpq : ∀ {x x' y y'}, p x x' → r x y → r x' y' → q y y') : ys.Pairwise q := by
  induction h with
  | nil => exact .nil
  | cons hxy hrest ih =>
      obtain ⟨hx, hxs⟩ := List.pairwise_cons.mp hxs
      refine List.pairwise_cons.mpr ⟨fun y hy => ?_, ih hxs⟩
      obtain ⟨x', hx', hr⟩ := forall₂_mem_right hrest hy
      exact hpq (hx x' hx') hxy hr

theorem forall₂_getElem? {xs : List α} {ys : List β} (h : List.Forall₂ r xs ys) (i : Nat) :
    Option.Rel r xs[i]? ys[i]? := by
  induction h generalizing i with
  | nil => exact .none
  | cons hxy _ ih => cases i with
    | zero => exact .some hxy
    | succ i => simpa using ih i

/-- Entries with the same names in the same order, and related values. -/
inductive Entries.Rel (r : α → β → Prop) : Entries α → Entries β → Prop
  | nil : Entries.Rel r [] []
  | cons (name : String) {v : α} {w : β} {es : Entries α} {fs : Entries β} (h : r v w)
      (hs : Entries.Rel r es fs) : Entries.Rel r ((name, v) :: es) ((name, w) :: fs)

theorem Entries.Rel.get? {es : Entries α} {fs : Entries β} (h : Entries.Rel r es fs)
    (name : String) : Option.Rel r (es.get? name) (fs.get? name) := by
  induction h with
  | nil => exact .none
  | cons n h _ ih =>
      rw [Entries.get?, Entries.get?]
      split
      · exact .some h
      · exact ih

end

/-! ## Where entries come from -/

namespace Entries

variable {α : Type} {es more : Entries α} {name : String} {value : α} {e : String × α}

theorem mem_of_get? (h : es.get? name = some value) : (name, value) ∈ es := by
  induction es with
  | nil => cases h
  | cons e es ih =>
      rw [get?] at h
      split at h
      · next hname =>
          cases h
          rw [← hname]
          exact List.mem_cons_self
      · exact List.mem_cons_of_mem _ (ih h)

theorem get?_of_mem (hnodup : es.names.Nodup) (h : (name, value) ∈ es) :
    es.get? name = some value := by
  induction es with
  | nil => cases h
  | cons e es ih =>
      obtain ⟨n, w⟩ := e
      rw [names, List.map_cons, List.nodup_cons] at hnodup
      rcases List.mem_cons.mp h with heq | hmem
      · cases heq
        rw [get?, if_pos rfl]
      · have hne : n ≠ name := by
          rintro rfl
          exact hnodup.1 (List.mem_map.mpr ⟨_, hmem, rfl⟩)
        rw [get?, if_neg hne]
        exact ih hnodup.2 hmem

theorem mem_put (h : e ∈ es.put name value) : e ∈ es ∨ e = (name, value) := by
  induction es with
  | nil => exact .inr (List.mem_singleton.mp h)
  | cons first es ih =>
      rw [put] at h
      split at h
      · next hname =>
          rcases List.mem_cons.mp h with rfl | h
          · exact .inr (by rw [hname])
          · exact .inl (List.mem_cons_of_mem _ h)
      · rcases List.mem_cons.mp h with rfl | h
        · exact .inl List.mem_cons_self
        · exact (ih h).imp_left (List.mem_cons_of_mem _)

theorem mem_putAll (h : e ∈ es.putAll more) : e ∈ es ∨ e ∈ more := by
  induction more generalizing es with
  | nil => exact .inl h
  | cons first more ih =>
      rcases ih h with h | h
      · rcases mem_put h with h | rfl
        · exact .inl h
        · exact .inr List.mem_cons_self
      · exact .inr (List.mem_cons_of_mem _ h)

theorem get?_eq_none_iff : es.get? name = none ↔ name ∉ es.names := by
  induction es with
  | nil => exact iff_of_true rfl List.not_mem_nil
  | cons e es ih =>
      rw [get?, names, List.map_cons, List.mem_cons, not_or, ← names, ← ih]
      split
      · next hname => exact iff_of_false (Option.some_ne_none _) fun h => h.1 hname.symm
      · next hname => exact (and_iff_right (Ne.symm hname)).symm

theorem get?_append (es fs : Entries α) (name : String) :
    get? (es ++ fs) name = (es.get? name).or (fs.get? name) := by
  induction es with
  | nil => rfl
  | cons e es ih =>
      rw [List.cons_append, get?, get?]
      split
      · rfl
      · exact ih

/-- The last value that is given to a name counts. -/
theorem get?_putAll (es more : Entries α) (name : String) :
    (es.putAll more).get? name = (get? more.reverse name).or (es.get? name) := by
  induction more generalizing es with
  | nil => rfl
  | cons e more ih =>
      have hput : es.putAll (e :: more) = (es.put e.1 e.2).putAll more := rfl
      rw [hput, ih, get?_put, List.reverse_cons, get?_append, Option.or_assoc, get?, get?]
      split <;> rfl

theorem get?_reverse_eq_none_iff : get? es.reverse name = none ↔ es.get? name = none := by
  rw [get?_eq_none_iff, get?_eq_none_iff, names, List.map_reverse, List.mem_reverse, names]

/-- Names that are given no value keep the one they have. -/
theorem get?_putAll_of_none (h : more.get? name = none) :
    (es.putAll more).get? name = es.get? name := by
  rw [get?_putAll, get?_reverse_eq_none_iff.mpr h, Option.none_or]

end Entries

end Stencil
